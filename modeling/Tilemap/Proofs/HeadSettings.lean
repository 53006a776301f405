import Tilemap.Proofs.ErrorLines
import Tilemap.Proofs.HeadSpelling

/-!
# Settings in the head of a map text

A line `key: value` of the section `meta` is a setting (`SettingAt`), and of the settings of one key
the last one that is not blank counts: `value?_headOf_eq_some_iff` says that a look-up in the head
finds just that. Lines under a key stand in the order of their numbers, so two texts agree in the
lines they have under a key, or in those of a class, as soon as they have the same ones
(`filter_linesUnder_congr`).
-/

namespace Tilemap

open Text

/-! ### Statement -/

/-- The line at a place gives a value to a key in the head: without its comment it is the key in
some spelling, a colon and the value. -/
def SettingAt (lines : List (List Char)) (i : Nat) (key value : String) : Prop :=
  ∃ spelled rest, CodeAt lines i metaKey (String.ofList (spelled ++ ':' :: rest)) ∧
    ':' ∉ spelled ∧ Key.compact (String.ofList spelled) = Key.compact key ∧
    value = String.ofList (trim rest)

/-- The line at a place gives a key its value in the head: no value that is not blank follows. -/
def LastSettingAt (lines : List (List Char)) (i : Nat) (key value : String) : Prop :=
  SettingAt lines i key value ∧ value ≠ "" ∧
    ∀ j value', i < j → SettingAt lines j key value' → value' = ""

/-- Which setting is the last one depends only on the settings. -/
theorem LastSettingAt.congr {lines lines' : List (List Char)} {key : String}
    (h : ∀ i value, SettingAt lines i key value ↔ SettingAt lines' i key value) (i : Nat)
    (value : String) : LastSettingAt lines i key value ↔ LastSettingAt lines' i key value := by
  simp only [LastSettingAt, h]

/-! ### Lines in the order of their numbers -/

/-- Numbered lines are known by which of them there are. -/
theorem eq_of_pairwise_number {ls ls' : List Line} (h : ls.Pairwise (·.number < ·.number))
    (h' : ls'.Pairwise (·.number < ·.number)) (hmem : ∀ l, l ∈ ls ↔ l ∈ ls') : ls = ls' := by
  have hnodup {ls : List Line} (h : ls.Pairwise (·.number < ·.number)) : ls.Nodup :=
    h.imp fun hlt heq => absurd (heq ▸ hlt) (Nat.lt_irrefl _)
  refine List.Perm.eq_of_pairwise (fun l l' _ _ hlt hlt' => ?_) h h'
    ((List.perm_ext_iff_of_nodup (hnodup h) (hnodup h')).mpr hmem)
  exact absurd (Nat.lt_trans hlt hlt') (Nat.lt_irrefl _)

/-- Texts with the same lines of a class under a key have them in the same order. -/
theorem filter_linesUnder_congr {text text' : String} {key : String} {q : Line → Bool}
    (h : ∀ i l, q l → (TextAt (linesOf text) i key l ↔ TextAt (linesOf text') i key l)) :
    (linesUnder key (itemsOf text)).filter q = (linesUnder key (itemsOf text')).filter q := by
  refine eq_of_pairwise_number ((pairwise_linesUnder_itemsOf key text).filter q)
    ((pairwise_linesUnder_itemsOf key text').filter q) fun l => ?_
  rw [List.mem_filter, List.mem_filter, mem_linesUnder_itemsOf, mem_linesUnder_itemsOf]
  exact and_congr_left fun hq => exists_congr fun i => h i l hq

/-- The last line of a class is the one with the largest number. -/
theorem find?_reverse_eq_some_iff {ls : List Line} (h : ls.Pairwise (·.number < ·.number))
    {q : Line → Bool} {l : Line} :
    ls.reverse.find? q = some l ↔
      l ∈ ls ∧ q l ∧ ∀ l' ∈ ls, q l' → l'.number ≤ l.number := by
  constructor
  · intro hfind
    obtain ⟨hq, after, before, hsplit, hafter⟩ := List.find?_eq_some_iff_append.mp hfind
    have hls : ls = before.reverse ++ l :: after.reverse := by
      rw [← List.reverse_reverse ls, hsplit, List.reverse_append, List.reverse_cons,
        List.append_assoc]
      rfl
    refine ⟨hls ▸ List.mem_append_right _ List.mem_cons_self, hq, fun l' hl' hq' => ?_⟩
    rw [hls, List.pairwise_append] at h
    rw [hls, List.mem_append, List.mem_cons] at hl'
    rcases hl' with hl' | rfl | hl'
    · exact Nat.le_of_lt (h.2.2 l' hl' l List.mem_cons_self)
    · exact Nat.le_refl _
    · have hnot := hafter l' (List.mem_reverse.mp hl')
      rw [hq'] at hnot
      cases hnot
  · rintro ⟨hl, hq, hlast⟩
    obtain ⟨before, after, rfl⟩ := List.append_of_mem hl
    have hlater := (List.pairwise_cons.mp (List.pairwise_append.mp h).2.1).1
    refine List.find?_eq_some_iff_append.mpr
      ⟨hq, after.reverse, before.reverse, by simp, fun l' hl' => ?_⟩
    have hl' := List.mem_reverse.mp hl'
    rw [Bool.not_eq_true']
    by_contra hq'
    have hle := hlast l' (List.mem_append_right _ (List.mem_cons_of_mem _ hl')) (by simpa using hq')
    exact absurd (hlater l' hl') (Nat.not_lt.mpr hle)

/-! ### Headers -/

/-- Only headers give titles. -/
theorem addTitles_itemsOfLines (found : List (String × String)) (lines : List (List Char)) :
    addTitles found (itemsOfLines lines) = (lines.filterMap headerOf?).foldl addTitle found := by
  induction lines generalizing found with
  | nil => rfl
  | cons line rest ih =>
    rcases blank_or_header_or_text line with hblank | ⟨name, hname⟩ | htext
    · simp [itemsOfLines, headerOf?, Item.of?_of_blank 0 hblank, ← ih]
    · simp [itemsOfLines, headerOf?, Item.of?_of_isHeader 0 hname, ← ih]
    · simp [itemsOfLines, headerOf?, Item.of?_of_isText 0 htext, ← ih]

theorem headerOf?_eq_some {line : List Char} {name : String} :
    headerOf? line = some name ↔ IsHeader line name := by
  constructor
  · intro h
    have hitem := item_of_headerOf? h
    rcases blank_or_header_or_text line with hblank | ⟨name', hname'⟩ | htext
    · simp [Item.of?_of_blank 0 hblank] at hitem
    · rw [Item.of?_of_isHeader 0 hname'] at hitem
      cases hitem
      exact hname'
    · simp [Item.of?_of_isText 0 htext] at hitem
  · intro h
    rw [headerOf?, Item.of?_of_isHeader 0 h]

/-- Lines with the same headers at the same places have the same titles. -/
theorem titles_congr {lines lines' : List (List Char)} (hlength : lines.length = lines'.length)
    (h : ∀ i name, HeaderAt lines i name ↔ HeaderAt lines' i name) :
    titles (itemsOfLines lines) = titles (itemsOfLines lines') := by
  have hheaders : lines.map headerOf? = lines'.map headerOf? := by
    refine List.ext_getElem (by simpa using hlength) fun i hi hi' => ?_
    rw [List.length_map] at hi hi'
    rw [List.getElem_map, List.getElem_map]
    refine Option.ext fun name => ?_
    have hat := h i name
    simpa [HeaderAt, List.getElem?_eq_getElem hi, List.getElem?_eq_getElem hi',
      headerOf?_eq_some] using hat
  have hnames (lines : List (List Char)) :
      lines.filterMap headerOf? = (lines.map headerOf?).filterMap id := by
    rw [List.filterMap_map]
    rfl
  rw [titles_eq, titles_eq, addTitles_itemsOfLines, addTitles_itemsOfLines, hnames, hheaders,
    ← hnames]

/-- The key over a line depends only on the headers. -/
theorem KeyAt.congr {lines lines' : List (List Char)}
    (h : ∀ i name, HeaderAt lines i name ↔ HeaderAt lines' i name) {i : Nat} {key : String}
    (hkey : KeyAt lines i key) : KeyAt lines' i key := by
  cases hkey with
  | first hnone => exact .first fun j hj name hname => hnone j hj name ((h j name).mpr hname)
  | @below j name hj hname hlast =>
    exact .below hj ((h j name).mp hname) fun k hjk hki name' hname' =>
      hlast k hjk hki name' ((h k name').mpr hname')

/-! ### Look-ups -/

section LookUps

variable {text : String} {i : Nat} {key value : String}

/-- A line has an entry if there is a key in front of its first colon. -/
theorem Line.headEntry_eq_some_iff {l : Line} {e : MetaEntry} : l.headEntry = some e ↔
    ∃ spelled rest, l.code = some (String.ofList (spelled ++ ':' :: rest)) ∧ ':' ∉ spelled ∧
      trim spelled ≠ [] ∧ e = ⟨String.ofList (trim spelled), String.ofList (trim rest)⟩ := by
  constructor
  · intro he
    obtain ⟨code, hcode, hparse⟩ := Option.bind_eq_some_iff.mp he
    by_cases hmem : ':' ∈ code.toList
    · obtain ⟨spelled, rest, htext, hcolon⟩ := List.eq_append_cons_of_mem hmem
      obtain rfl : code = String.ofList (spelled ++ ':' :: rest) := by
        rw [← htext, String.ofList_toList]
      have hne : trim spelled ≠ [] := by
        intro hnil
        simp [MetaEntry.parse?, cut?_append hcolon, hnil] at hparse
      rw [parse?_colon hcolon hne] at hparse
      exact ⟨spelled, rest, hcode, hcolon, hne, (Option.some.inj hparse).symm⟩
    · simp [MetaEntry.parse?, cut?_of_notMem hmem] at hparse
  · rintro ⟨spelled, rest, hcode, hcolon, hne, rfl⟩
    rw [Line.headEntry, hcode, Option.bind_some, parse?_colon hcolon hne]

/-- A setting is an entry of the head with its key. -/
theorem settingAt_iff (hkey : Key.compact key ≠ "") {lines : List (List Char)} :
    SettingAt lines i key value ↔ ∃ l e, TextAt lines i metaKey l ∧ l.headEntry = some e ∧
      Key.compact e.key = Key.compact key ∧ e.value = value := by
  constructor
  · rintro ⟨spelled, rest, ⟨l, hl, hcode⟩, hcolon, hcompact, rfl⟩
    have hne : trim spelled ≠ [] := by
      intro hnil
      rw [← compact_trim, hnil] at hcompact
      exact hkey hcompact.symm
    have he := Line.headEntry_eq_some_iff.mpr ⟨spelled, rest, hcode, hcolon, hne, rfl⟩
    exact ⟨l, _, hl, he, by rw [compact_trim, hcompact], rfl⟩
  · rintro ⟨l, e, hl, he, hcompact, rfl⟩
    obtain ⟨spelled, rest, hcode, hcolon, -, rfl⟩ := Line.headEntry_eq_some_iff.mp he
    rw [compact_trim] at hcompact
    exact ⟨spelled, rest, ⟨l, hl, hcode⟩, hcolon, hcompact, rfl⟩

/-- The text at the place of a setting is its entry. -/
theorem SettingAt.exists_headEntry (hkey : Key.compact key ≠ "") {lines : List (List Char)}
    (h : SettingAt lines i key value) {key' : String} {l : Line} (hl : TextAt lines i key' l) :
    ∃ e, l.headEntry = some e ∧ Key.compact e.key = Key.compact key ∧ e.value = value := by
  obtain ⟨l', e, ⟨-, line, hline, -, rfl⟩, he⟩ := (settingAt_iff hkey).mp h
  obtain ⟨-, line', hline', -, rfl⟩ := hl
  obtain rfl : line = line' := Option.some.inj (hline.symm.trans hline')
  exact ⟨e, he⟩

/-- The settings of a key in a text, each with its place. -/
def headSettings (key text : String) : List (Nat × String) :=
  (linesUnder metaKey (itemsOf text)).filterMap fun l =>
    (l.headEntry.filter (Key.compact ·.key = Key.compact key)).map fun e => (l.number - 1, e.value)

/-- The settings that are read are those that the lines of the text make. -/
theorem mem_headSettings (hkey : Key.compact key ≠ "") :
    (i, value) ∈ headSettings key text ↔ SettingAt (linesOf text) i key value := by
  rw [headSettings, settingAt_iff hkey, List.mem_filterMap]
  constructor
  · rintro ⟨l, hl, hsetting⟩
    obtain ⟨e, he, heq⟩ := Option.map_eq_some_iff.mp hsetting
    obtain ⟨he, hcompact⟩ := Option.filter_eq_some_iff.mp he
    obtain ⟨j, hj⟩ := mem_linesUnder_itemsOf.mp hl
    obtain ⟨rfl, rfl⟩ := Prod.mk.inj heq
    rw [hj.number_eq, Nat.add_sub_cancel]
    exact ⟨l, e, hj, he, of_decide_eq_true hcompact, rfl⟩
  · rintro ⟨l, e, hl, he, hcompact, rfl⟩
    refine ⟨l, mem_linesUnder_itemsOf.mpr ⟨i, hl⟩, ?_⟩
    simp [he, hcompact, hl.number_eq]

theorem MetaTable.get?_singleton (t : MetaTable) (key : String) : t.get? [key] = t.value? key := by
  rw [get?, List.findSome?_cons, List.findSome?_nil]
  cases t.value? key <;> rfl

/-- Whether a line gives a key a value that is not blank. -/
def Line.sets (key : String) (l : Line) : Bool :=
  l.headEntry.any fun e => Key.compact e.key = Key.compact key && e.value ≠ ""

/-- A line sets a key if it is an entry with this key and a value. -/
theorem Line.sets_iff {l : Line} : l.sets key ↔
    ∃ e, l.headEntry = some e ∧ Key.compact e.key = Key.compact key ∧ e.value ≠ "" := by
  simp [Line.sets, Option.any_eq_true]

/-- The value of a key stands in the last line of the head that sets it. -/
theorem value?_headOf (text key : String) :
    (headOf text).value? key = (((linesUnder metaKey (itemsOf text)).reverse.find?
      (Line.sets key)).bind Line.headEntry).map (·.value) := by
  rw [headOf_eq_entries, MetaTable.value?, ← List.filterMap_reverse, List.find?_filterMap]
  rfl

/-- A look-up in the head finds the last setting that is not blank. -/
theorem value?_headOf_eq_some_iff (hkey : Key.compact key ≠ "") :
    (headOf text).value? key = some value ↔ ∃ i, LastSettingAt (linesOf text) i key value := by
  have hsorted := pairwise_linesUnder_itemsOf metaKey text
  rw [value?_headOf]
  constructor
  · intro h
    obtain ⟨e, he, rfl⟩ := Option.map_eq_some_iff.mp h
    obtain ⟨l, hfind, he⟩ := Option.bind_eq_some_iff.mp he
    obtain ⟨hl, hq, hlast⟩ := (find?_reverse_eq_some_iff hsorted).mp hfind
    obtain ⟨i, hi⟩ := mem_linesUnder_itemsOf.mp hl
    obtain ⟨e', he', hcompact, hvalue⟩ := Line.sets_iff.mp hq
    obtain rfl : e = e' := Option.some.inj (he.symm.trans he')
    refine ⟨i, (settingAt_iff hkey).mpr ⟨l, e, hi, he, hcompact, rfl⟩, hvalue, ?_⟩
    intro j value' hij hj
    obtain ⟨l', e', hl', he', hcompact', rfl⟩ := (settingAt_iff hkey).mp hj
    by_contra hne
    have hle := hlast l' (mem_linesUnder_itemsOf.mpr ⟨j, hl'⟩)
      (Line.sets_iff.mpr ⟨e', he', hcompact', hne⟩)
    rw [hi.number_eq, hl'.number_eq] at hle
    omega
  · rintro ⟨i, hi, hvalue, hlast⟩
    obtain ⟨l, e, hl, he, hcompact, rfl⟩ := (settingAt_iff hkey).mp hi
    have hfind : (linesUnder metaKey (itemsOf text)).reverse.find?
        (Line.sets key) = some l := by
      refine (find?_reverse_eq_some_iff hsorted).mpr
        ⟨mem_linesUnder_itemsOf.mpr ⟨i, hl⟩, Line.sets_iff.mpr ⟨e, he, hcompact, hvalue⟩, ?_⟩
      intro l' hl' hq
      obtain ⟨j, hj⟩ := mem_linesUnder_itemsOf.mp hl'
      obtain ⟨e', he', hcompact', hvalue'⟩ := Line.sets_iff.mp hq
      by_contra hle
      rw [hl.number_eq, hj.number_eq] at hle
      exact hvalue' (hlast j _ (by omega)
        ((settingAt_iff hkey).mpr ⟨l', e', hj, he', hcompact', rfl⟩))
    rw [hfind, Option.bind_some, he, Option.map_some]

/-- A key has no value if all of its settings are blank. -/
theorem value?_headOf_eq_none_iff (hkey : Key.compact key ≠ "") :
    (headOf text).value? key = none ↔
      ∀ i value, SettingAt (linesOf text) i key value → value = "" := by
  rw [value?_headOf, Option.map_eq_none_iff, Option.bind_eq_none_iff]
  constructor
  · intro h i value hi
    obtain ⟨l, e, hl, he, hcompact, rfl⟩ := (settingAt_iff hkey).mp hi
    by_contra hne
    have hq := Line.sets_iff.mpr ⟨e, he, hcompact, hne⟩
    have hmem : l ∈ (linesUnder metaKey (itemsOf text)).reverse :=
      List.mem_reverse.mpr (mem_linesUnder_itemsOf.mpr ⟨i, hl⟩)
    obtain ⟨l', hl'⟩ := Option.isSome_iff_exists.mp (List.find?_isSome.mpr ⟨l, hmem, hq⟩)
    obtain ⟨e', he', -⟩ := Line.sets_iff.mp (List.find?_some hl')
    simp [h l' hl'] at he'
  · intro h l hl
    obtain ⟨e, he, hcompact, hvalue⟩ := Line.sets_iff.mp (List.find?_some hl)
    obtain ⟨i, hi⟩ := mem_linesUnder_itemsOf.mp (List.mem_reverse.mp (List.mem_of_find?_eq_some hl))
    exact absurd (h i e.value ((settingAt_iff hkey).mpr ⟨l, e, hi, he, hcompact, rfl⟩)) hvalue

/-- Texts with the same lines with unknown keys keep the same entries under them. -/
theorem extra_headOf_congr {text' : String}
    (h : ∀ i l, (l.headEntry.any fun e => !e.isKnown) →
      (TextAt (linesOf text) i metaKey l ↔ TextAt (linesOf text') i metaKey l)) :
    (headOf text).extra knownKeys = (headOf text').extra knownKeys := by
  have hunknown (ls : List Line) : (ls.filterMap Line.headEntry).filter (!·.isKnown) =
      (ls.filter fun l => l.headEntry.any (!·.isKnown)).filterMap Line.headEntry := by
    induction ls with
    | nil => rfl
    | cons l rest ih =>
      cases he : l.headEntry with
      | none => simpa [he] using ih
      | some e => by_cases hknown : e.isKnown <;> simpa [he, hknown] using ih
  apply MetaTable.extra_congr
  rw [headOf_eq_entries, headOf_eq_entries, hunknown, hunknown, filter_linesUnder_congr h]

end LookUps

end Tilemap
