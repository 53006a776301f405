import Mathlib.Data.List.Forall2
import Mathlib.Data.List.Induction
import Tilemap.Proofs.Comments

/-!
# Where the lines of a text go

A line of a map text is blank, or a header, or text. Text belongs to the section whose header is the
last one above it, or to `meta` above every header (`KeyAt`, `TextAt`). `isSplit_splitSections` says
that the sections of a text hold just that: every line of text is kept in the one section that it
belongs to, with its place in the text, and the sections stand in the order of their first headers.

Both follow from what stands before a place: the key that is reached there (`keyAt_iff`) and the
titles that were found on the way (`exists_places`).
-/

namespace Tilemap

open Text

/-! ### Statement -/

/-- Without its comment a line is a name in brackets, with a character but no `]` in it. -/
def IsHeader (line : List Char) (name : String) : Prop :=
  ∃ inner, stripCommentChars (trim line) = '[' :: (inner ++ [']']) ∧ inner ≠ [] ∧ ']' ∉ inner ∧
    name = String.ofList (trim inner)

/-- A line is neither blank nor a header. -/
def IsText (line : List Char) : Prop := trim line ≠ [] ∧ ∀ name, ¬ IsHeader line name

/-- The line at a place, counted from zero, is a header with a name. -/
def HeaderAt (lines : List (List Char)) (i : Nat) (name : String) : Prop :=
  ∃ line, lines[i]? = some line ∧ IsHeader line name

/-- The key of the section that a place is in. -/
inductive KeyAt (lines : List (List Char)) (i : Nat) : String → Prop where
  /-- There is no header above. -/
  | first (hnone : ∀ j < i, ∀ name, ¬ HeaderAt lines j name) : KeyAt lines i metaKey
  /-- The last header above names the section. -/
  | below {j : Nat} {name : String} (hj : j < i) (hname : HeaderAt lines j name)
      (hlast : ∀ k, j < k → k < i → ∀ name', ¬ HeaderAt lines k name') :
    KeyAt lines i (sectionKey name)

/-- What is kept of a line with a number: its trimmed text, and that without its comment unless it
starts with `#`. -/
def Line.ofSource (number : Nat) (line : List Char) : Line where
  number := number
  raw := String.ofList (trim line)
  code :=
    if (trim line).head? = some '#' then none
    else some (String.ofList (stripCommentChars (trim line)))

/-- The line at a place is text of the section with a key, and `l` is what is kept of it. -/
def TextAt (lines : List (List Char)) (i : Nat) (key : String) (l : Line) : Prop :=
  KeyAt lines i key ∧ ∃ line, lines[i]? = some line ∧ IsText line ∧ l = .ofSource (i + 1) line

/-- The line at a place is the first header of the section with a key, and has a name. -/
def FirstHeaderAt (lines : List (List Char)) (i : Nat) (key name : String) : Prop :=
  HeaderAt lines i name ∧ sectionKey name = key ∧
    ∀ j < i, ∀ name', HeaderAt lines j name' → sectionKey name' ≠ key

/-- Sections hold the lines of a text. -/
structure IsSplit (lines : List (List Char)) (sections : List Section) : Prop where
  nodup_keys : (sections.map Section.key).Nodup
  /-- The section `meta` comes first, the others in the order of their first headers. -/
  order : ∃ start rest, sections = start :: rest ∧ start.key = metaKey ∧ start.title = "Meta" ∧
    ∃ places : List Nat, places.Pairwise (· < ·) ∧
      List.Forall₂ (fun i s => FirstHeaderAt lines i s.key s.title) places rest
  /-- No header is passed over. -/
  headers : ∀ i name, HeaderAt lines i name → ∃ s ∈ sections, s.key = sectionKey name
  /-- No text is lost. -/
  texts : ∀ i key l, TextAt lines i key l → ∃ s ∈ sections, s.key = key
  /-- A section holds all text under its key and nothing else. -/
  mem_lines : ∀ s ∈ sections, ∀ l, l ∈ s.lines ↔ ∃ i, TextAt lines i s.key l
  /-- The lines of a section are in their order, and none is there twice. -/
  pairwise_lines : ∀ s ∈ sections, s.lines.Pairwise (·.number < ·.number)

/-! ### What a line is -/

/-- A header is a name in brackets that is not empty and closes no bracket itself. -/
theorem headerName?_eq_some {s name : List Char} :
    headerName? s = some name ↔ s = '[' :: (name ++ [']']) ∧ name ≠ [] ∧ ']' ∉ name := by
  constructor
  · intro h
    unfold headerName? at h
    split at h
    · rename_i rest
      split at h
      · rename_i hlast
        obtain ⟨inner, rfl⟩ := List.getLast?_eq_some_iff.mp hlast
        simp only [List.dropLast_concat] at h
        split at h
        · cases h
        · rename_i hname
          obtain rfl := Option.some.inj h
          simpa using hname
      · cases h
    · cases h
  · rintro ⟨rfl, hne, hfree⟩
    simp [headerName?, hne, hfree]

/-- A trimmed text has code unless it starts with `#`. -/
theorem codeOf?_trim {line : List Char} (h : trim line ≠ []) :
    codeOf? (trim line) =
      if (trim line).head? = some '#' then none else some (stripCommentChars (trim line)) := by
  cases htrim : trim line with
  | nil => exact absurd htrim h
  | cons c r =>
    obtain ⟨r', hr'⟩ := stripCommentChars_cons (not_blank_of_trim_eq_cons htrim) r
    by_cases hc : c = '#'
    · subst hc
      rfl
    · unfold codeOf?
      simp [hc, hr']

theorem Line.code_ofSource (number : Nat) {line : List Char} (h : trim line ≠ []) :
    (Line.ofSource number line).code = (codeOf? (trim line)).map String.ofList := by
  rw [codeOf?_trim h, Line.ofSource]
  split <;> rfl

/-- A line is a header if its code is one. -/
theorem isHeader_iff {line : List Char} (h : trim line ≠ []) (name : String) :
    IsHeader line name ↔
      ∃ inner, (codeOf? (trim line)).bind headerName? = some inner ∧
        name = String.ofList (trim inner) := by
  rw [codeOf?_trim h]
  split
  · rename_i hhash
    obtain ⟨r, hr⟩ := List.head?_eq_some_iff.mp hhash
    obtain ⟨r', hr'⟩ := stripCommentChars_cons (not_blank_of_trim_eq_cons hr) r
    simp [IsHeader, hr, hr']
  · simp [IsHeader, headerName?_eq_some, and_assoc]

theorem not_isHeader_of_blank {line : List Char} (h : trim line = []) (name : String) :
    ¬ IsHeader line name := by
  rintro ⟨inner, hinner, -⟩
  rw [h] at hinner
  cases hinner

theorem blank_or_header_or_text (line : List Char) :
    trim line = [] ∨ (∃ name, IsHeader line name) ∨ IsText line := by
  by_cases hblank : trim line = []
  · exact .inl hblank
  · by_cases hheader : ∃ name, IsHeader line name
    · exact .inr (.inl hheader)
    · exact .inr (.inr ⟨hblank, not_exists.mp hheader⟩)

namespace Item

variable {line : List Char}

/-- A line that is not blank makes an item: a header if its code is one, else text. -/
theorem of?_eq_some (number : Nat) (h : trim line ≠ []) :
    of? number line = some (match (codeOf? (trim line)).bind headerName? with
      | some inner => .header (String.ofList (trim inner))
      | none => .line (.ofSource number line)) := by
  have hcode := Line.code_ofSource number h
  unfold of?
  split
  · contradiction
  · dsimp only
    rw [← hcode]
    cases (codeOf? (trim line)).bind headerName? <;> rfl

theorem of?_of_blank (number : Nat) (h : trim line = []) : of? number line = none := by
  rw [of?, h]

theorem of?_of_isHeader (number : Nat) {name : String} (h : IsHeader line name) :
    of? number line = some (.header name) := by
  have hne : trim line ≠ [] := fun hnil => not_isHeader_of_blank hnil name h
  obtain ⟨inner, hinner, rfl⟩ := (isHeader_iff hne name).mp h
  rw [of?_eq_some number hne, hinner]

theorem of?_of_isText (number : Nat) (h : IsText line) :
    of? number line = some (.line (.ofSource number line)) := by
  rw [of?_eq_some number h.1]
  split
  · rename_i inner hinner
    exact absurd ((isHeader_iff h.1 _).mpr ⟨inner, hinner, rfl⟩) (h.2 _)
  · rfl

end Item

/-! ### The key at a place -/

variable {lines : List (List Char)} {i : Nat} {key name : String}

theorem HeaderAt.unique {name' : String} (h : HeaderAt lines i name) (h' : HeaderAt lines i name') :
    name = name' := by
  obtain ⟨line, hline, hname⟩ := h
  obtain ⟨line', hline', hname'⟩ := h'
  obtain rfl : line = line' := Option.some.inj (hline.symm.trans hline')
  simpa [Item.of?_of_isHeader 0 hname] using Item.of?_of_isHeader 0 hname'

theorem keyAt_zero : KeyAt lines 0 key ↔ metaKey = key := by
  constructor
  · intro h
    cases h with
    | first _ => rfl
    | below hj _ _ => exact absurd hj (Nat.not_lt_zero _)
  · rintro rfl
    exact .first fun j hj => absurd hj (Nat.not_lt_zero j)

theorem keyAt_succ_of_header (h : HeaderAt lines i name) :
    KeyAt lines (i + 1) key ↔ sectionKey name = key := by
  constructor
  · intro hkey
    cases hkey with
    | first hnone => exact absurd h (hnone i (Nat.lt_succ_self i) name)
    | @below j name' hj hname hlast =>
      rcases Nat.lt_succ_iff_lt_or_eq.mp hj with hlt | rfl
      · exact absurd h (hlast i hlt (Nat.lt_succ_self i) name)
      · rw [h.unique hname]
  · rintro rfl
    exact .below (Nat.lt_succ_self i) h fun k hik hki => absurd hki (by omega)

theorem keyAt_succ_of_no_header (h : ∀ name, ¬ HeaderAt lines i name) :
    KeyAt lines (i + 1) key ↔ KeyAt lines i key := by
  constructor
  · intro hkey
    cases hkey with
    | first hnone => exact .first fun j hj => hnone j (by omega)
    | @below j name' hj hname hlast =>
      rcases Nat.lt_succ_iff_lt_or_eq.mp hj with hlt | rfl
      · exact .below hlt hname fun k hjk hki => hlast k hjk (by omega)
      · exact absurd hname (h name')
  · intro hkey
    cases hkey with
    | first hnone =>
      refine .first fun j hj => ?_
      rcases Nat.lt_succ_iff_lt_or_eq.mp hj with hlt | rfl
      · exact hnone j hlt
      · exact h
    | @below j name' hj hname hlast =>
      refine .below (by omega) hname fun k hjk hki => ?_
      rcases Nat.lt_succ_iff_lt_or_eq.mp hki with hlt | rfl
      · exact hlast k hjk hlt
      · exact h

/-- The key at a place is the one that is reached by the lines above. -/
theorem keyAt_iff : KeyAt lines i key ↔ keyBelow (lines.take i) = key := by
  induction i with
  | zero => exact keyAt_zero
  | succ i ih =>
    rw [keyBelow, List.take_add_one, itemsOfLines_append, keyAfter_append, ← keyBelow]
    cases hline : lines[i]? with
    | none =>
      rw [keyAt_succ_of_no_header (by simp [HeaderAt, hline]), ih]
      rfl
    | some line =>
      have hat (name : String) : HeaderAt lines i name ↔ IsHeader line name := by
        simp [HeaderAt, hline]
      rcases blank_or_header_or_text line with hblank | ⟨name, hname⟩ | htext
      · have hnot := not_isHeader_of_blank hblank
        rw [keyAt_succ_of_no_header fun name => (hat name).not.mpr (hnot name), ih]
        simp [itemsOfLines, Item.of?_of_blank 0 hblank]
      · rw [keyAt_succ_of_header ((hat name).mpr hname)]
        simp [itemsOfLines, Item.of?_of_isHeader 0 hname]
      · rw [keyAt_succ_of_no_header fun name => (hat name).not.mpr (htext.2 name), ih]
        simp [itemsOfLines, Item.of?_of_isText 0 htext]

/-! ### Lines under a key -/

/-- Items of lines that are numbered from a number on. -/
def itemsFrom (number : Nat) (lines : List (List Char)) : List Item :=
  (lines.zipIdx number).filterMap fun (line, n) => Item.of? n line

theorem itemsOf_eq (text : String) : itemsOf text = itemsFrom 1 (linesOf text) := rfl

theorem itemsFrom_cons (number : Nat) (line : List Char) (lines : List (List Char)) :
    itemsFrom number (line :: lines) =
      (Item.of? number line).toList ++ itemsFrom (number + 1) lines := by
  rw [itemsFrom, List.zipIdx_cons, List.filterMap_cons]
  dsimp only
  cases Item.of? number line <;> rfl

/-- The lines under a key are the texts that stand under it, each with its number. -/
theorem mem_keyedLines_itemsFrom {current : String} {number : Nat} {l : Line} :
    (key, l) ∈ keyedLines current (itemsFrom number lines) ↔
      ∃ i line, lines[i]? = some line ∧ IsText line ∧ l = .ofSource (number + i) line ∧
        keyAfter current (itemsOfLines (lines.take i)) = key := by
  induction lines generalizing current number with
  | nil => simp [itemsFrom, keyedLines]
  | cons line rest ih =>
    rw [← Nat.or_exists_add_one, itemsFrom_cons]
    have hshift (i : Nat) : number + 1 + i = number + (i + 1) := by omega
    rcases blank_or_header_or_text line with hblank | ⟨name, hname⟩ | htext
    · have hnot : ¬ IsText line := fun h => h.1 hblank
      simp [itemsOfLines, Item.of?_of_blank _ hblank, ih, hshift, hnot]
    · have hnot : ¬ IsText line := fun h => h.2 name hname
      simp [itemsOfLines, Item.of?_of_isHeader _ hname, keyedLines, ih, hshift, hnot]
    · simp [itemsOfLines, Item.of?_of_isText _ htext, keyedLines, ih, hshift, htext]
      exact or_congr_left ⟨fun h => ⟨h.2, h.1.symm⟩, fun h => ⟨h.2.symm, h.1⟩⟩

/-- Keyed lines are numbered upwards. -/
theorem pairwise_keyedLines_itemsFrom (current : String) (number : Nat)
    (lines : List (List Char)) :
    (keyedLines current (itemsFrom number lines)).Pairwise (·.2.number < ·.2.number) := by
  induction lines generalizing current number with
  | nil => exact .nil
  | cons line rest ih =>
    rw [itemsFrom_cons]
    rcases blank_or_header_or_text line with hblank | ⟨name, hname⟩ | htext
    · rw [Item.of?_of_blank number hblank]
      exact ih current (number + 1)
    · rw [Item.of?_of_isHeader number hname]
      exact ih (sectionKey name) (number + 1)
    · rw [Item.of?_of_isText number htext]
      refine List.pairwise_cons.mpr ⟨?_, ih current (number + 1)⟩
      rintro ⟨key, l⟩ hl
      obtain ⟨i, line', -, -, rfl, -⟩ := mem_keyedLines_itemsFrom.mp hl
      simp only [Line.ofSource]
      omega

theorem mem_linesUnder_itemsOf {text : String} {l : Line} :
    l ∈ linesUnder key (itemsOf text) ↔ ∃ i, TextAt (linesOf text) i key l := by
  have hmem : l ∈ linesUnder key (itemsOf text) ↔
      (key, l) ∈ keyedLines metaKey (itemsFrom 1 (linesOf text)) := by
    simp [linesUnder, itemsOf_eq]
  rw [hmem, mem_keyedLines_itemsFrom]
  refine exists_congr fun i => ?_
  rw [TextAt, keyAt_iff, Nat.add_comm 1 i]
  constructor
  · rintro ⟨line, hline, htext, hl, hkey⟩
    exact ⟨hkey, line, hline, htext, hl⟩
  · rintro ⟨hkey, line, hline, htext, hl⟩
    exact ⟨line, hline, htext, hl, hkey⟩

theorem pairwise_linesUnder_itemsOf (key text : String) :
    (linesUnder key (itemsOf text)).Pairwise (·.number < ·.number) := by
  rw [linesUnder, itemsOf_eq, List.pairwise_map]
  exact (pairwise_keyedLines_itemsFrom metaKey 1 (linesOf text)).filter _

/-! ### Titles -/

theorem header_mem_itemsOfLines :
    Item.header name ∈ itemsOfLines lines ↔ ∃ i, HeaderAt lines i name := by
  constructor
  · intro h
    obtain ⟨line, hline, hitem⟩ := List.mem_filterMap.mp h
    obtain ⟨i, hi⟩ := List.mem_iff_getElem?.mp hline
    refine ⟨i, line, hi, ?_⟩
    rcases blank_or_header_or_text line with hblank | ⟨name', hname'⟩ | htext
    · simp [Item.of?_of_blank 0 hblank] at hitem
    · rw [Item.of?_of_isHeader 0 hname'] at hitem
      cases hitem
      exact hname'
    · simp [Item.of?_of_isText 0 htext] at hitem
  · rintro ⟨i, line, hi, hname⟩
    exact List.mem_filterMap.mpr
      ⟨line, List.mem_iff_getElem?.mpr ⟨i, hi⟩, Item.of?_of_isHeader 0 hname⟩

/-- More lines at the end leave the headers where they are. -/
theorem headerAt_append (hi : i < lines.length) (lines' : List (List Char)) :
    HeaderAt (lines ++ lines') i name ↔ HeaderAt lines i name := by
  simp [HeaderAt, List.getElem?_append_left hi]

/-- More lines at the end leave the first header of a key the first one. -/
theorem FirstHeaderAt.append (h : FirstHeaderAt lines i key name) (hi : i < lines.length)
    (lines' : List (List Char)) : FirstHeaderAt (lines ++ lines') i key name := by
  obtain ⟨hname, hkey, hfirst⟩ := h
  refine ⟨(headerAt_append hi lines').mpr hname, hkey, fun j hj name' hname' => ?_⟩
  exact hfirst j hj name' ((headerAt_append (by omega) lines').mp hname')

theorem nodup_addTitle {found : List (String × String)} (h : (found.map (·.1)).Nodup)
    (name : String) : ((addTitle found name).map (·.1)).Nodup := by
  rw [addTitle]
  split
  · exact h
  · rename_i hnew
    have hfree : ∀ e ∈ found, e.1 ≠ sectionKey name := by
      intro e he heq
      exact hnew (by simpa using ⟨e.2, heq ▸ he⟩)
    rw [List.map_append, List.nodup_append]
    refine ⟨h, by simp, ?_⟩
    simpa using hfree

theorem nodup_titles (items : List Item) : ((titles items).map (·.1)).Nodup := by
  have hadd (found : List (String × String)) (h : (found.map (·.1)).Nodup) :
      ((addTitles found items).map (·.1)).Nodup := by
    induction items generalizing found with
    | nil => exact h
    | cons item rest ih =>
      cases item with
      | header name => exact ih _ (nodup_addTitle h name)
      | line l => exact ih _ h
  exact hadd _ (by simp)

/-- A header at the end adds its title, unless its key has one. -/
theorem titles_of_isHeader {line : List Char} (h : IsHeader line name) :
    titles (itemsOfLines (lines ++ [line])) = addTitle (titles (itemsOfLines lines)) name := by
  rw [itemsOfLines_append, itemsOfLines_cons (Item.of?_of_isHeader 0 h), titles_eq, titles_eq,
    addTitles_append]
  rfl

/-- A line at the end that is no header adds no title. -/
theorem titles_of_not_isHeader {line : List Char} (h : ∀ name, ¬ IsHeader line name) :
    titles (itemsOfLines (lines ++ [line])) = titles (itemsOfLines lines) := by
  rw [itemsOfLines_append, titles_eq, titles_eq, addTitles_append]
  rcases blank_or_header_or_text line with hblank | ⟨name, hname⟩ | htext
  · simp [itemsOfLines, Item.of?_of_blank 0 hblank]
  · exact absurd hname (h name)
  · simp [itemsOfLines, Item.of?_of_isText 0 htext]

/-- The titles stand in the order of the first headers, which are found one after the other. -/
theorem exists_places (lines : List (List Char)) :
    ∃ rest places, titles (itemsOfLines lines) = (metaKey, "Meta") :: rest ∧
      (∀ i ∈ places, i < lines.length) ∧ places.Pairwise (· < ·) ∧
        List.Forall₂ (fun i e => FirstHeaderAt lines i e.1 e.2) places rest := by
  induction lines using List.reverseRecOn with
  | nil => exact ⟨[], [], rfl, by simp, .nil, .nil⟩
  | append_singleton lines line ih =>
    obtain ⟨rest, places, hrest, hbound, hsorted, hfirst⟩ := ih
    have hlength : (lines ++ [line]).length = lines.length + 1 := by simp
    have hbound' : ∀ i ∈ places, i < (lines ++ [line]).length := by
      intro i hi
      have := hbound i hi
      omega
    have hfirst' : List.Forall₂ (fun i e => FirstHeaderAt (lines ++ [line]) i e.1 e.2)
        places rest :=
      ((List.forall₂_and_left _ _).mpr ⟨hbound, hfirst⟩).imp fun i e h => h.2.append h.1 [line]
    by_cases hnew : ∃ name, IsHeader line name ∧
        (titles (itemsOfLines lines)).lookup (sectionKey name) = none
    · obtain ⟨name, hname, hlookup⟩ := hnew
      have hlast : FirstHeaderAt (lines ++ [line]) lines.length (sectionKey name) name := by
        refine ⟨⟨line, by simp, hname⟩, rfl, fun j hj name' hname' heq => ?_⟩
        have hmem : Item.header name' ∈ itemsOfLines lines :=
          header_mem_itemsOfLines.mpr ⟨j, (headerAt_append hj [line]).mp hname'⟩
        have hsome := (isSome_lookup_titles (itemsOfLines lines) (sectionKey name)).mpr
          (.inr ⟨name', hmem, heq⟩)
        rw [hlookup] at hsome
        cases hsome
      refine ⟨rest ++ [(sectionKey name, name)], places ++ [lines.length], ?_, ?_, ?_, ?_⟩
      · rw [titles_of_isHeader hname, addTitle, hlookup, hrest]
        rfl
      · intro i hi
        rcases List.mem_append.mp hi with hi | hi
        · exact hbound' i hi
        · rw [List.mem_singleton.mp hi, hlength]
          exact Nat.lt_succ_self _
      · rw [List.pairwise_append]
        exact ⟨hsorted, by simp, by simpa using hbound⟩
      · exact List.rel_append hfirst' (.cons hlast .nil)
    · refine ⟨rest, places, ?_, hbound', hsorted, hfirst'⟩
      rw [← hrest]
      by_cases hheader : ∃ name, IsHeader line name
      · obtain ⟨name, hname⟩ := hheader
        have hfound : ((titles (itemsOfLines lines)).lookup (sectionKey name)).isSome :=
          Option.isSome_iff_ne_none.mpr fun hnone => hnew ⟨name, hname, hnone⟩
        rw [titles_of_isHeader hname, addTitle, if_pos hfound]
      · exact titles_of_not_isHeader (not_exists.mp hheader)

/-! ### Main result -/

theorem titles_itemsOf (text : String) :
    titles (itemsOf text) = titles (itemsOfLines (linesOf text)) := by
  rw [← map_unnumbered_itemsOf, titles_unnumbered]

/-- A key has a section if it is `meta` or the key of a header. -/
theorem exists_section_of_key {text : String}
    (h : key = metaKey ∨ ∃ i name, HeaderAt (linesOf text) i name ∧ sectionKey name = key) :
    ∃ s ∈ splitSections text, s.key = key := by
  have hsome : ((titles (itemsOf text)).lookup key).isSome := by
    rw [titles_itemsOf, isSome_lookup_titles]
    refine h.imp_right ?_
    rintro ⟨i, name, hname, heq⟩
    exact ⟨name, header_mem_itemsOfLines.mpr ⟨i, hname⟩, heq⟩
  obtain ⟨title, htitle⟩ := Option.isSome_iff_exists.mp hsome
  have hfound := findSection?_sectionsOf (itemsOf text) key
  rw [htitle] at hfound
  exact ⟨_, List.mem_of_find?_eq_some hfound, rfl⟩

/-- A section has the lines under its key. -/
theorem lines_of_mem_splitSections {text : String} {s : Section} (h : s ∈ splitSections text) :
    s.lines = linesUnder s.key (itemsOf text) := by
  obtain ⟨⟨key, title⟩, -, rfl⟩ := List.mem_map.mp h
  rfl

/-- The sections of a text hold its lines. -/
theorem isSplit_splitSections (text : String) : IsSplit (linesOf text) (splitSections text) where
  nodup_keys := by
    have hkeys : (splitSections text).map Section.key = (titles (itemsOf text)).map (·.1) := by
      rw [splitSections_eq, sectionsOf, List.map_map]
      rfl
    rw [hkeys]
    exact nodup_titles (itemsOf text)
  order := by
    obtain ⟨rest, places, hrest, -, hsorted, hfirst⟩ := exists_places (linesOf text)
    rw [splitSections_eq, sectionsOf, titles_itemsOf, hrest]
    refine ⟨_, _, rfl, rfl, rfl, places, hsorted, ?_⟩
    exact List.forall₂_map_right_iff.mpr hfirst
  headers := fun i name h => exists_section_of_key (.inr ⟨i, name, h, rfl⟩)
  texts := by
    rintro i key l ⟨hkey, -⟩
    apply exists_section_of_key
    cases hkey with
    | first _ => exact .inl rfl
    | @below j name _ hname _ => exact .inr ⟨j, name, hname, rfl⟩
  mem_lines := by
    intro s hs l
    rw [lines_of_mem_splitSections hs]
    exact mem_linesUnder_itemsOf
  pairwise_lines := by
    intro s hs
    rw [lines_of_mem_splitSections hs]
    exact pairwise_linesUnder_itemsOf s.key text

end Tilemap
