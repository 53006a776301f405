import Mathlib.Data.List.DropRight
import Tilemap.Proofs.SourceLines

/-!
# Spellings of the keys in the head

A key of the head may be written with capitals or without, in one word or in several with blanks,
`_` or `-` between them: `compile_of_sameButSpelling` says that texts which differ only in how they
spell keys that have a meaning (`SameButSpelling`) describe the same map, or are refused for the
same reason on the same line.

Of an entry with a known key, only the compact form of the key and the value are read
(`HeadsAlike`). It remains to see that a line with another spelling is still an entry with the same
value, and that all other lines are where they were.
-/

namespace Tilemap

open Text

/-! ### Statement -/

/-- Letters of any script, digits, spaces, `_` and `-`, of which the first is a letter. -/
def IsSpelling (key : List Char) : Prop :=
  (∃ c ∈ key.head?, isLetter c) ∧
    ∀ c ∈ key, isLetter c ∨ c.isDigit ∨ c = ' ' ∨ c = '_' ∨ c = '-'

instance (key : List Char) : Decidable (IsSpelling key) :=
  decidable_of_iff (key.head?.any isLetter ∧ key.all fun c =>
    isLetter c || c.isDigit || c = ' ' || c = '_' || c = '-') (by
    simp [IsSpelling, or_assoc, Option.any_eq_true])

/-- A text spells a key that has a meaning of its own. -/
def IsKnownKey (key : List Char) : Prop :=
  Key.compact (String.ofList key) ∈ knownKeys.map Key.compact

/-- A line gives a value to a known key, and in another line that key is spelled in another way. The
first line is neither a header nor a comment, and its first colon does not stand in a comment. -/
inductive Respelled : List Char → List Char → Prop where
  | intro {key left spelled right rest code : List Char}
      (htext : IsText (key ++ ':' :: rest)) (hkey : ':' ∉ key)
      (hcode : codeOf? (trim (key ++ ':' :: rest)) = some code) (hcolon : ':' ∈ code)
      (hknown : IsKnownKey key) (hspelled : IsSpelling spelled)
      (hleft : ∀ c ∈ left, isBlank c) (hright : ∀ c ∈ right, isBlank c)
      (hcompact : Key.compact (String.ofList spelled) = Key.compact (String.ofList key)) :
    Respelled (key ++ ':' :: rest) (left ++ spelled ++ right ++ ':' :: rest)

/-- Two texts differ in the spelling of known keys of the head only. -/
structure SameButSpelling (text text' : String) : Prop where
  length : (linesOf text).length = (linesOf text').length
  lines : ∀ i line line', (linesOf text)[i]? = some line → (linesOf text')[i]? = some line' →
    line = line' ∨ KeyAt (linesOf text) i metaKey ∧ Respelled line line'

/-! ### Heads that are read alike -/

/-- What a look-up reads of an entry. -/
def MetaEntry.reading (e : MetaEntry) : String × String := (Key.compact e.key, e.value)

/-- Whether the key of an entry has a meaning of its own. -/
def MetaEntry.isKnown (e : MetaEntry) : Bool :=
  (knownKeys.map Key.compact).contains (Key.compact e.key)

/-- Two heads agree in what look-ups read, and have the same entries under unknown keys. -/
structure MetaTable.HeadsAlike (t t' : MetaTable) : Prop where
  readings : t.entries.map MetaEntry.reading = t'.entries.map MetaEntry.reading
  unknown : t.entries.filter (!·.isKnown) = t'.entries.filter (!·.isKnown)

/-- Looking up a key reads of each entry its compact key and its value only. -/
theorem MetaTable.value?_eq (t : MetaTable) (key : String) :
    t.value? key = ((t.entries.map MetaEntry.reading).reverse.find? fun r =>
      r.1 = Key.compact key && r.2 ≠ "").map (·.2) := by
  rw [value?, ← List.map_reverse, List.find?_map, Option.map_map]
  rfl

theorem MetaTable.HeadsAlike.get?_eq {t t' : MetaTable} (h : t.HeadsAlike t') (keys : List String) :
    t.get? keys = t'.get? keys := by
  have hvalue : t.value? = t'.value? := by
    funext key
    rw [value?_eq, value?_eq, h.readings]
  rw [get?, get?, hvalue]

/-- What is kept besides the known keys depends only on the entries with other keys. -/
theorem MetaTable.extra_congr {t t' : MetaTable}
    (h : t.entries.filter (!·.isKnown) = t'.entries.filter (!·.isKnown)) :
    t.extra knownKeys = t'.extra knownKeys := by
  unfold MetaEntry.isKnown at h
  simp only [extra, h]

/-- Heads are alike if their first entries are, or are known and read alike. -/
theorem MetaTable.HeadsAlike.cons {e e' : MetaEntry} {es es' : List MetaEntry}
    (h : HeadsAlike ⟨es⟩ ⟨es'⟩)
    (he : e = e' ∨ e.isKnown ∧ e'.isKnown ∧ e.reading = e'.reading) :
    HeadsAlike ⟨e :: es⟩ ⟨e' :: es'⟩ := by
  obtain ⟨hreadings, hunknown⟩ := h
  rcases he with rfl | ⟨hknown, hknown', hreading⟩
  · exact ⟨congrArg (e.reading :: ·) hreadings, by simp only [List.filter_cons, hunknown]⟩
  · exact ⟨by simp [hreading, hreadings], by simpa [hknown, hknown'] using hunknown⟩

/-- Two heads agree in what a map is made of: the values of the known keys, or of the two that list
the doors out what comes of them, and the entries under unknown keys. -/
structure MetaTable.SaySame (t t' : MetaTable) : Prop where
  value : ∀ key ∈ knownKeys, key ≠ "doorOut" → key ≠ "doorPosition" → t.value? key = t'.value? key
  outbound : outboundEntries (t.get? ["doorOut"]) (t.get? ["doorPosition"]) =
    outboundEntries (t'.get? ["doorOut"]) (t'.get? ["doorPosition"])
  extra : t.extra knownKeys = t'.extra knownKeys

/-- Heads that say the same answer alike for every known key but the two that list the doors out. -/
theorem MetaTable.SaySame.get?_eq {t t' : MetaTable} (h : t.SaySame t') (keys : List String)
    (hkeys : ∀ key ∈ keys, key ∈ knownKeys ∧ key ≠ "doorOut" ∧ key ≠ "doorPosition") :
    t.get? keys = t'.get? keys := by
  rw [get?, get?]
  induction keys with
  | nil => rfl
  | cons key rest ih =>
    obtain ⟨⟨hknown, hout, hposition⟩, hrest⟩ := List.forall_mem_cons.mp hkeys
    rw [List.findSome?_cons, List.findSome?_cons, h.value key hknown hout hposition, ih hrest]

/-- Texts whose heads say the same and whose other sections are the same describe the same map. -/
theorem compile_of_saySame {text text' : String} (hhead : (headOf text).SaySame (headOf text'))
    (hlines : ∀ key, key ≠ metaKey → linesUnder key (itemsOf text) = linesUnder key (itemsOf text'))
    (htitles : titles (itemsOf text) = titles (itemsOf text')) (options : CompileOptions) :
    compile text options = compile text' options := by
  have hstarting (start : String) (hstart : keyStarts start metaKey = false) :
      sectionsStarting (splitSections text) start =
        sectionsStarting (splitSections text') start := by
    rw [splitSections_eq, splitSections_eq, sectionsStarting_sectionsOf,
      sectionsStarting_sectionsOf, htitles]
    refine List.map_congr_left ?_
    rintro ⟨key, title⟩ he
    have hne : key ≠ metaKey := by
      rintro rfl
      simp [hstart] at he
    simp only [hlines key hne]
  have hlegend : legendLines text = legendLines text' := by
    rw [legendLines_eq, legendLines_eq, hlines "tiles" (by decide)]
  have hspawn : (["startingPoint", "spawnPoint", "spawn"].findSome? fun key =>
        ((headOf text).get? [key]).bind Position.parse?) =
      ["startingPoint", "spawnPoint", "spawn"].findSome? fun key =>
        ((headOf text').get? [key]).bind Position.parse? := by
    simp only [List.findSome?_cons, List.findSome?_nil,
      hhead.get?_eq ["startingPoint"] (by decide), hhead.get?_eq ["spawnPoint"] (by decide),
      hhead.get?_eq ["spawn"] (by decide)]
  have hextra := hhead.extra
  have houtbound := hhead.outbound
  have hget := hhead.get?_eq
  unfold compile
  simp only [legendLines] at hlegend
  simp only [headOf] at hget hextra houtbound hspawn
  simp only [hlegend, hstarting "layer" (by decide), hstarting "objects" (by decide), hextra,
    houtbound, hspawn, hget ["floorColour", "floorColor"] (by decide),
    hget ["id"] (by decide), hget ["doorIn"] (by decide),
    hget ["title", "name"] (by decide), hget ["biome"] (by decide),
    hget ["description"] (by decide), hget ["dimensions", "size"] (by decide),
    hget ["borderColour", "borderColor"] (by decide),
    hget ["soundscape"] (by decide)]

theorem MetaTable.HeadsAlike.saySame {t t' : MetaTable} (h : t.HeadsAlike t') : t.SaySame t' where
  value key _ _ _ := by rw [value?_eq, value?_eq, h.readings]
  outbound := by rw [h.get?_eq, h.get?_eq]
  extra := extra_congr h.unknown

/-- Texts whose heads are read alike and whose other sections are the same describe the same map. -/
theorem compile_of_headsAlike {text text' : String}
    (hhead : (headOf text).HeadsAlike (headOf text'))
    (hlines : ∀ key, key ≠ metaKey → linesUnder key (itemsOf text) = linesUnder key (itemsOf text'))
    (htitles : titles (itemsOf text) = titles (itemsOf text')) (options : CompileOptions) :
    compile text options = compile text' options :=
  compile_of_saySame hhead.saySame hlines htitles options

/-! ### Characters of a key -/

theorem not_isLetter_of_blank {c : Char} (h : isBlank c) : isLetter c = false := by
  simpa using @of_blank (!isLetter ·) (by decide +kernel) c h

/-- Blanks do not show in the compact form of a key. -/
theorem compact_trim (s : List Char) :
    Key.compact (String.ofList (trim s)) = Key.compact (String.ofList s) := by
  have hblank {c : Char} (h : isBlank c) : c.isAlphanum = false := by
    simpa using @of_blank (!Char.isAlphanum ·) (by decide) c h
  have hgap {gap : List Char} (h : ∀ c ∈ gap, isBlank c) : gap.filter Char.isAlphanum = [] := by
    rw [List.filter_eq_nil_iff]
    intro c hc
    simp [hblank (h c hc)]
  obtain ⟨left, right, hs, hleft, hright⟩ := exists_eq_trim s
  have hfilter : (trim s).filter Char.isAlphanum = s.filter Char.isAlphanum := by
    conv_rhs => rw [hs, List.filter_append, List.filter_append, hgap hleft, hgap hright]
    simp
  rw [Key.compact, Key.compact, String.toList_ofList, String.toList_ofList, hfilter]

namespace IsSpelling

variable {key : List Char}

/-- Besides letters a spelling has digits, blanks, `_` and `-` only. -/
theorem notMem (h : IsSpelling key) {c : Char} (hletter : isLetter c = false)
    (hother : ¬ (c.isDigit ∨ c = ' ' ∨ c = '_' ∨ c = '-')) : c ∉ key := by
  intro hc
  rcases h.2 c hc with hc | hc
  · rw [hletter] at hc
    cases hc
  · exact hother hc

theorem exists_cons (h : IsSpelling key) : ∃ c r, key = c :: r ∧ isLetter c := by
  obtain ⟨c, hc, hletter⟩ := h.1
  obtain ⟨r, rfl⟩ := List.head?_eq_some_iff.mp hc
  exact ⟨c, r, rfl, hletter⟩

end IsSpelling

/-! ### Lines with a key -/

/-- In front of the first colon a comment starts, or else what follows it is cut alone. -/
theorem beforeComment?_colon (key rest : List Char) :
    (∃ before tail, key = before ++ '#' :: tail ∧
      beforeComment? (key ++ ':' :: rest) = some before) ∨
    beforeComment? (key ++ ':' :: rest) = (beforeComment? rest).map (key ++ ':' :: ·) := by
  induction key with
  | nil =>
    right
    rw [List.nil_append, beforeComment?, if_neg (by simp [isAsciiBlank])]
    rfl
  | cons c key ih =>
    rw [List.cons_append, beforeComment?]
    split
    · rename_i hopens
      left
      cases key with
      | nil => simp [opensComment] at hopens
      | cons d key =>
        have hd : d = '#' := by
          by_contra hd
          simp [opensComment, hd] at hopens
        subst hd
        exact ⟨[c], key, rfl, rfl⟩
    · rcases ih with ⟨before, tail, rfl, hbefore⟩ | hnone
      · left
        exact ⟨c :: before, tail, rfl, by rw [hbefore]; rfl⟩
      · right
        rw [hnone, Option.map_map]
        rfl

/-- A comment starts in the key, or behind the colon as if the key were not there. -/
theorem stripCommentChars_colon (key rest : List Char) :
    (∃ before tail, key = before ++ '#' :: tail ∧
      stripCommentChars (key ++ ':' :: rest) = trimEnd before) ∨
    stripCommentChars (key ++ ':' :: rest) = key ++ ':' :: stripCommentChars rest := by
  rcases beforeComment?_colon key rest with ⟨before, tail, hkey, hbefore⟩ | hnone
  · left
    exact ⟨before, tail, hkey, by rw [stripCommentChars, hbefore]⟩
  · right
    rw [stripCommentChars, stripCommentChars, hnone]
    cases beforeComment? rest with
    | none => rfl
    | some before => exact trimEnd_append_cons key (by decide) before

theorem trim_colon (key rest : List Char) :
    trim (key ++ ':' :: rest) = trimStart key ++ ':' :: trimEnd rest := by
  have hstart : trimStart (key ++ ':' :: rest) = trimStart key ++ ':' :: rest := by
    by_cases hblank : ∀ c ∈ key, isBlank c
    · rw [trimStart_of_blank hblank]
      have hnil : trimStart key = [] := by rw [trimStart, List.dropWhile_eq_nil_iff]; exact hblank
      rw [hnil]
      rfl
    · exact trimStart_append (by simpa using hblank) _
  rw [trim, hstart, trimEnd_append_cons _ (by decide)]

/-- A line is cut at its first colon. -/
theorem parse?_colon {key : List Char} (hcolon : ':' ∉ key) (hne : trim key ≠ [])
    (value : List Char) :
    MetaEntry.parse? (String.ofList (key ++ ':' :: value)) =
      some ⟨String.ofList (trim key), String.ofList (trim value)⟩ := by
  rw [MetaEntry.parse?, String.toList_ofList, cut?_append hcolon]
  dsimp only
  split
  · contradiction
  · rfl

def Line.headEntry (l : Line) : Option MetaEntry := l.code.bind MetaEntry.parse?

/-- Two lines are entries under a known key that are read alike. -/
def EntriesAlike (l l' : Line) : Prop :=
  ∃ e e', l.headEntry = some e ∧ l'.headEntry = some e' ∧ e.isKnown ∧ e'.isKnown ∧
    e.reading = e'.reading

theorem trim_ne_nil_of_isKnownKey {key : List Char} (h : IsKnownKey key) : trim key ≠ [] := by
  intro hnil
  rw [IsKnownKey, ← compact_trim, hnil] at h
  revert h
  decide +kernel

/-- The entry of a line whose code has a colon. -/
theorem headEntry_of_code {key rest code : List Char} (number : Nat)
    (hcode : codeOf? (trim (key ++ ':' :: rest)) = some code) (hcolon : ':' ∈ code)
    (hkey : ':' ∉ key) (hne : trim key ≠ []) :
    (Line.ofSource number (key ++ ':' :: rest)).headEntry =
      some ⟨String.ofList (trim key), String.ofList (trim (stripCommentChars (trimEnd rest)))⟩ := by
  have hstart : ':' ∉ trimStart key := fun h => hkey ((List.dropWhile_suffix _).subset h)
  have htrim : trim (trimStart key) = trim key := by
    rw [trim, trim, trimStart, trimStart, List.dropWhile_idempotent]
  have hline : trim (key ++ ':' :: rest) ≠ [] := by simp [trim_colon]
  have hstrip : code = trimStart key ++ ':' :: stripCommentChars (trimEnd rest) := by
    rw [codeOf?_trim hline] at hcode
    split at hcode
    · cases hcode
    · obtain rfl := Option.some.inj hcode
      rw [trim_colon] at hcolon ⊢
      rcases stripCommentChars_colon (trimStart key) (trimEnd rest) with ⟨before, tail, hk, hb⟩ | h
      · rw [hb] at hcolon
        obtain ⟨gap, -, hbefore⟩ := exists_trimEnd_append before
        have hmem : ':' ∈ before := by
          rw [hbefore]
          exact List.mem_append_left gap hcolon
        exact absurd (hk ▸ List.mem_append_left _ hmem) hstart
      · exact h
  rw [Line.headEntry, Line.code_ofSource number hline, hcode, hstrip, Option.map_some,
    Option.bind_some, parse?_colon hstart (by rwa [htrim]), htrim]

/-- A key without comment marks that does not start like a header makes a line with code. -/
theorem code_of_key {key r : List Char} {c : Char} (hstart : trimStart key = c :: r) (hc : c ≠ '[')
    (hfree : '#' ∉ c :: r) (rest : List Char) :
    IsText (key ++ ':' :: rest) ∧
      ∃ code, codeOf? (trim (key ++ ':' :: rest)) = some code ∧ ':' ∈ code := by
  have htrim : trim (key ++ ':' :: rest) = c :: (r ++ ':' :: trimEnd rest) := by
    rw [trim_colon, hstart, List.cons_append]
  have hline : trim (key ++ ':' :: rest) ≠ [] := by rw [htrim]; exact List.cons_ne_nil c _
  have hstrip : stripCommentChars (trim (key ++ ':' :: rest)) =
      c :: (r ++ ':' :: stripCommentChars (trimEnd rest)) := by
    rw [trim_colon, hstart]
    rcases stripCommentChars_colon (c :: r) (trimEnd rest) with ⟨before, tail, hkey, -⟩ | h
    · exact absurd (by simp [hkey]) hfree
    · exact h
  have hhash : (trim (key ++ ':' :: rest)).head? ≠ some '#' := by
    rw [htrim]
    intro heq
    exact hfree (by simp [Option.some.inj heq])
  refine ⟨⟨hline, ?_⟩, _, by rw [codeOf?_trim hline, if_neg hhash], ?_⟩
  · rintro name ⟨inner, hinner, -⟩
    rw [hstrip] at hinner
    exact hc (List.cons.inj hinner).1
  · rw [hstrip]
    simp

/-- A line that starts with a spelling and a colon is a text, and its code still has the colon. -/
theorem IsSpelling.code {left spelled right : List Char} (h : IsSpelling spelled)
    (hleft : ∀ c ∈ left, isBlank c) (hright : ∀ c ∈ right, isBlank c) (rest : List Char) :
    IsText (left ++ spelled ++ right ++ ':' :: rest) ∧
      ∃ code, codeOf? (trim (left ++ spelled ++ right ++ ':' :: rest)) = some code ∧
        ':' ∈ code := by
  obtain ⟨c, r, rfl, hletter⟩ := h.exists_cons
  have hne (d : Char) (hd : isLetter d = false) : c ≠ d := by
    rintro rfl
    rw [hd] at hletter
    cases hletter
  have hblank : ¬ isBlank c := fun hc => hne c (not_isLetter_of_blank hc) rfl
  have hstart : trimStart (left ++ (c :: r) ++ right) = c :: (r ++ right) := by
    rw [List.append_assoc, trimStart_of_blank hleft]
    exact List.dropWhile_cons_of_neg hblank
  refine code_of_key hstart (hne '[' (by decide +kernel)) ?_ rest
  rw [← List.cons_append, List.mem_append]
  rintro (hmem | hmem)
  · exact h.notMem (by decide +kernel) (by decide) hmem
  · exact ne_hash_of_blank (hright _ hmem) rfl

/-- With another spelling of its key a line is still an entry, and is read alike. -/
theorem Respelled.entriesAlike {line line' : List Char} (h : Respelled line line') (number : Nat) :
    IsText line ∧ IsText line' ∧
      EntriesAlike (.ofSource number line) (.ofSource number line') := by
  obtain ⟨htext, hkey, hcode, hcolon, hknown, hspelled, hleft, hright, hcompact⟩ := h
  rename_i key left spelled right rest code
  obtain ⟨htext', code', hcode', hcolon'⟩ := hspelled.code hleft hright rest
  have hkey' : ':' ∉ left ++ spelled ++ right := by
    have hblank : ¬ isBlank ':' := by decide
    simp only [List.mem_append, not_or]
    exact ⟨⟨fun h => hblank (hleft _ h), hspelled.notMem (by decide +kernel) (by decide)⟩,
      fun h => hblank (hright _ h)⟩
  have hknown' : IsKnownKey spelled := by rwa [IsKnownKey, hcompact]
  have htrim : trim (left ++ spelled ++ right) = trim spelled := trim_margins hleft hright
  have hentry := headEntry_of_code number hcode hcolon hkey (trim_ne_nil_of_isKnownKey hknown)
  have hentry' := headEntry_of_code number hcode' hcolon' hkey'
    (by rw [htrim]; exact trim_ne_nil_of_isKnownKey hknown')
  rw [htrim] at hentry'
  refine ⟨htext, htext', _, _, hentry, hentry', ?_, ?_, ?_⟩
  · rwa [MetaEntry.isKnown, compact_trim, List.contains_iff_mem]
  · rwa [MetaEntry.isKnown, compact_trim, List.contains_iff_mem]
  · rw [MetaEntry.reading, MetaEntry.reading, compact_trim, compact_trim, hcompact]

/-! ### Texts with a key spelled in another way -/

/-- One key is spelled in another way. -/
theorem sameButSpelling_of_line {text text' : String} {before after : List (List Char)}
    {line line' : List Char} (hlines : linesOf text = before ++ line :: after)
    (hlines' : linesOf text' = before ++ line' :: after)
    (hkey : KeyAt (before ++ line :: after) before.length metaKey) (h : Respelled line line') :
    SameButSpelling text text' := by
  refine ⟨by rw [hlines, hlines']; simp, fun i l l' hl hl' => ?_⟩
  rw [hlines] at hl
  rw [hlines'] at hl'
  rcases Nat.lt_trichotomy i before.length with hlt | rfl | hgt
  · rw [List.getElem?_append_left hlt] at hl hl'
    exact .inl (Option.some.inj (hl.symm.trans hl'))
  · obtain rfl : line = l := by simpa using hl
    obtain rfl : line' = l' := by simpa using hl'
    exact .inr ⟨hlines ▸ hkey, h⟩
  · obtain ⟨k, rfl⟩ := Nat.exists_eq_add_of_lt hgt
    rw [List.getElem?_append_right (by omega), Nat.add_assoc, Nat.add_sub_cancel_left,
      List.getElem?_cons_succ] at hl hl'
    exact .inl (Option.some.inj (hl.symm.trans hl'))

/-- `SameButSpelling` line by line, for lines that stand under a key. -/
inductive RespelledBelow : String → List (List Char) → List (List Char) → Prop where
  | nil (current : String) : RespelledBelow current [] []
  | same {current : String} {line : List Char} {lines lines' : List (List Char)}
      (h : RespelledBelow (keyAfter current (itemsOfLines [line])) lines lines') :
    RespelledBelow current (line :: lines) (line :: lines')
  | respelled {line line' : List Char} {lines lines' : List (List Char)}
      (hline : Respelled line line') (h : RespelledBelow metaKey lines lines') :
    RespelledBelow metaKey (line :: lines) (line' :: lines')

/-- Texts of equally many lines, of which those in the head differ by spelling, are respelled line
by line. -/
theorem respelledBelow_of_lines {current : String} {lines lines' : List (List Char)}
    (hlength : lines.length = lines'.length)
    (hlines : ∀ i line line', lines[i]? = some line → lines'[i]? = some line' →
      line = line' ∨
        keyAfter current (itemsOfLines (lines.take i)) = metaKey ∧ Respelled line line') :
    RespelledBelow current lines lines' := by
  induction lines generalizing current lines' with
  | nil =>
    obtain rfl := List.length_eq_zero_iff.mp hlength.symm
    exact .nil current
  | cons line rest ih =>
    obtain ⟨line', rest', rfl⟩ := List.exists_cons_of_length_eq_add_one hlength.symm
    have hrest : RespelledBelow (keyAfter current (itemsOfLines [line])) rest rest' := by
      apply ih (by simpa using hlength)
      intro i l l' hl hl'
      rw [← keyAfter_append, ← itemsOfLines_append]
      exact hlines (i + 1) l l' hl hl'
    rcases hlines 0 line line' rfl rfl with rfl | ⟨hkey, hline⟩
    · exact .same hrest
    · obtain rfl : current = metaKey := hkey
      refine .respelled hline ?_
      rw [itemsOfLines_cons (Item.of?_of_isText 0 (hline.entriesAlike 0).1)] at hrest
      exact hrest

theorem SameButSpelling.respelledBelow {text text' : String} (h : SameButSpelling text text') :
    RespelledBelow metaKey (linesOf text) (linesOf text') := by
  refine respelledBelow_of_lines h.length fun i line line' hline hline' => ?_
  have hkey := (@keyAt_iff (linesOf text) i metaKey).mp
  exact (h.lines i line line' hline hline').imp_right fun ⟨hat, hr⟩ => ⟨hkey hat, hr⟩

/-- Headers are left alone. -/
theorem RespelledBelow.addTitles_itemsFrom {current : String} {lines lines' : List (List Char)}
    (h : RespelledBelow current lines lines') (number : Nat) (found : List (String × String)) :
    addTitles found (itemsFrom number lines) = addTitles found (itemsFrom number lines') := by
  induction h generalizing number found with
  | nil _ => rfl
  | same _ ih => rw [itemsFrom_cons, itemsFrom_cons, addTitles_append, addTitles_append, ih]
  | respelled hline _ ih =>
    obtain ⟨htext, htext', -⟩ := hline.entriesAlike number
    rw [itemsFrom_cons, itemsFrom_cons, Item.of?_of_isText number htext,
      Item.of?_of_isText number htext']
    exact ih (number + 1) found

/-- Lines under the same key are the same, or are entries of the head that are read alike. -/
def KeyedAlike (p p' : String × Line) : Prop :=
  p = p' ∨ p.1 = metaKey ∧ p'.1 = metaKey ∧ EntriesAlike p.2 p'.2

/-- Respelled lines stand under the same keys and are read alike there. -/
theorem RespelledBelow.keyedAlike {current : String} {lines lines' : List (List Char)}
    (h : RespelledBelow current lines lines') (number : Nat) :
    List.Forall₂ KeyedAlike (keyedLines current (itemsFrom number lines))
      (keyedLines current (itemsFrom number lines')) := by
  induction h generalizing number with
  | nil _ => exact .nil
  | @same current line lines lines' _ ih =>
    have hself (ps : List (String × Line)) : List.Forall₂ KeyedAlike ps ps :=
      List.forall₂_same.mpr fun p _ => .inl rfl
    have hkey : keyAfter current (itemsOfLines [line]) =
        keyAfter current (Item.of? number line).toList := by
      rcases blank_or_header_or_text line with hblank | ⟨name, hname⟩ | htext
      · simp [itemsOfLines, Item.of?_of_blank _ hblank]
      · simp [itemsOfLines, Item.of?_of_isHeader _ hname]
      · simp [itemsOfLines, Item.of?_of_isText _ htext]
    rw [itemsFrom_cons, itemsFrom_cons, keyedLines_append, keyedLines_append, ← hkey]
    exact List.rel_append (hself _) (ih (number + 1))
  | respelled hline _ ih =>
    obtain ⟨htext, htext', halike⟩ := hline.entriesAlike number
    rw [itemsFrom_cons, itemsFrom_cons, Item.of?_of_isText number htext,
      Item.of?_of_isText number htext']
    exact .cons (.inr ⟨rfl, rfl, halike⟩) (ih (number + 1))

/-! ### Main result -/

/-- Outside the head nothing is respelled. -/
theorem linesUnder_of_keyedAlike {items items' : List Item}
    (h : List.Forall₂ KeyedAlike (keyedLines metaKey items) (keyedLines metaKey items'))
    {key : String} (hne : key ≠ metaKey) : linesUnder key items = linesUnder key items' := by
  rw [linesUnder, linesUnder]
  generalize keyedLines metaKey items = ps, keyedLines metaKey items' = ps' at h
  induction h with
  | nil => rfl
  | @cons p p' _ _ hp _ ih =>
    rcases hp with rfl | ⟨hkey, hkey', -⟩
    · by_cases hp : p.1 = key <;> simp [hp, ih]
    · simpa [hkey, hkey', hne.symm] using ih

/-- Respelled lines make heads that are alike. -/
theorem headsAlike_of_keyedAlike {items items' : List Item}
    (h : List.Forall₂ KeyedAlike (keyedLines metaKey items) (keyedLines metaKey items')) :
    MetaTable.HeadsAlike ⟨(linesUnder metaKey items).filterMap Line.headEntry⟩
      ⟨(linesUnder metaKey items').filterMap Line.headEntry⟩ := by
  rw [linesUnder, linesUnder]
  generalize keyedLines metaKey items = ps, keyedLines metaKey items' = ps' at h
  induction h with
  | nil => exact ⟨rfl, rfl⟩
  | @cons p p' _ _ hp _ ih =>
    rcases hp with rfl | ⟨hkey, hkey', e, e', he, he', hknown, hknown', hreading⟩
    · by_cases hp : p.1 = metaKey
      · cases hentry : p.2.headEntry with
        | none => simpa [hp, hentry] using ih
        | some e => simpa [hp, hentry] using ih.cons (.inl rfl)
      · simpa [hp] using ih
    · simpa [hkey, hkey', he, he'] using ih.cons (.inr ⟨hknown, hknown', hreading⟩)

theorem headOf_eq_entries (text : String) :
    headOf text = ⟨(linesUnder metaKey (itemsOf text)).filterMap Line.headEntry⟩ := by
  rw [headOf_eq_itemsOf, List.filterMap_filterMap]
  rfl

/-- How the known keys of the head are spelled does not matter. -/
theorem compile_of_sameButSpelling {text text' : String} (h : SameButSpelling text text')
    (options : CompileOptions) : compile text options = compile text' options := by
  have hbelow := h.respelledBelow
  have hkeyed := hbelow.keyedAlike 1
  apply compile_of_headsAlike
  · rw [headOf_eq_entries, headOf_eq_entries]
    exact headsAlike_of_keyedAlike hkeyed
  · intro key hne
    exact linesUnder_of_keyedAlike hkeyed hne
  · exact hbelow.addTitles_itemsFrom 1 _

def hallLines : List String :=
  ["id: hall", "Door Out: 1x0 # south", "Owner: nobody", "[Layer]", ". ."]

def respelledHallLines : List String :=
  ["id: hall", "  door_OUT : 1x0 # south", "Owner: nobody", "[Layer]", ". ."]

theorem compile_of_sameButSpelling_hall :
    SameButSpelling (textOf hallLines) (textOf respelledHallLines) ∧
      compile (textOf hallLines) .default = compile (textOf respelledHallLines) .default := by
  have hkey : KeyAt (hallLines.map String.toList) 1 metaKey :=
    keyAt_iff.mpr (by decide +kernel)
  have hdoor : Respelled "Door Out: 1x0 # south".toList "  door_OUT : 1x0 # south".toList := by
    have hwords : IsSpelling "Door Out".toList := by decide +kernel
    have hunderscore : IsSpelling "door_OUT".toList := by decide +kernel
    obtain ⟨htext, code, hcode, hcolon⟩ :=
      @IsSpelling.code [] _ [] hwords (by simp) (by simp) " 1x0 # south".toList
    have hknown : IsKnownKey "Door Out".toList := by
      rw [IsKnownKey]
      decide +kernel
    exact @Respelled.intro _ "  ".toList _ " ".toList _ code htext (by decide) hcode hcolon hknown
      hunderscore (List.all_eq_true.mp (by decide)) (List.all_eq_true.mp (by decide))
      (by decide +kernel)
  have h : SameButSpelling (textOf hallLines) (textOf respelledHallLines) :=
    @sameButSpelling_of_line _ _ ["id: hall".toList]
      ["Owner: nobody".toList, "[Layer]".toList, ". .".toList] _ _
      (linesOf_textOf (by decide) (by decide)) (linesOf_textOf (by decide) (by decide)) hkey hdoor
  exact ⟨h, compile_of_sameButSpelling h .default⟩

end Tilemap
