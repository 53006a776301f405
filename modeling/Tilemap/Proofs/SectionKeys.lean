import Mathlib
import Tilemap.Proofs.Text.Runs

/-!
# Keys of sections

A section is named by the words in its header: the runs of small Latin letters and digits once the
header is put into small letters, or the word `meta` if there are none. The key of the header is
these words with `_` between them, and a text of this form is its own key. So the key is a canonical
form of the header (`sectionKey_canonical`): two headers have the same key exactly if their words
agree.
-/

namespace Tilemap

open Text

/-! ### Statement -/

/-- A small Latin letter or a digit. -/
def isKeyChar (c : Char) : Bool := c.isLower || c.isDigit

/-- Small Latin letters and digits, at least one. -/
def IsKeyWord (word : List Char) : Prop := word ≠ [] ∧ ∀ c ∈ word, isKeyChar c

/-- Words with one `_` between any two of them, at least one word. -/
def IsSectionKey (key : String) : Prop :=
  ∃ words, words ≠ [] ∧ (∀ word ∈ words, IsKeyWord word) ∧ key.toList = ['_'].intercalate words

/-- The words by which a header names its section. -/
inductive NamedBy (name : String) : List (List Char) → Prop where
  | words {word : List Char} {words : List (List Char)}
      (h : HasRuns isKeyChar (name.toList.flatMap lowerChar) (word :: words)) :
    NamedBy name (word :: words)
  /-- A header without a word names the section of the head. -/
  | head (h : HasRuns isKeyChar (name.toList.flatMap lowerChar) []) : NamedBy name [metaKey.toList]

/-! ### Characters -/

theorem toNat_lt_of_isKeyChar {c : Char} (h : isKeyChar c) : c.toNat < 0x80 := by
  simp only [isKeyChar, Char.isLower, Char.isDigit, Bool.or_eq_true, Bool.and_eq_true,
    decide_eq_true_eq, UInt32.le_iff_toNat_le, ge_iff_le, Char.toNat_val] at h
  have hz : 'z'.toNat = 122 := rfl
  have hnine : '9'.toNat = 57 := rfl
  omega

/-- What stands in a key is in small letters. -/
theorem lowerChar_of_isKeyChar {c : Char} (h : isKeyChar c) : lowerChar c = [c] := by
  have hall : ∀ n < 0x80, isKeyChar (Char.ofNat n) →
      lowerChar (Char.ofNat n) = [Char.ofNat n] := by decide
  have hself := hall c.toNat (toNat_lt_of_isKeyChar h)
  rw [Char.ofNat_toNat] at hself
  exact hself h

theorem not_isKeyChar_underscore : ¬ isKeyChar '_' := by decide

/-- Words are found again in the text that they make. -/
theorem runsOf_intercalate {words : List (List Char)} (h : ∀ word ∈ words, IsKeyWord word) :
    runsOf isKeyChar (['_'].intercalate words) = words := by
  induction words with
  | nil => rfl
  | cons word words ih =>
    obtain ⟨⟨hne, hchars⟩, hwords⟩ := List.forall_mem_cons.mp h
    cases words with
    | nil =>
      rw [List.intercalate_singleton]
      exact runsOf_of_pos hne hchars
    | cons next words =>
      have hstop : ∀ c ∈ (['_'] ++ ['_'].intercalate (next :: words)).head?, ¬ isKeyChar c := by
        simpa using not_isKeyChar_underscore
      rw [List.intercalate_cons_cons, List.append_assoc, runsOf_run_append hne hchars hstop,
        List.singleton_append, runsOf_cons_of_neg not_isKeyChar_underscore, ih hwords]

theorem flatMap_lowerChar_of_isKeyWord {word : List Char} (h : IsKeyWord word) :
    word.flatMap lowerChar = word := by
  calc word.flatMap lowerChar
      = (word.map fun c => [c]).flatten := by
        rw [List.flatMap_def, List.map_congr_left fun c hc => lowerChar_of_isKeyChar (h.2 c hc)]
    _ = word := List.flatMap_singleton' word

/-- The text that words make is in small letters. -/
theorem flatMap_lowerChar_intercalate {words : List (List Char)}
    (h : ∀ word ∈ words, IsKeyWord word) :
    (['_'].intercalate words).flatMap lowerChar = ['_'].intercalate words := by
  induction words with
  | nil => rfl
  | cons word words ih =>
    obtain ⟨hword, hwords⟩ := List.forall_mem_cons.mp h
    cases words with
    | nil => rw [List.intercalate_singleton, flatMap_lowerChar_of_isKeyWord hword]
    | cons next words =>
      have hunderscore : ['_'].flatMap lowerChar = ['_'] := by decide
      rw [List.intercalate_cons_cons, List.flatMap_append, List.flatMap_append, ih hwords,
        flatMap_lowerChar_of_isKeyWord hword, hunderscore]

/-! ### Names -/

theorem isKeyWord_metaKey : IsKeyWord metaKey.toList :=
  ⟨by decide, List.all_eq_true.mp (by decide)⟩

theorem sectionKey_eq (name : String) :
    sectionKey name = match runsOf isKeyChar (name.toList.flatMap lowerChar) with
      | [] => metaKey
      | words => String.ofList (['_'].intercalate words) :=
  rfl

namespace NamedBy

variable {name : String} {words : List (List Char)}

theorem exists_namedBy (name : String) : ∃ words, NamedBy name words := by
  have hruns := hasRuns_runsOf isKeyChar (name.toList.flatMap lowerChar)
  cases hwords : runsOf isKeyChar (name.toList.flatMap lowerChar) with
  | nil => exact ⟨_, .head (hwords ▸ hruns)⟩
  | cons word words => exact ⟨_, .words (hwords ▸ hruns)⟩

theorem ne_nil (h : NamedBy name words) : words ≠ [] := by
  cases h <;> exact List.cons_ne_nil _ _

theorem isKeyWord (h : NamedBy name words) : ∀ word ∈ words, IsKeyWord word := by
  cases h with
  | words h => exact fun word hword => h.mem hword
  | head => exact List.forall_mem_singleton.mpr isKeyWord_metaKey

/-- A header has one list of words, which make its key. -/
theorem toList_sectionKey (h : NamedBy name words) :
    (sectionKey name).toList = ['_'].intercalate words := by
  cases h with
  | words h => rw [sectionKey_eq, hasRuns_iff.mp h, String.toList_ofList]
  | head h => rw [sectionKey_eq, hasRuns_iff.mp h, List.intercalate_singleton]

/-- The words of a key name the section with the key. -/
theorem ofList_intercalate (hne : words ≠ []) (h : ∀ word ∈ words, IsKeyWord word) :
    NamedBy (String.ofList (['_'].intercalate words)) words := by
  obtain ⟨word, rest, rfl⟩ := List.exists_cons_of_ne_nil hne
  refine .words (hasRuns_iff.mpr ?_)
  rw [String.toList_ofList, flatMap_lowerChar_intercalate h, runsOf_intercalate h]

end NamedBy

/-! ### Main result -/

theorem isSectionKey_sectionKey (name : String) : IsSectionKey (sectionKey name) := by
  obtain ⟨words, h⟩ := NamedBy.exists_namedBy name
  exact ⟨words, h.ne_nil, h.isKeyWord, h.toList_sectionKey⟩

theorem sectionKey_of_isSectionKey {key : String} (h : IsSectionKey key) :
    sectionKey key = key := by
  obtain ⟨words, hne, hwords, hkey⟩ := h
  have hnamed := NamedBy.ofList_intercalate hne hwords
  rw [← hkey, String.ofList_toList] at hnamed
  apply String.toList_inj.mp
  rw [hnamed.toList_sectionKey, hkey]

theorem sectionKey_eq_iff {a b : String} :
    sectionKey a = sectionKey b ↔ ∃ words, NamedBy a words ∧ NamedBy b words := by
  constructor
  · intro h
    obtain ⟨words, ha⟩ := NamedBy.exists_namedBy a
    obtain ⟨words', hb⟩ := NamedBy.exists_namedBy b
    have hjoined : ['_'].intercalate words = ['_'].intercalate words' := by
      rw [← ha.toList_sectionKey, ← hb.toList_sectionKey, h]
    have hwords : words = words' := by
      rw [← runsOf_intercalate ha.isKeyWord, hjoined, runsOf_intercalate hb.isKeyWord]
    exact ⟨words, ha, hwords ▸ hb⟩
  · rintro ⟨words, ha, hb⟩
    apply String.toList_inj.mp
    rw [ha.toList_sectionKey, hb.toList_sectionKey]

/-- The key of a section is a canonical form of its header: words joined by `_`, which are their own
key, and the same for two headers exactly if their words agree. -/
theorem sectionKey_canonical :
    (∀ name, IsSectionKey (sectionKey name)) ∧
    (∀ key, sectionKey key = key ↔ IsSectionKey key) ∧
    (∀ name, sectionKey (sectionKey name) = sectionKey name) ∧
    ∀ a b, sectionKey a = sectionKey b ↔ ∃ words, NamedBy a words ∧ NamedBy b words := by
  refine ⟨isSectionKey_sectionKey, fun key => ⟨fun h => ?_, sectionKey_of_isSectionKey⟩,
    fun name => ?_, fun a b => sectionKey_eq_iff⟩
  · rw [← h]
    exact isSectionKey_sectionKey key
  · exact sectionKey_of_isSectionKey (isSectionKey_sectionKey name)

example : sectionKey "Layer #2 (top)" = sectionKey "  LAYER-2__top" := by decide +kernel

end Tilemap
