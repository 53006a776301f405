import Tilemap.Proofs.CamelCase
import Tilemap.Proofs.Text.Runs

/-!
# Camel case of camel case

The camel case of a key is one word. It stays as it is when it is put into camel case again, unless
it has capitals but no small letter: such a word is put into small letters like `BIOME`. This is how
a key comes out that starts with a number and goes on with words of which only the first letter is
kept small, as in `3 d` (`camel_camel_iff`).
-/

namespace Tilemap.Key

open Text

/-! ### Statement -/

/-- Behind its first character the word has no letter that camel case leaves or makes small:
capitals stay there only if the first letter is small. -/
def ShowsNoSmall (word : List Char) : Prop :=
  (∀ c ∈ word.tail, ¬ c.isLower) ∧
    ((∃ c ∈ word.head?, c.isLower) ∨ ∀ c ∈ word.tail, ¬ c.isUpper)

/-- The words of a key whose camel case has capitals but no small letter. -/
inductive LosesCapitals : List (List Char) → Prop where
  | intro {number : List Char} {words : List (List Char)} (hnumber : ∀ c ∈ number, c.isDigit)
      (hwords : ∀ word ∈ words, ShowsNoSmall word)
      (hletter : ∃ word ∈ words, ∃ c ∈ word.head?, c.isAlpha) : LosesCapitals (number :: words)

/-! ### One word -/

/-- The words of a key in camel case. -/
def joinCamel : List (List Char) → List Char
  | [] => []
  | first :: rest =>
    mapHead Char.toLower (calm first) ++ rest.flatMap fun word => mapHead Char.toUpper (calm word)

theorem toList_camel (key : String) :
    (camel key).toList = joinCamel (runsOf Char.isAlphanum key.toList) := by
  have hwords : runsOf Char.isAlphanum key.toList = keyWords key.toList := rfl
  rw [camel, String.toList_ofList, hwords]
  cases keyWords key.toList with
  | nil => rfl
  | cons first rest => simp [joinCamel, List.flatMap_map]

theorem mem_mapHead {f : Char → Char} {word : List Char} {c : Char} :
    c ∈ mapHead f word ↔ (∃ d ∈ word.head?, c = f d) ∨ c ∈ word.tail := by
  cases word <;> simp [mapHead]

theorem calm_of_isLower {word : List Char} (h : ∃ c ∈ word, c.isLower) : calm word = word := by
  obtain ⟨c, hc, hlower⟩ := h
  rw [calm, if_neg]
  intro hall
  simpa [hlower] using List.all_eq_true.mp hall c hc

theorem calm_of_not_isLower {word : List Char} (h : ∀ c ∈ word, ¬ c.isLower) :
    calm word = asciiLower word := by
  rw [calm, if_pos]
  simpa using h

theorem calm_ne_nil {word : List Char} (h : word ≠ []) : calm word ≠ [] := by
  rw [calm]
  split
  · simpa [asciiLower] using h
  · exact h

theorem not_isUpper_of_mem_asciiLower {s : List Char} {c : Char} (hc : c ∈ asciiLower s) :
    ¬ c.isUpper := by
  obtain ⟨d, -, rfl⟩ := List.mem_map.mp hc
  simp

theorem asciiLower_eq_self_iff {s : List Char} : asciiLower s = s ↔ ∀ c ∈ s, ¬ c.isUpper := by
  constructor
  · intro h c hc
    exact not_isUpper_of_mem_asciiLower (h.symm ▸ hc)
  · intro h
    conv_rhs => rw [← List.map_id s]
    exact List.map_congr_left fun c hc => Char.toLower_eq_of_not_isUpper (h c hc)

theorem mapHead_toLower_eq_self {s : List Char} (h : ∀ c ∈ s.head?, ¬ c.isUpper) :
    mapHead Char.toLower s = s := by
  cases s with
  | nil => rfl
  | cons c s => rw [mapHead, Char.toLower_eq_of_not_isUpper (h c rfl)]

theorem mapHead_toLower_asciiLower (s : List Char) :
    mapHead Char.toLower (asciiLower s) = asciiLower s :=
  mapHead_toLower_eq_self fun _ hc =>
    not_isUpper_of_mem_asciiLower (List.mem_of_mem_head? hc)

/-! ### Camel case as a word -/

theorem isAlphanum_of_mem_camel {key : String} {c : Char} (hc : c ∈ (camel key).toList) :
    c.isAlphanum := by
  have hlower : c.toLower ∈ asciiLower (camel key).toList := List.mem_map_of_mem hc
  rw [asciiLower_camel] at hlower
  obtain ⟨d, hd, heq⟩ := List.mem_map.mp hlower
  rw [← isAlphanum_toLower, ← heq, isAlphanum_toLower]
  exact (List.mem_filter.mp hd).2

theorem not_isUpper_of_head?_camel {key : String} :
    ∀ c ∈ (camel key).toList.head?, ¬ c.isUpper := by
  have hruns := hasRuns_runsOf Char.isAlphanum key.toList
  rw [toList_camel]
  cases hwords : runsOf Char.isAlphanum key.toList with
  | nil => exact nofun
  | cons first rest =>
    rw [hwords] at hruns
    obtain ⟨d, r, hcalm⟩ :=
      List.exists_cons_of_ne_nil (calm_ne_nil (hruns.mem List.mem_cons_self).1)
    simp [joinCamel, hcalm, mapHead]

/-- The camel case of a key is one word. -/
theorem toList_camel_camel (key : String) :
    (camel (camel key)).toList = mapHead Char.toLower (calm (camel key).toList) := by
  rw [toList_camel (camel key)]
  by_cases hnil : (camel key).toList = []
  · rw [hnil]
    rfl
  · rw [runsOf_of_pos hnil fun _ => isAlphanum_of_mem_camel]
    simp [joinCamel]

/-- Camel case changes its own result only if this has capitals but no small letter. -/
theorem camel_camel_eq_self_iff {key : String} : camel (camel key) = camel key ↔
    ((∀ c ∈ (camel key).toList, ¬ c.isLower) → ∀ c ∈ (camel key).toList, ¬ c.isUpper) := by
  rw [← String.toList_inj, toList_camel_camel]
  by_cases h : ∀ c ∈ (camel key).toList, ¬ c.isLower
  · rw [calm_of_not_isLower h, mapHead_toLower_asciiLower, asciiLower_eq_self_iff]
    exact ⟨fun hupper _ => hupper, fun hupper => hupper h⟩
  · have hlower : ∃ c ∈ (camel key).toList, c.isLower := by simpa using h
    rw [calm_of_isLower hlower, mapHead_toLower_eq_self not_isUpper_of_head?_camel]
    exact iff_of_true rfl fun hnone => absurd hnone h

/-! ### Letters of the words -/

theorem isAlpha_of_isLower {c : Char} (h : c.isLower) : c.isAlpha := by simp [Char.isAlpha, h]

theorem isAlpha_of_isUpper {c : Char} (h : c.isUpper) : c.isAlpha := by simp [Char.isAlpha, h]

theorem not_isAlpha_of_isDigit {c : Char} (h : c.isDigit) : ¬ c.isAlpha := by
  simp only [Char.isDigit, Char.isAlpha, Char.isUpper, Char.isLower, Bool.or_eq_true,
    Bool.and_eq_true, decide_eq_true_eq, UInt32.le_iff_toNat_le, ge_iff_le, Char.toNat_val] at h ⊢
  have hnine : '9'.toNat = 57 := rfl
  have ha : 'a'.toNat = 97 := rfl
  have hA : 'A'.toNat = 65 := rfl
  omega

theorem exists_isLower_asciiLower_iff {s : List Char} :
    (∃ c ∈ asciiLower s, c.isLower) ↔ ∃ c ∈ s, c.isAlpha := by
  simp [asciiLower]

/-- The first word has a small letter if it has letters. -/
theorem exists_isLower_first_iff {word : List Char} :
    (∃ c ∈ mapHead Char.toLower (calm word), c.isLower) ↔ ∃ c ∈ word, c.isAlpha := by
  by_cases h : ∃ c ∈ word, c.isLower
  · obtain ⟨c, hc, hlower⟩ := h
    refine iff_of_true ⟨c, ?_, hlower⟩ ⟨c, hc, isAlpha_of_isLower hlower⟩
    have hkept : c.toLower = c :=
      Char.toLower_eq_of_not_isUpper (Char.not_isUpper_of_isLower hlower)
    rw [calm_of_isLower ⟨c, hc, hlower⟩, mem_mapHead]
    cases word with
    | nil => simp at hc
    | cons d rest => exact (List.mem_cons.mp hc).imp (fun heq => ⟨d, rfl, by rw [← heq, hkept]⟩) id
  · have hnone : ∀ c ∈ word, ¬ c.isLower := by simpa using h
    rw [calm_of_not_isLower hnone, mapHead_toLower_asciiLower, exists_isLower_asciiLower_iff]

theorem forall_not_isLower_first_iff {word : List Char} :
    (∀ c ∈ mapHead Char.toLower (calm word), ¬ c.isLower) ↔ ∀ c ∈ word, ¬ c.isAlpha := by
  have h := not_congr (@exists_isLower_first_iff word)
  push Not at h
  exact h

/-- The first word has no capital if it has no letters. -/
theorem not_isUpper_first {word : List Char} (h : ∀ c ∈ word, ¬ c.isAlpha) :
    ∀ c ∈ mapHead Char.toLower (calm word), ¬ c.isUpper := by
  intro c hc hupper
  have hlower : c.toLower ∈ asciiLower (mapHead Char.toLower (calm word)) := List.mem_map_of_mem hc
  rw [asciiLower_mapHead Char.toLower_toLower_eq_toLower, asciiLower_calm] at hlower
  obtain ⟨d, hd, heq⟩ := List.mem_map.mp hlower
  apply h d hd
  rw [← Char.isAlpha_toLower_eq_isAlpha, heq, Char.isAlpha_toLower_eq_isAlpha]
  exact isAlpha_of_isUpper hupper

theorem tail_asciiLower (s : List Char) : (asciiLower s).tail = asciiLower s.tail :=
  List.map_tail.symm

/-- A word keeps its first letter, or has it made small. -/
theorem head?_calm (word : List Char) :
    (calm word).head? = word.head? ∨ (calm word).head? = word.head?.map Char.toLower := by
  rw [calm]
  split
  · exact .inr List.head?_map
  · exact .inl rfl

/-- Another word starts with a capital, so a small letter stands behind its first character. -/
theorem exists_isLower_next_iff {word : List Char} :
    (∃ c ∈ mapHead Char.toUpper (calm word), c.isLower) ↔ ¬ ShowsNoSmall word := by
  have hbehind : (∃ c ∈ mapHead Char.toUpper (calm word), c.isLower) ↔
      ∃ c ∈ (calm word).tail, c.isLower := by
    cases calm word <;> simp [mapHead]
  rw [hbehind]
  by_cases h : ∃ c ∈ word, c.isLower
  · rw [calm_of_isLower h]
    constructor
    · rintro ⟨c, hc, hlower⟩ hshows
      exact hshows.1 c hc hlower
    · intro hshows
      by_contra hnone
      -- the small letter of the word can only be its first
      obtain ⟨c, hc, hlower⟩ := h
      have htail : ∀ d ∈ word.tail, ¬ d.isLower := by simpa using hnone
      refine hshows ⟨htail, .inl ⟨c, ?_, hlower⟩⟩
      cases word with
      | nil => simp at hc
      | cons d rest =>
        have hd : c = d := (List.mem_cons.mp hc).resolve_right fun hc => htail c hc hlower
        rw [hd]
        rfl
  · have hnone : ∀ c ∈ word, ¬ c.isLower := by simpa using h
    have htail : ∀ c ∈ word.tail, ¬ c.isLower := fun c hc => hnone c (List.mem_of_mem_tail hc)
    have hhead : ¬ ∃ c ∈ word.head?, c.isLower := by
      rintro ⟨c, hc, hlower⟩
      exact hnone c (List.mem_of_mem_head? hc) hlower
    rw [calm_of_not_isLower hnone, tail_asciiLower, ShowsNoSmall, and_iff_right htail,
      or_iff_right hhead]
    rw [exists_isLower_asciiLower_iff]
    push Not
    refine exists_congr fun c => and_congr_right fun hc => ?_
    simp [Char.isAlpha, htail c hc]

theorem showsNoSmall_iff {word : List Char} : ShowsNoSmall word ↔
    ∀ c ∈ mapHead Char.toUpper (calm word), ¬ c.isLower := by
  rw [← not_iff_not, ← exists_isLower_next_iff]
  push Not
  rfl

/-- If it shows no small letter, another word has a capital if it starts with a letter. -/
theorem exists_isUpper_next_iff {word : List Char} (h : ShowsNoSmall word) :
    (∃ c ∈ mapHead Char.toUpper (calm word), c.isUpper) ↔ ∃ c ∈ word.head?, c.isAlpha := by
  have hfirst : (∃ c ∈ (calm word).head?, c.isAlpha) ↔ ∃ c ∈ word.head?, c.isAlpha := by
    rcases head?_calm word with hhead | hhead <;> simp [hhead]
  rw [← hfirst]
  constructor
  · rintro ⟨c, hc, hupper⟩
    rcases mem_mapHead.mp hc with ⟨d, hd, rfl⟩ | hc
    · exact ⟨d, hd, by rwa [Char.isUpper_toUpper_eq_isAlpha] at hupper⟩
    · -- a capital further on is kept because of a small first letter
      by_cases hlower : ∃ d ∈ word, d.isLower
      · rw [calm_of_isLower hlower] at hc ⊢
        rcases h.2 with ⟨d, hd, hlower⟩ | hnone
        · exact ⟨d, hd, isAlpha_of_isLower hlower⟩
        · exact absurd hupper (hnone c hc)
      · rw [calm_of_not_isLower (by simpa using hlower)] at hc
        exact absurd hupper (not_isUpper_of_mem_asciiLower (List.mem_of_mem_tail hc))
  · rintro ⟨d, hd, halpha⟩
    exact ⟨d.toUpper, mem_mapHead.mpr (.inl ⟨d, hd, rfl⟩), by
      rwa [Char.isUpper_toUpper_eq_isAlpha]⟩

/-! ### Main result -/

/-- The camel case of the words of a key has capitals but no small letter exactly if they lose
capitals. -/
theorem losesCapitals_iff {words : List (List Char)}
    (h : ∀ word ∈ words, ∀ c ∈ word, c.isAlphanum) : LosesCapitals words ↔
      (∀ c ∈ joinCamel words, ¬ c.isLower) ∧ ∃ c ∈ joinCamel words, c.isUpper := by
  cases words with
  | nil => exact iff_of_false nofun (by simp [joinCamel])
  | cons first rest =>
    have hdigits : (∀ c ∈ mapHead Char.toLower (calm first), ¬ c.isLower) ↔
        ∀ c ∈ first, c.isDigit := by
      rw [forall_not_isLower_first_iff]
      refine forall₂_congr fun c hc => ⟨fun hnot => ?_, not_isAlpha_of_isDigit⟩
      simpa [Char.isAlphanum, hnot] using h first List.mem_cons_self c hc
    have hlower : (∀ c ∈ joinCamel (first :: rest), ¬ c.isLower) ↔
        (∀ c ∈ first, c.isDigit) ∧ ∀ word ∈ rest, ShowsNoSmall word := by
      simp only [joinCamel, List.forall_mem_append, List.forall_mem_flatMap, hdigits,
        showsNoSmall_iff]
    rw [hlower]
    constructor
    · rintro ⟨hnumber, hwords, word, hword, hletter⟩
      obtain ⟨c, hc, hupper⟩ := (exists_isUpper_next_iff (hwords word hword)).mpr hletter
      exact ⟨⟨hnumber, hwords⟩, c,
        List.mem_append_right _ (List.mem_flatMap.mpr ⟨word, hword, hc⟩), hupper⟩
    · rintro ⟨⟨hnumber, hwords⟩, c, hc, hupper⟩
      refine .intro hnumber hwords ?_
      rcases List.mem_append.mp hc with hc | hc
      · have hletters : ∀ d ∈ first, ¬ d.isAlpha := fun d hd =>
          not_isAlpha_of_isDigit (hnumber d hd)
        exact absurd hupper (not_isUpper_first hletters c hc)
      · obtain ⟨word, hword, hc⟩ := List.mem_flatMap.mp hc
        exact ⟨word, hword, (exists_isUpper_next_iff (hwords word hword)).mp ⟨c, hc, hupper⟩⟩

/-- Camel case changes its own result exactly for keys that lose capitals. -/
theorem camel_camel_iff (key : String) : camel (camel key) = camel key ↔
    ¬ ∃ words, HasRuns Char.isAlphanum key.toList words ∧ LosesCapitals words := by
  have hruns := hasRuns_runsOf Char.isAlphanum key.toList
  have hwords : ∀ word ∈ runsOf Char.isAlphanum key.toList, ∀ c ∈ word, c.isAlphanum :=
    fun word hword => (hruns.mem hword).2
  simp only [hasRuns_iff, exists_eq_left', losesCapitals_iff hwords, ← toList_camel]
  rw [camel_camel_eq_self_iff]
  push Not
  rfl

example : camel "BORDER COLOUR" = "borderColour" := by decide +kernel

/-- A key that is in camel case and is put into another one. -/
theorem exists_camel_changed : camel "3 d" = "3D" ∧ camel "3D" = "3d" ∧
    camel (camel "3 d") ≠ camel "3 d" := by
  decide +kernel

end Tilemap.Key
