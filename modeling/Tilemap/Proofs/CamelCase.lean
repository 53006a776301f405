import Mathlib
import Tilemap.Proofs.Text.Trimming
import Tilemap.Spelling

/-!
# Keys in camel case

The camel case of a key has the letters and digits of the key, and only their case can differ. So
it is a spelling of the same key (`compact_camel`).
-/

namespace Tilemap.Key

open Text

/-! ### Letters in either case -/

theorem isAlphanum_toLower (c : Char) : c.toLower.isAlphanum = c.isAlphanum := by
  by_cases h : c.isAlpha
  · simp [Char.isAlphanum, h]
  · have hupper : ¬ c.isUpper := fun hupper => h (by simp [Char.isAlpha, hupper])
    rw [Char.toLower_eq_of_not_isUpper hupper]

theorem asciiLower_append (s r : List Char) :
    asciiLower (s ++ r) = asciiLower s ++ asciiLower r :=
  List.map_append

theorem asciiLower_asciiLower (s : List Char) : asciiLower (asciiLower s) = asciiLower s := by
  simp [asciiLower]

theorem filter_asciiLower (s : List Char) :
    (asciiLower s).filter Char.isAlphanum = asciiLower (s.filter Char.isAlphanum) := by
  rw [asciiLower, List.filter_map]
  congr 2
  funext c
  exact isAlphanum_toLower c

theorem compact_eq (key : String) :
    compact key = String.ofList ((asciiLower key.toList).filter Char.isAlphanum) := by
  rw [compact, filter_asciiLower]

/-! ### Words -/

theorem asciiLower_calm (word : List Char) : asciiLower (calm word) = asciiLower word := by
  rw [calm]
  split
  · exact asciiLower_asciiLower word
  · rfl

/-- What changes the case of a first letter only is not seen in small letters. -/
theorem asciiLower_mapHead {f : Char → Char} (h : ∀ c, (f c).toLower = c.toLower)
    (word : List Char) : asciiLower (mapHead f word) = asciiLower word := by
  cases word with
  | nil => rfl
  | cons c rest => simp [mapHead, asciiLower, h]

theorem asciiLower_flatMap_mapHead {f : Char → Char} (h : ∀ c, (f c).toLower = c.toLower)
    (words : List (List Char)) :
    asciiLower (words.flatMap (mapHead f)) = asciiLower words.flatten := by
  induction words with
  | nil => rfl
  | cons word rest ih =>
    rw [List.flatMap_cons, List.flatten_cons, asciiLower_append, asciiLower_append, ih,
      asciiLower_mapHead h]

theorem asciiLower_flatten_map_calm (words : List (List Char)) :
    asciiLower (words.map calm).flatten = asciiLower words.flatten := by
  induction words with
  | nil => rfl
  | cons word rest ih =>
    rw [List.map_cons, List.flatten_cons, List.flatten_cons, asciiLower_append, asciiLower_append,
      ih, asciiLower_calm]

theorem flatten_keyWords (s : List Char) : (keyWords s).flatten = s.filter Char.isAlphanum := by
  rw [keyWords, List.flatten_filter_ne_nil, flatten_pieces]
  simp

/-! ### Main result -/

/-- Camel case keeps the letters and digits of a key. -/
theorem asciiLower_camel (key : String) :
    asciiLower (camel key).toList = asciiLower (key.toList.filter Char.isAlphanum) := by
  rw [camel, String.toList_ofList, ← flatten_keyWords, ← asciiLower_flatten_map_calm]
  cases (keyWords key.toList).map calm with
  | nil => rfl
  | cons first rest =>
    rw [asciiLower_append, asciiLower_mapHead Char.toLower_toLower_eq_toLower,
      asciiLower_flatMap_mapHead Char.toLower_toUpper_eq_toLower, List.flatten_cons,
      asciiLower_append]

/-- Camel case is a spelling of the same key. -/
theorem compact_camel (key : String) : compact (camel key) = compact key := by
  rw [compact_eq, asciiLower_camel, filter_asciiLower, List.filter_filter, compact]
  simp only [Bool.and_self]

end Tilemap.Key
