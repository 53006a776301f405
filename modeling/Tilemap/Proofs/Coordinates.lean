import Tilemap.Geometry
import Tilemap.Proofs.Text.Integers
import Tilemap.Proofs.Text.Trimming

/-!
# Written positions

A position is written as two integers with an `x` between them. The text has no character but
digits, minus signs and the `x`, and the position is read back from it. Of two integers that are
written in this way a position is read only if both fit 32 bits.
-/

namespace Tilemap

open Text

/-- Two pieces are two integers when both are. -/
theorem twoIntegers?_pair {a b : List Char} (ha : trim a = a) (hb : trim b = b) (hane : a ≠ [])
    (hbne : b ≠ []) :
    twoIntegers? [a, b] = (int32? a).bind fun x => (int32? b).map fun y => (x, y) := by
  simp only [twoIntegers?, List.map_cons, List.map_nil, ha, hb, ne_eq, hane, hbne,
    not_false_eq_true, decide_true, List.filter_cons_of_pos, List.filter_nil]
  cases int32? a <;> cases int32? b <;> rfl

/-- One piece is not enough for two integers. -/
theorem twoIntegers?_singleton (a : List Char) : twoIntegers? [a] = none := by
  by_cases h : trim a = [] <;> simp [twoIntegers?, h]

theorem not_blank_of_mem_ofInteger {n : Int} {c : Char} (h : c ∈ (ofInteger n).toList) :
    ¬ isBlank c := by
  rcases mem_ofInteger h with rfl | h
  · decide
  · exact fun hblank => not_isDigit_of_blank hblank h

/-! ### Pairs of integers -/

/-- Two integers with an `x` between them. -/
def pairText (x y : Int) : String := ofInteger x ++ "x" ++ ofInteger y

section

variable {x y : Int}

theorem toList_pairText (x y : Int) :
    (pairText x y).toList = (ofInteger x).toList ++ 'x' :: (ofInteger y).toList := by
  simp [pairText]

theorem pairText_ne_nil (x y : Int) : (pairText x y).toList ≠ [] := by simp [toList_pairText]

theorem mem_pairText {c : Char} (h : c ∈ (pairText x y).toList) :
    c = '-' ∨ c = 'x' ∨ c.isDigit := by
  rw [toList_pairText, List.mem_append, List.mem_cons] at h
  rcases h with h | rfl | h
  · exact (mem_ofInteger h).imp id .inr
  · exact .inr (.inl rfl)
  · exact (mem_ofInteger h).imp id .inr

theorem not_blank_of_mem_pairText {c : Char} (h : c ∈ (pairText x y).toList) : ¬ isBlank c := by
  rcases mem_pairText h with rfl | rfl | h
  · decide
  · decide
  · exact fun hblank => not_isDigit_of_blank hblank h

theorem trim_pairText (x y : Int) : trim (pairText x y).toList = (pairText x y).toList :=
  trim_of_not_blank fun _ => not_blank_of_mem_pairText

theorem words_pairText (x y : Int) : words (pairText x y).toList = [(pairText x y).toList] :=
  words_of_not_blank (pairText_ne_nil x y) fun _ => not_blank_of_mem_pairText

/-- A pair of integers falls apart at its `x`. -/
theorem pieces_pairText (x y : Int) :
    pieces (fun c => isTimes c || c = ',') (pairText x y).toList =
      [(ofInteger x).toList, (ofInteger y).toList] := by
  have hfree (n : Int) : ∀ c ∈ (ofInteger n).toList, ¬ (isTimes c || c = ',') := by
    intro c hc
    rcases mem_ofInteger hc with rfl | hdigit
    · decide
    · intro h
      simp only [isTimes, Bool.or_eq_true, decide_eq_true_eq] at h
      rcases h with (rfl | rfl) | rfl <;> revert hdigit <;> decide
  rw [toList_pairText, pieces_append (by decide), pieces_of_none (hfree x),
    pieces_of_none (hfree y)]
  rfl

/-- Two integers are read as a position if both fit, and refused if one does not. -/
theorem Position.parse?_pairText (x y : Int) : Position.parse? (pairText x y) =
    if FitsInt32 x ∧ FitsInt32 y then some ⟨Int32.ofInt x, Int32.ofInt y⟩ else none := by
  have hself (n : Int) : trim (ofInteger n).toList = (ofInteger n).toList :=
    trim_of_not_blank fun _ => not_blank_of_mem_ofInteger
  rw [Position.parse?, trim_pairText, if_neg (pairText_ne_nil x y), pieces_pairText,
    twoIntegers?_pair (hself x) (hself y) (ofInteger_ne_nil x) (ofInteger_ne_nil y),
    words_pairText, twoIntegers?_singleton, Option.or_none, int32?_ofInteger, int32?_ofInteger,
    fit32?_eq, fit32?_eq]
  by_cases hx : FitsInt32 x <;> by_cases hy : FitsInt32 y <;> simp [hx, hy]

end

/-! ### Positions -/

namespace Position

variable (p : Position)

theorem text_eq : p.text = pairText p.x.toInt p.y.toInt := rfl

theorem text_ne_nil : p.text.toList ≠ [] := pairText_ne_nil _ _

theorem not_blank_of_mem_text {p : Position} {c : Char} (h : c ∈ p.text.toList) : ¬ isBlank c :=
  not_blank_of_mem_pairText h

/-- A character that is neither a digit nor `-` nor `x` does not occur in the text of a position. -/
theorem notMem_text {c : Char} (hdigit : ¬ c.isDigit) (hdash : c ≠ '-') (hx : c ≠ 'x') :
    c ∉ p.text.toList := by
  intro h
  rcases mem_pairText h with rfl | rfl | h
  · exact hdash rfl
  · exact hx rfl
  · exact hdigit h

theorem trim_text : trim p.text.toList = p.text.toList := trim_pairText _ _

/-- A position is read back from its text. -/
theorem parse?_text : Position.parse? p.text = some p := by
  rw [text_eq, parse?_pairText, if_pos ⟨fits_toInt p.x, fits_toInt p.y⟩, Int32.ofInt_toInt,
    Int32.ofInt_toInt]

end Position

end Tilemap
