import Mathlib.Algebra.Group.Int.Defs
import Mathlib.Algebra.Group.Nat.Defs
import Tilemap.Proofs.Decimals
import Tilemap.Text.Basic

/-!
# Written integers

A row of digits is read as its value if that fits into 32 bits. Every integer of 32 bits is written
with digits and perhaps a minus sign, and is read back from that. One that does not fit is refused
when it is read from a text, but `Int32.ofInt` cuts it. What is read are digits behind an optional
sign (`int32?_eq_some_iff`).
-/

namespace Tilemap.Text

open Decimal (IsDigits isDigits_toDigits)

theorem natural?_of_isDigits {s : List Char} (h : IsDigits s) :
    natural? s = some (digitsValue s) := by
  have hall : s.all Char.isDigit := List.all_eq_true.mpr h.2
  simp [natural?, h.1, hall]

/-- A sign is no digit, so digits are read without one. -/
theorem integer?_of_isDigits {s : List Char} (h : IsDigits s) :
    integer? s = some (digitsValue s : Int) := by
  have hnatural := natural?_of_isDigits h
  rw [integer?]
  · rw [hnatural]
    rfl
  · rintro r rfl
    exact absurd (h.2 '-' List.mem_cons_self) (by decide)
  · rintro r rfl
    exact absurd (h.2 '+' List.mem_cons_self) (by decide)

/-- Digits are read if their value fits, and refused if it does not. -/
theorem int32?_of_isDigits {s : List Char} (h : IsDigits s) :
    int32? s = if digitsValue s < 2 ^ 31 then some (Int32.ofNat (digitsValue s)) else none := by
  have hmax : Int32.maxValue.toInt = 2147483647 := rfl
  have hmin : Int32.minValue.toInt = -2147483648 := rfl
  rw [int32?, integer?_of_isDigits h, Option.bind_some, fit32?, hmax, hmin]
  simp only [Bool.and_eq_true, decide_eq_true_eq]
  by_cases hlt : digitsValue s < 2 ^ 31
  · rw [if_pos hlt, if_pos (by omega)]
    rfl
  · rw [if_neg hlt, if_neg (by omega)]

theorem digitsValue_toDigits (n : Nat) : digitsValue (Nat.toDigits 10 n) = n :=
  Nat.ofDigitChars_ten_toDigits

/-! ### Widths -/

/-- An integer has a place in 32 bits. -/
def FitsInt32 (n : Int) : Prop := -2 ^ 31 ≤ n ∧ n < 2 ^ 31

instance (n : Int) : Decidable (FitsInt32 n) := inferInstanceAs (Decidable (_ ∧ _))

/-- An integer has a place in 64 bits. -/
def FitsInt64 (n : Int) : Prop := -2 ^ 63 ≤ n ∧ n < 2 ^ 63

instance (n : Int) : Decidable (FitsInt64 n) := inferInstanceAs (Decidable (_ ∧ _))

theorem le_maxValue_of_lt {n : Int} (h : n < 2 ^ 63) : n ≤ Int64.maxValue.toInt := by
  have hmax : Int64.maxValue.toInt = 2 ^ 63 - 1 := rfl
  omega

theorem fit32?_eq (n : Int) : fit32? n = if FitsInt32 n then some (Int32.ofInt n) else none := by
  have hmin : Int32.minValue.toInt = -2 ^ 31 := rfl
  have hmax : Int32.maxValue.toInt = 2 ^ 31 - 1 := rfl
  have hfits : (Int32.minValue.toInt ≤ n && n ≤ Int32.maxValue.toInt) ↔ FitsInt32 n := by
    rw [hmin, hmax, Bool.and_eq_true, decide_eq_true_eq, decide_eq_true_eq, FitsInt32]
    omega
  rw [fit32?]
  simp only [hfits]

/-- What fits is not cut. -/
theorem toInt_ofInt_of_fits {n : Int} (h : FitsInt32 n) : (Int32.ofInt n).toInt = n :=
  Int32.toInt_ofInt_of_le h.1 h.2

theorem fits_toInt (n : Int32) : FitsInt32 n.toInt := ⟨Int32.le_toInt n, Int32.toInt_lt n⟩

/-! ### Reading back -/

theorem toList_ofInteger (n : Int) :
    (ofInteger n).toList = if n < 0 then '-' :: Nat.toDigits 10 n.natAbs
      else Nat.toDigits 10 n.natAbs := by
  cases n with
  | ofNat n => simp [ofInteger, ofNatural, Nat.toList_repr]
  | negSucc n => simp [ofInteger, ofNatural, Nat.toList_repr, Int.negSucc_lt_zero]

theorem integer?_ofInteger (n : Int) : integer? (ofInteger n).toList = some n := by
  have hdigits := isDigits_toDigits n.natAbs
  rw [toList_ofInteger]
  split
  · rename_i hneg
    rw [integer?, natural?_of_isDigits hdigits, digitsValue_toDigits]
    change some (-(n.natAbs : Int)) = some n
    congr 1
    omega
  · rw [integer?_of_isDigits hdigits, digitsValue_toDigits]
    congr 1
    omega

theorem ofInteger_ne_nil (n : Int) : (ofInteger n).toList ≠ [] := by
  intro hnil
  have hread := integer?_ofInteger n
  rw [hnil] at hread
  cases hread

/-- An integer is read back from its text if it fits. -/
theorem int32?_ofInteger (n : Int) : int32? (ofInteger n).toList = fit32? n := by
  rw [int32?, integer?_ofInteger, Option.bind_some]

/-- The text of an integer is digits, perhaps behind a minus sign. -/
theorem mem_ofInteger {n : Int} {c : Char} (h : c ∈ (ofInteger n).toList) :
    c = '-' ∨ c.isDigit := by
  have hdigits := isDigits_toDigits n.natAbs
  rw [toList_ofInteger] at h
  split at h
  · exact (List.mem_cons.mp h).imp id (hdigits.2 c)
  · exact .inr (hdigits.2 c h)

/-! ### What is read -/

/-- Digits behind an optional sign, with their value. -/
inductive IsInteger : List Char → Int → Prop where
  | plain {digits : List Char} (h : IsDigits digits) : IsInteger digits (digitsValue digits)
  | plus {digits : List Char} (h : IsDigits digits) : IsInteger ('+' :: digits) (digitsValue digits)
  | minus {digits : List Char} (h : IsDigits digits) :
    IsInteger ('-' :: digits) (-(digitsValue digits : Int))

theorem natural?_eq_some_iff {s : List Char} {n : Nat} :
    natural? s = some n ↔ IsDigits s ∧ digitsValue s = n := by
  constructor
  · intro h
    rw [natural?] at h
    split at h
    · rename_i hdigits
      rw [Bool.and_eq_true, decide_eq_true_eq, List.all_eq_true] at hdigits
      exact ⟨hdigits, Option.some.inj h⟩
    · cases h
  · rintro ⟨hdigits, rfl⟩
    exact natural?_of_isDigits hdigits

theorem integer?_eq_some_iff {s : List Char} {n : Int} : integer? s = some n ↔ IsInteger s n := by
  constructor
  · intro h
    unfold integer? at h
    split at h
    case h_1 =>
      obtain ⟨_, hvalue, rfl⟩ := Option.map_eq_some_iff.mp h
      obtain ⟨m, hm, hvalue⟩ := Option.bind_eq_some_iff.mp hvalue
      obtain rfl := Option.some.inj hvalue
      obtain ⟨hdigits, rfl⟩ := natural?_eq_some_iff.mp hm
      exact .minus hdigits
    case h_2 =>
      obtain ⟨m, hm, rfl⟩ := Option.map_eq_some_iff.mp h
      obtain ⟨hdigits, rfl⟩ := natural?_eq_some_iff.mp hm
      exact .plus hdigits
    case h_3 =>
      obtain ⟨m, hm, rfl⟩ := Option.map_eq_some_iff.mp h
      obtain ⟨hdigits, rfl⟩ := natural?_eq_some_iff.mp hm
      exact .plain hdigits
  · rintro (hdigits | hdigits | hdigits)
    · exact integer?_of_isDigits hdigits
    · rw [integer?, natural?_of_isDigits hdigits]
      rfl
    · rw [integer?, natural?_of_isDigits hdigits]
      rfl

/-- The integers of 32 bits are read from the texts that have their values. -/
theorem int32?_eq_some_iff {s : List Char} {n : Int32} :
    int32? s = some n ↔ IsInteger s n.toInt := by
  simp only [int32?, Option.bind_eq_some_iff, integer?_eq_some_iff, fit32?_eq]
  constructor
  · rintro ⟨m, hm, hn⟩
    split at hn
    · rename_i hfits
      obtain rfl := Option.some.inj hn
      rwa [toInt_ofInt_of_fits hfits]
    · cases hn
  · intro h
    exact ⟨n.toInt, h, by rw [if_pos (fits_toInt n), Int32.ofInt_toInt]⟩

namespace IsInteger

variable {s : List Char} {n : Int}

theorem ne_nil (h : IsInteger s n) : s ≠ [] := by
  cases h with
  | plain h => exact h.1
  | plus h => exact List.cons_ne_nil _ _
  | minus h => exact List.cons_ne_nil _ _

theorem mem (h : IsInteger s n) {c : Char} (hc : c ∈ s) : c = '+' ∨ c = '-' ∨ c.isDigit := by
  cases h with
  | plain h => exact .inr (.inr (h.2 c hc))
  | plus h => exact (List.mem_cons.mp hc).imp id fun hc => .inr (h.2 c hc)
  | minus h => exact .inr ((List.mem_cons.mp hc).imp id (h.2 c))

end IsInteger

end Tilemap.Text
