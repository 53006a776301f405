import Tilemap.Json.Printer
import Tilemap.Json.Reader
import Tilemap.Proofs.Decimals

/-!
# Numbers that are written and read

A `NumberLiteral` that is well formed is read from its own text, whatever follows it that does not
go on with a number. The text of every finite number is that of such a literal, so a number is
always read as a whole. That an integer has its value back is proved here; which float a literal
stands for is left to the reader of floats.
-/

namespace Tilemap

namespace Json

open Decimal (IsDigits IsWhole isDigits_singleton isWhole_singleton isWhole_toDigits)

/-! ### Literals -/

/-- A text that does not go on with a number. -/
def EndsNumber (s : List Char) : Prop :=
  ∀ c ∈ s.head?, c.isDigit = false ∧ c ≠ '.' ∧ c ≠ 'e' ∧ c ≠ 'E'

namespace NumberLiteral

def fractionChars : Option (List Char) → List Char
  | none => []
  | some digits => '.' :: digits

def exponentChars : Option (Bool × List Char) → List Char
  | none => []
  | some (negative, digits) => 'e' :: (if negative then '-' else '+') :: digits

/-- The text of a literal. -/
def chars (n : NumberLiteral) : List Char :=
  (if n.negative then ['-'] else []) ++
    (n.whole ++ (fractionChars n.fraction ++ exponentChars n.exponent))

/-- A literal by the grammar of numbers. -/
structure WellFormed (n : NumberLiteral) : Prop where
  whole : IsWhole n.whole
  fraction : ∀ f ∈ n.fraction, IsDigits f
  exponent : ∀ e ∈ n.exponent, IsDigits e.2

end NumberLiteral

open NumberLiteral

/-- Digits are read to the last one. -/
theorem readDigits?_append {digits : List Char} (h : IsDigits digits) {rest : List Char}
    (hrest : ∀ c ∈ rest.head?, c.isDigit = false) :
    readDigits? (digits ++ rest) = some (digits, rest) := by
  have htake : rest.takeWhile Char.isDigit = [] := by
    cases rest with
    | nil => rfl
    | cons c rest => simp [hrest c rfl]
  have hdrop : rest.dropWhile Char.isDigit = rest := by
    cases rest with
    | nil => rfl
    | cons c rest => simp [hrest c rfl]
  rw [readDigits?, List.takeWhile_append_of_pos h.2, List.dropWhile_append_of_pos h.2, htake, hdrop,
    List.append_nil]
  split
  · exact absurd rfl h.1
  · rfl

/-- An exponent that is written is read back. -/
theorem readExponent?_append {e : Option (Bool × List Char)} (h : ∀ p ∈ e, IsDigits p.2)
    {rest : List Char} (hrest : EndsNumber rest) :
    readExponent? (exponentChars e ++ rest) = some (e, rest) := by
  cases e with
  | none =>
    cases rest with
    | nil => rfl
    | cons c rest =>
      obtain ⟨-, -, hlower, hupper⟩ := hrest c rfl
      simp [exponentChars, readExponent?, hlower, hupper]
  | some p =>
    obtain ⟨negative, digits⟩ := p
    have hdigits := readDigits?_append (h _ rfl) fun c hc => (hrest c hc).1
    cases negative <;> simp [exponentChars, readExponent?, hdigits]

/-- What comes after a fraction is neither a digit nor a point. -/
theorem head_exponentChars_append {e : Option (Bool × List Char)} {rest : List Char}
    (hrest : EndsNumber rest) :
    ∀ c ∈ (exponentChars e ++ rest).head?, c.isDigit = false ∧ c ≠ '.' := by
  intro c hc
  cases e with
  | none => exact ⟨(hrest c hc).1, (hrest c hc).2.1⟩
  | some p =>
    obtain rfl : 'e' = c := by simpa [exponentChars] using hc
    decide

/-- A fraction that is written is read back. -/
theorem readFraction?_append {f : Option (List Char)} (h : ∀ digits ∈ f, IsDigits digits)
    {rest : List Char} (hrest : ∀ c ∈ rest.head?, c.isDigit = false ∧ c ≠ '.') :
    readFraction? (fractionChars f ++ rest) = some (f, rest) := by
  cases f with
  | none =>
    rw [fractionChars, List.nil_append, readFraction?]
    rintro tail rfl
    exact (hrest '.' rfl).2 rfl
  | some digits =>
    rw [fractionChars, List.cons_append, readFraction?,
      readDigits?_append (h _ rfl) fun c hc => (hrest c hc).1, Option.map_some]

theorem head_fractionChars_append {f : Option (List Char)} {rest : List Char}
    (hrest : ∀ c ∈ rest.head?, c.isDigit = false ∧ c ≠ '.') :
    ∀ c ∈ (fractionChars f ++ rest).head?, c.isDigit = false := by
  intro c hc
  cases f with
  | none => exact (hrest c hc).1
  | some digits =>
    obtain rfl : '.' = c := by simpa [fractionChars] using hc
    decide

/-- The digits before the point are read back. -/
theorem readWhole?_append {whole : List Char} (h : IsWhole whole) {rest : List Char}
    (hrest : ∀ c ∈ rest.head?, c.isDigit = false) :
    readWhole? (whole ++ rest) = some (whole, rest) := by
  rw [readWhole?, readDigits?_append h.digits hrest]
  split
  · rename_i heq
    simp only [Option.some.injEq, Prod.mk.injEq] at heq
    exact absurd (h.zero _ heq.1) (List.cons_ne_nil _ _)
  · rfl

/-- A literal is read from its text. -/
theorem readNumber?_append {n : NumberLiteral} (h : n.WellFormed) {rest : List Char}
    (hrest : EndsNumber rest) : readNumber? (n.chars ++ rest) = some (n, rest) := by
  obtain ⟨negative, whole, fraction, exponent⟩ := n
  have hexponent := readExponent?_append h.exponent hrest
  have hafter := head_exponentChars_append (e := exponent) hrest
  have hfraction := readFraction?_append h.fraction hafter
  have hwhole := readWhole?_append h.whole (head_fractionChars_append (f := fraction) hafter)
  cases negative with
  | true => simp [chars, readNumber?, hwhole, hfraction, hexponent]
  | false =>
    obtain ⟨hne, hall⟩ := h.whole.digits
    cases whole with
    | nil => exact absurd rfl hne
    | cons c whole =>
      have hc : c ≠ '-' := by
        rintro rfl
        exact absurd (hall '-' List.mem_cons_self) (by decide)
      simp only [List.cons_append] at hwhole
      simp [chars, readNumber?, hwhole, hfraction, hexponent, hc]

/-! ### Integers -/

/-- An integer of 64 bits, with a sign or without one. -/
def Fits64 (n : Int) : Prop := Int64.minValue.toInt ≤ n ∧ n < UInt64.size

theorem fits64_of_bounds {n : Int} (hlow : -9223372036854775808 ≤ n)
    (hhigh : n < 18446744073709551616) : Fits64 n :=
  ⟨hlow, hhigh⟩

/-- The literal of an integer. -/
def intLiteral (n : Int) : NumberLiteral := ⟨n < 0, Nat.toDigits 10 n.natAbs, none, none⟩

theorem wellFormed_intLiteral (n : Int) : (intLiteral n).WellFormed where
  whole := isWhole_toDigits n.natAbs
  fraction := by simp [intLiteral]
  exponent := by simp [intLiteral]

theorem chars_intLiteral (n : Int) : (intLiteral n).chars = (Number.int n).chars := by
  cases n with
  | ofNat n =>
    simp [intLiteral, NumberLiteral.chars, Number.chars, fractionChars, exponentChars,
      Text.ofInteger, Text.ofNatural, Nat.toList_repr]
  | negSucc n =>
    simp [intLiteral, NumberLiteral.chars, Number.chars, fractionChars, exponentChars,
      Text.ofInteger, Text.ofNatural, Nat.toList_repr, Int.negSucc_lt_zero]

theorem le_ofDigitChars (digits : List Char) (n : Nat) : n ≤ Nat.ofDigitChars 10 digits n := by
  induction digits generalizing n with
  | nil => exact Nat.le_refl n
  | cons c rest ih =>
    rw [Nat.ofDigitChars_cons]
    exact Nat.le_trans (by omega) (ih _)

/-- Digits of a number that fits into 64 bits are all read. -/
theorem accumulate_of_lt {digits : List Char} {n : Nat}
    (h : Nat.ofDigitChars 10 digits n < UInt64.size) :
    accumulate n digits = (Nat.ofDigitChars 10 digits n, []) := by
  induction digits generalizing n with
  | nil => rfl
  | cons c rest ih =>
    rw [Nat.ofDigitChars_cons] at h ⊢
    rw [accumulate, if_pos (Nat.lt_of_le_of_lt (le_ofDigitChars rest _) h), ih h]

/-- Digits alone are an integer if they are all read. -/
theorem number?_of_digits {negative : Bool} {whole : List Char} {n : Nat}
    (h : accumulate 0 whole = (n, [])) :
    (⟨negative, whole, none, none⟩ : NumberLiteral).number? =
      if !negative then some (.int n)
      else if n != 0 && Int64.minValue.toInt ≤ -n then some (.int (-n))
      else (float? ⟨negative, whole, none, none⟩).map .double := by
  rw [NumberLiteral.number?, h]
  rfl

theorem number?_intLiteral {n : Int} (h : Fits64 n) :
    (intLiteral n).number? = some (.int n) := by
  have hdigits : Nat.ofDigitChars 10 (Nat.toDigits 10 n.natAbs) 0 = n.natAbs :=
    Nat.ofDigitChars_ten_toDigits
  have haccumulate : accumulate 0 (Nat.toDigits 10 n.natAbs) = (n.natAbs, []) := by
    rw [accumulate_of_lt, hdigits]
    rw [hdigits]
    have hhigh := h.2
    have hlow : -9223372036854775808 ≤ n := h.1
    simp only [UInt64.size] at hhigh ⊢
    omega
  rw [intLiteral, number?_of_digits haccumulate]
  by_cases hneg : n < 0
  · have hne : (n.natAbs != 0) = true := bne_iff_ne.mpr (by omega)
    have habs : -(n.natAbs : Int) = n := by omega
    have hmin : decide (Int64.minValue.toInt ≤ n) = true := decide_eq_true h.1
    rw [decide_eq_true hneg, habs, hne, hmin]
    rfl
  · have habs : (n.natAbs : Int) = n := by omega
    rw [decide_eq_false hneg, habs]
    rfl

/-! ### Floats -/

/-- Scaling down is one division, as long as the power of ten is a float. -/
theorem scale_of_neg {x : Float} {exponent : Int} (hneg : exponent < 0)
    (hsmall : exponent.natAbs ≤ 308) :
    scale x exponent = some (x / powerOfTen exponent.natAbs) := by
  rw [scale, if_pos hsmall, if_neg (by omega)]

/-- The text of a literal without a minus sign, and of the same literal with one. -/
theorem exists_literal_of_sign {text : List Char} (sign : Float.Model.UnpackedFloat.Sign)
    (h : ∃ n : NumberLiteral, n.WellFormed ∧ n.negative = false ∧ n.chars = text) :
    ∃ n : NumberLiteral, n.WellFormed ∧ n.chars = Decimal.signChars sign ++ text := by
  obtain ⟨n, hn, hsign, rfl⟩ := h
  cases sign with
  | positive => exact ⟨n, hn, rfl⟩
  | negative =>
    refine ⟨{ n with negative := true }, ⟨hn.whole, hn.fraction, hn.exponent⟩, ?_⟩
    simp [NumberLiteral.chars, hsign, Decimal.signChars]

/-- What a layout writes is the text of a literal without a sign. -/
theorem exists_literal_render (l : Decimal.Layout) {d : Decimal.Scaled}
    (h : d.digits = 0 → d.exponent = 0) :
    ∃ n : NumberLiteral, n.WellFormed ∧ n.negative = false ∧ n.chars = l.render d := by
  unfold Decimal.Layout.render
  dsimp only
  split
  · obtain ⟨whole, fraction, hwhole, hfraction, htext⟩ := Decimal.exists_positional h
    refine ⟨⟨false, whole, some fraction, none⟩, ⟨hwhole, ?_, by simp⟩, rfl, ?_⟩
    · rintro f ⟨⟩
      exact hfraction
    · simp [NumberLiteral.chars, fractionChars, exponentChars, htext]
  · obtain ⟨digit, fraction, negative, exponent, hdigit, hfraction, hexponent, htext⟩ :=
      Decimal.exists_scientific d
    refine ⟨⟨false, [digit], if fraction = [] then none else some fraction,
      some (negative, exponent)⟩, ⟨hdigit, ?_, ?_⟩, rfl, ?_⟩
    · intro f hf
      split at hf
      · cases hf
      · rename_i hne
        cases hf
        exact hfraction hne
    · rintro e ⟨⟩
      exact hexponent
    · rw [htext]
      split <;> simp [NumberLiteral.chars, fractionChars, exponentChars]

/-- A finite value of a format is written as a literal. -/
theorem exists_literal_render? (format : Float.Model.Format) (l : Decimal.Layout)
    {v : Float.Model.UnpackedFloat} (h : v.isFinite) :
    ∃ n : NumberLiteral, n.WellFormed ∧ Decimal.render? format l v = some n.chars := by
  cases v with
  | infinity sign => cases h
  | notANumber => cases h
  | zero sign =>
    have hzero : ∃ n : NumberLiteral, n.WellFormed ∧ n.negative = false ∧
        n.chars = ['0', '.', '0'] := by
      refine ⟨⟨false, ['0'], some ['0'], none⟩, ⟨isWhole_singleton rfl, ?_, by simp⟩, rfl, rfl⟩
      rintro f ⟨⟩
      exact isDigits_singleton rfl
    obtain ⟨n, hn, htext⟩ := exists_literal_of_sign sign hzero
    exact ⟨n, hn, (congrArg some htext).symm⟩
  | finite sign mantissa exponent hpos =>
    obtain ⟨n, hn, htext⟩ := exists_literal_of_sign sign <|
      exists_literal_render l (Decimal.exponent_shortest format hpos exponent)
    exact ⟨n, hn, (congrArg some htext).symm⟩

/-- Infinities and what is no number are not written in digits. -/
theorem render?_of_not_finite {format : Float.Model.Format} {l : Decimal.Layout}
    {v : Float.Model.UnpackedFloat} (h : v.isFinite = false) :
    Decimal.render? format l v = none := by
  cases v with
  | infinity sign => rfl
  | notANumber => rfl
  | zero sign => cases h
  | finite sign mantissa exponent hpos => cases h

end Json

/-! ### Numbers -/

namespace Number

def isFinite : Number → Bool
  | .int _ => true
  | .double x => x.isFinite
  | .single x => x.isFinite

open Json (NumberLiteral)

/-- A finite number is written as the text of a literal. -/
theorem exists_literal {n : Number} (h : n.isFinite) :
    ∃ literal : NumberLiteral, literal.WellFormed ∧ literal.chars = n.chars := by
  cases n with
  | int n => exact ⟨Json.intLiteral n, Json.wellFormed_intLiteral n, Json.chars_intLiteral n⟩
  | double x =>
    obtain ⟨literal, hliteral, htext⟩ := Json.exists_literal_render? .binary64 .double
      (v := Binary.unpack64 x) h
    exact ⟨literal, hliteral, by rw [chars, Decimal.ofFloat?, htext, Option.getD_some]⟩
  | single x =>
    obtain ⟨literal, hliteral, htext⟩ := Json.exists_literal_render? .binary32 .single
      (v := Binary.unpack32 x) h
    exact ⟨literal, hliteral, by rw [chars, Decimal.ofFloat32?, htext, Option.getD_some]⟩

theorem chars_of_not_finite {n : Number} (h : n.isFinite = false) : n.chars = "null".toList := by
  cases n with
  | int n => cases h
  | double x =>
    have hnone : Decimal.ofFloat? x = none := Json.render?_of_not_finite h
    rw [chars, hnone]
    rfl
  | single x =>
    have hnone : Decimal.ofFloat32? x = none := Json.render?_of_not_finite h
    rw [chars, hnone]
    rfl

end Number

end Tilemap
