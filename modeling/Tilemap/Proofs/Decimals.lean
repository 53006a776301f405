import Tilemap.Decimal.Writing

/-!
# Written decimals

The shortest decimal of a positive value has a digit that is not zero, since zero does not round to
such a value. So in either notation its text has at least one digit wherever digits stand, and no
zero in front of another digit.
-/

namespace Tilemap.Decimal

/-- At least one digit and nothing else. -/
def IsDigits (s : List Char) : Prop := s ≠ [] ∧ ∀ c ∈ s, c.isDigit

/-- Digits that start with a zero only if there is no other. -/
structure IsWhole (s : List Char) : Prop where
  digits : IsDigits s
  zero : ∀ rest, s = '0' :: rest → rest = []

/-! ### Digits -/

theorem isDigits_toDigits (n : Nat) : IsDigits (Nat.toDigits 10 n) :=
  ⟨Nat.toDigits_ne_nil, fun _ hc => Nat.isDigit_of_mem_toDigits (by decide) (by decide) hc⟩

/-- Only zero is written with a zero in front. -/
theorem eq_zero_of_head?_toDigits {n : Nat} (h : (Nat.toDigits 10 n).head? = some '0') : n = 0 := by
  induction n using Nat.strongRecOn with
  | ind n ih =>
    rw [Nat.toDigits_eq_if (by decide)] at h
    split at h
    · rename_i hlt
      have hsmall : ∀ k < 10, k.digitChar = '0' → k = 0 := by decide
      exact hsmall n hlt (Option.some.inj h)
    · rw [List.head?_append, Option.or_of_isSome (by simp)] at h
      have := ih (n / 10) (by omega) h
      omega

theorem isWhole_toDigits (n : Nat) : IsWhole (Nat.toDigits 10 n) := by
  refine ⟨isDigits_toDigits n, fun rest h => ?_⟩
  have hzero : n = 0 := eq_zero_of_head?_toDigits (by rw [h, List.head?_cons])
  rw [hzero, Nat.toDigits_zero] at h
  exact (List.cons.inj h).2.symm

theorem isDigits_singleton {c : Char} (h : c.isDigit) : IsDigits [c] :=
  ⟨List.cons_ne_nil _ _, fun _ hd => List.mem_singleton.mp hd ▸ h⟩

theorem isWhole_singleton {c : Char} (h : c.isDigit) : IsWhole [c] :=
  ⟨isDigits_singleton h, fun _ heq => (List.cons.inj heq).2.symm⟩

theorem isDigits_replicate_zero_append {digits : List Char} (h : IsDigits digits) (n : Nat) :
    IsDigits (List.replicate n '0' ++ digits) := by
  refine ⟨by simp [h.1], fun c hc => ?_⟩
  rcases List.mem_append.mp hc with hc | hc
  · rw [List.eq_of_mem_replicate hc]
    decide
  · exact h.2 c hc

theorem isDigits_append_replicate_zero {digits : List Char} (h : IsDigits digits) (n : Nat) :
    IsDigits (digits ++ List.replicate n '0') := by
  refine ⟨by simp [h.1], fun c hc => ?_⟩
  rcases List.mem_append.mp hc with hc | hc
  · exact h.2 c hc
  · rw [List.eq_of_mem_replicate hc]
    decide

theorem isDigits_take {digits : List Char} (h : IsDigits digits) {n : Nat} (hn : 0 < n) :
    IsDigits (digits.take n) := by
  refine ⟨?_, fun c hc => h.2 c (List.mem_of_mem_take hc)⟩
  rw [Ne, List.take_eq_nil_iff, not_or]
  exact ⟨Nat.ne_of_gt hn, h.1⟩

theorem isDigits_drop {digits : List Char} (h : IsDigits digits) {n : Nat}
    (hn : n < digits.length) : IsDigits (digits.drop n) := by
  refine ⟨?_, fun c hc => h.2 c (List.mem_of_mem_drop hc)⟩
  rw [Ne, List.drop_eq_nil_iff]
  omega

/-! ### The shortest decimal -/

namespace Neighbourhood

theorem holds_of_nearest? {n : Neighbourhood} {k : Nat} (h : n.nearest? = some k) :
    n.holds k := by
  rw [nearest?] at h
  dsimp only at h
  split at h
  · split at h <;> simp_all
  · simp_all
  · simp_all
  · simp_all

/-- Zero does not round to a positive value. -/
theorem ne_zero_of_holds {n : Neighbourhood} (hlow : 0 < n.low) {k : Nat} (h : n.holds k) :
    k ≠ 0 := by
  rintro rfl
  rw [holds, Nat.zero_mul] at h
  split at h
  · have hzero : n.low ≤ 0 := by simpa using (Bool.and_eq_true_iff.mp h).1
    omega
  · have hzero : n.low < 0 := by simpa using (Bool.and_eq_true_iff.mp h).1
    omega

/-- A neighbourhood above zero has no zero on any grid. -/
theorem digits_onGrid? {n : Neighbourhood} (hlow : 0 < n.low) {exponent : Int} {d : Scaled}
    (h : n.onGrid? exponent = some d) : d.digits ≠ 0 := by
  rw [onGrid?] at h
  obtain ⟨k, hk, rfl⟩ := Option.map_eq_some_iff.mp h
  refine ne_zero_of_holds ?_ (holds_of_nearest? hk)
  split
  · exact hlow
  · exact Nat.mul_pos hlow (Nat.pos_of_ne_zero (by simp))

/-- All of the rationals that round to a positive value are positive. -/
theorem low_of_pos (format : Float.Model.Format) {mantissa : Nat} (h : 0 < mantissa)
    (exponent : Int) : 0 < (of format mantissa exponent).low := by
  refine Nat.mul_pos ?_ ?_
  · split <;> omega
  · rw [Nat.one_shiftLeft]
    exact Nat.two_pow_pos _

theorem exponent_shortest {n : Neighbourhood} (hlow : 0 < n.low) :
    n.shortest.digits = 0 → n.shortest.exponent = 0 := by
  intro hzero
  rw [shortest] at hzero ⊢
  generalize hfound : List.findSome? _ _ = found at hzero ⊢
  cases found with
  | none => rfl
  | some d =>
    obtain ⟨i, -, hgrid⟩ := List.exists_of_findSome?_eq_some hfound
    exact absurd hzero (digits_onGrid? hlow hgrid)

end Neighbourhood

/-- A decimal without digits is written without zeros behind the digit, too. -/
theorem exponent_shortest (format : Float.Model.Format) {mantissa : Nat} (h : 0 < mantissa)
    (exponent : Int) :
    (shortest format mantissa exponent).digits = 0 →
      (shortest format mantissa exponent).exponent = 0 :=
  Neighbourhood.exponent_shortest (Neighbourhood.low_of_pos format h exponent)

/-! ### Notations -/

/-- A decimal in positional notation has digits on both sides of a point. -/
theorem exists_positional {d : Scaled} (h : d.digits = 0 → d.exponent = 0) :
    ∃ whole fraction, IsWhole whole ∧ IsDigits fraction ∧
      d.positional = whole ++ '.' :: fraction := by
  have hdigits := isDigits_toDigits d.digits
  rw [Scaled.positional, digitChars]
  split
  · refine ⟨_, ['0'], ⟨isDigits_append_replicate_zero hdigits _, fun rest heq => ?_⟩,
      isDigits_singleton rfl, rfl⟩
    have hhead := congrArg List.head? heq
    rw [List.head?_append, Option.or_of_isSome (by simp), List.head?_cons] at hhead
    rw [h (eq_zero_of_head?_toDigits hhead), Int.toNat_zero, List.replicate_zero,
      List.append_nil] at heq
    exact (isWhole_toDigits d.digits).zero rest heq
  · rename_i hexponent
    split
    · rename_i hpos
      refine ⟨_, _, ⟨isDigits_take hdigits (by omega), fun rest heq => ?_⟩,
        isDigits_drop hdigits (by omega), rfl⟩
      have hhead := congrArg List.head? heq
      rw [List.head?_take, if_neg (by omega), List.head?_cons] at hhead
      have := h (eq_zero_of_head?_toDigits hhead)
      omega
    · exact ⟨['0'], _, isWhole_singleton rfl, isDigits_replicate_zero_append hdigits _, rfl⟩

/-- A decimal in scientific notation has one digit, a fraction unless there is no other digit, and
an exponent with its sign. -/
theorem exists_scientific (d : Scaled) :
    ∃ (digit : Char) (fraction : List Char) (negative : Bool) (exponent : List Char),
      IsWhole [digit] ∧ (fraction ≠ [] → IsDigits fraction) ∧ IsDigits exponent ∧
        d.scientific = digit :: ((if fraction = [] then [] else '.' :: fraction) ++
          'e' :: (if negative then '-' else '+') :: exponent) := by
  obtain ⟨digit, fraction, hdigits⟩ :=
    List.exists_cons_of_ne_nil (Nat.toDigits_ne_nil (b := 10) (n := d.digits))
  have hall := (isDigits_toDigits d.digits).2
  rw [hdigits] at hall
  have hsign : (if 0 ≤ d.exponent + fraction.length then '+' else '-') =
      if d.exponent + fraction.length < 0 then '-' else '+' := by
    by_cases hneg : d.exponent + fraction.length < 0
    · rw [if_neg (by omega), if_pos hneg]
    · rw [if_pos (by omega), if_neg hneg]
  refine ⟨digit, fraction, decide (d.exponent + fraction.length < 0),
    Nat.toDigits 10 (d.exponent + fraction.length).natAbs,
    isWhole_singleton (hall digit List.mem_cons_self),
    fun hne => ⟨hne, fun c hc => hall c (List.mem_cons_of_mem _ hc)⟩, isDigits_toDigits _, ?_⟩
  simp [Scaled.scientific, digitChars, hdigits, hsign]

end Tilemap.Decimal
