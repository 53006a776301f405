import Tilemap.Proofs.Comments

/-!
# Trailing comments

A trailing comment starts at the first `#` that stands behind an ASCII blank and has no digit of
base sixteen behind it. What is left of a text is what stands before the comment, without the blanks
at its end: a start of the text in which no comment is left, and which differs from the text by
blanks and a comment only (`trailing_comment_stripped`). Nothing else has these properties, so a
text that has lost its comment stays as it is.
-/

namespace Tilemap

open Text

/-! ### Statement -/

/-- Somewhere in a text stand an ASCII blank and a `#` with no digit of base sixteen behind it. -/
def HasComment (s : List Char) : Prop :=
  ∃ left c right, s = left ++ c :: '#' :: right ∧ isAsciiBlank c ∧
    ∀ d ∈ right.head?, ¬ isHexDigit d

/-- The text is what blanks and a comment have been cut off from. -/
structure IsCutFrom (s left : List Char) : Prop where
  rest : ∃ gap c right, s = left ++ gap ++ c :: '#' :: right ∧ (∀ d ∈ gap, isBlank d) ∧
    isAsciiBlank c ∧ ∀ d ∈ right.head?, ¬ isHexDigit d
  tight : ∀ d ∈ left.getLast?, ¬ isBlank d

/-- What is left of a text without its comment. -/
structure IsCommentless (s left : List Char) : Prop where
  start : left <+: s
  free : ¬ HasComment left
  cut : left ≠ s → IsCutFrom s left

/-! ### Where a comment starts -/

theorem opensComment_hash {right : List Char} :
    opensComment ('#' :: right) ↔ ∀ d ∈ right.head?, ¬ isHexDigit d := by
  cases right <;> simp [opensComment]

theorem opensComment_iff {s : List Char} :
    opensComment s ↔ ∃ right, s = '#' :: right ∧ ∀ d ∈ right.head?, ¬ isHexDigit d := by
  constructor
  · intro h
    cases s with
    | nil => simp [opensComment] at h
    | cons c right =>
      obtain rfl : c = '#' := by
        by_contra hc
        simp [opensComment, hc] at h
      exact ⟨right, rfl, opensComment_hash.mp h⟩
  · rintro ⟨right, rfl, hright⟩
    exact opensComment_hash.mpr hright

theorem not_hasComment_nil : ¬ HasComment [] := by
  rintro ⟨left, c, right, hs, -, -⟩
  simp at hs

/-- A comment starts behind the first character or further on. -/
theorem hasComment_cons {c : Char} {s : List Char} :
    HasComment (c :: s) ↔ isAsciiBlank c && opensComment s ∨ HasComment s := by
  rw [Bool.and_eq_true, opensComment_iff]
  constructor
  · rintro ⟨left, d, right, hs, hd, hright⟩
    cases left with
    | nil =>
      obtain ⟨rfl, rfl⟩ := List.cons.inj hs
      exact .inl ⟨hd, right, rfl, hright⟩
    | cons e left =>
      obtain ⟨rfl, rfl⟩ := List.cons.inj hs
      exact .inr ⟨left, d, right, rfl, hd, hright⟩
  · rintro (⟨hc, right, rfl, hright⟩ | ⟨left, d, right, rfl, hd, hright⟩)
    · exact ⟨[], c, right, rfl, hc, hright⟩
    · exact ⟨c :: left, d, right, rfl, hd, hright⟩

/-- Blanks at the end change nothing in what opens a comment. -/
theorem opensComment_append_blanks (s : List Char) {gap : List Char} (h : ∀ c ∈ gap, isBlank c) :
    opensComment (s ++ gap) = opensComment s := by
  cases gap with
  | nil => rw [List.append_nil]
  | cons c gap => exact opensComment_append (h c List.mem_cons_self) s gap

/-- Blanks at the end of a text make no comment. -/
theorem hasComment_append_blanks (s : List Char) {gap : List Char} (h : ∀ c ∈ gap, isBlank c) :
    HasComment (s ++ gap) ↔ HasComment s := by
  induction s with
  | nil =>
    refine iff_of_false ?_ not_hasComment_nil
    rintro ⟨left, c, right, hgap, -, -⟩
    have hgap : gap = left ++ c :: '#' :: right := hgap
    exact absurd (h '#' (by simp [hgap])) (by decide)
  | cons c s ih =>
    rw [List.cons_append, hasComment_cons, hasComment_cons, ih, opensComment_append_blanks s h]

/-! ### The first comment -/

/-- A comment is found if there is none before it. -/
theorem beforeComment?_append {left right : List Char} {c : Char} (hleft : ¬ HasComment left)
    (hc : isAsciiBlank c) (hright : ∀ d ∈ right.head?, ¬ isHexDigit d) :
    beforeComment? (left ++ c :: '#' :: right) = some (left ++ [c]) := by
  induction left with
  | nil =>
    have hopens : (isAsciiBlank c && opensComment ('#' :: right)) = true := by
      rw [hc, opensComment_hash.mpr hright]
      rfl
    rw [List.nil_append, beforeComment?, if_pos hopens]
    rfl
  | cons d left ih =>
    rw [hasComment_cons, not_or] at hleft
    rw [List.cons_append, beforeComment?, opensComment_append (isBlank_of_isAsciiBlank hc),
      if_neg hleft.1, ih hleft.2]
    rfl

/-- A text is cut at its first comment, after the blank in front of it. -/
theorem exists_of_beforeComment? {s before : List Char} (h : beforeComment? s = some before) :
    ∃ left c right, before = left ++ [c] ∧ s = left ++ c :: '#' :: right ∧ isAsciiBlank c ∧
      (∀ d ∈ right.head?, ¬ isHexDigit d) ∧ ¬ HasComment left := by
  induction s generalizing before with
  | nil => simp [beforeComment?] at h
  | cons c s ih =>
    rw [beforeComment?] at h
    split at h
    · rename_i hopens
      obtain ⟨hc, hopens⟩ := Bool.and_eq_true_iff.mp hopens
      obtain ⟨right, rfl, hright⟩ := opensComment_iff.mp hopens
      obtain rfl := Option.some.inj h
      exact ⟨[], c, right, rfl, rfl, hc, hright, not_hasComment_nil⟩
    · rename_i hnot
      obtain ⟨rest, hrest, rfl⟩ := Option.map_eq_some_iff.mp h
      obtain ⟨left, d, right, rfl, rfl, hd, hright, hleft⟩ := ih hrest
      refine ⟨c :: left, d, right, rfl, rfl, hd, hright, ?_⟩
      rw [opensComment_append (isBlank_of_isAsciiBlank hd)] at hnot
      rw [hasComment_cons, not_or]
      exact ⟨hnot, hleft⟩

theorem beforeComment?_eq_none_iff {s : List Char} :
    beforeComment? s = none ↔ ¬ HasComment s := by
  induction s with
  | nil => exact iff_of_true rfl not_hasComment_nil
  | cons c s ih =>
    rw [beforeComment?, hasComment_cons, not_or, ← ih]
    split
    · rename_i hopens
      simp [hopens]
    · rename_i hnot
      simp [hnot]

/-! ### Main result -/

theorem isCommentless_self {s : List Char} (h : ¬ HasComment s) : IsCommentless s s :=
  ⟨List.prefix_refl s, h, fun hne => absurd rfl hne⟩

theorem isCommentless_stripCommentChars (s : List Char) :
    IsCommentless s (stripCommentChars s) := by
  rw [stripCommentChars]
  split
  · rename_i before hbefore
    obtain ⟨left, c, right, rfl, rfl, hc, hright, hleft⟩ := exists_of_beforeComment? hbefore
    have hblank : ∀ d ∈ [c], isBlank d := by simpa using isBlank_of_isAsciiBlank hc
    rw [trimEnd_append_blank left hblank]
    obtain ⟨gap, hgap, heq⟩ := exists_trimEnd_append left
    refine ⟨⟨gap ++ c :: '#' :: right, by rw [← List.append_assoc, ← heq]⟩, ?_, fun _ => ⟨?_, ?_⟩⟩
    · rwa [heq, hasComment_append_blanks _ hgap] at hleft
    · exact ⟨gap, c, right, by rw [← heq], hgap, hc, hright⟩
    · exact fun d hd => not_blank_of_getLast?_trimEnd hd
  · rename_i hnone
    exact isCommentless_self (beforeComment?_eq_none_iff.mp hnone)

theorem stripCommentChars_of_isCommentless {s left : List Char} (h : IsCommentless s left) :
    stripCommentChars s = left := by
  by_cases heq : left = s
  · obtain rfl := heq
    rw [stripCommentChars, beforeComment?_eq_none_iff.mpr h.free]
  · obtain ⟨⟨gap, c, right, rfl, hgap, hc, hright⟩, htight⟩ := h.cut heq
    have hfree : ¬ HasComment (left ++ gap) := by
      rw [hasComment_append_blanks left hgap]
      exact h.free
    have hblank : ∀ d ∈ gap ++ [c], isBlank d := by
      intro d hd
      rcases List.mem_append.mp hd with hd | hd
      · exact hgap d hd
      · exact List.mem_singleton.mp hd ▸ isBlank_of_isAsciiBlank hc
    rw [stripCommentChars, beforeComment?_append hfree hc hright]
    change trimEnd (left ++ gap ++ [c]) = left
    rw [List.append_assoc, trimEnd_append_blank left hblank, trimEnd_of_getLast? htight]

theorem stripComment_eq_iff {s left : String} :
    stripComment s = left ↔ IsCommentless s.toList left.toList := by
  rw [stripComment, ← String.toList_inj, String.toList_ofList]
  constructor
  · intro h
    exact h ▸ isCommentless_stripCommentChars s.toList
  · exact stripCommentChars_of_isCommentless

/-- What is left of a text without its comment is what `IsCommentless` says, and it has no comment
that could be cut off again. -/
theorem trailing_comment_stripped (s : String) :
    (∀ left, stripComment s = left ↔ IsCommentless s.toList left.toList) ∧
    stripComment (stripComment s) = stripComment s :=
  ⟨fun _ => stripComment_eq_iff,
    stripComment_eq_iff.mpr (isCommentless_self (stripComment_eq_iff.mp rfl).free)⟩

example : stripComment "a #a1b2c3 # #fff" = "a #a1b2c3" := by decide +kernel

end Tilemap
