import Tilemap.Proofs.Coordinates
import Tilemap.Proofs.ObjectLines
import Tilemap.Proofs.Text.Runs

/-!
# Texts of positions

A position is read from a text with two integers in it. They stand apart, either by blanks alone, or
by marks (`x`, `X` or a comma) with or without blanks, and then marks may also stand at the ends of
the text (`IsPositionText`). So what is read is more than two integers with one separator between
them (`IsPlainPosition`), but only where a text has more than one mark (`position_texts`).

The reader cuts the text at the marks, and if this does not give two integers, at the blanks. Both
ways are followed back to the text: the entries between marks by cutting the text again
(`pieces_induction`), the words by their runs.
-/

namespace Tilemap

open Text

/-! ### Statement -/

def isMark (c : Char) : Bool := isTimes c || c = ','

/-- Blanks and marks, or nothing. -/
def IsFiller (s : List Char) : Prop := ∀ c ∈ s, isBlank c ∨ isMark c

/-- The texts in which a position is written. -/
inductive IsPositionText : List Char → Position → Prop where
  | marked {left x between y right : List Char} {p : Position} (hleft : IsFiller left)
      (hx : IsInteger x p.x.toInt) (hbetween : IsFiller between) (hmark : ∃ c ∈ between, isMark c)
      (hy : IsInteger y p.y.toInt) (hright : IsFiller right) :
    IsPositionText (left ++ x ++ between ++ y ++ right) p
  | spaced {left x between y right : List Char} {p : Position} (hleft : IsGap left)
      (hx : IsInteger x p.x.toInt) (hbetween : IsGap between) (hne : between ≠ [])
      (hy : IsInteger y p.y.toInt) (hright : IsGap right) :
    IsPositionText (left ++ x ++ between ++ y ++ right) p

/-- The texts of a position with one separator: a mark, perhaps with blanks around it, or blanks
alone. -/
inductive IsPlainPosition : List Char → Position → Prop where
  | intro {left x between y right : List Char} {p : Position} (hleft : IsGap left)
      (hx : IsInteger x p.x.toInt) (hbetween : IsSeparator ['x', 'X', ','] between)
      (hy : IsInteger y p.y.toInt) (hright : IsGap right) :
    IsPlainPosition (left ++ x ++ between ++ y ++ right) p

/-! ### Characters -/

theorem isMark_iff {c : Char} : isMark c ↔ c ∈ ['x', 'X', ','] := by
  simp [isMark, isTimes, or_assoc]

theorem not_isMark_of_blank {c : Char} (h : isBlank c) : ¬ isMark c := by
  simpa using @of_blank (!isMark ·) (by decide) c h

theorem not_blank_of_isInteger {s : List Char} {n : Int} (h : IsInteger s n) :
    ∀ c ∈ s, ¬ isBlank c := by
  intro c hc
  rcases h.mem hc with rfl | rfl | hdigit
  · decide
  · decide
  · exact fun hblank => not_isDigit_of_blank hblank hdigit

theorem not_isMark_of_isInteger {s : List Char} {n : Int} (h : IsInteger s n) :
    ∀ c ∈ s, ¬ isMark c := by
  intro c hc hmark
  rw [isMark_iff] at hmark
  rcases h.mem hc with rfl | rfl | hdigit
  · exact absurd hmark (by decide)
  · exact absurd hmark (by decide)
  · exact absurd hdigit (not_of_all (by decide) hmark)

/-! ### Entries between marks -/

/-- What stands between marks, without the blanks around it and unless it is blank. -/
def entries (s : List Char) : List (List Char) := ((pieces isMark s).map trim).filter (· ≠ [])

theorem entries_of_none {w : List Char} (h : ∀ c ∈ w, ¬ isMark c) :
    entries w = if trim w = [] then [] else [trim w] := by
  rw [entries, pieces_of_none h]
  split <;> simp_all

theorem entries_append_mark {c : Char} (hc : isMark c) (w r : List Char) :
    entries (w ++ c :: r) = entries w ++ entries r := by
  rw [entries, pieces_append hc, List.map_append, List.filter_append]
  rfl

theorem entries_gap_append {gap : List Char} (hgap : IsGap gap) (s : List Char) :
    entries (gap ++ s) = entries s := by
  have hnone {w : List Char} (hw : ∀ c ∈ w, ¬ isMark c) : entries (gap ++ w) = entries w := by
    have hboth : ∀ c ∈ gap ++ w, ¬ isMark c := fun c hc =>
      (List.mem_append.mp hc).elim (fun hc => not_isMark_of_blank (hgap c hc)) (hw c)
    have htrim : trim (gap ++ w) = trim w := by
      simpa using @trim_margins gap w [] hgap (by simp)
    rw [entries_of_none hboth, entries_of_none hw, htrim]
  induction s using pieces_induction (p := isMark) with
  | last w hw => exact hnone hw
  | cut w c r hw hc _ =>
    rw [← List.append_assoc, entries_append_mark hc, entries_append_mark hc, hnone hw]

theorem entries_append_gap (s : List Char) {gap : List Char} (hgap : IsGap gap) :
    entries (s ++ gap) = entries s := by
  induction s using pieces_induction (p := isMark) with
  | last w hw =>
    have hboth : ∀ c ∈ w ++ gap, ¬ isMark c := fun c hc =>
      (List.mem_append.mp hc).elim (hw c) fun hc => not_isMark_of_blank (hgap c hc)
    have htrim : trim (w ++ gap) = trim w := @trim_margins [] w gap (by simp) hgap
    rw [entries_of_none hboth, entries_of_none hw, htrim]
  | cut w c r _ hc ih =>
    rw [List.append_assoc, List.cons_append, entries_append_mark hc, entries_append_mark hc, ih]

theorem entries_trim (s : List Char) : entries (trim s) = entries s := by
  obtain ⟨left, right, hs, hleft, hright⟩ := exists_eq_trim s
  calc entries (trim s)
      = entries (left ++ trim s ++ right) := by
        rw [entries_append_gap _ hright, entries_gap_append hleft]
    _ = entries s := by rw [← hs]

theorem isFiller_append {s r : List Char} : IsFiller (s ++ r) ↔ IsFiller s ∧ IsFiller r :=
  List.forall_mem_append

theorem isFiller_cons_of_mark {c : Char} (hc : isMark c) {r : List Char} :
    IsFiller (c :: r) ↔ IsFiller r := by
  simp [IsFiller, hc]

theorem isFiller_of_isGap {s : List Char} (h : IsGap s) : IsFiller s := fun c hc => .inl (h c hc)

theorem entries_eq_nil_iff_of_none {w : List Char} (hw : ∀ c ∈ w, ¬ isMark c) :
    entries w = [] ↔ IsFiller w := by
  rw [entries_of_none hw]
  constructor
  · intro h c hc
    by_contra hnot
    rw [not_or] at hnot
    rw [if_neg (trim_ne_nil ⟨c, hc, hnot.1⟩)] at h
    exact List.cons_ne_nil _ _ h
  · intro h
    exact if_pos (trim_of_blank fun c hc => (h c hc).resolve_right (hw c hc))

/-- Blanks and marks have no entries between them. -/
theorem entries_eq_nil_iff {s : List Char} : entries s = [] ↔ IsFiller s := by
  induction s using pieces_induction (p := isMark) with
  | last w hw => exact entries_eq_nil_iff_of_none hw
  | cut w c r hw hc ih =>
    rw [entries_append_mark hc, List.append_eq_nil_iff, ih, isFiller_append,
      isFiller_cons_of_mark hc, entries_eq_nil_iff_of_none hw]

theorem entries_filler_append {left : List Char} (h : IsFiller left) (s : List Char) :
    entries (left ++ s) = entries s := by
  induction left with
  | nil => rfl
  | cons c left ih =>
    obtain ⟨hc, hleft⟩ := List.forall_mem_cons.mp h
    rcases hc with hc | hc
    · have hgap : IsGap [c] := by simpa [IsGap] using hc
      exact (entries_gap_append hgap (left ++ s)).trans (ih hleft)
    · exact (entries_append_mark hc [] (left ++ s)).trans (ih hleft)

theorem entries_append_filler (s : List Char) {right : List Char} (h : IsFiller right) :
    entries (s ++ right) = entries s := by
  induction right generalizing s with
  | nil => rw [List.append_nil]
  | cons c right ih =>
    obtain ⟨hc, hright⟩ := List.forall_mem_cons.mp h
    rcases hc with hc | hc
    · have hgap : IsGap [c] := by simpa [IsGap] using hc
      rw [← List.singleton_append, ← List.append_assoc, ih (s ++ [c]) hright,
        entries_append_gap s hgap]
    · rw [entries_append_mark hc, entries_eq_nil_iff.mpr hright, List.append_nil]

/-- The first entry stands behind blanks and marks, and the others behind the next mark. -/
theorem exists_of_entries_eq_cons {s x : List Char} {xs : List (List Char)}
    (h : entries s = x :: xs) : ∃ left gap rest, s = left ++ x ++ gap ++ rest ∧ IsFiller left ∧
      IsGap gap ∧ (rest = [] ∧ xs = [] ∨ ∃ c r, rest = c :: r ∧ isMark c ∧ entries r = xs) := by
  induction s using pieces_induction (p := isMark) with
  | last w hw =>
    rw [entries_of_none hw] at h
    split at h
    · cases h
    · obtain ⟨rfl, rfl⟩ := List.cons.inj h
      obtain ⟨left, gap, hs, hleft, hgap⟩ := exists_eq_trim w
      exact ⟨left, gap, [], by rw [List.append_nil, ← hs], isFiller_of_isGap hleft, hgap,
        .inl ⟨rfl, rfl⟩⟩
  | cut w c r hw hc ih =>
    rw [entries_append_mark hc, entries_of_none hw] at h
    split at h
    · rename_i hblank
      have hfiller : IsFiller w := by
        rw [← entries_eq_nil_iff_of_none hw, entries_of_none hw, if_pos hblank]
      obtain ⟨left, gap, rest, rfl, hleft, hgap, hrest⟩ := ih h
      refine ⟨w ++ c :: left, gap, rest, by simp, ?_, hgap, hrest⟩
      exact isFiller_append.mpr ⟨hfiller, (isFiller_cons_of_mark hc).mpr hleft⟩
    · obtain ⟨rfl, hxs⟩ := List.cons.inj h
      obtain ⟨left, gap, hs, hleft, hgap⟩ := exists_eq_trim w
      exact ⟨left, gap, c :: r, by rw [← hs], isFiller_of_isGap hleft, hgap,
        .inr ⟨c, r, rfl, hc, hxs⟩⟩

/-! ### Two integers -/

/-- Two texts that are the coordinates of a position. -/
def IsPairOf (texts : List (List Char)) (p : Position) : Prop :=
  ∃ x y, texts = [x, y] ∧ IsInteger x p.x.toInt ∧ IsInteger y p.y.toInt

theorem not_isPairOf_nil {p : Position} : ¬ IsPairOf [] p := nofun

theorem not_isPairOf_singleton {text : List Char} {p : Position} : ¬ IsPairOf [text] p := nofun

/-- Two parts make a position if they are what its coordinates look like. -/
theorem twoIntegers?_eq_some_iff {parts : List (List Char)} {p : Position} :
    twoIntegers? parts = some (p.x, p.y) ↔ IsPairOf ((parts.map trim).filter (· ≠ [])) p := by
  rw [twoIntegers?]
  split
  · rename_i x y hparts
    rw [hparts]
    simp [IsPairOf, ← int32?_eq_some_iff, Option.bind_eq_some_iff]
  · rename_i hparts
    refine iff_of_false (by simp) ?_
    rintro ⟨x, y, heq, -⟩
    exact hparts x y heq

/-! ### Words -/

/-- Words are not cut any further. -/
theorem filter_map_trim_words (s : List Char) : ((words s).map trim).filter (· ≠ []) = words s := by
  have hmem {word : List Char} (h : word ∈ words s) : word ≠ [] ∧ ∀ c ∈ word, ¬ isBlank c := by
    simpa using (hasRuns_words_iff.mpr rfl).mem h
  have htrim : (words s).map trim = words s := by
    conv_rhs => rw [← List.map_id (words s)]
    exact List.map_congr_left fun word h => trim_of_not_blank (hmem h).2
  rw [htrim, List.filter_eq_self]
  exact fun word h => by simpa using (hmem h).1

/-- Two words stand between blanks. -/
theorem words_eq_pair_iff {s x y : List Char} (hx : x ≠ [] ∧ ∀ c ∈ x, ¬ isBlank c)
    (hy : y ≠ [] ∧ ∀ c ∈ y, ¬ isBlank c) : words s = [x, y] ↔
      ∃ left between right, s = left ++ x ++ between ++ y ++ right ∧ IsGap left ∧ IsGap between ∧
        between ≠ [] ∧ IsGap right := by
  rw [← hasRuns_words_iff]
  constructor
  · intro h
    cases h with
    | @run left _ _ _ hleft _ _ hstop hrest =>
      cases hrest with
      | @run between _ rest _ hbetween _ _ _ hrest =>
        cases hrest with
        | none hright =>
          refine ⟨left, between, rest, by simp only [List.append_assoc],
            by simpa [IsGap] using hleft, by simpa [IsGap] using hbetween, ?_,
            by simpa [IsGap] using hright⟩
          rintro rfl
          obtain ⟨d, y, rfl⟩ := List.exists_cons_of_ne_nil hy.1
          exact hstop d rfl (by simpa using hy.2 d List.mem_cons_self)
  · rintro ⟨left, between, right, rfl, hleft, hbetween, hne, hright⟩
    have hnot {gap : List Char} (h : IsGap gap) : ∀ c ∈ gap, ¬ (!isBlank c) = true := by
      simpa [IsGap] using h
    have hruns : HasRuns (fun c => !isBlank c) (between ++ y ++ right) [y] :=
      .run (hnot hbetween) hy.1 (by simpa using hy.2)
        (fun c hc => hnot hright c (List.mem_of_mem_head? hc)) (.none (hnot hright))
    have hstop : ∀ c ∈ (between ++ y ++ right).head?, ¬ (!isBlank c) = true := by
      obtain ⟨d, between, rfl⟩ := List.exists_cons_of_ne_nil hne
      simpa using hbetween d List.mem_cons_self
    have h := HasRuns.run (hnot hleft) hx.1 (by simpa using hx.2) hstop hruns
    simpa only [List.append_assoc] using h

theorem isWord_of_isInteger {s : List Char} {n : Int} (h : IsInteger s n) :
    s ≠ [] ∧ ∀ c ∈ s, ¬ isBlank c :=
  ⟨h.ne_nil, not_blank_of_isInteger h⟩

/-- The words of a text are a pair exactly if two integers stand in it with blanks between. -/
theorem isPairOf_words_iff {s : List Char} {p : Position} : IsPairOf (words s) p ↔
    ∃ left x between y right, s = left ++ x ++ between ++ y ++ right ∧ IsGap left ∧
      IsInteger x p.x.toInt ∧ IsGap between ∧ between ≠ [] ∧ IsInteger y p.y.toInt ∧
      IsGap right := by
  constructor
  · rintro ⟨x, y, hwords, hx, hy⟩
    obtain ⟨left, between, right, hs, hleft, hbetween, hne, hright⟩ :=
      (words_eq_pair_iff (isWord_of_isInteger hx) (isWord_of_isInteger hy)).mp hwords
    exact ⟨left, x, between, y, right, hs, hleft, hx, hbetween, hne, hy, hright⟩
  · rintro ⟨left, x, between, y, right, hs, hleft, hx, hbetween, hne, hy, hright⟩
    exact ⟨x, y, (words_eq_pair_iff (isWord_of_isInteger hx) (isWord_of_isInteger hy)).mpr
      ⟨left, between, right, hs, hleft, hbetween, hne, hright⟩, hx, hy⟩

/-- Words that are integers have no marks in them, so there is one entry at most. -/
theorem not_isPairOf_entries_of_words {s : List Char} {p q : Position} (h : IsPairOf (words s) p) :
    ¬ IsPairOf (entries s) q := by
  obtain ⟨left, x, between, y, right, rfl, hleft, hx, hbetween, -, hy, hright⟩ :=
    isPairOf_words_iff.mp h
  have hgap {gap : List Char} (h : IsGap gap) : ∀ c ∈ gap, ¬ isMark c :=
    fun c hc => not_isMark_of_blank (h c hc)
  have hnone : ∀ c ∈ left ++ x ++ between ++ y ++ right, ¬ isMark c := by
    simp only [List.forall_mem_append]
    exact ⟨⟨⟨⟨hgap hleft, not_isMark_of_isInteger hx⟩, hgap hbetween⟩, not_isMark_of_isInteger hy⟩,
      hgap hright⟩
  rw [entries_of_none hnone]
  split
  · exact not_isPairOf_nil
  · exact not_isPairOf_singleton

/-- A position is read from two entries, or else from two words. -/
theorem parse?_eq_some_iff_isPairOf {text : String} {p : Position} :
    Position.parse? text = some p ↔
      IsPairOf (entries text.toList) p ∨ IsPairOf (words text.toList) p := by
  rw [← entries_trim, ← words_trim, Position.parse?]
  dsimp only
  split
  · rename_i hnil
    rw [hnil]
    exact iff_of_false (by simp) (not_or.mpr ⟨not_isPairOf_nil, not_isPairOf_nil⟩)
  · have hentries (q : Position) :
        twoIntegers? (pieces (fun c => isTimes c || c = ',') (trim text.toList)) =
          some (q.x, q.y) ↔ IsPairOf (entries (trim text.toList)) q := twoIntegers?_eq_some_iff
    have hwords (q : Position) : twoIntegers? (words (trim text.toList)) = some (q.x, q.y) ↔
        IsPairOf (words (trim text.toList)) q := by
      rw [twoIntegers?_eq_some_iff, filter_map_trim_words]
    have hnone (h : IsPairOf (words (trim text.toList)) p) :
        twoIntegers? (pieces (fun c => isTimes c || c = ',') (trim text.toList)) = none := by
      rw [Option.eq_none_iff_forall_ne_some]
      rintro ⟨x, y⟩ heq
      exact not_isPairOf_entries_of_words h ((hentries ⟨x, y⟩).mp heq)
    rw [Option.map_eq_some_iff]
    constructor
    · rintro ⟨⟨x, y⟩, hread, rfl⟩
      rw [Option.or_eq_some_iff] at hread
      exact hread.imp (hentries ⟨x, y⟩).mp fun h => (hwords ⟨x, y⟩).mp h.2
    · intro h
      refine ⟨(p.x, p.y), Option.or_eq_some_iff.mpr ?_, rfl⟩
      exact h.imp (hentries p).mpr fun h => ⟨hnone h, (hwords p).mpr h⟩

/-! ### Main result -/

theorem isPositionText_of_isPairOf_entries {s : List Char} {p : Position}
    (h : IsPairOf (entries s) p) : IsPositionText s p := by
  obtain ⟨x, y, hentries, hx, hy⟩ := h
  obtain ⟨left, gap, rest, rfl, hleft, hgap, ⟨-, hnil⟩ | ⟨c, r, rfl, hc, hr⟩⟩ :=
    exists_of_entries_eq_cons hentries
  · cases hnil
  · obtain ⟨left', gap', rest, rfl, hleft', hgap', hrest⟩ := exists_of_entries_eq_cons hr
    have hbetween : IsFiller (gap ++ c :: left') :=
      isFiller_append.mpr ⟨isFiller_of_isGap hgap, (isFiller_cons_of_mark hc).mpr hleft'⟩
    have hright : IsFiller (gap' ++ rest) := by
      refine isFiller_append.mpr ⟨isFiller_of_isGap hgap', ?_⟩
      rcases hrest with ⟨rfl, -⟩ | ⟨d, r, rfl, hd, hr⟩
      · exact nofun
      · exact (isFiller_cons_of_mark hd).mpr (entries_eq_nil_iff.mp hr)
    have htext := IsPositionText.marked hleft hx hbetween ⟨c, by simp, hc⟩ hy hright
    simpa only [List.append_assoc, List.cons_append] using htext

theorem entries_of_isInteger {s : List Char} {n : Int} (h : IsInteger s n) : entries s = [s] := by
  rw [entries_of_none (not_isMark_of_isInteger h), trim_of_not_blank (not_blank_of_isInteger h),
    if_neg h.ne_nil]

/-- A text for a position has two entries for it or two words. -/
theorem isPairOf_of_isPositionText {s : List Char} {p : Position} (h : IsPositionText s p) :
    IsPairOf (entries s) p ∨ IsPairOf (words s) p := by
  cases h with
  | @marked left x between y right _ hleft hx hbetween hmark hy hright =>
    left
    obtain ⟨c, hmem, hc⟩ := hmark
    obtain ⟨before, after, rfl⟩ := List.append_of_mem hmem
    obtain ⟨hbefore, hafter⟩ := isFiller_append.mp hbetween
    rw [isFiller_cons_of_mark hc] at hafter
    have hentries : entries (left ++ x ++ (before ++ c :: after) ++ y ++ right) = [x, y] := by
      calc entries (left ++ x ++ (before ++ c :: after) ++ y ++ right)
          = entries ((left ++ x ++ before) ++ c :: (after ++ y ++ right)) := by
            simp only [List.append_assoc, List.cons_append]
        _ = entries x ++ entries y := by
            rw [entries_append_mark hc, entries_append_filler _ hbefore,
              entries_filler_append hleft, entries_append_filler _ hright,
              entries_filler_append hafter]
        _ = [x, y] := by rw [entries_of_isInteger hx, entries_of_isInteger hy]; rfl
    exact ⟨x, y, hentries, hx, hy⟩
  | spaced hleft hx hbetween hne hy hright =>
    right
    exact isPairOf_words_iff.mpr ⟨_, _, _, _, _, rfl, hleft, hx, hbetween, hne, hy, hright⟩

theorem parse?_eq_some_iff_isPositionText {text : String} {p : Position} :
    Position.parse? text = some p ↔ IsPositionText text.toList p := by
  rw [parse?_eq_some_iff_isPairOf]
  constructor
  · rintro (h | h)
    · exact isPositionText_of_isPairOf_entries h
    · obtain ⟨_, _, _, _, _, hs, hleft, hx, hbetween, hne, hy, hright⟩ := isPairOf_words_iff.mp h
      rw [hs]
      exact .spaced hleft hx hbetween hne hy hright
  · exact isPairOf_of_isPositionText

theorem countP_isMark_of_isInteger {s : List Char} {n : Int} (h : IsInteger s n) :
    s.countP isMark = 0 :=
  List.countP_eq_zero.mpr (not_isMark_of_isInteger h)

theorem countP_isMark_eq_zero_iff {s : List Char} (h : IsFiller s) :
    s.countP isMark = 0 ↔ IsGap s := by
  rw [List.countP_eq_zero]
  exact forall₂_congr fun c hc =>
    ⟨fun hnot => (h c hc).resolve_right hnot, not_isMark_of_blank⟩

/-- Only marks beyond the first tell the texts of positions from those with one separator. -/
theorem isPlainPosition_iff {s : List Char} {p : Position} :
    IsPlainPosition s p ↔ IsPositionText s p ∧ s.countP isMark ≤ 1 := by
  have hgap {gap : List Char} (h : IsGap gap) : gap.countP isMark = 0 :=
    (countP_isMark_eq_zero_iff (isFiller_of_isGap h)).mpr h
  constructor
  · rintro ⟨hleft, hx, hbetween, hy, hright⟩
    simp only [List.countP_append, hgap hleft, hgap hright, countP_isMark_of_isInteger hx,
      countP_isMark_of_isInteger hy]
    cases hbetween with
    | blanks hbetween hne =>
      exact ⟨.spaced hleft hx hbetween hne hy hright, by simp [hgap hbetween]⟩
    | @mark before after c hc hbefore hafter =>
      have hmark : isMark c := isMark_iff.mpr hc
      refine ⟨.marked (isFiller_of_isGap hleft) hx ?_ ⟨c, by simp, hmark⟩ hy
        (isFiller_of_isGap hright), ?_⟩
      · exact isFiller_append.mpr ⟨isFiller_of_isGap hbefore,
          (isFiller_cons_of_mark hmark).mpr (isFiller_of_isGap hafter)⟩
      · simp [List.countP_append, List.countP_cons_of_pos hmark, hgap hbefore, hgap hafter]
  · rintro ⟨h, hcount⟩
    cases h with
    | spaced hleft hx hbetween hne hy hright =>
      exact .intro hleft hx (.blanks hbetween hne) hy hright
    | @marked left x between y right _ hleft hx hbetween hmark hy hright =>
      obtain ⟨c, hmem, hc⟩ := hmark
      obtain ⟨before, after, rfl⟩ := List.append_of_mem hmem
      obtain ⟨hbefore, hafter⟩ := isFiller_append.mp hbetween
      rw [isFiller_cons_of_mark hc] at hafter
      simp only [List.countP_append, List.countP_cons_of_pos hc, countP_isMark_of_isInteger hx,
        countP_isMark_of_isInteger hy] at hcount
      -- the mark that was found is the only one
      have hnone {filler : List Char} (h : IsFiller filler) (hzero : filler.countP isMark = 0) :
          IsGap filler := (countP_isMark_eq_zero_iff h).mp hzero
      exact .intro (hnone hleft (by omega)) hx
        (.mark (isMark_iff.mp hc) (hnone hbefore (by omega)) (hnone hafter (by omega))) hy
        (hnone hright (by omega))

/-- A position is read from the texts in which it is written, and from no others. Those with one
separator are the ones that have one mark at most. -/
theorem position_texts (text : String) (p : Position) :
    (Position.parse? text = some p ↔ IsPositionText text.toList p) ∧
    (IsPlainPosition text.toList p ↔
      Position.parse? text = some p ∧ text.toList.countP isMark ≤ 1) := by
  refine ⟨parse?_eq_some_iff_isPositionText, ?_⟩
  rw [isPlainPosition_iff, parse?_eq_some_iff_isPositionText]

example : Position.parse? " 7 X -8 " = some ⟨7, -8⟩ := by decide +kernel

/-- A position is read from a text with two marks, though two marks are not one separator. -/
theorem exists_position_of_two_marks :
    Position.parse? "1xx2" = some ⟨1, 2⟩ ∧ ¬ ∃ p, IsPlainPosition "1xx2".toList p := by
  refine ⟨by decide +kernel, ?_⟩
  rintro ⟨p, hp⟩
  exact absurd (isPlainPosition_iff.mp hp).2 (by decide)

end Tilemap
