import Mathlib.Data.List.TakeWhile
import Tilemap.Section

/-!
# Trimmed lines

Blanks at the ends of a text do not show once it is trimmed, and a blank inside it ends a word.
Trimming and dropping a comment leave a text that starts with a character that is not blank, unless
they leave nothing. So every line of a section has a word, and so has its code.
-/

namespace Tilemap

namespace Text

/-- All blanks. -/
def blanks : List Char :=
  (blankRanges.flatMap fun r => List.range' r.1 (r.2 + 1 - r.1)).map Char.ofNat

theorem mem_blanks {c : Char} (h : isBlank c) : c ∈ blanks := by
  obtain ⟨r, hr, hc⟩ := List.any_eq_true.mp h
  simp only [Bool.and_eq_true, decide_eq_true_eq] at hc
  refine List.mem_map.mpr ⟨c.toNat, List.mem_flatMap.mpr ⟨r, hr, ?_⟩, Char.ofNat_toNat c⟩
  rw [List.mem_range'_1]
  omega

/-- What holds of every blank, by testing them all. -/
theorem of_blank {p : Char → Bool} (h : blanks.all p) {c : Char} (hc : isBlank c) : p c :=
  List.all_eq_true.mp h c (mem_blanks hc)

theorem isBlank_of_isAsciiBlank {c : Char} (h : isAsciiBlank c) : isBlank c := by
  simp only [isAsciiBlank, Bool.or_eq_true, decide_eq_true_eq] at h
  rcases h with (((rfl | rfl) | rfl) | rfl) | rfl <;> rfl

theorem trimEnd_cons_of_not_blank {c : Char} (h : ¬ isBlank c) (r : List Char) :
    trimEnd (c :: r) = c :: trimEnd r := by
  rw [trimEnd]
  split
  · rename_i hnil
    simp [h, hnil]
  · rename_i hcons
    rw [hcons]

/-- Trimming the end goes no further than the last character that is not blank. -/
theorem trimEnd_append_cons (s : List Char) {c : Char} (h : ¬ isBlank c) (r : List Char) :
    trimEnd (s ++ c :: r) = s ++ c :: trimEnd r := by
  induction s with
  | nil => exact trimEnd_cons_of_not_blank h r
  | cons d s ih =>
    rw [List.cons_append, trimEnd, ih]
    cases s <;> rfl

theorem trimEnd_of_not_blank {s : List Char} (h : ∀ c ∈ s, ¬ isBlank c) : trimEnd s = s := by
  induction s with
  | nil => rfl
  | cons c s ih =>
    obtain ⟨hc, hs⟩ := List.forall_mem_cons.mp h
    rw [trimEnd_cons_of_not_blank hc, ih hs]

/-- Only blanks are cut off at the end. -/
theorem exists_trimEnd_append (s : List Char) :
    ∃ gap, (∀ c ∈ gap, isBlank c) ∧ s = trimEnd s ++ gap := by
  induction s with
  | nil => exact ⟨[], by simp, rfl⟩
  | cons c s ih =>
    obtain ⟨gap, hgap, hs⟩ := ih
    by_cases hnil : trimEnd s = [] ∧ isBlank c
    · obtain ⟨hnil, hc⟩ := hnil
      rw [hnil, List.nil_append] at hs
      exact ⟨c :: gap, by simpa [hc] using hgap, by simp [trimEnd, hnil, hc, ← hs]⟩
    · have hcons : trimEnd (c :: s) = c :: trimEnd s := by
        rw [trimEnd]
        split
        · rename_i heq
          rw [if_neg fun hc => hnil ⟨heq, hc⟩, heq]
        · rename_i heq
          rw [heq]
      exact ⟨gap, hgap, by rw [hcons, List.cons_append, ← hs]⟩

theorem not_isDigit_of_blank {c : Char} (h : isBlank c) : ¬ c.isDigit := by
  simpa using @of_blank (!Char.isDigit ·) (by decide) c h

theorem not_blank_of_trimStart_eq_cons {s r : List Char} {c : Char} (h : trimStart s = c :: r) :
    ¬ isBlank c := by
  rw [trimStart] at h
  have hhead := List.head_dropWhile_not isBlank (l := s) (by simp [h])
  simpa [h] using hhead

/-- Trimming at the end leaves the first character. -/
theorem head?_trim (s : List Char) : (trim s).head? = (trimStart s).head? := by
  rw [trim]
  cases hs : trimStart s with
  | nil => rfl
  | cons c r => rw [trimEnd_cons_of_not_blank (not_blank_of_trimStart_eq_cons hs)]; rfl

/-- What is left of a text after trimming starts with a character that is not blank. -/
theorem not_blank_of_trim_eq_cons {s r : List Char} {c : Char} (h : trim s = c :: r) :
    ¬ isBlank c := by
  have hhead : (trimStart s).head? = some c := by rw [← head?_trim, h]; rfl
  obtain ⟨r', hr'⟩ := List.head?_eq_some_iff.mp hhead
  exact not_blank_of_trimStart_eq_cons hr'

theorem trim_of_blank {s : List Char} (h : ∀ c ∈ s, isBlank c) : trim s = [] := by
  have hstart : trimStart s = [] := by
    rw [trimStart, List.dropWhile_eq_nil_iff]
    exact h
  rw [trim, hstart, trimEnd_nil]

theorem trimEnd_append_blank (s : List Char) {right : List Char} (h : ∀ c ∈ right, isBlank c) :
    trimEnd (s ++ right) = trimEnd s := by
  induction s with
  | nil =>
    induction right with
    | nil => rfl
    | cons c rest ih =>
      obtain ⟨hc, hrest⟩ := List.forall_mem_cons.mp h
      have hnil : trimEnd rest = [] := ih hrest
      simp [trimEnd, hnil, hc]
  | cons c rest ih => simp only [List.cons_append, trimEnd, ih]

@[simp] theorem trimEnd_trimEnd (s : List Char) : trimEnd (trimEnd s) = trimEnd s := by
  obtain ⟨gap, hgap, hs⟩ := exists_trimEnd_append s
  have h := trimEnd_append_blank (trimEnd s) hgap
  rw [← hs] at h
  exact h.symm

theorem not_blank_of_getLast?_trimEnd {s : List Char} {c : Char}
    (h : c ∈ (trimEnd s).getLast?) : ¬ isBlank c := by
  intro hc
  obtain ⟨rest, hrest⟩ := List.getLast?_eq_some_iff.mp h
  -- a blank at the end would be cut off once more
  have hcut : trimEnd (rest ++ [c]) = trimEnd rest := trimEnd_append_blank rest (by simpa using hc)
  obtain ⟨gap, -, hgap⟩ := exists_trimEnd_append rest
  have hlen := congrArg List.length hgap
  rw [← hcut, ← hrest, trimEnd_trimEnd, hrest] at hlen
  simp at hlen

theorem trimEnd_of_getLast? {s : List Char} (h : ∀ c ∈ s.getLast?, ¬ isBlank c) :
    trimEnd s = s := by
  cases hlast : s.getLast? with
  | none => rw [List.getLast?_eq_none_iff.mp hlast, trimEnd_nil]
  | some c =>
    have hc : ¬ isBlank c := h c hlast
    obtain ⟨rest, rfl⟩ := List.getLast?_eq_some_iff.mp hlast
    rw [trimEnd_append_cons rest hc, trimEnd_nil]

theorem trimStart_ne_nil {s : List Char} (h : ∃ c ∈ s, ¬ isBlank c) : trimStart s ≠ [] := by
  obtain ⟨c, hc, hnot⟩ := h
  rw [trimStart, Ne, List.dropWhile_eq_nil_iff]
  exact fun h => hnot (h c hc)

theorem trimStart_append {s : List Char} (h : ∃ c ∈ s, ¬ isBlank c) (r : List Char) :
    trimStart (s ++ r) = trimStart s ++ r := by
  have hne : ¬ (s.dropWhile isBlank).isEmpty := by
    rw [List.isEmpty_iff]
    exact trimStart_ne_nil h
  rw [trimStart, List.dropWhile_append, if_neg hne]
  rfl

theorem trimStart_of_blank {s : List Char} (h : ∀ c ∈ s, isBlank c) (r : List Char) :
    trimStart (s ++ r) = trimStart r :=
  List.dropWhile_append_of_pos h

theorem trimStart_trimStart (s : List Char) : trimStart (trimStart s) = trimStart s := by
  cases hs : trimStart s with
  | nil => rfl
  | cons c r => exact List.dropWhile_cons_of_neg (not_blank_of_trimStart_eq_cons hs)

@[simp] theorem trim_trimStart (s : List Char) : trim (trimStart s) = trim s := by
  rw [trim, trimStart_trimStart, trim]

/-- A character that is not blank keeps what stands between it and the ends. -/
theorem trim_append_cons (s : List Char) {c : Char} (h : ¬ isBlank c) (r : List Char) :
    trim (s ++ c :: r) = trimStart s ++ c :: trimEnd r := by
  have hcons : trimStart (c :: r) = c :: r := List.dropWhile_cons_of_neg h
  by_cases hs : ∀ d ∈ s, isBlank d
  · have hnil : trimStart s = [] := by
      rw [trimStart, List.dropWhile_eq_nil_iff]
      exact hs
    rw [trim, trimStart_of_blank hs, hcons, trimEnd_cons_of_not_blank h, hnil, List.nil_append]
  · have hsome : ∃ d ∈ s, ¬ isBlank d := by simpa using hs
    rw [trim, trimStart_append hsome, trimEnd_append_cons _ h]

theorem trimStart_of_trim_eq {s : List Char} (h : trim s = s) : trimStart s = s := by
  cases s with
  | nil => rfl
  | cons c r => exact List.dropWhile_cons_of_neg (not_blank_of_trim_eq_cons h)

/-- Margins change nothing in a text that is trimmed. -/
theorem trim_margins {left text right : List Char} (hleft : ∀ c ∈ left, isBlank c)
    (hright : ∀ c ∈ right, isBlank c) : trim (left ++ text ++ right) = trim text := by
  rw [List.append_assoc, trim, trimStart_of_blank hleft]
  by_cases hall : ∀ c ∈ text, isBlank c
  · have hboth : ∀ c ∈ text ++ right, isBlank c := fun c hc =>
      (List.mem_append.mp hc).elim (hall c) (hright c)
    rw [trim_of_blank hall]
    exact trim_of_blank hboth
  · have htext : ∃ c ∈ text, ¬ isBlank c := by simpa using hall
    rw [trimStart_append htext, trimEnd_append_blank _ hright, trim]

@[simp] theorem trimEnd_trim (s : List Char) : trimEnd (trim s) = trim s := trimEnd_trimEnd _

@[simp] theorem trim_trimEnd (s : List Char) : trim (trimEnd s) = trim s := by
  obtain ⟨gap, hgap, hs⟩ := exists_trimEnd_append s
  have h := @trim_margins [] (trimEnd s) gap (by simp) hgap
  rw [List.nil_append, ← hs] at h
  exact h.symm

@[simp] theorem trim_trim (s : List Char) : trim (trim s) = trim s := by
  calc trim (trim s)
      = trim (trimEnd (trimStart s)) := rfl
    _ = trim (trimStart s) := trim_trimEnd _
    _ = trim s := trim_trimStart s

/-- Only blanks are cut off at the ends. -/
theorem exists_eq_trim (s : List Char) : ∃ left right, s = left ++ trim s ++ right ∧
    (∀ c ∈ left, isBlank c) ∧ ∀ c ∈ right, isBlank c := by
  obtain ⟨right, hright, hstart⟩ := exists_trimEnd_append (trimStart s)
  refine ⟨s.takeWhile isBlank, right, ?_, fun c hc => List.mem_takeWhile_imp hc, hright⟩
  rw [List.append_assoc, trim, ← hstart, trimStart, List.takeWhile_append_dropWhile]

theorem trim_ne_nil {s : List Char} (h : ∃ c ∈ s, ¬ isBlank c) : trim s ≠ [] := by
  intro hnil
  have hhead := head?_trim s
  rw [hnil, List.head?_nil, eq_comm, List.head?_eq_none_iff] at hhead
  exact trimStart_ne_nil h hhead

theorem mem_of_mem_trim {s : List Char} {c : Char} (h : c ∈ trim s) : c ∈ s := by
  obtain ⟨gap, -, hs⟩ := exists_trimEnd_append (trimStart s)
  have hstart : c ∈ trimStart s := by
    rw [hs]
    exact List.mem_append_left gap h
  exact (List.dropWhile_suffix _).subset hstart

/-- A text is kept without its margins, and only if something is left. -/
theorem nonBlank?_ofList (s : List Char) :
    nonBlank? (String.ofList s) = if trim s = [] then none else some (String.ofList (trim s)) := by
  rw [nonBlank?, String.toList_ofList]
  cases trim s <;> rfl

theorem nonBlank?_eq_none_iff {s : String} : nonBlank? s = none ↔ ∀ c ∈ s.toList, isBlank c := by
  have hread := nonBlank?_ofList s.toList
  rw [String.ofList_toList] at hread
  rw [hread]
  constructor
  · intro hnone c hc
    by_contra hblank
    rw [if_neg (trim_ne_nil ⟨c, hc, hblank⟩)] at hnone
    cases hnone
  · intro hblank
    exact if_pos (trim_of_blank hblank)

theorem toList_of_nonBlank? {s t : String} (h : nonBlank? s = some t) :
    t.toList = trim s.toList ∧ t.toList ≠ [] := by
  rw [nonBlank?] at h
  split at h
  · cases h
  · rename_i hne
    obtain rfl := Option.some.inj h
    rw [String.toList_ofList]
    exact ⟨rfl, hne⟩

/-- A text that starts and ends with a character that is not blank is trimmed. -/
theorem trim_of_ends {c d : Char} {r r' : List Char} (hc : ¬ isBlank c) (hd : ¬ isBlank d)
    (h : c :: r = r' ++ [d]) : trim (c :: r) = c :: r := by
  have hstart : trimStart (c :: r) = c :: r := List.dropWhile_cons_of_neg hc
  rw [trim, hstart, h, trimEnd_append_cons r' hd, trimEnd_nil]

theorem nonBlank?_of_trim_eq {s : String} (hne : s.toList ≠ []) (h : trim s.toList = s.toList) :
    nonBlank? s = some s := by
  rw [nonBlank?, h]
  split
  · contradiction
  · rw [String.ofList_toList]

/-- A text that was trimmed is trimmed. -/
theorem nonBlank?_of_nonBlank? {s t : String} (h : nonBlank? s = some t) :
    nonBlank? t = some t := by
  obtain ⟨htrim, hne⟩ := toList_of_nonBlank? h
  exact nonBlank?_of_trim_eq hne (by rw [htrim, trim_trim])

theorem trim_of_not_blank {s : List Char} (h : ∀ c ∈ s, ¬ isBlank c) : trim s = s := by
  have hstart : trimStart s = s := by
    rw [trimStart, List.dropWhile_eq_self_iff]
    exact fun _ => h _ (List.getElem_mem _)
  rw [trim, hstart, trimEnd_of_not_blank h]

/-- A text without blanks stays as it is. -/
theorem nonBlank?_of_not_blank {s : String} (hne : s.toList ≠ [])
    (h : ∀ c ∈ s.toList, ¬ isBlank c) : nonBlank? s = some s :=
  nonBlank?_of_trim_eq hne (trim_of_not_blank h)

theorem head_of_nonBlank? {s t : String} (h : nonBlank? s = some t) :
    ∃ c r, t.toList = c :: r ∧ ¬ isBlank c := by
  obtain ⟨htrim, hne⟩ := toList_of_nonBlank? h
  obtain ⟨c, r, hcons⟩ := List.exists_cons_of_ne_nil hne
  exact ⟨c, r, hcons, not_blank_of_trim_eq_cons (htrim.symm.trans hcons)⟩

theorem words_ne_nil {c : Char} (h : ¬ isBlank c) (r : List Char) : words (c :: r) ≠ [] := by
  rw [words, pieces, if_neg h]
  split
  · simp
  · simp

/-- A separator parts the pieces before it from those after it. -/
theorem pieces_append {p : Char → Bool} {c : Char} (h : p c) (s r : List Char) :
    pieces p (s ++ c :: r) = pieces p s ++ pieces p r := by
  induction s with
  | nil => simp [pieces, h]
  | cons d s ih =>
    rw [List.cons_append, pieces, pieces, ih]
    split
    · rfl
    · cases hs : pieces p s with
      | nil => exact absurd hs (pieces_ne_nil p s)
      | cons w ws => rfl

theorem pieces_of_none {p : Char → Bool} {s : List Char} (h : ∀ c ∈ s, ¬ p c) :
    pieces p s = [s] := by
  induction s with
  | nil => rfl
  | cons c s ih =>
    obtain ⟨hc, hs⟩ := List.forall_mem_cons.mp h
    rw [pieces, if_neg hc, ih hs]

/-- Pieces with one character between them are found again. -/
theorem pieces_flatMap {c : Char} {w : List Char} {ws : List (List Char)}
    (h : ∀ v ∈ w :: ws, c ∉ v) : pieces (· = c) (w ++ ws.flatMap (c :: ·)) = w :: ws := by
  induction ws generalizing w with
  | nil =>
    rw [List.flatMap_nil, List.append_nil]
    refine pieces_of_none fun d hd => ?_
    simpa using ne_of_mem_of_not_mem hd (h w List.mem_cons_self)
  | cons v ws ih =>
    obtain ⟨hw, hrest⟩ := List.forall_mem_cons.mp h
    have hnone : ∀ d ∈ w, ¬ decide (d = c) = true := fun d hd => by
      simpa using ne_of_mem_of_not_mem hd hw
    rw [List.flatMap_cons, List.cons_append, pieces_append (by simp), pieces_of_none hnone,
      ih hrest]
    rfl

/-- The pieces of a text have all of its characters that are not of the class. -/
theorem flatten_pieces (p : Char → Bool) (s : List Char) :
    (pieces p s).flatten = s.filter fun c => !p c := by
  induction s with
  | nil => rfl
  | cons c s ih =>
    obtain ⟨w, ws, hws⟩ := List.exists_cons_of_ne_nil (pieces_ne_nil p s)
    rw [pieces, List.filter_cons, ← ih]
    by_cases hc : p c
    · simp [hc]
    · simp [hc, hws]

/-- No piece of a text has a character of the class. -/
theorem not_of_mem_pieces {p : Char → Bool} {s w : List Char} (hw : w ∈ pieces p s) {c : Char}
    (hc : c ∈ w) : ¬ p c := by
  induction s generalizing w with
  | nil =>
    obtain rfl : w = [] := by simpa [pieces] using hw
    simp at hc
  | cons d s ih =>
    rw [pieces] at hw
    split at hw
    · rcases List.mem_cons.mp hw with rfl | hw
      · simp at hc
      · exact ih hw hc
    · rename_i hd
      split at hw
      · simp_all
      · rename_i v ws hs
        rw [hs] at ih
        rcases List.mem_cons.mp hw with rfl | hw
        · rcases List.mem_cons.mp hc with rfl | hc
          · exact hd
          · exact ih List.mem_cons_self hc
        · exact ih (List.mem_cons_of_mem _ hw) hc

/-- A text is its pieces with the character between them. -/
theorem exists_pieces_eq (c : Char) (s : List Char) : ∃ w ws, pieces (· = c) s = w :: ws ∧
    s = w ++ ws.flatMap (c :: ·) ∧ ∀ v ∈ w :: ws, c ∉ v := by
  obtain ⟨w, ws, hws⟩ := List.exists_cons_of_ne_nil (pieces_ne_nil (· = c) s)
  have hfree : ∀ v ∈ w :: ws, c ∉ v := by
    intro v hv hmem
    exact not_of_mem_pieces (hws ▸ hv) hmem (by simp)
  refine ⟨w, ws, hws, ?_, hfree⟩
  clear hfree
  induction s generalizing w ws with
  | nil =>
    obtain ⟨rfl, rfl⟩ := List.cons.inj hws
    rfl
  | cons d s ih =>
    obtain ⟨v, vs, hvs⟩ := List.exists_cons_of_ne_nil (pieces_ne_nil (· = c) s)
    have hs := ih v vs hvs
    rw [pieces, hvs] at hws
    split at hws
    · rename_i hd
      obtain ⟨rfl, rfl⟩ := List.cons.inj hws
      rw [List.nil_append, List.flatMap_cons, List.cons_append, ← hs, of_decide_eq_true hd]
    · obtain ⟨rfl, rfl⟩ := List.cons.inj hws
      rw [List.cons_append, ← hs]

/-- The first piece ends before the first character of the class. -/
theorem exists_pieces_eq_cons (p : Char → Bool) (s : List Char) :
    ∃ ws, pieces p s = s.takeWhile (fun c => !p c) :: ws := by
  induction s with
  | nil => exact ⟨[], rfl⟩
  | cons c s ih =>
    obtain ⟨ws, hws⟩ := ih
    rw [pieces]
    by_cases hc : p c
    · exact ⟨pieces p s, by simp [hc]⟩
    · exact ⟨ws, by simp [hc, hws]⟩

/-- A text is cut at the first of a character. -/
theorem cut?_append {c : Char} {a : List Char} (h : c ∉ a) (b : List Char) :
    cut? [c] (a ++ c :: b) = some (a, b) := by
  induction a with
  | nil => simp [cut?, List.isPrefixOf]
  | cons d a ih =>
    rw [List.mem_cons, not_or] at h
    simp [cut?, List.isPrefixOf, h.1, ih h.2]

theorem cut?_of_notMem {c : Char} {s : List Char} (h : c ∉ s) : cut? [c] s = none := by
  induction s with
  | nil => rfl
  | cons d s ih =>
    rw [List.mem_cons, not_or] at h
    simp [cut?, List.isPrefixOf, h.1, ih h.2]

theorem words_append_blank {c : Char} (h : isBlank c) (s r : List Char) :
    words (s ++ c :: r) = words s ++ words r := by
  rw [words, pieces_append h, List.filter_append]
  rfl

theorem words_of_blank {s : List Char} (h : ∀ c ∈ s, isBlank c) : words s = [] := by
  induction s with
  | nil => rfl
  | cons c s ih =>
    obtain ⟨hc, hs⟩ := List.forall_mem_cons.mp h
    exact (words_append_blank hc [] s).trans (ih hs)

theorem words_of_not_blank {s : List Char} (hne : s ≠ []) (h : ∀ c ∈ s, ¬ isBlank c) :
    words s = [s] := by
  rw [words, pieces_of_none h]
  simp [hne]

theorem words_append_of_blank (s : List Char) {right : List Char} (h : ∀ c ∈ right, isBlank c) :
    words (s ++ right) = words s := by
  cases right with
  | nil => rw [List.append_nil]
  | cons c right =>
    obtain ⟨hc, hright⟩ := List.forall_mem_cons.mp h
    rw [words_append_blank hc, words_of_blank hright, List.append_nil]

@[simp] theorem words_trimStart (s : List Char) : words (trimStart s) = words s := by
  induction s with
  | nil => rfl
  | cons c s ih =>
    by_cases hc : isBlank c
    · have hstart : trimStart (c :: s) = trimStart s := List.dropWhile_cons_of_pos hc
      rw [hstart, ih]
      exact (words_append_blank hc [] s).symm
    · have hstart : trimStart (c :: s) = c :: s := List.dropWhile_cons_of_neg hc
      rw [hstart]

/-- Trimming takes no word away. -/
@[simp] theorem words_trim (s : List Char) : words (trim s) = words s := by
  obtain ⟨gap, hgap, hstart⟩ := exists_trimEnd_append (trimStart s)
  calc words (trim s) = words (trimEnd (trimStart s) ++ gap) := (words_append_of_blank _ hgap).symm
    _ = words s := by rw [← hstart, words_trimStart]

end Text

open Text

/-- A comment that does not start a text leaves its first character. -/
theorem stripCommentChars_cons {c : Char} (h : ¬ isBlank c) (r : List Char) :
    ∃ r', stripCommentChars (c :: r) = c :: r' := by
  have hascii : isAsciiBlank c = false := by
    rw [← Bool.not_eq_true]
    exact fun hc => h (isBlank_of_isAsciiBlank hc)
  rw [stripCommentChars, beforeComment?, hascii, Bool.false_and, if_neg Bool.false_ne_true]
  cases beforeComment? r with
  | none => exact ⟨r, rfl⟩
  | some before => exact ⟨trimEnd before, trimEnd_cons_of_not_blank h before⟩

/-- A text without `#` has no comment. -/
theorem stripCommentChars_of_notMem {s : List Char} (h : '#' ∉ s) : stripCommentChars s = s := by
  have hbefore : beforeComment? s = none := by
    induction s with
    | nil => rfl
    | cons c s ih =>
      rw [List.mem_cons, not_or] at h
      have hopens : opensComment s = false := by
        match s with
        | [] => rfl
        | d :: s =>
          have hd : d ≠ '#' := fun hd => h.2 (hd ▸ List.mem_cons_self)
          simp [opensComment, hd]
      rw [beforeComment?, hopens, Bool.and_false, if_neg Bool.false_ne_true, ih h.2]
      rfl
  rw [stripCommentChars, hbefore]

/-- A line has a word, and so has its code if it has code. -/
structure Line.HasWords (l : Line) : Prop where
  raw : words l.raw.toList ≠ []
  code : ∀ {code : String}, l.code = some code → words code.toList ≠ []

/-- A line that makes an item has words. -/
theorem hasWords_of_item {number : Nat} {text : List Char} {l : Line}
    (h : Item.of? number text = some (.line l)) : l.HasWords := by
  rw [Item.of?] at h
  cases htrim : trim text with
  | nil => simp [htrim] at h
  | cons c r =>
    have hc := not_blank_of_trim_eq_cons htrim
    have hraw : words (c :: r) ≠ [] := words_ne_nil hc r
    have hcode : ∀ {code : List Char}, codeOf? (c :: r) = some code → words code ≠ [] := by
      intro code hcode
      obtain ⟨r', hr'⟩ := stripCommentChars_cons hc r
      unfold codeOf? at hcode
      split at hcode
      · simp at hcode
      · rw [hr'] at hcode
        obtain rfl : c :: r' = code := by simpa using hcode
        exact words_ne_nil hc r'
    simp only [htrim] at h
    split at h
    · simp at h
    · simp only [Option.some.injEq, Item.line.injEq] at h
      subst h
      refine ⟨by simpa using hraw, fun {code} heq => ?_⟩
      obtain ⟨cs, hcs, rfl⟩ := Option.map_eq_some_iff.mp heq
      simpa using hcode hcs

theorem mem_items_of_mem_keyedLines {current key : String} {l : Line} {items : List Item}
    (h : (key, l) ∈ keyedLines current items) : Item.line l ∈ items := by
  induction items generalizing current with
  | nil => simp [keyedLines] at h
  | cons item rest ih =>
    cases item with
    | header name => exact List.mem_cons_of_mem _ (ih h)
    | line l' =>
      rw [keyedLines, List.mem_cons, Prod.mk.injEq] at h
      rcases h with ⟨-, rfl⟩ | h
      · exact List.mem_cons_self
      · exact List.mem_cons_of_mem _ (ih h)

/-- Every line of a section has a word. -/
theorem hasWords_of_mem_sections {text : String} {s : Section} {l : Line}
    (hs : s ∈ splitSections text) (hl : l ∈ s.lines) : l.HasWords := by
  obtain ⟨⟨key, title⟩, -, rfl⟩ := List.mem_map.mp hs
  obtain ⟨⟨key', l'⟩, hmem, rfl⟩ := List.mem_map.mp hl
  have hitem := mem_items_of_mem_keyedLines (List.mem_filter.mp hmem).1
  obtain ⟨⟨piece, number⟩, -, hof⟩ := List.mem_filterMap.mp hitem
  exact hasWords_of_item hof

end Tilemap
