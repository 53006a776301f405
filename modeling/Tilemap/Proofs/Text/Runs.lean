import Tilemap.Proofs.Text.Trimming

/-!
# Runs of characters of a class

The runs of a class in a text are its longest parts with characters of the class only. They are what
is left of the pieces between the other characters when the empty ones are dropped
(`hasRuns_iff`). The words of a text are its runs of characters that are not blank.

What is said of all texts by cutting them at a class of characters is shown by `pieces_induction`.
-/

namespace Tilemap.Text

/-- The longest parts of a text with characters of a class only, in their order. -/
inductive HasRuns (p : Char → Bool) : List Char → List (List Char) → Prop where
  | none {gap : List Char} (hgap : ∀ c ∈ gap, ¬ p c) : HasRuns p gap []
  | run {gap run rest : List Char} {runs : List (List Char)} (hgap : ∀ c ∈ gap, ¬ p c)
      (hne : run ≠ []) (hrun : ∀ c ∈ run, p c) (hstop : ∀ c ∈ rest.head?, ¬ p c)
      (hrest : HasRuns p rest runs) : HasRuns p (gap ++ run ++ rest) (run :: runs)

/-- The pieces between the characters that are not of a class, without the empty ones. -/
def runsOf (p : Char → Bool) (s : List Char) : List (List Char) :=
  (pieces (fun c => !p c) s).filter (· ≠ [])

/-- What holds of texts without a character of a class, and of a text that is cut at its first such
character if it holds of what follows, holds of every text. -/
@[elab_as_elim]
theorem pieces_induction {p : Char → Bool} {motive : List Char → Prop}
    (last : ∀ w, (∀ c ∈ w, ¬ p c) → motive w)
    (cut : ∀ w c r, (∀ d ∈ w, ¬ p d) → p c → motive r → motive (w ++ c :: r))
    (s : List Char) : motive s := by
  induction hn : s.length using Nat.strongRecOn generalizing s with
  | ind n ih =>
    cases hfind : s.find? p with
    | none => exact last s (List.find?_eq_none.mp hfind)
    | some c =>
      obtain ⟨hc, w, r, rfl, hw⟩ := List.find?_eq_some_iff_append.mp hfind
      have hlt : r.length < n := by
        rw [List.length_append, List.length_cons] at hn
        omega
      exact cut w c r (by simpa using hw) hc (ih r.length hlt r rfl)

section

variable {p : Char → Bool}

theorem runsOf_cons_of_neg {c : Char} (h : ¬ p c) (s : List Char) :
    runsOf p (c :: s) = runsOf p s := by
  simp [runsOf, pieces, h]

theorem runsOf_append_of_neg {gap : List Char} (h : ∀ c ∈ gap, ¬ p c) (s : List Char) :
    runsOf p (gap ++ s) = runsOf p s := by
  induction gap with
  | nil => rfl
  | cons c gap ih =>
    obtain ⟨hc, hgap⟩ := List.forall_mem_cons.mp h
    rw [List.cons_append, runsOf_cons_of_neg hc, ih hgap]

theorem runsOf_of_neg {gap : List Char} (h : ∀ c ∈ gap, ¬ p c) : runsOf p gap = [] := by
  have hnil := runsOf_append_of_neg h []
  rwa [List.append_nil] at hnil

theorem runsOf_of_pos {run : List Char} (hne : run ≠ []) (hrun : ∀ c ∈ run, p c) :
    runsOf p run = [run] := by
  rw [runsOf, pieces_of_none (by simpa using hrun)]
  simp [hne]

/-- A run ends where a character of another class follows. -/
theorem runsOf_run_append {run rest : List Char} (hne : run ≠ []) (hrun : ∀ c ∈ run, p c)
    (hstop : ∀ c ∈ rest.head?, ¬ p c) : runsOf p (run ++ rest) = run :: runsOf p rest := by
  cases rest with
  | nil => rw [List.append_nil, runsOf_of_pos hne hrun, runsOf_of_neg (by simp)]
  | cons c rest =>
    have hc : ¬ p c := hstop c rfl
    rw [runsOf_cons_of_neg hc, runsOf, pieces_append (by simp [hc]), List.filter_append]
    exact congrArg (· ++ runsOf p rest) (runsOf_of_pos hne hrun)

namespace HasRuns

variable {s run : List Char} {runs : List (List Char)}

theorem runsOf_eq (h : HasRuns p s runs) : runsOf p s = runs := by
  induction h with
  | none hgap => exact runsOf_of_neg hgap
  | run hgap hne hrun hstop _ ih =>
    rw [List.append_assoc, runsOf_append_of_neg hgap, runsOf_run_append hne hrun hstop, ih]

theorem cons_of_neg {c : Char} (hc : ¬ p c) (h : HasRuns p s runs) : HasRuns p (c :: s) runs := by
  cases h with
  | none hgap => exact .none (List.forall_mem_cons.mpr ⟨hc, hgap⟩)
  | run hgap hne hrun hstop hrest =>
    exact .run (List.forall_mem_cons.mpr ⟨hc, hgap⟩) hne hrun hstop hrest

/-- A run at the start comes first, if the text does not go on with it. -/
theorem run_append (hne : run ≠ []) (hrun : ∀ c ∈ run, p c) (hstop : ∀ c ∈ s.head?, ¬ p c)
    (h : HasRuns p s runs) : HasRuns p (run ++ s) (run :: runs) :=
  @HasRuns.run p [] run s runs (by simp) hne hrun hstop h

theorem mem (h : HasRuns p s runs) (hrun : run ∈ runs) : run ≠ [] ∧ ∀ c ∈ run, p c := by
  induction h with
  | none => simp at hrun
  | run _ hne hall _ _ ih =>
    rcases List.mem_cons.mp hrun with rfl | hrun
    · exact ⟨hne, hall⟩
    · exact ih hrun

end HasRuns

theorem hasRuns_runsOf (p : Char → Bool) (s : List Char) : HasRuns p s (runsOf p s) := by
  induction s using pieces_induction (p := fun c => !p c) with
  | last w hw =>
    have hrun : ∀ c ∈ w, p c := by simpa using hw
    by_cases hne : w = []
    · rw [hne]
      exact .none (by simp)
    · have h := HasRuns.run_append hne hrun (by simp) (.none (List.forall_mem_nil _))
      rwa [List.append_nil, ← runsOf_of_pos hne hrun] at h
  | cut w c r hw hc ih =>
    have hrun : ∀ d ∈ w, p d := by simpa using hw
    have hc : ¬ p c := by simpa using hc
    have hrest : HasRuns p (c :: r) (runsOf p (c :: r)) := by
      rw [runsOf_cons_of_neg hc]
      exact ih.cons_of_neg hc
    have hstop : ∀ d ∈ (c :: r).head?, ¬ p d := by simpa using hc
    by_cases hne : w = []
    · rwa [hne]
    · rw [runsOf_run_append hne hrun hstop]
      exact .run_append hne hrun hstop hrest

/-- A text has one list of runs: the pieces that are not empty. -/
theorem hasRuns_iff {s : List Char} {runs : List (List Char)} :
    HasRuns p s runs ↔ runsOf p s = runs :=
  ⟨HasRuns.runsOf_eq, fun h => h ▸ hasRuns_runsOf p s⟩

/-- Words are runs of characters that are not blank. -/
theorem hasRuns_words_iff {s : List Char} {found : List (List Char)} :
    HasRuns (fun c => !isBlank c) s found ↔ words s = found := by
  simp only [hasRuns_iff, words, runsOf, Bool.not_not]

end

end Tilemap.Text
