import Tilemap.Proofs.Interactions
import Tilemap.Proofs.Text.Integers

/-!
# What an object line may say

The grammar of an object line is `IsObjectLine`: a bullet and the mark of a solid object, the object
with an instance, two coordinates with separators before and between them, and a label. Blanks may
stand between these parts, and `parse_iff_isObjectLine` says that the lines of the grammar are the
ones that are read, each as the object line that the grammar gives to it.

A line is read from left to right without a step back. This finds the parts, because no part can go
on with the character that starts the next one: ids and coordinates end before a separator, and
separators end before an id or a digit. So every reader has two lemmas: what it took is a part of
its kind, and a part of its kind is taken as a whole when what follows cannot continue it.
-/

namespace Tilemap

open Text
open Decimal (IsDigits)

/-! ### Statement -/

/-- Blanks, or nothing. -/
def IsGap (s : List Char) : Prop := ∀ c ∈ s, isBlank c

/-- An id of an object or of an instance: Latin letters, digits, `_`, `.` and `-`. -/
def IsRef (s : List Char) : Prop :=
  s ≠ [] ∧ ∀ c ∈ s, c.isAlphanum ∨ c = '_' ∨ c = '.' ∨ c = '-'

/-- A dash with blanks behind it, or nothing. -/
inductive IsBullet : List Char → Prop where
  | none : IsBullet []
  | dash {gap : List Char} (hgap : IsGap gap) : IsBullet ('-' :: gap)

/-- The mark of a solid object. -/
def markOf (solid : Bool) : List Char := if solid then ['!'] else []

/-- A `#` with the id of the instance, or nothing. -/
inductive IsInstance : List Char → Option String → Prop where
  | none : IsInstance [] none
  | named {ref : List Char} (href : IsRef ref) : IsInstance ('#' :: ref) (some (String.ofList ref))

/-- One of the marks, perhaps with blanks around it, or blanks alone. -/
inductive IsSeparator (marks : List Char) : List Char → Prop where
  | blanks {gap : List Char} (hgap : IsGap gap) (hne : gap ≠ []) : IsSeparator marks gap
  | mark {before after : List Char} {c : Char} (hc : c ∈ marks) (hbefore : IsGap before)
    (hafter : IsGap after) : IsSeparator marks (before ++ c :: after)

/-- Digits whose value is the coordinate, which has 31 bits. -/
structure IsCoordinate (s : List Char) (n : Int32) : Prop where
  digits : IsDigits s
  fits : digitsValue s < 2 ^ 31
  value : n.toInt = digitsValue s

/-- A bar with any text behind it, which is the label unless it is blank, or nothing. -/
inductive IsLabel : List Char → Option String → Prop where
  | none : IsLabel [] none
  | blank {text : List Char} (hblank : trim text = []) : IsLabel ('|' :: text) none
  | label {text : List Char} (hne : trim text ≠ []) :
    IsLabel ('|' :: text) (some (String.ofList (trim text)))

/-- The grammar of object lines, with the line as it is read. -/
inductive IsObjectLine : List Char → ObjectLine → Prop where
  | intro {margin bullet gap ref inst before x between y gap' bar : List Char}
    {instanceId label : Option String} {solid : Bool} {position : Position}
    (hmargin : IsGap margin) (hbullet : IsBullet bullet) (hgap : IsGap gap) (href : IsRef ref)
    (hinstance : IsInstance inst instanceId) (hbefore : IsSeparator ['@', ':'] before)
    (hx : IsCoordinate x position.x) (hbetween : IsSeparator ['x', 'X', ','] between)
    (hy : IsCoordinate y position.y) (hgap' : IsGap gap') (hlabel : IsLabel bar label)
    -- a dash at the start of the line is the bullet, and not the start of the id
    (hdash : bullet = [] → solid = false → ref.head? ≠ some '-') :
    IsObjectLine
      (margin ++ bullet ++ markOf solid ++ gap ++ ref ++ inst ++ before ++ x ++ between ++ y ++
        gap' ++ bar)
      ⟨String.ofList ref, instanceId, solid, position, label⟩

/-! ### Characters -/

theorem isRefChar_iff {c : Char} :
    isRefChar c ↔ c.isAlphanum ∨ c = '_' ∨ c = '.' ∨ c = '-' := by
  simp [isRefChar, or_assoc]

theorem isRef_iff {s : List Char} : IsRef s ↔ s ≠ [] ∧ ∀ c ∈ s, isRefChar c := by
  simp only [IsRef, isRefChar_iff]

theorem not_of_all {p : Char → Bool} {marks : List Char} (h : marks.all (!p ·)) {c : Char}
    (hc : c ∈ marks) : ¬ p c := by
  simpa using List.all_eq_true.mp h c hc

/-- The text does not start with a character of the class. -/
def StopsAt (p : Char → Bool) (rest : List Char) : Prop := ∀ c ∈ rest.head?, ¬ p c

theorem stopsAt_nil (p : Char → Bool) : StopsAt p [] := by simp [StopsAt]

theorem stopsAt_cons {p : Char → Bool} {c : Char} {rest : List Char} :
    StopsAt p (c :: rest) ↔ ¬ p c := by
  simp [StopsAt]

/-! ### Steps of the scanner -/

namespace Scanner

/-- A run is read in full, up to where the text goes on with another character. -/
theorem takeWhile_run {p : Char → Bool} {run rest : List Char} (hrun : ∀ c ∈ run, p c)
    (hrest : StopsAt p rest) : takeWhile ⟨run ++ rest⟩ p = (run, ⟨rest⟩) := by
  have htake : rest.takeWhile p = [] := by
    cases rest with
    | nil => rfl
    | cons c r => exact List.takeWhile_cons_of_neg (stopsAt_cons.mp hrest)
  have hdrop : rest.dropWhile p = rest := by
    cases rest with
    | nil => rfl
    | cons c r => exact List.dropWhile_cons_of_neg (stopsAt_cons.mp hrest)
  rw [takeWhile, List.takeWhile_append_of_pos hrun, List.dropWhile_append_of_pos hrun, htake, hdrop,
    List.append_nil]

theorem stopsAt_takeWhile (p : Char → Bool) (s : Scanner) : StopsAt p (s.takeWhile p).2.rest := by
  intro c hc
  have hhead : (s.rest.dropWhile p).head? = some c := hc
  have hnot := List.head?_dropWhile_not p s.rest
  rw [hhead] at hnot
  simpa using hnot

/-- Blanks are skipped in full, and the reader says whether there were any. -/
theorem skipBlanks_run {gap rest : List Char} (hgap : IsGap gap) (hrest : StopsAt isBlank rest) :
    skipBlanks ⟨gap ++ rest⟩ = (decide (gap ≠ []), ⟨rest⟩) := by
  rw [skipBlanks, takeWhile_run hgap hrest]

theorem skipBlanks_of_stopsAt {rest : List Char} (h : StopsAt isBlank rest) :
    skipBlanks ⟨rest⟩ = (false, ⟨rest⟩) :=
  @skipBlanks_run [] rest nofun h

/-- What is skipped are blanks, and no blank is next. -/
theorem exists_skipBlanks (s : Scanner) :
    ∃ gap, IsGap gap ∧ s.rest = gap ++ s.skipBlanks.2.rest ∧ s.skipBlanks.1 = decide (gap ≠ []) ∧
      StopsAt isBlank s.skipBlanks.2.rest :=
  ⟨(s.takeWhile isBlank).1, fun _ hc => List.mem_takeWhile_imp hc, (s.takeWhile_append _).symm, rfl,
    s.stopsAt_takeWhile _⟩

theorem eat_self (c : Char) (rest : List Char) : eat ⟨c :: rest⟩ c = (true, ⟨rest⟩) := by
  simp [eat]

theorem eat_of_ne {c : Char} {rest : List Char} (h : rest.head? ≠ some c) :
    eat ⟨rest⟩ c = (false, ⟨rest⟩) := by
  cases rest with
  | nil => rfl
  | cons d r =>
    have hne : d ≠ c := by simpa using h
    simp [eat, hne]

/-- Either the character is next and is taken, or nothing happens. -/
theorem eat_cases (s : Scanner) (c : Char) :
    (∃ s', s.eat c = (true, s') ∧ s.rest = c :: s'.rest) ∨
      s.eat c = (false, s) ∧ s.rest.head? ≠ some c := by
  obtain ⟨rest⟩ := s
  by_cases h : rest.head? = some c
  · obtain ⟨r, rfl⟩ := List.head?_eq_some_iff.mp h
    exact .inl ⟨⟨r⟩, eat_self c r, rfl⟩
  · exact .inr ⟨eat_of_ne h, h⟩

end Scanner

namespace ObjectLine

open Scanner

/-! ### Separators -/

theorem eatAny_of_mem {marks : List Char} {c : Char} (hc : c ∈ marks) (rest : List Char) :
    eatAny marks ⟨c :: rest⟩ = (true, ⟨rest⟩) := by
  induction marks with
  | nil => simp at hc
  | cons d marks ih =>
    rw [eatAny]
    by_cases h : c = d
    · rw [h, eat_self]
    · rw [eat_of_ne (by simpa using h)]
      exact ih ((List.mem_cons.mp hc).resolve_left h)

theorem eatAny_of_notMem {marks rest : List Char} (h : ∀ c ∈ rest.head?, c ∉ marks) :
    eatAny marks ⟨rest⟩ = (false, ⟨rest⟩) := by
  induction marks with
  | nil => rfl
  | cons d marks ih =>
    have hd : rest.head? ≠ some d := fun heq => h d heq List.mem_cons_self
    rw [eatAny, eat_of_ne hd]
    exact ih fun c hc hmem => h c hc (List.mem_cons_of_mem _ hmem)

/-- One mark is eaten if the text starts with one; else the reader stays where it is. -/
theorem eatAny_cases (marks : List Char) (s : Scanner) :
    (∃ c ∈ marks, ∃ s', eatAny marks s = (true, s') ∧ s.rest = c :: s'.rest) ∨
      eatAny marks s = (false, s) := by
  obtain ⟨rest⟩ := s
  by_cases h : ∀ c ∈ rest.head?, c ∉ marks
  · exact .inr (eatAny_of_notMem h)
  · push Not at h
    obtain ⟨c, hc, hmem⟩ := h
    obtain ⟨r, rfl⟩ := List.head?_eq_some_iff.mp hc
    exact .inl ⟨c, hmem, ⟨r⟩, eatAny_of_mem hmem r, rfl⟩

/-- A separator is taken as a whole when neither a blank nor a mark follows. -/
theorem eatSeparator_append {marks sep rest : List Char} (hmarks : marks.all (!isBlank ·))
    (hsep : IsSeparator marks sep) (hrest : ∀ c ∈ rest.head?, ¬ isBlank c ∧ c ∉ marks) :
    eatSeparator marks ⟨sep ++ rest⟩ = (true, ⟨rest⟩) := by
  have hstops : StopsAt isBlank rest := fun c hc => (hrest c hc).1
  cases hsep with
  | blanks hgap hne =>
    rw [eatSeparator, skipBlanks_run hgap hstops]
    simp only [eatAny_of_notMem fun c hc => (hrest c hc).2, skipBlanks_of_stopsAt hstops]
    simp [hne]
  | mark hc hbefore hafter =>
    rename_i before after c
    have hskip : skipBlanks ⟨before ++ c :: (after ++ rest)⟩ =
        (decide (before ≠ []), ⟨c :: (after ++ rest)⟩) :=
      skipBlanks_run hbefore (stopsAt_cons.mpr (not_of_all hmarks hc))
    rw [List.append_assoc, List.cons_append, eatSeparator, hskip]
    simp only [eatAny_of_mem hc, skipBlanks_run hafter hstops]
    simp

/-- What is taken as a separator is one. -/
theorem exists_of_eatSeparator {marks : List Char} {s s' : Scanner}
    (h : eatSeparator marks s = (true, s')) :
    ∃ sep, IsSeparator marks sep ∧ s.rest = sep ++ s'.rest := by
  obtain ⟨before, hbefore, hs, hflag, -⟩ := s.exists_skipBlanks
  rw [eatSeparator] at h
  dsimp only at h
  rcases eatAny_cases marks s.skipBlanks.2 with ⟨c, hc, t, heat, ht⟩ | heat
  · obtain ⟨after, hafter, hrest, -, -⟩ := t.exists_skipBlanks
    rw [heat, Prod.mk.injEq] at h
    obtain ⟨-, rfl⟩ := h
    refine ⟨before ++ c :: after, .mark hc hbefore hafter, ?_⟩
    rw [hs, ht, hrest, List.append_assoc, List.cons_append]
  · obtain ⟨after, hafter, hrest, hflag', -⟩ := s.skipBlanks.2.exists_skipBlanks
    rw [heat, Prod.mk.injEq] at h
    obtain ⟨htaken, rfl⟩ := h
    refine ⟨before ++ after, .blanks ?_ ?_, by rw [hs, hrest, List.append_assoc]⟩
    · intro c hc
      exact (List.mem_append.mp hc).elim (hbefore c) (hafter c)
    · rw [hflag, hflag'] at htaken
      simpa [or_iff_not_imp_left] using htaken

/-! ### Coordinates -/

theorem isCoordinate_iff {s : List Char} {n : Int32} :
    IsCoordinate s n ↔ IsDigits s ∧ int32? s = some n := by
  constructor
  · rintro ⟨hdigits, hfits, hvalue⟩
    have hn : Int32.ofNat (digitsValue s) = n := by
      apply Int32.toInt_inj.mp
      rw [Int32.toInt_ofNat_of_lt hfits, hvalue]
    rw [int32?_of_isDigits hdigits, if_pos hfits, hn]
    exact ⟨hdigits, rfl⟩
  · rintro ⟨hdigits, hn⟩
    rw [int32?_of_isDigits hdigits] at hn
    split at hn
    · rename_i hfits
      obtain rfl := Option.some.inj hn
      exact ⟨hdigits, hfits, Int32.toInt_ofNat_of_lt hfits⟩
    · cases hn

/-- A coordinate is read up to the first character that is no digit. -/
theorem readCoordinate_append {axis : Axis} {s rest : List Char} {n : Int32}
    (h : IsCoordinate s n) (hrest : StopsAt Char.isDigit rest) :
    readCoordinate axis ⟨s ++ rest⟩ = .ok (n, ⟨rest⟩) := by
  obtain ⟨⟨hne, hdigits⟩, hn⟩ := isCoordinate_iff.mp h
  have htake : Scanner.digits ⟨s ++ rest⟩ = (s, ⟨rest⟩) := takeWhile_run hdigits hrest
  simp only [readCoordinate, htake, hn]

/-- Whatever is read as a coordinate is digits for a number of 32 bits. -/
theorem exists_of_readCoordinate {axis : Axis} {s s' : Scanner} {n : Int32}
    (h : readCoordinate axis s = .ok (n, s')) :
    ∃ digits, IsCoordinate digits n ∧ s.rest = digits ++ s'.rest := by
  rw [readCoordinate] at h
  split at h
  · cases h
  · rename_i digits t hdigits htake
    split at h
    · rename_i m hm
      obtain ⟨rfl, rfl⟩ := Prod.mk.inj (Except.ok.inj h)
      have hrun : digits = s.rest.takeWhile Char.isDigit := (congrArg Prod.fst htake).symm
      have hrest : t = (s.takeWhile Char.isDigit).2 := (congrArg Prod.snd htake).symm
      refine ⟨digits, isCoordinate_iff.mpr ⟨⟨?_, ?_⟩, hm⟩, ?_⟩
      · rintro rfl
        exact hdigits rfl
      · intro c hc
        exact List.mem_takeWhile_imp (hrun ▸ hc)
      · rw [hrest, hrun]
        exact (s.takeWhile_append _).symm
    · cases h

/-! ### Instances -/

/-- An instance name, or none, is read in full, up to a character of another kind. -/
theorem readInstance_append {inst rest : List Char} {instanceId : Option String}
    (h : IsInstance inst instanceId) (hrest : StopsAt isRefChar rest)
    (hhash : rest.head? ≠ some '#') :
    readInstance ⟨inst ++ rest⟩ = .ok (instanceId, ⟨rest⟩) := by
  cases h with
  | none => rw [List.nil_append, readInstance, eat_of_ne hhash]
  | named href =>
    rename_i ref
    obtain ⟨hne, hchars⟩ := isRef_iff.mp href
    rw [readInstance, List.cons_append, eat_self]
    simp only [takeWhile_run hchars hrest]

/-- Whatever is read as an instance name is one, and the rest of the line is left. -/
theorem exists_of_readInstance {s s' : Scanner} {instanceId : Option String}
    (h : readInstance s = .ok (instanceId, s')) :
    ∃ inst, IsInstance inst instanceId ∧ s.rest = inst ++ s'.rest := by
  rw [readInstance] at h
  rcases s.eat_cases '#' with ⟨t, heat, hs⟩ | ⟨heat, -⟩
  · rw [heat] at h
    dsimp only at h
    split at h
    · cases h
    · rename_i ref t' href htake
      obtain ⟨rfl, rfl⟩ := Prod.mk.inj (Except.ok.inj h)
      have hrun : ref = t.rest.takeWhile isRefChar := (congrArg Prod.fst htake).symm
      have hrest : t' = (t.takeWhile isRefChar).2 := (congrArg Prod.snd htake).symm
      refine ⟨'#' :: ref, .named (isRef_iff.mpr ⟨?_, ?_⟩), ?_⟩
      · rintro rfl
        exact href rfl
      · intro c hc
        exact List.mem_takeWhile_imp (hrun ▸ hc)
      · rw [hs, List.cons_append, hrest, hrun]
        exact congrArg ('#' :: ·) (t.takeWhile_append _).symm
  · rw [heat] at h
    obtain ⟨rfl, rfl⟩ := Prod.mk.inj (Except.ok.inj h)
    exact ⟨[], .none, rfl⟩

/-! ### Labels -/

theorem isLabel_bar {text : List Char} {label : Option String} :
    IsLabel ('|' :: text) label ↔ nonBlank? (String.ofList text) = label := by
  rw [nonBlank?_ofList]
  constructor
  · intro h
    cases h with
    | blank hblank => rw [if_pos hblank]
    | label hne => rw [if_neg hne]
  · rintro rfl
    split
    · rename_i hblank
      exact .blank hblank
    · rename_i hne
      exact .label hne

/-- The end of a line is read when it is blanks and a label. -/
theorem readLabel_eq_ok_iff {s : Scanner} {label : Option String} :
    readLabel s = .ok label ↔ ∃ gap bar, IsGap gap ∧ IsLabel bar label ∧ s.rest = gap ++ bar := by
  constructor
  · intro h
    obtain ⟨gap, hgap, hs, -, -⟩ := s.exists_skipBlanks
    rw [readLabel] at h
    dsimp only at h
    split at h
    · rename_i hend
      obtain rfl := Except.ok.inj h
      exact ⟨gap, [], hgap, .none, by rw [hs, List.isEmpty_iff.mp hend]⟩
    · rcases s.skipBlanks.2.eat_cases '|' with ⟨t, heat, ht⟩ | ⟨heat, -⟩
      · rw [heat] at h
        exact ⟨gap, '|' :: t.rest, hgap, isLabel_bar.mpr (Except.ok.inj h), by rw [hs, ht]⟩
      · rw [heat] at h
        cases h
  · rintro ⟨gap, bar, hgap, hlabel, hs⟩
    obtain ⟨rest⟩ := s
    obtain rfl : rest = gap ++ bar := hs
    cases bar with
    | nil =>
      cases hlabel
      rw [readLabel, skipBlanks_run hgap (stopsAt_nil isBlank)]
      rfl
    | cons c text =>
      obtain rfl : c = '|' := by cases hlabel <;> rfl
      have hskip : skipBlanks ⟨gap ++ '|' :: text⟩ = (decide (gap ≠ []), ⟨'|' :: text⟩) :=
        skipBlanks_run hgap (stopsAt_cons.mpr (by decide))
      rw [readLabel, hskip]
      simp only [eat_self, isLabel_bar.mp hlabel]
      rfl

/-! ### The start of a line -/

/-- Skips a bullet and says whether the mark of a solid object is there; what follows starts with
the object. -/
def readMarks (s : Scanner) : Bool × Scanner :=
  let (_, s) := s.skipBlanks
  let (bullet, s) := s.eat '-'
  let s := if bullet then s.skipBlanks.2 else s
  let (solid, s) := s.eat '!'
  (solid, s.skipBlanks.2)

/-- After the blanks in front, a line goes on with the mark for a solid object or with its text. -/
theorem skipBlanks_markOf {margin gap rest : List Char} (solid : Bool) (hmargin : IsGap margin)
    (hgap : IsGap gap) (hrest : StopsAt isBlank rest) :
    (skipBlanks ⟨margin ++ markOf solid ++ gap ++ rest⟩).2 =
      ⟨if solid then '!' :: (gap ++ rest) else rest⟩ := by
  cases solid with
  | true =>
    have hskip : skipBlanks ⟨margin ++ '!' :: (gap ++ rest)⟩ =
        (decide (margin ≠ []), ⟨'!' :: (gap ++ rest)⟩) :=
      skipBlanks_run hmargin (stopsAt_cons.mpr (by decide))
    simp [markOf, hskip]
  | false =>
    have hboth : IsGap (margin ++ gap) := fun c hc =>
      (List.mem_append.mp hc).elim (hmargin c) (hgap c)
    simp only [markOf, Bool.false_eq_true, if_false, List.append_nil, skipBlanks_run hboth hrest]

/-- The marks at the start of a line are read in full, up to the reference. -/
theorem readMarks_append {margin bullet gap rest : List Char} {solid : Bool}
    (hmargin : IsGap margin) (hbullet : IsBullet bullet) (hgap : IsGap gap)
    (hrest : StopsAt isBlank rest) (hmark : rest.head? ≠ some '!')
    (hdash : bullet = [] → solid = false → rest.head? ≠ some '-') :
    readMarks ⟨margin ++ bullet ++ markOf solid ++ gap ++ rest⟩ = (solid, ⟨rest⟩) := by
  have heat : eat ⟨if solid then '!' :: (gap ++ rest) else rest⟩ '!' =
      (solid, ⟨if solid then gap ++ rest else rest⟩) := by
    cases solid with
    | true => exact eat_self '!' (gap ++ rest)
    | false => exact eat_of_ne hmark
  have hskip : (skipBlanks ⟨if solid then gap ++ rest else rest⟩).2 = ⟨rest⟩ := by
    cases solid with
    | true => exact congrArg Prod.snd (skipBlanks_run hgap hrest)
    | false => exact congrArg Prod.snd (skipBlanks_of_stopsAt hrest)
  cases hbullet with
  | none =>
    have hnone : eat ⟨if solid then '!' :: (gap ++ rest) else rest⟩ '-' =
        (false, ⟨if solid then '!' :: (gap ++ rest) else rest⟩) := by
      cases solid with
      | true => exact eat_of_ne (by simp)
      | false => exact eat_of_ne (hdash rfl rfl)
    simp only [readMarks, List.append_nil, skipBlanks_markOf solid hmargin hgap hrest, hnone,
      Bool.false_eq_true, if_false, heat, hskip]
  | dash hgap' =>
    rename_i gap'
    have hmargin : skipBlanks ⟨margin ++ '-' :: (gap' ++ markOf solid ++ gap ++ rest)⟩ =
        (decide (margin ≠ []), ⟨'-' :: (gap' ++ markOf solid ++ gap ++ rest)⟩) :=
      skipBlanks_run hmargin (stopsAt_cons.mpr (by decide))
    have htext : margin ++ '-' :: gap' ++ markOf solid ++ gap ++ rest =
        margin ++ '-' :: (gap' ++ markOf solid ++ gap ++ rest) := by simp
    simp only [readMarks, htext, hmargin, eat_self, if_true,
      skipBlanks_markOf solid hgap' hgap hrest, heat, hskip]

/-- What stands before the object is a bullet and a mark. -/
theorem exists_of_readMarks {s s' : Scanner} {solid : Bool} (h : readMarks s = (solid, s')) :
    ∃ margin bullet gap, IsGap margin ∧ IsBullet bullet ∧ IsGap gap ∧
      s.rest = margin ++ bullet ++ markOf solid ++ gap ++ s'.rest ∧
      (bullet = [] → solid = false → s'.rest.head? ≠ some '-') := by
  obtain ⟨margin, hmargin, hs, -, hstops⟩ := s.exists_skipBlanks
  -- what stands behind the bullet, and that a dash is one
  obtain ⟨bullet, t, hbullet, hmarks, ht, hdash, hblank⟩ : ∃ bullet t, IsBullet bullet ∧
      readMarks s = ((eat t '!').1, (eat t '!').2.skipBlanks.2) ∧
      s.skipBlanks.2.rest = bullet ++ t.rest ∧ (bullet = [] → t.rest.head? ≠ some '-') ∧
      StopsAt isBlank t.rest := by
    rcases s.skipBlanks.2.eat_cases '-' with ⟨t, heat, ht⟩ | ⟨heat, hne⟩
    · obtain ⟨gap, hgap, htext, -, hblank⟩ := t.exists_skipBlanks
      refine ⟨'-' :: gap, t.skipBlanks.2, .dash hgap, ?_, ?_, by simp, hblank⟩
      · simp only [readMarks, heat, if_true]
      · rw [ht, htext, List.cons_append]
    · refine ⟨[], s.skipBlanks.2, .none, ?_, rfl, fun _ => hne, hstops⟩
      simp only [readMarks, heat, Bool.false_eq_true, if_false]
  obtain ⟨gap, hgap, hrest, -, -⟩ := (eat t '!').2.exists_skipBlanks
  rw [hmarks, Prod.mk.injEq] at h
  obtain ⟨rfl, rfl⟩ := h
  rcases t.eat_cases '!' with ⟨t', heat, ht'⟩ | ⟨heat, -⟩
  · refine ⟨margin, bullet, gap, hmargin, hbullet, hgap, ?_, ?_⟩
    · rw [heat] at hrest ⊢
      rw [hs, ht, ht', hrest]
      simp [markOf]
    · simp [heat]
  · have hskip : t.skipBlanks.2 = t := by
      obtain ⟨rest⟩ := t
      exact congrArg Prod.snd (skipBlanks_of_stopsAt hblank)
    refine ⟨margin, bullet, [], hmargin, hbullet, nofun, ?_, ?_⟩
    · rw [heat, hskip, hs, ht]
      simp [markOf]
    · rw [heat, hskip]
      exact fun hnil _ => hdash hnil

/-! ### Lines -/

/-- A line is read when each of its parts is. -/
theorem parse_eq_ok {text : String} {l : ObjectLine} :
    parse text = .ok l ↔ ∃ solid s₁ ref s₂ inst s₃ s₄ x s₅ s₆ y s₇ label,
      readMarks (.ofText text) = (solid, s₁) ∧ s₁.takeWhile isRefChar = (ref, s₂) ∧ ref ≠ [] ∧
      readInstance s₂ = .ok (inst, s₃) ∧ eatSeparator ['@', ':'] s₃ = (true, s₄) ∧
      readCoordinate .x s₄ = .ok (x, s₅) ∧ eatSeparator ['x', 'X', ','] s₅ = (true, s₆) ∧
      readCoordinate .y s₆ = .ok (y, s₇) ∧ readLabel s₇ = .ok label ∧
      l = ⟨String.ofList ref, inst, solid, ⟨x, y⟩, label⟩ := by
  rw [parse]
  simp only [guard_eq_ok, bind_eq_ok, pure_eq_ok, Bool.not_eq_true]
  constructor
  · rintro ⟨hne, ⟨inst, s₃⟩, hinst, hsep, ⟨x, s₅⟩, hx, hsep', ⟨y, s₇⟩, hy, label, hlabel, rfl⟩
    exact ⟨_, _, _, _, inst, s₃, _, x, s₅, _, y, s₇, label, rfl, rfl, hne, hinst,
      Prod.ext (by simpa using hsep) rfl, hx, Prod.ext (by simpa using hsep') rfl, hy, hlabel, rfl⟩
  · rintro ⟨solid, s₁, ref, s₂, inst, s₃, s₄, x, s₅, s₆, y, s₇, label, hmarks, hrun, hne, hinst,
      hsep, hx, hsep', hy, hlabel, rfl⟩
    obtain ⟨rfl, rfl⟩ := Prod.mk.inj hmarks
    obtain ⟨rfl, rfl⟩ := Prod.mk.inj hrun
    obtain rfl : _ = s₄ := congrArg Prod.snd hsep
    obtain rfl : _ = s₆ := congrArg Prod.snd hsep'
    exact ⟨hne, (inst, s₃), hinst, by rw [hsep]; rfl, (x, s₅), hx, by rw [hsep']; rfl, (y, s₇), hy,
      label, hlabel, rfl⟩

end ObjectLine

/-! ### What the parts start with -/

theorem stopsAt_append {p : Char → Bool} {s : List Char} (h : ∃ c r, s = c :: r ∧ ¬ p c)
    (rest : List Char) : StopsAt p (s ++ rest) := by
  obtain ⟨c, r, rfl, hc⟩ := h
  exact stopsAt_cons.mpr hc

theorem IsRef.exists_cons {s : List Char} (h : IsRef s) : ∃ c r, s = c :: r ∧ isRefChar c := by
  obtain ⟨hne, hchars⟩ := isRef_iff.mp h
  obtain ⟨c, r, rfl⟩ := List.exists_cons_of_ne_nil hne
  exact ⟨c, r, rfl, hchars c List.mem_cons_self⟩

/-- Behind the instance, or in its place, nothing goes on with the id. -/
theorem IsInstance.stopsAt {s : List Char} {instanceId : Option String}
    (h : IsInstance s instanceId) {rest : List Char} (hrest : StopsAt isRefChar rest) :
    StopsAt isRefChar (s ++ rest) := by
  cases h with
  | none => exact hrest
  | named href => exact stopsAt_cons.mpr (by decide)

/-- A separator starts with a blank or a mark. -/
theorem IsSeparator.stopsAt {marks sep : List Char} (h : IsSeparator marks sep) {p : Char → Bool}
    (hblank : ∀ c, isBlank c → ¬ p c) (hmarks : marks.all (!p ·)) (rest : List Char) :
    StopsAt p (sep ++ rest) := by
  cases h with
  | blanks hgap hne =>
    obtain ⟨c, r, rfl⟩ := List.exists_cons_of_ne_nil hne
    exact stopsAt_cons.mpr (hblank c (hgap c List.mem_cons_self))
  | mark hc hbefore hafter =>
    rename_i before after c
    cases before with
    | nil => exact stopsAt_cons.mpr (not_of_all hmarks hc)
    | cons d r => exact stopsAt_cons.mpr (hblank d (hbefore d List.mem_cons_self))

/-- A coordinate starts with a digit, which is neither a blank nor a mark. -/
theorem IsCoordinate.head_append {s : List Char} {n : Int32} (h : IsCoordinate s n)
    {marks : List Char} (hmarks : marks.all (!Char.isDigit ·)) (rest : List Char) :
    ∀ c ∈ (s ++ rest).head?, ¬ isBlank c ∧ c ∉ marks := by
  obtain ⟨hne, hdigits⟩ := h.digits
  obtain ⟨d, r, rfl⟩ := List.exists_cons_of_ne_nil hne
  intro c hc
  obtain rfl : d = c := Option.some.inj hc
  have hd := hdigits d List.mem_cons_self
  exact ⟨fun hblank => not_isDigit_of_blank hblank hd, fun hmem => not_of_all hmarks hmem hd⟩

/-- Behind the coordinates there are blanks, a bar or nothing. -/
theorem IsLabel.stopsAt {gap bar : List Char} {label : Option String} (hgap : IsGap gap)
    (h : IsLabel bar label) : StopsAt Char.isDigit (gap ++ bar) := by
  cases gap with
  | cons c r => exact stopsAt_cons.mpr (not_isDigit_of_blank (hgap c List.mem_cons_self))
  | nil =>
    cases h with
    | none => exact stopsAt_nil _
    | blank _ => exact stopsAt_cons.mpr (by decide)
    | label _ => exact stopsAt_cons.mpr (by decide)

/-! ### Main result -/

/-- What is read is a line of the grammar. -/
theorem isObjectLine_of_parse {text : String} {l : ObjectLine} (h : ObjectLine.parse text = .ok l) :
    IsObjectLine text.toList l := by
  obtain ⟨solid, s₁, ref, s₂, inst, s₃, s₄, x, s₅, s₆, y, s₇, label, hmarks, hrun, hne, hinst,
    hsep, hx, hsep', hy, hlabel, rfl⟩ := ObjectLine.parse_eq_ok.mp h
  obtain ⟨margin, bullet, gap, hmargin, hbullet, hgap, htext, hdash⟩ :=
    ObjectLine.exists_of_readMarks hmarks
  obtain ⟨part, hpart, hs₂⟩ := ObjectLine.exists_of_readInstance hinst
  obtain ⟨before, hbefore, hs₃⟩ := ObjectLine.exists_of_eatSeparator hsep
  obtain ⟨xs, hxs, hs₄⟩ := ObjectLine.exists_of_readCoordinate hx
  obtain ⟨between, hbetween, hs₅⟩ := ObjectLine.exists_of_eatSeparator hsep'
  obtain ⟨ys, hys, hs₆⟩ := ObjectLine.exists_of_readCoordinate hy
  obtain ⟨gap', bar, hgap', hbar, hs₇⟩ := ObjectLine.readLabel_eq_ok_iff.mp hlabel
  have hs₁ : s₁.rest = ref ++ s₂.rest := by
    have hsplit := s₁.takeWhile_append isRefChar
    rw [hrun] at hsplit
    exact hsplit.symm
  have href : IsRef ref := by
    refine isRef_iff.mpr ⟨hne, fun c hc => ?_⟩
    obtain rfl : s₁.rest.takeWhile isRefChar = ref := congrArg Prod.fst hrun
    exact List.mem_takeWhile_imp hc
  have hhead : s₁.rest.head? = ref.head? := by
    obtain ⟨c, r, rfl, -⟩ := href.exists_cons
    rw [hs₁]
    rfl
  have hwhole : text.toList = margin ++ bullet ++ markOf solid ++ gap ++ ref ++ part ++ before ++
      xs ++ between ++ ys ++ gap' ++ bar := by
    change text.toList = _ at htext
    rw [htext, hs₁, hs₂, hs₃, hs₄, hs₅, hs₆, hs₇]
    simp only [List.append_assoc]
  rw [hwhole]
  exact .intro hmargin hbullet hgap href hpart hbefore hxs hbetween hys hgap' hbar
    fun hnil hsolid => hhead ▸ hdash hnil hsolid

/-- A line of the grammar is read, part by part. -/
theorem parse_of_isObjectLine {text : String} {l : ObjectLine} (h : IsObjectLine text.toList l) :
    ObjectLine.parse text = .ok l := by
  generalize htext : text.toList = chars at h
  cases h with
  | intro hmargin hbullet hgap href hinstance hbefore hx hbetween hy hgap' hlabel hdash =>
    rename_i margin bullet gap ref inst before x between y gap' bar instanceId label solid position
    obtain ⟨d, r, hcons, hd⟩ := href.exists_cons
    have hhead (rest : List Char) : (ref ++ rest).head? = some d := by rw [hcons]; rfl
    have hbang : ¬ isRefChar '!' := by decide
    have hmarks := ObjectLine.readMarks_append hmargin hbullet hgap
      (stopsAt_append ⟨d, r, hcons, not_blank_of_isRefChar hd⟩
        (inst ++ (before ++ (x ++ (between ++ (y ++ (gap' ++ bar)))))))
      (by rw [hhead]; exact fun heq => hbang (Option.some.inj heq ▸ hd))
      (by rw [hhead]; rw [hcons] at hdash; exact hdash)
    have hrefStops := hbefore.stopsAt (fun c hc hchar => not_blank_of_isRefChar hchar hc)
      (by decide) (x ++ (between ++ (y ++ (gap' ++ bar))))
    have hhash : StopsAt (· = '#') (before ++ (x ++ (between ++ (y ++ (gap' ++ bar))))) := by
      refine hbefore.stopsAt (fun c hc heq => ?_) (by decide) _
      rw [of_decide_eq_true heq] at hc
      exact absurd hc (by decide)
    have hrun := Scanner.takeWhile_run (isRef_iff.mp href).2 (hinstance.stopsAt hrefStops)
    have hinst := ObjectLine.readInstance_append hinstance hrefStops
      (by intro heq; exact hhash '#' heq (by decide))
    have hdigitStops := hbetween.stopsAt (fun c hc => not_isDigit_of_blank hc) (by decide)
      (y ++ (gap' ++ bar))
    refine ObjectLine.parse_eq_ok.mpr ⟨solid, _, ref, _, instanceId, _, _, position.x, _, _,
      position.y, _, label, ?_, hrun, href.1, hinst,
      ObjectLine.eatSeparator_append (by decide) hbefore (hx.head_append (by decide) _),
      ObjectLine.readCoordinate_append hx hdigitStops,
      ObjectLine.eatSeparator_append (by decide) hbetween (hy.head_append (by decide) _),
      ObjectLine.readCoordinate_append hy (hlabel.stopsAt hgap'),
      ObjectLine.readLabel_eq_ok_iff.mpr ⟨gap', bar, hgap', hlabel, rfl⟩, rfl⟩
    rw [← hmarks, Scanner.ofText, htext]
    simp only [List.append_assoc]

/-- The lines that are read are those of the grammar, and what is read of them is what the grammar
says. -/
theorem parse_iff_isObjectLine {text : String} {l : ObjectLine} :
    ObjectLine.parse text = .ok l ↔ IsObjectLine text.toList l :=
  ⟨isObjectLine_of_parse, parse_of_isObjectLine⟩

/-- Of two dashes the first one is the bullet, and the other one starts the id. -/
example : (ObjectLine.parse " --lamp#a.b : 3,04| Old lamp ").toOption =
    some ⟨"-lamp", some "a.b", false, ⟨3, 4⟩, some "Old lamp"⟩ := by
  decide +kernel

end Tilemap
