import Tilemap.Door
import Tilemap.Proofs.Coordinates
import Tilemap.Proofs.Stages

/-!
# Written lists of doors

A door is written as its position and, behind an arrow, the map and the position that it leads to,
with an `@` between them. A list of doors is read back as it was written, whichever of the
separators stand between the doors and whatever the map names are made of, as long as they are
trimmed and have no separator and no `@` in them.

The marks nest: a separator ends a door, the first arrow ends its position, and the first `@` behind
that ends the map name. None of them occurs in a position, so each cut finds the mark that was
written, and an arrow or a colon inside a map name stands behind the first arrow.
-/

namespace Tilemap

open Text

/-! ### Statement -/

/-- A name of a map that can stand in a list of doors: not empty, trimmed, and without the marks
that end it. -/
structure IsMapName (name : String) : Prop where
  nonempty : name.toList ≠ []
  trimmed : trim name.toList = name.toList
  unmarked : ∀ c ∈ [';', ',', '\n', '@'], c ∉ name.toList

instance (name : String) : Decidable (IsMapName name) :=
  decidable_of_iff (name.toList ≠ [] ∧ trim name.toList = name.toList ∧
    [';', ',', '\n', '@'].all fun c => c ∉ name.toList)
    ⟨fun ⟨hne, htrim, hmarks⟩ =>
        ⟨hne, htrim, fun c hc => of_decide_eq_true (List.all_eq_true.mp hmarks c hc)⟩,
      fun h => ⟨h.nonempty, h.trimmed,
        List.all_eq_true.mpr fun c hc => decide_eq_true (h.unmarked c hc)⟩⟩

def DoorEntry.text (d : DoorEntry) : String :=
  match d.targetMap, d.targetPosition with
  | none, none => d.position.text
  | some map, none => d.position.text ++ "->" ++ map
  | some map, some target => d.position.text ++ "->" ++ map ++ "@" ++ target.text
  | none, some target => d.position.text ++ "->@" ++ target.text

/-- Writes doors one after another, each with its own separator behind it unless it is the last. -/
def doorListText : List (DoorEntry × Char) → String
  | [] => ""
  | [(d, _)] => d.text
  | (d, separator) :: rest => d.text ++ separator.toString ++ doorListText rest

/-! ### Cutting at the marks -/

/-- Only a dash before `>` starts an arrow. -/
theorem isPrefixOf_arrow {r : List Char} (h : r.head? ≠ some '>') (c : Char) :
    List.isPrefixOf ['-', '>'] (c :: r) = false := by
  cases r with
  | nil => simp [List.isPrefixOf]
  | cons d r =>
    have hd : '>' ≠ d := fun hd => h (congrArg some hd.symm)
    simp [List.isPrefixOf, hd]

/-- A text is cut at the first arrow. -/
theorem cut?_arrow {a : List Char} (h : '>' ∉ a) (b : List Char) :
    cut? ['-', '>'] (a ++ '-' :: '>' :: b) = some (a, b) := by
  induction a with
  | nil => rfl
  | cons c a ih =>
    rw [List.mem_cons, not_or] at h
    have hhead : (a ++ '-' :: '>' :: b).head? ≠ some '>' := by
      cases a with
      | nil => simp
      | cons d a => exact fun hd => h.2 (Option.some.inj hd ▸ List.mem_cons_self)
    rw [List.cons_append, cut?, isPrefixOf_arrow hhead, ih h.2]
    rfl

theorem cut?_arrow_of_notMem {s : List Char} (h : '>' ∉ s) : cut? ['-', '>'] s = none := by
  induction s with
  | nil => rfl
  | cons c s ih =>
    rw [List.mem_cons, not_or] at h
    have hhead : s.head? ≠ some '>' := fun hd => h.2 (List.mem_of_head? hd)
    rw [cut?, isPrefixOf_arrow hhead, ih h.2]
    rfl

namespace DoorEntry

def targetText (d : DoorEntry) : List Char :=
  (d.targetMap.getD "").toList ++ match d.targetPosition with
    | none => []
    | some target => '@' :: target.text.toList

/-- Behind the position stands an arrow with the target, unless the door has no target at all. -/
theorem toList_text (d : DoorEntry) :
    d.text.toList = d.position.text.toList ∧ d.targetMap = none ∧ d.targetPosition = none ∨
      d.text.toList = d.position.text.toList ++ '-' :: '>' :: d.targetText := by
  obtain ⟨position, targetMap, targetPosition⟩ := d
  cases targetMap <;> cases targetPosition <;> simp [text, targetText]

theorem text_ne_nil (d : DoorEntry) : d.text.toList ≠ [] := by
  rcases d.toList_text with ⟨htext, -⟩ | htext <;> rw [htext]
  · exact d.position.text_ne_nil
  · simp

/-! ### One door -/

variable {d : DoorEntry} (hname : ∀ name ∈ d.targetMap, IsMapName name)
include hname

theorem trim_targetMap : trim (d.targetMap.getD "").toList = (d.targetMap.getD "").toList := by
  cases hmap : d.targetMap with
  | none => rfl
  | some name => exact (hname name hmap).trimmed

theorem nonBlank?_targetMap : nonBlank? (d.targetMap.getD "") = d.targetMap := by
  cases hmap : d.targetMap with
  | none => rfl
  | some name => exact nonBlank?_of_trim_eq (hname name hmap).nonempty (hname name hmap).trimmed

theorem notMem_targetMap {c : Char} (hc : c ∈ [';', ',', '\n', '@']) :
    c ∉ (d.targetMap.getD "").toList := by
  cases hmap : d.targetMap with
  | none => simp
  | some name => exact (hname name hmap).unmarked c hc

theorem trim_targetText : trim d.targetText = d.targetText := by
  have hmap := trim_targetMap hname
  rw [targetText]
  cases d.targetPosition with
  | none => rw [List.append_nil, hmap]
  | some target =>
    have htarget : trimEnd target.text.toList = target.text.toList :=
      trimEnd_of_not_blank fun _ => Position.not_blank_of_mem_text
    dsimp only
    rw [trim_append_cons _ (by decide), trimStart_of_trim_eq hmap, htarget]

/-- The target is read back from what stands behind the arrow. -/
theorem readTarget_targetText :
    readTarget d.targetText = .ok (d.targetMap, d.targetPosition) := by
  have hcut := notMem_targetMap hname (c := '@') (by decide)
  rw [readTarget, trim_targetText hname, targetText]
  cases d.targetPosition with
  | none =>
    rw [List.append_nil, cut?_of_notMem hcut]
    simp only [String.ofList_toList, nonBlank?_targetMap hname]
  | some target =>
    rw [cut?_append hcut]
    simp only [String.ofList_toList, nonBlank?_targetMap hname, target.trim_text,
      if_neg target.text_ne_nil, target.parse?_text]

/-- A door is read back from its text. -/
theorem parse_text : parse d.text = .ok d := by
  have harrow : '>' ∉ d.position.text.toList :=
    d.position.notMem_text (by decide) (by decide) (by decide)
  have hcolon : ':' ∉ d.position.text.toList :=
    d.position.notMem_text (by decide) (by decide) (by decide)
  rcases d.toList_text with ⟨htext, hmap, htarget⟩ | htext
  · have hread : readTarget [] = .ok (none, none) := rfl
    rw [parse, htext, cut?_arrow_of_notMem harrow, cut?_of_notMem hcolon]
    simp only [Option.or_none, Option.getD_none, String.ofList_toList, d.position.parse?_text,
      hread]
    rw [← hmap, ← htarget]
  · rw [parse, htext, cut?_arrow harrow]
    simp only [Option.some_or, Option.getD_some, String.ofList_toList, d.position.parse?_text,
      readTarget_targetText hname]

theorem trim_text : trim d.text.toList = d.text.toList := by
  rcases d.toList_text with ⟨htext, -⟩ | htext
  · rw [htext, d.position.trim_text]
  · have hend : trimEnd ('>' :: d.targetText) = '>' :: d.targetText := by
      rw [trimEnd_cons_of_not_blank (by decide), ← trim_targetText hname, trimEnd_trim]
    rw [htext, trim_append_cons _ (by decide), trimStart_of_trim_eq d.position.trim_text, hend]

/-- No separator occurs in the text of a door. -/
theorem notMem_text {c : Char} (hc : c ∈ [';', ',', '\n']) : c ∉ d.text.toList := by
  have hmap := notMem_targetMap hname (List.mem_append_left ['@'] hc)
  have hposition (p : Position) : c ∉ p.text.toList := by
    simp only [List.mem_cons, List.not_mem_nil, or_false] at hc
    rcases hc with rfl | rfl | rfl <;>
      exact p.notMem_text (by decide) (by decide) (by decide)
  have hmarks : c ≠ '-' ∧ c ≠ '>' ∧ c ≠ '@' := by
    simp only [List.mem_cons, List.not_mem_nil, or_false] at hc
    rcases hc with rfl | rfl | rfl <;> decide
  have htarget : c ∉ d.targetText := by
    rw [targetText, List.mem_append, not_or]
    refine ⟨hmap, ?_⟩
    cases d.targetPosition with
    | none => simp
    | some target => simp [hmarks.2.2, hposition target]
  rcases d.toList_text with ⟨htext, -⟩ | htext <;> rw [htext]
  · exact hposition _
  · simp [hposition, hmarks, htarget]

end DoorEntry

/-! ### Main result -/

/-- A list of doors falls into the texts of its doors. -/
theorem pieces_doorListText {doors : List (DoorEntry × Char)} (hne : doors ≠ [])
    (hnames : ∀ d ∈ doors, ∀ name ∈ d.1.targetMap, IsMapName name)
    (hseparators : ∀ d ∈ doors, d.2 ∈ [';', ',', '\n']) :
    pieces (fun c => c = ';' || c = ',' || c = '\n') (doorListText doors).toList =
      doors.map (·.1.text.toList) := by
  have hclass (c : Char) : (c = ';' || c = ',' || c = '\n') = decide (c ∈ [';', ',', '\n']) := by
    simp [Bool.or_assoc]
  have htext : ∀ d ∈ doors, ∀ c ∈ d.1.text.toList, ¬ (c = ';' || c = ',' || c = '\n') := by
    intro d hd c hc
    rw [hclass, decide_eq_true_eq]
    exact fun hmem => DoorEntry.notMem_text (hnames d hd) hmem hc
  induction doors with
  | nil => exact absurd rfl hne
  | cons d rest ih =>
    obtain ⟨hd, hrest⟩ := List.forall_mem_cons.mp htext
    cases rest with
    | nil => exact pieces_of_none hd
    | cons e rest =>
      have hseparator : (d.2 = ';' || d.2 = ',' || d.2 = '\n') := by
        rw [hclass, decide_eq_true_eq]
        exact hseparators d List.mem_cons_self
      have hwhole : (doorListText (d :: e :: rest)).toList =
          d.1.text.toList ++ d.2 :: (doorListText (e :: rest)).toList := by
        simp [doorListText]
      rw [hwhole, pieces_append hseparator, pieces_of_none hd,
        ih (List.cons_ne_nil _ _) (fun d hd => hnames d (List.mem_cons_of_mem _ hd))
          (fun d hd => hseparators d (List.mem_cons_of_mem _ hd)) hrest]
      rfl

/-- The entries of a written list are the texts of its doors. -/
theorem splitDoorEntries_doorListText {doors : List (DoorEntry × Char)}
    (hnames : ∀ d ∈ doors, ∀ name ∈ d.1.targetMap, IsMapName name)
    (hseparators : ∀ d ∈ doors, d.2 ∈ [';', ',', '\n']) :
    splitDoorEntries (doorListText doors) = doors.map (·.1.text) := by
  by_cases hne : doors = []
  · subst hne
    decide
  · have hentry : ∀ d ∈ doors, nonBlank? d.1.text = some d.1.text := fun d hd =>
      nonBlank?_of_trim_eq d.1.text_ne_nil (DoorEntry.trim_text (hnames d hd))
    rw [splitDoorEntries, pieces_doorListText hne hnames hseparators, List.filterMap_map]
    have hmap : doors.map (·.1.text) = doors.filterMap fun d => some d.1.text := by
      rw [List.filterMap_eq_map']
    rw [hmap]
    refine List.filterMap_congr fun d hd => ?_
    simp only [Function.comp_apply, String.ofList_toList, hentry d hd]

/-- A written list of doors is read back. -/
theorem parse_doorListText {doors : List (DoorEntry × Char)}
    (hnames : ∀ d ∈ doors, ∀ name ∈ d.1.targetMap, IsMapName name)
    (hseparators : ∀ d ∈ doors, d.2 ∈ [';', ',', '\n']) :
    (splitDoorEntries (doorListText doors)).mapM DoorEntry.parse = .ok (doors.map Prod.fst) := by
  rw [splitDoorEntries_doorListText hnames hseparators, mapM_eq_ok_iff, List.forall₂_map_left_iff,
    List.forall₂_map_right_iff, List.forall₂_same]
  exact fun d hd => DoorEntry.parse_text (hnames d hd)

/-- The doors of a harbour: one of each form, with negative coordinates and with an arrow, a colon
and a blank in a name. -/
def harbourDoors : List (DoorEntry × Char) :=
  [(⟨⟨-1, 2⟩, some "a->b: c", some ⟨3, -4⟩⟩, ';'), (⟨⟨0, Int32.minValue⟩, none, none⟩, '\n'),
    (⟨⟨5, 6⟩, none, some ⟨-7, 8⟩⟩, ','), (⟨⟨9, 10⟩, some "cave", none⟩, ';')]

/-- The list is `-1x2->a->b: c@3x-4;0x-2147483648` and, on a line of its own,
`5x6->@-7x8,9x10->cave`. -/
theorem parse_doorListText_harbour :
    (splitDoorEntries (doorListText harbourDoors)).mapM DoorEntry.parse =
      .ok (harbourDoors.map Prod.fst) :=
  parse_doorListText (by decide +kernel) (by decide +kernel)

end Tilemap
