import Tilemap.Proofs.DoorLists
import Tilemap.Proofs.HeadSettings

/-!
# The older form of a door out

A map text lists its doors out under `doorOut`. In the older form it has one, and the head gives its
position under `doorPosition`. `compile_of_doorPosition` says that the older form is only another
way to write a list of one door: when the position is listed instead, and nothing is left under the
older key, the text describes the same map or is refused for the same reason, and no refusal is
about the door in the older form.

The two texts differ in lines of the head only. Of these the head keeps what it says under every
other key, and the position is read back from the list that it is written into.
-/

namespace Tilemap

open Text

/-! ### Statement -/

def doorOutLine (p : Position) : List Char := ("doorOut: " ++ p.text).toList

/-- The first text gives a door in the older form, by the line at a place, and the second text lists
it there instead. No other line with the older key is left in the second text, and all lines with
other keys stay. -/
structure ListsOlderDoor (lines lines' : List (List Char)) (i : Nat) (p : Position) : Prop where
  no_list : ∀ j value, SettingAt lines j "doorOut" value → value = ""
  position : ∃ value, LastSettingAt lines i "doorPosition" value ∧ Position.parse? value = some p
  length : lines'.length = lines.length
  listed : lines'[i]? = some (doorOutLine p)
  blanked : ∀ j value, j ≠ i → SettingAt lines j "doorPosition" value →
    ∃ line, lines'[j]? = some line ∧ trim line = []
  kept : ∀ j, (∀ value, ¬ SettingAt lines j "doorPosition" value) → lines'[j]? = lines[j]?

/-! ### The listed door -/

def DoorEntry.plain (p : Position) : DoorEntry := ⟨p, none, none⟩

theorem DoorEntry.parse_position (p : Position) : DoorEntry.parse p.text = .ok (.plain p) :=
  @DoorEntry.parse_text (.plain p) (by simp [DoorEntry.plain])

theorem splitDoorEntries_position (p : Position) : splitDoorEntries p.text = [p.text] :=
  @splitDoorEntries_doorListText [(.plain p, ';')] (by simp [DoorEntry.plain]) (by simp)

theorem doorOutLine_eq (p : Position) :
    doorOutLine p = "doorOut".toList ++ ':' :: ' ' :: p.text.toList := by
  simp [doorOutLine]

theorem isText_doorOutLine (p : Position) : IsText (doorOutLine p) := by
  rw [doorOutLine_eq]
  exact (@code_of_key "doorOut".toList "oorOut".toList 'd' (by decide) (by decide) (by decide) _).1

/-- The line is an entry of the head with the position as its value. -/
theorem headEntry_doorOutLine (number : Nat) (p : Position) :
    (Line.ofSource number (doorOutLine p)).headEntry = some ⟨"doorOut", p.text⟩ := by
  obtain ⟨-, code, hcode, hcolon⟩ := @code_of_key "doorOut".toList "oorOut".toList 'd'
    (by decide) (by decide) (by decide) (' ' :: p.text.toList)
  have hend : trimEnd (' ' :: p.text.toList) = ' ' :: p.text.toList := by
    obtain ⟨c, r, htext⟩ := List.exists_cons_of_ne_nil p.text_ne_nil
    have hfree : ∀ d ∈ c :: r, ¬ isBlank d := fun d hd =>
      Position.not_blank_of_mem_text (htext ▸ hd)
    have hend := trimEnd_append_cons [' '] (hfree c List.mem_cons_self) r
    rw [trimEnd_of_not_blank fun d hd => hfree d (List.mem_cons_of_mem c hd)] at hend
    rw [htext]
    exact hend
  have hstrip : stripCommentChars (' ' :: p.text.toList) = ' ' :: p.text.toList :=
    stripCommentChars_of_notMem <| List.not_mem_cons_of_ne_of_not_mem (by decide)
      (p.notMem_text (by decide) (by decide) (by decide))
  have htrim : trim (' ' :: p.text.toList) = p.text.toList := by
    have hblank : ∀ c ∈ [' '], isBlank c := List.all_eq_true.mp (by decide)
    have hmargins := @trim_margins [' '] p.text.toList [] hblank (by simp)
    rwa [List.append_nil, p.trim_text] at hmargins
  rw [doorOutLine_eq, headEntry_of_code number hcode hcolon (by decide) (by decide), hend, hstrip,
    htrim, String.ofList_toList]
  rfl

/-! ### Places of the two texts -/

theorem SettingAt.exists_text {lines : List (List Char)} {i : Nat} {key value : String}
    (h : SettingAt lines i key value) :
    KeyAt lines i metaKey ∧ ∃ line, lines[i]? = some line ∧ IsText line := by
  obtain ⟨spelled, rest, ⟨l, ⟨hkey, line, hline, htext, -⟩, -⟩, -⟩ := h
  exact ⟨hkey, line, hline, htext⟩

namespace ListsOlderDoor

variable {lines lines' : List (List Char)} {i : Nat} {p : Position}
  (h : ListsOlderDoor lines lines' i p)
include h

theorem settingAt : ∃ value, SettingAt lines i "doorPosition" value := by
  obtain ⟨value, hlast, -⟩ := h.position
  exact ⟨value, hlast.1⟩

/-- Where the first text gives a position, the second one lists it or is blank. -/
theorem listed_or_blank {j : Nat} {value : String}
    (hj : SettingAt lines j "doorPosition" value) :
    j = i ∧ lines'[j]? = some (doorOutLine p) ∨
      ∃ line, lines'[j]? = some line ∧ trim line = [] := by
  by_cases hji : j = i
  · exact .inl ⟨hji, hji ▸ h.listed⟩
  · exact .inr (h.blanked j value hji hj)

theorem headerAt_iff (j : Nat) (name : String) :
    HeaderAt lines j name ↔ HeaderAt lines' j name := by
  by_cases hj : ∃ value, SettingAt lines j "doorPosition" value
  · obtain ⟨value, hj⟩ := hj
    obtain ⟨-, line, hline, htext⟩ := hj.exists_text
    have hnot : ¬ HeaderAt lines j name := by
      rintro ⟨line', hline', hname⟩
      obtain rfl : line = line' := Option.some.inj (hline.symm.trans hline')
      exact htext.2 name hname
    have hnot' : ¬ HeaderAt lines' j name := by
      rintro ⟨line', hline', hname⟩
      rcases h.listed_or_blank hj with ⟨-, hlisted⟩ | ⟨blank, hblank, htrim⟩
      · obtain rfl : doorOutLine p = line' := Option.some.inj (hlisted.symm.trans hline')
        exact (isText_doorOutLine p).2 name hname
      · obtain rfl : blank = line' := Option.some.inj (hblank.symm.trans hline')
        exact not_isHeader_of_blank htrim name hname
    exact iff_of_false hnot hnot'
  · rw [HeaderAt, HeaderAt, h.kept j (not_exists.mp hj)]

theorem keyAt_iff (j : Nat) (key : String) : KeyAt lines j key ↔ KeyAt lines' j key :=
  ⟨KeyAt.congr h.headerAt_iff, KeyAt.congr fun k name => (h.headerAt_iff k name).symm⟩

/-- A line other than the one that is written anew is the same in both texts. -/
theorem textAt_iff_of_kept {j : Nat} (hj : ∀ value, ¬ SettingAt lines j "doorPosition" value)
    (key : String) (l : Line) : TextAt lines j key l ↔ TextAt lines' j key l := by
  rw [TextAt, TextAt, h.keyAt_iff, h.kept j hj]

/-- Text that stands in the second text where the first one gives a position is the list. -/
theorem eq_of_textAt {j : Nat} {value key : String} {l : Line}
    (hj : SettingAt lines j "doorPosition" value) (hl : TextAt lines' j key l) :
    j = i ∧ l = .ofSource (i + 1) (doorOutLine p) := by
  obtain ⟨-, line, hline, htext, rfl⟩ := hl
  rcases h.listed_or_blank hj with ⟨rfl, hlisted⟩ | ⟨blank, hblank, htrim⟩
  · obtain rfl : doorOutLine p = line := Option.some.inj (hlisted.symm.trans hline)
    exact ⟨rfl, rfl⟩
  · obtain rfl : blank = line := Option.some.inj (hblank.symm.trans hline)
    exact absurd htrim htext.1

/-- Outside of the head the two texts have the same lines. -/
theorem textAt_iff {key : String} (hne : key ≠ metaKey) (j : Nat) (l : Line) :
    TextAt lines j key l ↔ TextAt lines' j key l := by
  by_cases hj : ∃ value, SettingAt lines j "doorPosition" value
  · obtain ⟨value, hj⟩ := hj
    have hkey := Tilemap.keyAt_iff.mp hj.exists_text.1
    have hnot : ¬ KeyAt lines j key := fun hkey' =>
      hne ((Tilemap.keyAt_iff.mp hkey').symm.trans hkey)
    have hnot' : ¬ KeyAt lines' j key := fun hkey' => hnot ((h.keyAt_iff j key).mpr hkey')
    exact iff_of_false (fun hl => hnot hl.1) fun hl => hnot' hl.1
  · exact h.textAt_iff_of_kept (not_exists.mp hj) key l

/-! ### What the heads say -/

/-- Under another key both texts have the same settings. -/
theorem settingAt_iff_of_other {key : String} (hkey : Key.compact key ≠ "")
    (hout : Key.compact "doorOut" ≠ Key.compact key)
    (hposition : Key.compact "doorPosition" ≠ Key.compact key) (j : Nat) (value : String) :
    SettingAt lines j key value ↔ SettingAt lines' j key value := by
  rw [settingAt_iff hkey, settingAt_iff hkey]
  -- A line with a position is an entry of the older key before, and of the newer one or none after.
  by_cases hj : ∃ value, SettingAt lines j "doorPosition" value
  · obtain ⟨value', hj⟩ := hj
    refine iff_of_false ?_ ?_
    · rintro ⟨l, e, hl, he, hcompact, -⟩
      obtain ⟨e', he', hcompact', -⟩ := hj.exists_headEntry (by decide) hl
      obtain rfl : e = e' := Option.some.inj (he.symm.trans he')
      exact hposition (hcompact'.symm.trans hcompact)
    · rintro ⟨l, e, hl, he, hcompact, -⟩
      obtain ⟨-, rfl⟩ := h.eq_of_textAt hj hl
      rw [headEntry_doorOutLine] at he
      obtain rfl := Option.some.inj he
      exact hout hcompact
  · simp only [h.textAt_iff_of_kept (not_exists.mp hj)]

/-- The position is the value of the list in the second text. -/
theorem lastSettingAt_doorOut : LastSettingAt lines' i "doorOut" p.text := by
  obtain ⟨value, hi⟩ := h.settingAt
  have htext : TextAt lines' i metaKey (.ofSource (i + 1) (doorOutLine p)) :=
    ⟨(h.keyAt_iff i metaKey).mp hi.exists_text.1, doorOutLine p, h.listed, isText_doorOutLine p,
      rfl⟩
  refine ⟨?_, ?_, ?_⟩
  · exact (settingAt_iff (by decide)).mpr ⟨_, _, htext, headEntry_doorOutLine _ p, rfl, rfl⟩
  · intro hnil
    exact p.text_ne_nil (by rw [hnil]; rfl)
  · intro j value' hij hj'
    by_cases hj : ∃ value, SettingAt lines j "doorPosition" value
    · obtain ⟨value, hj⟩ := hj
      obtain ⟨l, -, hl, -⟩ := (settingAt_iff (by decide)).mp hj'
      exact absurd (h.eq_of_textAt hj hl).1 (Nat.ne_of_gt hij)
    · refine h.no_list j value' ((settingAt_iff (by decide)).mpr ?_)
      simpa only [h.textAt_iff_of_kept (not_exists.mp hj)] using (settingAt_iff (by decide)).mp hj'

end ListsOlderDoor

/-! ### Refusals -/

/-- Only the doors are refused with an error about a door. -/
theorem buildDoors_of_compile_eq_error {text : String} {options : CompileOptions} {entry : String}
    {reason : DoorError} (h : compile text options = .error (.invalidDoorCoordinate entry reason)) :
    buildDoors (outboundEntries ((headOf text).get? ["doorOut"])
        ((headOf text).get? ["doorPosition"]))
      ((((headOf text).get? ["doorIn"]).map splitDoorEntries).getD [])
      (resolveMapId ((headOf text).get? ["id"]) options.sourcePath) .empty =
        .error (.invalidDoorCoordinate entry reason) := by
  unfold compile at h
  simp only [bind_eq_error] at h
  rcases h with h | ⟨tiles, -, h | ⟨layers, -, h | ⟨built, -, h | ⟨placed, -, h⟩⟩⟩⟩
  · obtain ⟨_, -, _, hadd⟩ := exists_add_of_resolveTiles_eq_error h
    rcases Legend.exists_of_add_eq_error hadd with ⟨_, -, -, he⟩ | ⟨_, _, _, he⟩ <;> cases he
  · rcases exists_of_compileLayers_eq_error h with ⟨_, _, _, _, he⟩ | ⟨_, _, _, he⟩ <;> cases he
  · exact h
  · obtain ⟨_, -, _, hplace⟩ := exists_of_compileObjectLayersFrom_eq_error h
    obtain ⟨_, _, _, _, _, _, -, he, -⟩ := placeLines_eq_error hplace
    cases he
  · obtain ⟨_, he⟩ := exists_of_assemble_eq_error h
    cases he

/-- The older form can always be read, so a door that cannot be read leads in. -/
theorem exists_inbound_of_buildDoors_eq_error {older : Option String} {inbound : List String}
    {mapId : String} {ids : IdAllocator} {e : MapError}
    (h : buildDoors (outboundEntries none older) inbound mapId ids = .error e) :
    ∃ entry ∈ inbound, DoorEntry.parse entry = .error e := by
  obtain ⟨entry, hentry, hparse⟩ := exists_of_buildDoors_eq_error h
  rcases List.mem_append.mp hentry with hentry | hentry
  · obtain ⟨p, -, rfl⟩ := Option.map_eq_some_iff.mp (Option.mem_toList.mp hentry)
    rw [DoorEntry.parse_position] at hparse
    cases hparse
  · exact ⟨entry, hentry, hparse⟩

/-! ### Main result -/

/-- The other keys that are known are spelled neither like the older key nor like the newer one. -/
theorem other_keys : ∀ key ∈ knownKeys, key ≠ "doorOut" → key ≠ "doorPosition" →
    Key.compact key ≠ "" ∧ Key.compact "doorOut" ≠ Key.compact key ∧
      Key.compact "doorPosition" ≠ Key.compact key := by
  decide +kernel

namespace ListsOlderDoor

variable {text text' : String} {i : Nat} {p : Position}
  (h : ListsOlderDoor (linesOf text) (linesOf text') i p)
include h

theorem get?_doorOut : (headOf text).get? ["doorOut"] = none ∧
    (headOf text').get? ["doorOut"] = some p.text := by
  rw [MetaTable.get?_singleton, MetaTable.get?_singleton]
  exact ⟨(value?_headOf_eq_none_iff (by decide)).mpr h.no_list,
    (value?_headOf_eq_some_iff (by decide)).mpr ⟨i, h.lastSettingAt_doorOut⟩⟩

theorem saySame : (headOf text).SaySame (headOf text') where
  value := by
    intro key hknown hout hposition
    obtain ⟨hkey, hout, hposition⟩ := other_keys key hknown hout hposition
    apply Option.ext
    intro value
    rw [value?_headOf_eq_some_iff hkey, value?_headOf_eq_some_iff hkey]
    exact exists_congr fun j =>
      LastSettingAt.congr (h.settingAt_iff_of_other hkey hout hposition) j value
  outbound := by
    obtain ⟨value, hlast, hparse⟩ := h.position
    have hvalue : (headOf text).get? ["doorPosition"] = some value := by
      rw [MetaTable.get?_singleton]
      exact (value?_headOf_eq_some_iff (by decide)).mpr ⟨i, hlast⟩
    rw [h.get?_doorOut.1, h.get?_doorOut.2, hvalue, outboundEntries, outboundEntries,
      Option.bind_some, hparse, splitDoorEntries_position]
    rfl
  extra := by
    apply extra_headOf_congr
    intro j l hunknown
    by_cases hj : ∃ value, SettingAt (linesOf text) j "doorPosition" value
    · obtain ⟨value, hj⟩ := hj
      have hnot {e : MetaEntry} (he : l.headEntry = some e) (hknown : e.isKnown) : False := by
        simp [he, hknown] at hunknown
      refine iff_of_false ?_ ?_
      · intro hl
        obtain ⟨e, he, hcompact, -⟩ := hj.exists_headEntry (by decide) hl
        refine hnot he ?_
        rw [MetaEntry.isKnown, hcompact]
        decide +kernel
      · intro hl
        obtain ⟨-, rfl⟩ := h.eq_of_textAt hj hl
        refine hnot (headEntry_doorOutLine (i + 1) p) ?_
        change (knownKeys.map Key.compact).contains (Key.compact "doorOut") = true
        decide +kernel
    · exact h.textAt_iff_of_kept (not_exists.mp hj) metaKey l

/-- A section other than the head has the same lines in both texts. -/
theorem linesUnder_eq {key : String} (hne : key ≠ metaKey) :
    linesUnder key (itemsOf text) = linesUnder key (itemsOf text') := by
  have hall := @filter_linesUnder_congr text text' key (fun _ => true) fun j l _ =>
    h.textAt_iff hne j l
  simpa using hall

theorem titles_eq : titles (itemsOf text) = titles (itemsOf text') := by
  rw [titles_itemsOf, titles_itemsOf]
  exact titles_congr h.length.symm h.headerAt_iff

end ListsOlderDoor

/-- A door in the older form is the same as a list of that door, and is never what a map is refused
for: an error about a door quotes an entry of the list of doors that lead in. -/
theorem compile_of_doorPosition {text text' : String} {i : Nat} {p : Position}
    (h : ListsOlderDoor (linesOf text) (linesOf text') i p) (options : CompileOptions) :
    compile text options = compile text' options ∧
      ∀ entry reason, compile text options = .error (.invalidDoorCoordinate entry reason) →
        ∃ j list, LastSettingAt (linesOf text) j "doorIn" list ∧ entry ∈ splitDoorEntries list ∧
          DoorEntry.parse entry = .error (.invalidDoorCoordinate entry reason) := by
  constructor
  · exact compile_of_saySame h.saySame (fun key hne => h.linesUnder_eq hne) h.titles_eq options
  · intro entry reason herror
    have hdoors := buildDoors_of_compile_eq_error herror
    rw [h.get?_doorOut.1] at hdoors
    obtain ⟨entry', hentry, hparse⟩ := exists_inbound_of_buildDoors_eq_error hdoors
    obtain ⟨reason', heq⟩ := DoorEntry.exists_of_parse_eq_error hparse
    obtain ⟨rfl, rfl⟩ := MapError.invalidDoorCoordinate.inj heq
    cases hlist : (headOf text).get? ["doorIn"] with
    | none => simp [hlist] at hentry
    | some list =>
      rw [hlist] at hentry
      rw [MetaTable.get?_singleton] at hlist
      obtain ⟨j, hj⟩ := (value?_headOf_eq_some_iff (by decide)).mp hlist
      exact ⟨j, list, hj, hentry, hparse⟩

/-- A pier with three lines for the position of its door, of which the second one counts. -/
def pierLines : List String :=
  ["id: pier", "doorPosition: 9x9", "Door Position: -3, 4 # west", "door_position:", "doorIn: 0x0",
    "[Layer]", ". ."]

def listedPierLines : List String :=
  ["id: pier", "", "doorOut: -3x4", " ", "doorIn: 0x0", "[Layer]", ". ."]

/-- The pier, with its door in the older form and in a list. -/
theorem compile_of_doorPosition_pier :
    ListsOlderDoor (linesOf (textOf pierLines)) (linesOf (textOf listedPierLines)) 2 ⟨-3, 4⟩ ∧
      compile (textOf pierLines) .default = compile (textOf listedPierLines) .default := by
  have hlines : linesOf (textOf pierLines) = pierLines.map String.toList :=
    linesOf_textOf (by decide) (by decide)
  have hlines' : linesOf (textOf listedPierLines) = listedPierLines.map String.toList :=
    linesOf_textOf (by decide) (by decide)
  have hsettings (j : Nat) (value : String) :
      SettingAt (linesOf (textOf pierLines)) j "doorPosition" value ↔
        j = 1 ∧ value = "9x9" ∨ j = 2 ∧ value = "-3, 4" ∨ j = 3 ∧ value = "" := by
    have hpositions : headSettings "doorPosition" (textOf pierLines) =
        [(1, "9x9"), (2, "-3, 4"), (3, "")] := by
      decide +kernel
    rw [← mem_headSettings (by decide), hpositions]
    simp
  have h : ListsOlderDoor (linesOf (textOf pierLines)) (linesOf (textOf listedPierLines)) 2
      ⟨-3, 4⟩ := by
    constructor
    case no_list =>
      have hlists : headSettings "doorOut" (textOf pierLines) = [] := by decide +kernel
      intro j value hj
      rw [← mem_headSettings (by decide), hlists] at hj
      cases hj
    case position =>
      refine ⟨"-3, 4", ⟨(hsettings 2 _).mpr (by simp), by decide, ?_⟩, by decide +kernel⟩
      intro j value hj hvalue
      rcases (hsettings j value).mp hvalue with ⟨rfl, -⟩ | ⟨rfl, -⟩ | ⟨-, hempty⟩
      · omega
      · omega
      · exact hempty
    case length => rw [hlines, hlines', List.length_map, List.length_map]; rfl
    case listed => rw [hlines']; decide +kernel
    case blanked =>
      intro j value hne hvalue
      rw [hlines']
      rcases (hsettings j value).mp hvalue with ⟨rfl, -⟩ | ⟨rfl, -⟩ | ⟨rfl, -⟩
      · exact ⟨[], rfl, rfl⟩
      · exact absurd rfl hne
      · exact ⟨[' '], rfl, rfl⟩
    case kept =>
      intro j hnot
      rw [hlines, hlines', List.getElem?_map, List.getElem?_map]
      match j with
      | 0 | 4 | 5 | 6 | _ + 7 => rfl
      | 1 | 2 | 3 => simp [hsettings] at hnot
  exact ⟨h, (compile_of_doorPosition h .default).1⟩

end Tilemap
