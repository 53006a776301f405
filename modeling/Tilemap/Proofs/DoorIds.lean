import Tilemap.Proofs.DoorsAndObjects
import Tilemap.Proofs.Layout

/-!
# Ids of doors

Other maps link to the doors of a map by their ids. In a map text the doors come first, so no object
can take an id from them: `doors_of_compile` says which ids they get, and that objects have no part
in it.

The allocator numbers the doors of one kind through, as long as nothing else has taken their ids
(`plainIds_replicate`), and the ids of inbound doors and those of outbound doors never meet
(`nthId_ne`). What a text says besides its objects is in its other sections, which a block of
objects does not touch wherever it stands (`sectionsOutside_of_block`).
-/

namespace Tilemap

open IdAllocator Text

/-! ### Statement -/

/-- The id of the doors of a kind, without their number. -/
def doorBase (mapId : String) (kind : DoorKind) : String := mapId ++ "-door-" ++ kind.name

/-- The i-th of the ids for one base, counted from zero: the base alone, and then the base with the
numbers from two on. -/
def nthId (base : String) (i : Nat) : String := if i = 0 then base else numbered base (i + 1)

def MapModel.doorsOf (m : MapModel) (kind : DoorKind) : List Door := m.doors.filter (·.kind = kind)

/-- Whether a section with a key places no objects. -/
def placesNone (key : String) : Bool := !keyStarts "objects" key

/-- The sections of a text that place no objects. The numbers of their lines are left out, since
they depend on what stands above. -/
def sectionsOutside (text : String) : List Section :=
  ((splitSections text).filter (placesNone ·.key)).map Section.unnumbered

/-! ### Ids with numbers -/

theorem nthId_injective (base : String) : Function.Injective (nthId base) := by
  intro i j h
  rw [nthId, nthId] at h
  split at h
  · split at h
    · omega
    · exact absurd h.symm (numbered_ne_self base _)
  · split at h
    · exact absurd h (numbered_ne_self base _)
    · have := numbered_injective base h
      omega

/-- If the first ids of a base are taken and the next ones are free, a request gets the next one. -/
theorem plainId_eq_nthId {taken : List String} {b : String} (hbase : base b = b) {j : Nat}
    (htaken : ∀ i < j, nthId b i ∈ taken) (hfree : nthId b j ∉ taken) :
    plainId taken b = nthId b j := by
  rw [plainId, hbase]
  cases j with
  | zero => exact if_neg hfree
  | succ j =>
    have hb : b ∈ taken := htaken 0 (by omega)
    rw [if_pos hb]
    have hleast : leastFree taken b = j + 1 + 1 := by
      apply leastFree_eq (by omega)
      · exact hfree
      · intro k hk hlt
        have := htaken (k - 1) (by omega)
        rw [nthId, if_neg (by omega)] at this
        rwa [Nat.sub_add_cancel (by omega)] at this
    rw [hleast]
    rfl

/-- Requests for one base get its ids one after the other. -/
theorem plainIds_replicate {taken : List String} {b : String} (hbase : base b = b) {j : Nat}
    (htaken : ∀ i < j, nthId b i ∈ taken) (hfree : ∀ i, j ≤ i → nthId b i ∉ taken) (n : Nat) :
    plainIds taken (List.replicate n b) = (List.range' j n).map (nthId b) := by
  induction n generalizing taken j with
  | zero => rfl
  | succ n ih =>
    have hfirst := plainId_eq_nthId hbase htaken (hfree j le_rfl)
    rw [List.replicate_succ, plainIds, hfirst, List.range'_succ, List.map_cons]
    congr 1
    apply ih
    · intro i hi
      rcases Nat.lt_or_eq_of_le (Nat.le_of_lt_succ hi) with hlt | rfl
      · exact List.mem_cons_of_mem _ (htaken i hlt)
      · exact List.mem_cons_self
    · intro i hi hmem
      rcases List.mem_cons.mp hmem with heq | hmem
      · have := nthId_injective b heq
        omega
      · exact hfree i (by omega) hmem

/-! ### Doors of one kind -/

/-- Doors of one kind get the ids of one base, in the order of their entries. -/
theorem map_id_buildDoorsOf {kind : DoorKind} {mapId : String} {a b : IdAllocator}
    {entries : List String} {doors : List Door} (hs : a.Sound)
    (h : buildDoorsOf kind mapId a entries = .ok (doors, b)) :
    doors.map (·.id) = plainIds a.ids (List.replicate doors.length (doorBase mapId kind)) := by
  induction entries generalizing a b doors with
  | nil =>
    obtain ⟨rfl, -⟩ : [] = doors ∧ a = b := by simpa [buildDoorsOf] using h
    rfl
  | cons entry rest ih =>
    simp only [buildDoorsOf, bind_eq_ok, pure_eq_ok, Prod.mk.injEq] at h
    obtain ⟨e, -, ⟨restDoors, c⟩, hrest, rfl, -⟩ := h
    have hids := ih (sound_allocate hs _) hrest
    rw [ids_allocate, allocate_eq_plainId hs] at hids
    rw [List.map_cons, hids, allocate_eq_plainId hs, List.length_cons, List.replicate_succ,
      plainIds]
    rfl

/-- The id of a map starts with a character that is not blank. -/
theorem head_resolveMapId (own sourcePath : Option String) :
    ∃ c r, (resolveMapId own sourcePath).toList = c :: r ∧ ¬ isBlank c := by
  rw [resolveMapId]
  cases hown : own.bind nonBlank? with
  | some id =>
    obtain ⟨text, -, hid⟩ := Option.bind_eq_some_iff.mp hown
    exact head_of_nonBlank? hid
  | none =>
    rw [Option.none_or]
    cases hstem : (sourcePath.bind Path.stem?).bind nonBlank? with
    | some id =>
      obtain ⟨stem, -, hid⟩ := Option.bind_eq_some_iff.mp hstem
      exact head_of_nonBlank? hid
    | none => exact ⟨'m', ['a', 'p'], rfl, by decide⟩

/-- So a door asks for its id as it is. -/
theorem base_doorBase (own sourcePath : Option String) (kind : DoorKind) :
    base (doorBase (resolveMapId own sourcePath) kind) =
      doorBase (resolveMapId own sourcePath) kind := by
  obtain ⟨c, r, hmap, hc⟩ := head_resolveMapId own sourcePath
  obtain ⟨d, last, hname, hd⟩ : ∃ d last, kind.name.toList = last ++ [d] ∧ ¬ isBlank d := by
    cases kind with
    | inbound => exact ⟨'n', ['i'], rfl, by decide⟩
    | outbound => exact ⟨'t', ['o', 'u'], rfl, by decide⟩
  have htext : (doorBase (resolveMapId own sourcePath) kind).toList =
      c :: (r ++ "-door-".toList ++ kind.name.toList) := by
    simp [doorBase, hmap]
  have hends : c :: (r ++ "-door-".toList ++ kind.name.toList) =
      c :: (r ++ "-door-".toList ++ last) ++ [d] := by
    simp [hname]
  have htrim := trim_of_ends hc hd hends
  rw [← htext] at htrim
  rw [base, nonBlank?_of_trim_eq (by simp [htext]) htrim, Option.getD_some]

/-- Ids of inbound and outbound doors differ behind the id of their map. -/
theorem nthId_ne {mapId : String} {kind kind' : DoorKind} (hkind : kind ≠ kind') (i j : Nat) :
    nthId (doorBase mapId kind) i ≠ nthId (doorBase mapId kind') j := by
  have hhead (kind : DoorKind) (i : Nat) : ∃ rest,
      (nthId (doorBase mapId kind) i).toList = (mapId ++ "-door-").toList ++
        kind.name.toList ++ rest := by
    rw [nthId]
    split
    · exact ⟨[], by simp [doorBase]⟩
    · exact ⟨("-" ++ ofNatural (i + 1)).toList, by simp [numbered, doorBase]⟩
  intro heq
  obtain ⟨rest, hrest⟩ := hhead kind i
  obtain ⟨rest', hrest'⟩ := hhead kind' j
  rw [heq, hrest', List.append_assoc, List.append_assoc, List.append_cancel_left_eq] at hrest
  cases kind <;> cases kind'
  · exact hkind rfl
  · simp [DoorKind.name] at hrest
  · simp [DoorKind.name] at hrest
  · exact hkind rfl

/-! ### Doors of both kinds -/

/-- Of the doors of both kinds, those of one kind are found again. -/
theorem filter_inbound {outDoors inDoors : List Door} (hout : ∀ d ∈ outDoors, d.kind = .outbound)
    (hin : ∀ d ∈ inDoors, d.kind = .inbound) :
    (outDoors ++ inDoors).filter (·.kind = .inbound) = inDoors := by
  rw [List.filter_append, List.filter_eq_nil_iff.mpr fun d hd => by simp [hout d hd],
    List.filter_eq_self.mpr fun d hd => by simp [hin d hd], List.nil_append]

/-- Before anything else asks for ids, doors get the ids of their kind in order. -/
theorem map_id_buildDoors {outbound inbound : List String} {own sourcePath : Option String}
    {ids : IdAllocator} {doors : List Door} {objects : List ObjectPlacement}
    (h : buildDoors outbound inbound (resolveMapId own sourcePath) .empty =
      .ok ((doors, objects), ids)) (kind : DoorKind) :
    (doors.filter (·.kind = kind)).map (·.id) =
      (List.range (doors.filter (·.kind = kind)).length).map
        (nthId (doorBase (resolveMapId own sourcePath) kind)) := by
  simp only [buildDoors, bind_eq_ok, pure_eq_ok, Prod.mk.injEq] at h
  obtain ⟨⟨outDoors, a⟩, hout, ⟨inDoors, b⟩, hin, ⟨rfl, -⟩, -⟩ := h
  obtain ⟨hissues, hkindOut⟩ := issues_buildDoorsOf hout
  obtain ⟨-, hkindIn⟩ := issues_buildDoorsOf hin
  have hidsOut := map_id_buildDoorsOf sound_empty hout
  rw [plainIds_replicate (base_doorBase own sourcePath .outbound) (j := 0) (by simp) (by simp),
    ← List.range_eq_range'] at hidsOut
  have hidsIn := map_id_buildDoorsOf (hissues.sound sound_empty) hin
  have hfree (i : Nat) :
      nthId (doorBase (resolveMapId own sourcePath) .inbound) i ∉ a.ids := by
    rw [hissues.ids_eq, ids_empty, List.append_nil, List.mem_reverse, hidsOut]
    intro hmem
    obtain ⟨j, -, hj⟩ := List.mem_map.mp hmem
    exact nthId_ne (by decide) j i hj
  rw [plainIds_replicate (base_doorBase own sourcePath .inbound) (j := 0) (by simp)
    (fun i _ => hfree i), ← List.range_eq_range'] at hidsIn
  cases kind with
  | inbound => rw [filter_inbound hkindOut hkindIn, hidsIn]
  | outbound => rw [filter_outbound hkindOut hkindIn, hidsOut]

/-! ### Sections that place no objects -/

/-- The head stands outside the sections that place objects. -/
theorem headOf_of_sectionsOutside {text text' : String}
    (h : sectionsOutside text = sectionsOutside text') : headOf text = headOf text' := by
  have hhead (text : String) : headOf text =
      (((sectionsOutside text).find? (·.key = metaKey)).map MetaTable.ofSection).getD ⟨[]⟩ := by
    have hcodes : MetaTable.ofSection ∘ Section.unnumbered = MetaTable.ofSection := by
      funext s
      rw [Function.comp_apply, ofSection_eq, ofSection_eq, Section.unnumbered, List.filterMap_map]
      rfl
    have hkey : (fun s : Section => decide (placesNone s.key = true ∧
        ((fun s : Section => decide (s.key = metaKey)) ∘ Section.unnumbered) s = true)) =
          fun s => decide (s.key = metaKey) := by
      funext s
      apply decide_eq_decide.mpr
      constructor
      · intro h
        exact of_decide_eq_true h.2
      · intro h
        rw [h]
        exact ⟨by decide, decide_eq_true h⟩
    rw [sectionsOutside, List.find?_map, List.find?_filter, Option.map_map, hcodes, hkey]
    rfl
  rw [hhead, hhead, h]

/-- The sections outside come from the items of the text. -/
theorem sectionsOutside_eq (text : String) :
    sectionsOutside text =
      ((titles (itemsOfLines (linesOf text))).filter (placesNone ·.1)).map
        fun t => ⟨t.1, t.2, linesUnder t.1 (itemsOfLines (linesOf text))⟩ := by
  rw [sectionsOutside, ← map_unnumbered_itemsOf, titles_unnumbered, splitSections_eq, sectionsOf,
    List.filter_map, List.map_map]
  apply List.map_congr_left
  intro t _
  rw [linesUnder_unnumbered]
  rfl

theorem lookup_filter_of_pos {p : String → Bool} {key : String} (h : p key)
    (found : List (String × String)) : (found.filter (p ·.1)).lookup key = found.lookup key := by
  induction found with
  | nil => rfl
  | cons e rest ih =>
    obtain ⟨key', title⟩ := e
    rw [List.filter_cons]
    split
    · rw [List.lookup_cons, List.lookup_cons, ih]
    · rename_i he
      have hne : key ≠ key' := fun heq => he (heq ▸ h)
      rw [List.lookup_cons, beq_false_of_ne hne, ih]

/-- A title that is filtered out may as well not be added. -/
theorem filter_addTitle_of_neg {p : String → Bool} {name : String} (h : ¬ p (sectionKey name))
    (found : List (String × String)) :
    (addTitle found name).filter (p ·.1) = found.filter (p ·.1) := by
  rw [addTitle]
  split
  · rfl
  · rw [List.filter_append, List.filter_cons, if_neg h, List.filter_nil, List.append_nil]

/-- Titles that agree on the keys of a class still do so after more items. -/
theorem filter_addTitles {p : String → Bool} {found found' : List (String × String)}
    (h : found.filter (p ·.1) = found'.filter (p ·.1)) (items : List Item) :
    (addTitles found items).filter (p ·.1) = (addTitles found' items).filter (p ·.1) := by
  induction items generalizing found found' with
  | nil => exact h
  | cons item rest ih =>
    cases item with
    | line l => exact ih h
    | header name =>
      apply ih
      by_cases hkey : p (sectionKey name)
      · have hlookup : found.lookup (sectionKey name) = found'.lookup (sectionKey name) := by
          rw [← lookup_filter_of_pos hkey found, h, lookup_filter_of_pos hkey]
        change (addTitle found name).filter _ = (addTitle found' name).filter _
        rw [addTitle, addTitle, hlookup]
        split
        · exact h
        · rw [List.filter_append, List.filter_append, h]
      · rw [filter_addTitle_of_neg hkey, filter_addTitle_of_neg hkey, h]

/-- A block of objects can be taken out of a text, or put in, with no change outside. -/
theorem sectionsOutside_of_block {text text' : String} {before block after : List (List Char)}
    {name : String} (hblock : IsBlock name block)
    (hobjects : ¬ placesNone (sectionKey name))
    (hafter : ∀ line ∈ after.head?, (headerOf? line).isSome)
    (htext : linesOf text = before ++ block ++ after) (htext' : linesOf text' = before ++ after) :
    sectionsOutside text = sectionsOutside text' := by
  obtain ⟨ls, hls⟩ := exists_items_of_isBlock hblock
  have htitles : (titles (itemsOfLines (linesOf text))).filter (placesNone ·.1) =
      (titles (itemsOfLines (linesOf text'))).filter (placesNone ·.1) := by
    rw [htext, htext']
    simp only [itemsOfLines_append, hls, titles_eq, addTitles_append, addTitles_header,
      addTitles_map_line]
    exact filter_addTitles (filter_addTitle_of_neg hobjects _) _
  have hlines (key : String) (hkey : placesNone key) :
      linesUnder key (itemsOfLines (linesOf text)) =
        linesUnder key (itemsOfLines (linesOf text')) := by
    have hne : sectionKey name ≠ key := fun heq => hobjects (heq ▸ hkey)
    rw [htext, htext']
    simp only [itemsOfLines_append, hls, linesUnder, keyedLines_append, keyAfter_append, keyedLines,
      keyedLines_map_line, keyAfter_map_line, keyAfter_header, List.filter_append, filter_keyed,
      if_neg hne, List.append_nil]
    rw [keyedLines_of_header hafter (sectionKey name)]
  rw [sectionsOutside_eq, sectionsOutside_eq, htitles]
  apply List.map_congr_left
  intro t ht
  rw [hlines t.1 (List.mem_filter.mp ht).2]

/-! ### Main result -/

/-- The doors of a map text are built from its head, before any object. -/
theorem buildDoors_of_compile {text : String} {options : CompileOptions} {m : MapModel}
    (h : compile text options = .ok m) :
    ∃ objects ids,
      buildDoors (outboundEntries ((headOf text).get? ["doorOut"])
          ((headOf text).get? ["doorPosition"]))
        ((((headOf text).get? ["doorIn"]).map splitDoorEntries).getD [])
        (resolveMapId ((headOf text).get? ["id"]) options.sourcePath) .empty =
          .ok ((m.doors, objects), ids) := by
  obtain ⟨tiles, layers, doors, doorObjects, ids, objectLayers, ids', -, -, hdoors, -, hm⟩ :=
    compile_eq_ok h
  obtain ⟨-, rfl⟩ := MapParts.assemble_eq_ok_iff.mp hm
  refine ⟨doorObjects, ids, ?_⟩
  simp only [MapParts.completed_doors, textParts]
  exact hdoors

/-- In an accepted map text the doors of each kind get the ids of that kind one after the other.
Objects have no part in it: with other sections of objects, if the text is accepted, the doors are
the same. -/
theorem doors_of_compile {text : String} {options : CompileOptions} {m : MapModel}
    (h : compile text options = .ok m) :
    (∀ kind i d, (m.doorsOf kind)[i]? = some d → d.id = nthId (doorBase m.id kind) i) ∧
      ∀ text' m', sectionsOutside text = sectionsOutside text' → compile text' options = .ok m' →
        m'.doors = m.doors := by
  obtain ⟨objects, ids, hdoors⟩ := buildDoors_of_compile h
  constructor
  · intro kind i d hd
    have hids := congrArg (·[i]?) (map_id_buildDoors hdoors kind)
    rw [MapModel.doorsOf] at hd
    have hlt := (List.getElem?_eq_some_iff.mp hd).1
    simp only [List.getElem?_map, hd, Option.map_some, List.getElem?_range hlt] at hids
    rw [id_of_compile h]
    exact Option.some.inj hids
  · intro text' m' hsections h'
    obtain ⟨objects', ids', hdoors'⟩ := buildDoors_of_compile h'
    rw [← headOf_of_sectionsOutside hsections, hdoors] at hdoors'
    simp only [Except.ok.injEq, Prod.mk.injEq] at hdoors'
    exact hdoors'.1.1.symm

/-- A map text with two doors that lead out and one that leads in. -/
def gateText (objects : String) : String :=
  "id: gate\ndoorOut: 0x0; 1x1->hall\ndoorIn: 2x2\n" ++ objects

def gateObjects : String := "[Objects]\ngate-door-out-2@1x1\ngate-door-in@0x2"

/-- The doors keep their ids although objects ask for them, and are the same without objects. -/
theorem doors_of_compile_gate :
    ∃ m m', compile (gateText gateObjects) ⟨[], none⟩ = .ok m ∧
      compile (gateText "") ⟨[], none⟩ = .ok m' ∧ m'.doors = m.doors ∧
      (m.doorsOf .outbound).map (·.id) = ["gate-door-out", "gate-door-out-2"] ∧
      ∀ d, (m.doorsOf .outbound)[1]? = some d → d.id = "gate-door-out-2" := by
  have hsections : sectionsOutside (gateText gateObjects) = sectionsOutside (gateText "") := by
    decide +kernel
  have hids : (compile (gateText gateObjects) ⟨[], none⟩).toOption.map
      (fun m => (m.id, (m.doorsOf .outbound).map (·.id))) =
        some ("gate", ["gate-door-out", "gate-door-out-2"]) := by
    decide +kernel
  have hids' : (compile (gateText "") ⟨[], none⟩).toOption.map (·.id) = some "gate" := by
    decide +kernel
  obtain ⟨m, hm, hids⟩ := exists_ok_of_toOption_map hids
  obtain ⟨m', hm', -⟩ := exists_ok_of_toOption_map hids'
  obtain ⟨hnth, hsame⟩ := doors_of_compile hm
  obtain ⟨hid, hout⟩ := Prod.mk.inj hids
  refine ⟨m, m', hm, hm', hsame _ m' hsections hm', hout, fun d hd => ?_⟩
  have hsecond := hnth .outbound 1 d hd
  rw [hid] at hsecond
  exact hsecond.trans (by decide +kernel)

end Tilemap
