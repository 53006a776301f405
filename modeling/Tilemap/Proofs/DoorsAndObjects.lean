import Mathlib.Algebra.Group.Nat.Defs
import Mathlib.Data.List.Forall2
import Tilemap.Proofs.LayerOrder
import Tilemap.Proofs.UniqueIds

/-!
# Doors and objects of a map

Doors and objects get their ids from one allocator, the doors first in a map text and the objects
first in a Tiled map. `doors_and_objects` says what comes of it in either order: no id stands for
two objects or two doors, a door that leads out is one object and a door that leads in is none, and
besides the objects of the doors a map has exactly those of its object layers.

Each builder is a run of the allocator (`Issues`) whose ids are those of what it builds, so the
runs of a map follow one another on a fresh allocator and all their ids are distinct.
-/

namespace Tilemap

open IdAllocator (Issues)

/-! ### Statement -/

/-- The ids of the doors and objects of a map fit together. -/
structure MapModel.DoorsAgree (m : MapModel) : Prop where
  objects_nodup : (m.objects.map (·.id)).Nodup
  doors_nodup : (m.doors.map (·.id)).Nodup
  /-- A door that leads out is exactly one object. -/
  outbound : ∀ d ∈ m.doors, d.kind = .outbound →
    ∃ o, m.objects.filter (·.id = d.id) = [o] ∧ o.position = d.position ∧ o.solid = false ∧
      o.objectId = some doorTemplateId
  /-- A door that leads in is no object. -/
  inbound : ∀ d ∈ m.doors, d.kind = .inbound → ∀ o ∈ m.objects, o.id ≠ d.id

def MapModel.doorObjects (m : MapModel) : List ObjectPlacement :=
  doorPlacements (m.doors.filter (·.kind = .outbound))

namespace Tiled

mutual

/-- The layers that a layer stands for as they are written, depth first. -/
def Layer.leaves : Layer → List Layer
  | l@⟨_, _, kind, _, _, _, _, _, _, _, layers, _⟩ =>
    if kind = groupKind then leavesAll layers else [l]

/-- The layers that several layers stand for as they are written, depth first. -/
def leavesAll : List Layer → List Layer
  | [] => []
  | l :: rest => l.leaves ++ leavesAll rest

end

def Document.objectGroups (d : Document) : List Layer :=
  (leavesAll d.layers).filter (·.kind = "objectgroup")

/-- The layer holds the objects of an object group, each placed once and in their order. -/
def Document.PlacesGroup (d : Document) (group : Layer) (layer : ObjectLayer) : Prop :=
  List.Forall₂ (fun o p => ∃ ids, (o.place d ids).1 = p) group.objects layer.objects

end Tiled

/-! ### Doors -/

/-- The ids of the doors of one kind are those that the allocator issues. -/
theorem issues_buildDoorsOf {kind : DoorKind} {mapId : String} {a b : IdAllocator}
    {entries : List String} {doors : List Door}
    (h : buildDoorsOf kind mapId a entries = .ok (doors, b)) :
    a.Issues (doors.map (·.id)) b ∧ ∀ d ∈ doors, d.kind = kind := by
  induction entries generalizing a doors with
  | nil =>
    obtain ⟨rfl, rfl⟩ : [] = doors ∧ a = b := by simpa [buildDoorsOf] using h
    exact ⟨.refl a, by simp⟩
  | cons entry rest ih =>
    simp only [buildDoorsOf, bind_eq_ok, pure_eq_ok, Prod.mk.injEq] at h
    obtain ⟨e, -, ⟨restDoors, c⟩, hrest, rfl, rfl⟩ := h
    obtain ⟨hissues, hkind⟩ := ih hrest
    refine ⟨.cons hissues, ?_⟩
    intro d hd
    rcases List.mem_cons.mp hd with rfl | hd
    · rfl
    · exact hkind d hd

/-- All doors get issued ids, and those that lead out an object each. -/
theorem issues_buildDoors {outbound inbound : List String} {mapId : String} {a b : IdAllocator}
    {doors : List Door} {objects : List ObjectPlacement}
    (h : buildDoors outbound inbound mapId a = .ok ((doors, objects), b)) :
    a.Issues (doors.map (·.id)) b ∧
      ∃ outDoors inDoors, doors = outDoors ++ inDoors ∧ objects = doorPlacements outDoors ∧
        (∀ d ∈ outDoors, d.kind = .outbound) ∧ ∀ d ∈ inDoors, d.kind = .inbound := by
  simp only [buildDoors, bind_eq_ok, pure_eq_ok, Prod.mk.injEq] at h
  obtain ⟨⟨outDoors, c⟩, hout, ⟨inDoors, c'⟩, hin, ⟨rfl, rfl⟩, rfl⟩ := h
  obtain ⟨hissuesOut, hkindOut⟩ := issues_buildDoorsOf hout
  obtain ⟨hissuesIn, hkindIn⟩ := issues_buildDoorsOf hin
  refine ⟨?_, outDoors, inDoors, rfl, rfl, hkindOut, hkindIn⟩
  rw [List.map_append]
  exact hissuesOut.append hissuesIn

theorem map_id_doorPlacements (outbound : List Door) :
    (doorPlacements outbound).map (·.id) = outbound.map (·.id) := by
  have hplace : (fun o : ObjectPlacement => o.id) ∘
      (fun p : Door × Nat => p.1.place (doorLabel outbound.length p.2)) =
        (fun d => d.id) ∘ Prod.fst := rfl
  rw [doorPlacements, List.map_map, hplace, ← List.map_map, List.zipIdx_map_fst]

/-- Each outbound door has its object. -/
theorem exists_mem_doorPlacements {outbound : List Door} {d : Door} (h : d ∈ outbound) :
    ∃ label, d.place label ∈ doorPlacements outbound := by
  rw [← List.zipIdx_map_fst 1 outbound] at h
  obtain ⟨⟨d', number⟩, hmem, rfl⟩ := List.mem_map.mp h
  exact ⟨doorLabel outbound.length number, List.mem_map.mpr ⟨(d', number), hmem, rfl⟩⟩

/-! ### Object layers -/

/-- The objects of lines get the ids that the allocator issues. -/
theorem issues_placeLines {key : String} {a b : IdAllocator}
    {lines : List ((Line × String) × Nat)} {objects : List ObjectPlacement}
    (h : placeLines key a lines = .ok (objects, b)) : a.Issues (objects.map (·.id)) b := by
  induction lines generalizing a objects with
  | nil =>
    obtain ⟨rfl, rfl⟩ : [] = objects ∧ a = b := by simpa [placeLines] using h
    exact .refl a
  | cons numbered rest ih =>
    obtain ⟨⟨line, code⟩, entry⟩ := numbered
    unfold placeLines at h
    split at h
    · simp at h
    · simp only [bind_eq_ok, pure_eq_ok, Prod.mk.injEq] at h
      obtain ⟨⟨objects', c⟩, hrest, rfl, rfl⟩ := h
      exact .cons (ih hrest)

/-- The objects of all sections get issued ids, and their layers the orders of the sections. -/
theorem issues_compileObjectLayersFrom {a b : IdAllocator} {sections : List (Section × Nat)}
    {layers : List ObjectLayer} (h : compileObjectLayersFrom a sections = .ok (layers, b)) :
    a.Issues ((layers.flatMap (·.objects)).map (·.id)) b ∧
      layers.map (·.order) = sections.map fun s => Int32.ofNat s.2 := by
  induction sections generalizing a layers with
  | nil =>
    obtain ⟨rfl, rfl⟩ : [] = layers ∧ a = b := by simpa [compileObjectLayersFrom] using h
    exact ⟨.refl a, rfl⟩
  | cons numbered rest ih =>
    obtain ⟨s, order⟩ := numbered
    simp only [compileObjectLayersFrom, bind_eq_ok, pure_eq_ok, Prod.mk.injEq] at h
    obtain ⟨⟨objects, c⟩, hlines, ⟨layers', c'⟩, hrest, rfl, rfl⟩ := h
    obtain ⟨hissues, horders⟩ := ih hrest
    refine ⟨?_, by simp [horders]⟩
    rw [List.flatMap_cons, List.map_append]
    exact (issues_placeLines hlines).append hissues

theorem int32_ofNat_lt {i j : Nat} (hij : i < j) (hj : j < 2 ^ 31) :
    Int32.ofNat i < Int32.ofNat j := by
  rw [Int32.lt_iff_toInt_lt, Int32.toInt_ofNat_of_lt (by omega), Int32.toInt_ofNat_of_lt (by omega)]
  omega

/-- Object layers whose orders count up stay as they are when they are sorted. -/
theorem sortObjectLayers_of_orders {layers : List ObjectLayer} {n : Nat} (hn : n ≤ 2 ^ 31)
    (h : layers.map (·.order) = (List.range n).map Int32.ofNat) :
    sortObjectLayers layers = layers := by
  have hincreasing : (layers.map (·.order)).Pairwise (· < ·) := by
    rw [h, List.pairwise_map]
    refine List.pairwise_lt_range.imp_of_mem fun {i j} _ hj hij => ?_
    exact int32_ofNat_lt hij (lt_of_lt_of_le (List.mem_range.mp hj) hn)
  exact mergeSort_layers_of_increasing hincreasing

/-- The object layers of a map text keep the order of their sections. -/
theorem sort_compileObjectLayers {a b : IdAllocator} {sections : List Section}
    {layers : List ObjectLayer} (hfew : sections.length < 2 ^ 31)
    (h : compileObjectLayers a sections = .ok (layers, b)) :
    sortObjectLayers layers = layers := by
  refine sortObjectLayers_of_orders (Nat.le_of_lt hfew) ?_
  rw [(issues_compileObjectLayersFrom h).2]
  change sections.zipIdx.map (Int32.ofNat ∘ Prod.snd) = _
  rw [← List.map_map, List.zipIdx_map_snd, List.range_eq_range']

/-! ### Object groups -/

namespace Tiled

/-- The objects of a group get the ids that the allocator issues. -/
theorem issues_placeAll (d : Document) (a : IdAllocator) (objects : List Object) :
    a.Issues ((placeAll d a objects).1.map (·.id)) (placeAll d a objects).2 := by
  induction objects generalizing a with
  | nil => exact .refl a
  | cons o rest ih => exact .cons (ih _)

/-- Each object is placed, in the order of the group. -/
theorem forall₂_placeAll (d : Document) (a : IdAllocator) (objects : List Object) :
    List.Forall₂ (fun o p => ∃ ids, (o.place d ids).1 = p) objects (placeAll d a objects).1 := by
  induction objects generalizing a with
  | nil => exact .nil
  | cons o rest ih => exact .cons ⟨a, rfl⟩ (ih _)

/-- Each object group becomes one object layer, in the order of the groups. -/
theorem placesGroup_splitLayers {d : Document} {index : TileIndex} {a b : IdAllocator}
    {numbered : List (Layer × Nat)} {tiles : List TileLayer} {groups : List ObjectLayer}
    (h : splitLayers d index a numbered = .ok (tiles, groups, b)) :
    List.Forall₂ d.PlacesGroup ((numbered.map (·.1)).filter (·.kind = "objectgroup")) groups := by
  rw [List.filter_map, List.forall₂_map_left_iff]
  refine (forall₂_splitLayers h).2.imp ?_
  rintro e layer ⟨ids, rfl⟩
  exact forall₂_placeAll d ids e.1.objects

/-- The objects of all groups get issued ids. -/
theorem issues_splitLayers {d : Document} {index : TileIndex} {a b : IdAllocator}
    {numbered : List (Layer × Nat)} {tiles : List TileLayer} {groups : List ObjectLayer}
    (h : splitLayers d index a numbered = .ok (tiles, groups, b)) :
    a.Issues ((groups.flatMap (·.objects)).map (·.id)) b ∧
      List.Forall₂ d.PlacesGroup ((numbered.map (·.1)).filter (·.kind = "objectgroup")) groups := by
  refine ⟨?_, placesGroup_splitLayers h⟩
  induction numbered generalizing a tiles groups with
  | nil =>
    obtain ⟨-, rfl, rfl⟩ : [] = tiles ∧ [] = groups ∧ a = b := by simpa [splitLayers] using h
    exact .refl a
  | cons head rest ih =>
    obtain ⟨l, place⟩ := head
    rcases splitLayers_cons_eq_ok h with ⟨-, _, _, -, hrest, -⟩ | ⟨-, groups', hrest, rfl⟩ |
      ⟨-, -, hrest⟩
    · exact ih hrest
    · rw [List.flatMap_cons, List.map_append]
      exact (issues_placeAll d a l.objects).append (ih hrest)
    · exact ih hrest

mutual

/-- Flattening changes only whether and how strongly the layers are seen. -/
theorem forall₂_leaves_flatten (visible : Bool) (opacity : Float) (l : Layer) :
    List.Forall₂ (fun leaf flat => ∃ v o, flat = { leaf with visible := v, opacity := o })
      l.leaves (l.flatten visible opacity) := by
  match l with
  | ⟨_, _, kind, _, _, _, _, _, _, _, layers, _⟩ =>
    rw [Layer.leaves, Layer.flatten]
    split
    · exact forall₂_leavesAll_flattenAll _ _ layers
    · exact .cons ⟨_, _, rfl⟩ .nil

/-- Flattening changes of the leaves only what is seen of them. -/
theorem forall₂_leavesAll_flattenAll (visible : Bool) (opacity : Float) (layers : List Layer) :
    List.Forall₂ (fun leaf flat => ∃ v o, flat = { leaf with visible := v, opacity := o })
      (leavesAll layers) (flattenAll visible opacity layers) := by
  match layers with
  | [] => exact .nil
  | l :: rest =>
    exact List.rel_append (forall₂_leaves_flatten visible opacity l)
      (forall₂_leavesAll_flattenAll visible opacity rest)

end

/-- Flattening keeps the object groups of a document, and their objects as they are. -/
theorem map_objects_flatLayers (d : Document) :
    (d.flatLayers.filter (·.kind = "objectgroup")).map (·.objects) =
      d.objectGroups.map (·.objects) := by
  have hflat := List.rel_filter (p := (·.kind = "objectgroup")) (q := (·.kind = "objectgroup"))
    (fun leaf flat hlf => by obtain ⟨v, o, rfl⟩ := hlf; rfl)
    (forall₂_leavesAll_flattenAll true 1 d.layers)
  rw [Document.objectGroups, Document.flatLayers, ← List.forall₂_eq_eq_eq,
    List.forall₂_map_left_iff, List.forall₂_map_right_iff]
  refine (hflat.imp fun leaf flat hlf => ?_).flip
  obtain ⟨v, o, rfl⟩ := hlf
  rfl

/-- Of a group only its objects matter for what is placed. -/
theorem forall₂_placesGroup_of_objects {d : Document} {groups groups' : List Layer}
    {layers : List ObjectLayer} (heq : groups.map (·.objects) = groups'.map (·.objects))
    (h : List.Forall₂ d.PlacesGroup groups layers) : List.Forall₂ d.PlacesGroup groups' layers := by
  have hplaces (gs : List Layer) : List.Forall₂ d.PlacesGroup gs layers ↔
      List.Forall₂ (fun objects (layer : ObjectLayer) =>
        List.Forall₂ (fun (o : Object) p => ∃ ids, (o.place d ids).1 = p) objects layer.objects)
        (gs.map (·.objects)) layers := by
    rw [List.forall₂_map_left_iff]
    rfl
  rw [hplaces, ← heq]
  exact (hplaces groups).mp h

end Tiled

/-! ### Whole maps -/

theorem filter_outbound {outDoors inDoors : List Door} (hout : ∀ d ∈ outDoors, d.kind = .outbound)
    (hin : ∀ d ∈ inDoors, d.kind = .inbound) :
    (outDoors ++ inDoors).filter (·.kind = .outbound) = outDoors := by
  rw [List.filter_append, List.filter_eq_self.mpr fun d hd => by simp [hout d hd],
    List.filter_eq_nil_iff.mpr fun d hd => by simp [hin d hd], List.append_nil]

/-- Distinct ids of all doors and of the objects of the layers are all that is needed. -/
theorem MapModel.doorsAgree_of_nodup {m : MapModel} {outDoors inDoors : List Door}
    {placed : List ObjectPlacement} (hdoors : m.doors = outDoors ++ inDoors)
    (hout : ∀ d ∈ outDoors, d.kind = .outbound) (hin : ∀ d ∈ inDoors, d.kind = .inbound)
    (hobjects : m.objects.Perm (doorPlacements outDoors ++ placed))
    (hnodup : (m.doors.map (·.id) ++ placed.map (·.id)).Nodup) : m.DoorsAgree := by
  obtain ⟨hdoorsNodup, hplacedNodup, hdisjoint⟩ := List.nodup_append.mp hnodup
  have hids : (m.objects.map (·.id)).Perm (outDoors.map (·.id) ++ placed.map (·.id)) := by
    have := hobjects.map (·.id)
    rwa [List.map_append, map_id_doorPlacements] at this
  have hsplit : m.doors.map (·.id) = outDoors.map (·.id) ++ inDoors.map (·.id) := by
    rw [hdoors, List.map_append]
  have hobjectsNodup : (m.objects.map (·.id)).Nodup := by
    refine hids.nodup_iff.mpr (hnodup.sublist ?_)
    rw [hsplit]
    exact (List.sublist_append_left _ _).append (.refl _)
  refine ⟨hobjectsNodup, hdoorsNodup, fun d hd hkind => ?_, fun d hd hkind o ho heq => ?_⟩
  · have hdout : d ∈ outDoors := by
      rw [hdoors] at hd
      rcases List.mem_append.mp hd with hd | hd
      · exact hd
      · simp [hin d hd] at hkind
    obtain ⟨label, hlabel⟩ := exists_mem_doorPlacements hdout
    have hmem : d.place label ∈ m.objects := hobjects.mem_iff.mpr (List.mem_append_left _ hlabel)
    exact ⟨d.place label, filter_eq_singleton hobjectsNodup hmem, rfl, rfl, rfl⟩
  · have hdin : d ∈ inDoors := by
      rw [hdoors] at hd
      rcases List.mem_append.mp hd with hd | hd
      · simp [hout d hd] at hkind
      · exact hd
    have hid : d.id ∈ outDoors.map (·.id) ++ placed.map (·.id) :=
      hids.mem_iff.mp (heq ▸ List.mem_map_of_mem ho)
    rcases List.mem_append.mp hid with hid | hid
    · rw [hsplit] at hdoorsNodup
      exact (List.nodup_append.mp hdoorsNodup).2.2 _ hid _ (List.mem_map_of_mem hdin) rfl
    · exact hdisjoint _ (List.mem_map_of_mem hd) _ hid rfl

/-- Doors and objects of a map text get their ids in one run of a fresh allocator. -/
theorem doorsAgree_of_compile {text : String} {options : CompileOptions} {m : MapModel}
    (h : compile text options = .ok m) : m.DoorsAgree := by
  obtain ⟨tiles, layers, doors, doorObjects, ids, objectLayers, ids', -, -, hdoors, hlayers, hm⟩ :=
    compile_eq_ok h
  obtain ⟨-, rfl⟩ := MapParts.assemble_eq_ok_iff.mp hm
  obtain ⟨hissues, outDoors, inDoors, rfl, rfl, hout, hin⟩ := issues_buildDoors hdoors
  have hrun := hissues.append (issues_compileObjectLayersFrom hlayers).1
  exact MapModel.doorsAgree_of_nodup rfl hout hin (.refl _) hrun.nodup

/-- The ids of doors and objects of every accepted map fit together, and besides the objects of the
doors that lead out a map has exactly those of its object layers: in a map text behind them and in
the order of the layers, and in a Tiled map before them and in the order of its object groups. -/
theorem doors_and_objects :
    (∀ (text : String) (options : CompileOptions) (m : MapModel),
      compile text options = .ok m → (splitSections text).length < 2 ^ 31 →
        m.DoorsAgree ∧ m.objects = m.doorObjects ++ m.objectLayers.flatMap (·.objects)) ∧
    (∀ (d : Tiled.Document) (options : CompileOptions) (m : MapModel),
      d.toMap options = .ok m →
        m.DoorsAgree ∧ ∃ layers, layers.Perm m.objectLayers ∧
          List.Forall₂ d.PlacesGroup d.objectGroups layers ∧
          m.objects = layers.flatMap (·.objects) ++ m.doorObjects) := by
  constructor
  · intro text options m h hfew
    refine ⟨doorsAgree_of_compile h, ?_⟩
    obtain ⟨tiles, layers, doors, doorObjects, ids, objectLayers, ids', -, -, hdoors, hlayers,
      hm⟩ := compile_eq_ok h
    obtain ⟨-, rfl⟩ := MapParts.assemble_eq_ok_iff.mp hm
    obtain ⟨-, outDoors, inDoors, rfl, rfl, hout, hin⟩ := issues_buildDoors hdoors
    have hsections : (sectionsStarting (splitSections text) "objects").length < 2 ^ 31 :=
      lt_of_le_of_lt (List.length_filter_le ..) hfew
    change _ = doorPlacements ((outDoors ++ inDoors).filter (·.kind = .outbound)) ++
      (sortObjectLayers objectLayers).flatMap (·.objects)
    rw [filter_outbound hout hin, sort_compileObjectLayers hsections hlayers]
    rfl
  · intro d options m h
    obtain ⟨index, layers, objectLayers, ids, doors, doorObjects, ids', -, hlayers, hdoors, hm⟩ :=
      Tiled.toMap_eq_ok h
    obtain ⟨-, rfl⟩ := MapParts.assemble_eq_ok_iff.mp hm
    obtain ⟨hissues, outDoors, inDoors, rfl, rfl, hout, hin⟩ := issues_buildDoors hdoors
    obtain ⟨hplaced, hgroups⟩ := Tiled.issues_splitLayers hlayers
    have hrun := hplaced.append hissues
    have hnodup := (List.perm_append_comm.nodup_iff).mp hrun.nodup
    refine ⟨MapModel.doorsAgree_of_nodup rfl hout hin List.perm_append_comm hnodup, objectLayers,
      (List.mergeSort_perm ..).symm, ?_, ?_⟩
    · rw [List.zipIdx_map_fst] at hgroups
      exact Tiled.forall₂_placesGroup_of_objects (Tiled.map_objects_flatLayers d) hgroups
    · change _ = objectLayers.flatMap (·.objects) ++
        doorPlacements ((outDoors ++ inDoors).filter (·.kind = .outbound))
      rw [filter_outbound hout hin]
      rfl

/-- A map text with objects that ask for the ids of its doors. -/
def hallText : String :=
  "id: hall\ndoorOut: 0x0; 1x1->hall\ndoorIn: 2x2\n[Objects]\nhall-door-out@1x1\n!lamp@2x0\n" ++
    "[Objects upper]\nlamp@0x1"

/-- An object group inside a group, with objects that ask for the ids of the doors. -/
def Tiled.hallDocument : Document where
  width := 3
  height := 3
  tileWidth := none
  tileHeight := none
  layers :=
    [⟨none, none, "group", none, none, none, none, none, none, [],
      [⟨none, none, "objectgroup", none, none, none, none, none, none,
        [⟨none, some "hall-door-out", none, none, 0, 0, []⟩,
          ⟨some 7, none, none, none, 64, 64, []⟩], [], []⟩], []⟩]
  tilesets := []
  properties :=
    [("id", .string "hall"),
      ("doors", .object [("out", .string "0x0; 1x1->hall"), ("in", .array [.string "2x2"])])]

theorem doors_and_objects_hall :
    (∃ m, compile hallText .default = .ok m ∧ (splitSections hallText).length < 2 ^ 31 ∧
      m.DoorsAgree ∧ m.objects = m.doorObjects ++ m.objectLayers.flatMap (·.objects) ∧
      m.objects.map (·.id) =
        ["hall-door-out", "hall-door-out-2", "hall-door-out-3", "lamp", "lamp-2"]) ∧
    (∃ m, Tiled.hallDocument.toMap .default = .ok m ∧ m.DoorsAgree ∧
      m.objects.map (·.id) =
        ["hall-door-out", "object-7", "hall-door-out-2", "hall-door-out-3"]) := by
  constructor
  · have hids : (compile hallText .default).toOption.map (fun m => m.objects.map (·.id)) =
        some ["hall-door-out", "hall-door-out-2", "hall-door-out-3", "lamp", "lamp-2"] := by
      decide +kernel
    have hfew : (splitSections hallText).length < 2 ^ 31 := by decide +kernel
    obtain ⟨m, hm, hids⟩ := exists_ok_of_toOption_map hids
    obtain ⟨hagree, hobjects⟩ := doors_and_objects.1 hallText .default m hm hfew
    exact ⟨m, hm, hfew, hagree, hobjects, hids⟩
  · have hids : (Tiled.hallDocument.toMap .default).toOption.map
        (fun m => m.objects.map (·.id)) =
          some ["hall-door-out", "object-7", "hall-door-out-2", "hall-door-out-3"] := by
      decide +kernel
    obtain ⟨m, hm, hids⟩ := exists_ok_of_toOption_map hids
    exact ⟨m, hm, (doors_and_objects.2 Tiled.hallDocument .default m hm).1, hids⟩

end Tilemap
