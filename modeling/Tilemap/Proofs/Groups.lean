import Tilemap.Proofs.DoorsAndObjects
import Tilemap.Proofs.LayerOrder

/-!
# Layers inside groups

The layers of a Tiled map form a forest, for groups hold layers again. `flattenAll` takes the groups
away, and `flatten_in_document_order` says what is left: every layer that is no group, each once and
in the order of the document, as it is written but for its visibility and its opacity. From then on
a layer is known by its place in that list, and unless the layers ask for other orders those of the
map keep these places.

A place in the forest is a path, which counts at every level the layers that stand before, and in
the order of the document the paths go up lexicographically.
-/

namespace Tilemap.Tiled

/-! ### Statement -/

def Layer.shown (l : Layer) : Bool := l.visible.getD true

/-- A layer stands in a forest at a path, with groups above it from the outside in. -/
inductive StandsAt : List Layer → List Nat → List Layer → Layer → Prop where
  | root {layers : List Layer} {i : Nat} {l : Layer} (h : layers[i]? = some l) :
    StandsAt layers [i] [] l
  | inside {layers above : List Layer} {i : Nat} {path : List Nat} {group l : Layer}
      (hgroup : layers[i]? = some group) (hkind : group.kind = groupKind)
      (h : StandsAt group.layers path above l) :
    StandsAt layers (i :: path) (group :: above) l

/-- The layer as it is seen among what is seen or not, inside groups. -/
def Layer.seenInside (l : Layer) (visible : Bool) (above : List Layer) : Layer :=
  { l with visible := some (visible && above.all Layer.shown && l.shown) }

/-- The layers of a forest without its groups, at their places: none is left out or comes twice, and
each is seen only if all groups above it are. Their opacities are left open. -/
structure IsFlattening (visible : Bool) (layers : List Layer) (places : List (List Nat))
    (flat : List Layer) : Prop where
  increasing : places.Pairwise (· < ·)
  mem_iff : ∀ path, path ∈ places ↔ ∃ above l, StandsAt layers path above l ∧ l.kind ≠ groupKind
  flattened : List.Forall₂ (fun path f => ∃ above l, StandsAt layers path above l ∧
    l.kind ≠ groupKind ∧ { l.seenInside visible above with opacity := f.opacity } = f) places flat

/-- The layers of a kind, without groups, each with its place among all of them. -/
def Document.numbered (d : Document) (kind : String) : List (Layer × Nat) :=
  d.flatLayers.zipIdx.filter (·.1.kind = kind)

/-- A layer of a map is what a layer of the document, at a place, is drawn as. -/
def Document.DrawnAs (d : Document) (index : TileIndex) (numbered : Layer × Nat)
    (layer : TileLayer) : Prop :=
  numbered.1.toTileLayer d index numbered.2 = .ok layer

/-- An object layer of a map holds the objects of a layer of the document, at a place. -/
def Document.PlacedAs (d : Document) (numbered : Layer × Nat) (layer : ObjectLayer) : Prop :=
  ∃ ids, numbered.1.toObjectLayer numbered.2 (placeAll d ids numbered.1.objects).1 = layer

/-- A map has the tile layers and the object groups of a document, in the order of the document. -/
structure Document.KeepsOrder (d : Document) (m : MapModel) : Prop where
  tiles : ∃ index, TileIndex.build d.tilesets = .ok index ∧
    List.Forall₂ (d.DrawnAs index) (d.numbered "tilelayer") m.layers
  objects : List.Forall₂ d.PlacedAs (d.numbered "objectgroup") m.objectLayers

/-! ### Places in a forest -/

/-- The place one layer further on. -/
def later : List Nat → List Nat
  | [] => []
  | i :: path => (i + 1) :: path

theorem StandsAt.ne_nil {layers above : List Layer} {path : List Nat} {l : Layer}
    (h : StandsAt layers path above l) : path ≠ [] := by
  cases h <;> simp

theorem later_lt_later {path path' : List Nat} (h : path < path') : later path < later path' := by
  cases path with
  | nil =>
    cases path' with
    | nil => exact absurd h (List.not_lt_nil _)
    | cons j path' => exact List.nil_lt_cons _ _
  | cons i path =>
    cases path' with
    | nil => exact absurd h (List.not_lt_nil _)
    | cons j path' =>
      rw [List.cons_lt_cons_iff] at h
      rw [later, later, List.cons_lt_cons_iff]
      simpa using h

theorem cons_zero_lt_later {path path' : List Nat} (h : path' ≠ []) : 0 :: path < later path' := by
  obtain ⟨j, path', rfl⟩ := List.exists_cons_of_ne_nil h
  exact List.cons_lt_cons_iff.mpr (.inl (Nat.succ_pos j))

section

variable {l : Layer} {rest : List Layer}

/-- What stands at a place stands one place further on when a layer is put in front. -/
theorem StandsAt.later {path : List Nat} {above : List Layer} {l' : Layer}
    (h : StandsAt rest path above l') : StandsAt (l :: rest) (later path) above l' := by
  cases h with
  | root h => exact .root h
  | inside hgroup hkind h => exact .inside hgroup hkind h

/-- A layer of a forest is the first one, inside the first one, or further on. -/
theorem standsAt_cons_iff {path : List Nat} {above : List Layer} {l' : Layer} :
    StandsAt (l :: rest) path above l' ↔
      path = [0] ∧ above = [] ∧ l' = l ∨
      (∃ path' above', path = 0 :: path' ∧ above = l :: above' ∧ l.kind = groupKind ∧
        StandsAt l.layers path' above' l') ∨
      ∃ path', path = Tiled.later path' ∧ StandsAt rest path' above l' := by
  constructor
  · intro h
    cases h with
    | @root _ i _ h =>
      cases i with
      | zero => exact .inl ⟨rfl, rfl, (Option.some.inj h).symm⟩
      | succ i => exact .inr (.inr ⟨[i], rfl, .root h⟩)
    | @inside _ _ i path group _ hgroup hkind h =>
      cases i with
      | zero =>
        obtain rfl : l = group := Option.some.inj hgroup
        exact .inr (.inl ⟨path, _, rfl, rfl, hkind, h⟩)
      | succ i => exact .inr (.inr ⟨i :: path, rfl, .inside hgroup hkind h⟩)
  · rintro (⟨rfl, rfl, rfl⟩ | ⟨path', above', rfl, rfl, hkind, h⟩ | ⟨path', rfl, h⟩)
    · exact .root rfl
    · exact .inside rfl hkind h
    · exact h.later

/-! ### Flattening -/

namespace IsFlattening

variable {visible : Bool} {places places' : List (List Nat)} {flat flat' : List Layer}

theorem nil (visible : Bool) : IsFlattening visible [] [] [] where
  increasing := .nil
  mem_iff := by
    intro path
    simp only [List.not_mem_nil, false_iff]
    rintro ⟨above, l, h, -⟩
    cases h with
    | root h => cases h
    | inside h => cases h
  flattened := .nil

/-! What follows the first layer of a forest is moved by one place. -/

section Later

variable (h : IsFlattening visible rest places flat)
include h

theorem increasing_later : (places.map later).Pairwise (· < ·) := by
  rw [List.pairwise_map]
  exact h.increasing.imp later_lt_later

theorem cons_zero_lt_of_mem {path path' : List Nat} (hpath' : path' ∈ places.map later) :
    0 :: path < path' := by
  obtain ⟨inner, hinner, rfl⟩ := List.mem_map.mp hpath'
  obtain ⟨_, _, hstands, -⟩ := (h.mem_iff inner).mp hinner
  exact cons_zero_lt_later hstands.ne_nil

/-- The later places are those of the layers behind the first. -/
theorem mem_later_iff (path : List Nat) : path ∈ places.map later ↔
    ∃ above l', (∃ path', path = later path' ∧ StandsAt rest path' above l') ∧
      l'.kind ≠ groupKind := by
  rw [List.mem_map]
  constructor
  · rintro ⟨path', hpath', rfl⟩
    obtain ⟨above, l', hstands, hkind⟩ := (h.mem_iff path').mp hpath'
    exact ⟨above, l', ⟨path', rfl, hstands⟩, hkind⟩
  · rintro ⟨above, l', ⟨path', rfl, hstands⟩, hkind⟩
    exact ⟨path', (h.mem_iff path').mpr ⟨above, l', hstands, hkind⟩, rfl⟩

/-- The layers behind the first are seen as if it were not there. -/
theorem flattened_later (l : Layer) :
    List.Forall₂ (fun path f => ∃ above l', StandsAt (l :: rest) path above l' ∧
      l'.kind ≠ groupKind ∧ { l'.seenInside visible above with opacity := f.opacity } = f)
        (places.map later) flat := by
  rw [List.forall₂_map_left_iff]
  refine h.flattened.imp ?_
  rintro path f ⟨above, l', hstands, hf⟩
  exact ⟨above, l', hstands.later, hf⟩

end Later

theorem leaf {f : Layer} (hkind : l.kind ≠ groupKind)
    (hf : { l.seenInside visible [] with opacity := f.opacity } = f)
    (h : IsFlattening visible rest places flat) :
    IsFlattening visible (l :: rest) ([0] :: places.map later) (f :: flat) where
  increasing := List.pairwise_cons.mpr ⟨fun _ => h.cons_zero_lt_of_mem, h.increasing_later⟩
  mem_iff := by
    intro path
    rw [List.mem_cons, h.mem_later_iff]
    constructor
    · rintro (rfl | ⟨above, l', ⟨path', rfl, hstands⟩, hkind'⟩)
      · exact ⟨[], l, .root rfl, hkind⟩
      · exact ⟨above, l', hstands.later, hkind'⟩
    · rintro ⟨above, l', hstands, hkind'⟩
      rcases standsAt_cons_iff.mp hstands with ⟨hpath, -⟩ | ⟨_, _, -, -, hgroup, -⟩ | hlater
      · exact .inl hpath
      · exact absurd hgroup hkind
      · exact .inr ⟨above, l', hlater, hkind'⟩
  flattened := .cons ⟨[], l, .root rfl, hkind, hf⟩ (h.flattened_later l)

/-- A group gives way to what is inside of it, and the rest follows. -/
theorem group (hkind : l.kind = groupKind)
    (hinside : IsFlattening (visible && l.shown) l.layers places flat)
    (h : IsFlattening visible rest places' flat') :
    IsFlattening visible (l :: rest) (places.map (0 :: ·) ++ places'.map later)
      (flat ++ flat') where
  increasing := by
    rw [List.pairwise_append, List.pairwise_map]
    refine ⟨hinside.increasing.imp ?_, h.increasing_later, ?_⟩
    · intro path path' hlt
      exact List.cons_lt_cons_iff.mpr (.inr ⟨rfl, hlt⟩)
    · intro path hpath path' hpath'
      obtain ⟨_, -, rfl⟩ := List.mem_map.mp hpath
      exact h.cons_zero_lt_of_mem hpath'
  mem_iff := by
    intro path
    rw [List.mem_append, List.mem_map, h.mem_later_iff]
    constructor
    · rintro (⟨path', hpath', rfl⟩ | ⟨above, l', ⟨path', rfl, hstands⟩, hkind'⟩)
      · obtain ⟨above, l', hstands, hkind'⟩ := (hinside.mem_iff path').mp hpath'
        exact ⟨l :: above, l', .inside rfl hkind hstands, hkind'⟩
      · exact ⟨above, l', hstands.later, hkind'⟩
    · rintro ⟨above, l', hstands, hkind'⟩
      rcases standsAt_cons_iff.mp hstands with ⟨-, -, rfl⟩ | ⟨path', above', rfl, -, -, hinner⟩ |
        hlater
      · exact absurd hkind hkind'
      · exact .inl ⟨path', (hinside.mem_iff path').mpr ⟨above', l', hinner, hkind'⟩, rfl⟩
      · exact .inr ⟨above, l', hlater, hkind'⟩
  flattened := by
    refine List.rel_append ?_ (h.flattened_later l)
    rw [List.forall₂_map_left_iff]
    refine hinside.flattened.imp ?_
    rintro path f ⟨above, l', hstands, hkind', hf⟩
    refine ⟨l :: above, l', .inside rfl hkind hstands, hkind', ?_⟩
    rw [← hf]
    simp [Layer.seenInside, Bool.and_assoc]

end IsFlattening

end

/-- Every forest of layers is flattened into its leaves, in their order. -/
theorem exists_isFlattening (layers : List Layer) (visible : Bool) (opacity : Float) :
    ∃ places, IsFlattening visible layers places (flattenAll visible opacity layers) := by
  match layers with
  | [] => exact ⟨[], .nil visible⟩
  | ⟨_, _, kind, ownVisible, ownOpacity, _, _, _, _, _, layers, _⟩ :: rest =>
    -- Forests get smaller in two ways: the first layer goes, or, if it is a group, what it holds is
    -- a forest of its own, which is seen only if the group is.
    obtain ⟨places, hrest⟩ := exists_isFlattening rest visible opacity
    rw [flattenAll, Layer.flatten]
    dsimp only
    split
    case isTrue hkind =>
      obtain ⟨inner, hinner⟩ := exists_isFlattening layers (visible && ownVisible.getD true)
        ((ownOpacity.map (· * opacity)).getD opacity)
      exact ⟨_, .group hkind hinner hrest⟩
    case isFalse hkind =>
      exact ⟨_, hrest.leaf hkind (by simp [Layer.seenInside, Layer.shown])⟩

/-! ### Layers of the map -/

section

variable {d : Document}

theorem Document.pairwise_numbered (d : Document) (kind : String) :
    (d.numbered kind).Pairwise (·.2 < ·.2) := by
  apply List.Pairwise.filter
  rw [← List.pairwise_map, List.zipIdx_map_snd]
  exact List.pairwise_lt_range'

/-- Layers that ask for no order have that of their place. -/
theorem Document.pairwise_orderAt_numbered (hfew : d.flatLayers.length < 2 ^ 31)
    (horder : ∀ l ∈ d.flatLayers, l.properties.get? "phase3:order" = none) (kind : String) :
    ((d.numbered kind).map fun e => e.1.orderAt e.2).Pairwise (· < ·) := by
  rw [List.pairwise_map]
  refine (d.pairwise_numbered kind).imp_of_mem ?_
  have hat {l : Layer} {place : Nat} (h : (l, place) ∈ d.numbered kind) :
      l.orderAt place = Int32.ofNat place ∧ place < d.flatLayers.length := by
    have hmem := List.mem_of_mem_filter h
    constructor
    · rw [Layer.orderAt, horder l (List.fst_mem_of_mem_zipIdx hmem)]
      rfl
    · exact List.snd_lt_of_mem_zipIdx hmem
  rintro ⟨l, i⟩ ⟨l', j⟩ hi hj hlt
  rw [(hat hi).1, (hat hj).1]
  exact int32_ofNat_lt hlt (Nat.lt_trans (hat hj).2 hfew)

/-- What is made of layers in the order of their places is not moved when it is sorted. -/
theorem Document.mergeSort_of_forall₂ {α : Type} {order : α → Int32} {id : α → String}
    {R : Layer × Nat → α → Prop} {layers : List α} {kind : String}
    (hfew : d.flatLayers.length < 2 ^ 31)
    (horder : ∀ l ∈ d.flatLayers, l.properties.get? "phase3:order" = none)
    (h : List.Forall₂ R (d.numbered kind) layers) (hR : ∀ e a, R e a → order a = e.1.orderAt e.2) :
    (layers.mergeSort fun a b => comesFirst (order a) (id a) (order b) (id b)) = layers := by
  have horders : (d.numbered kind).map (fun e => e.1.orderAt e.2) = layers.map order := by
    rw [← List.forall₂_eq_eq_eq, List.forall₂_map_left_iff, List.forall₂_map_right_iff]
    exact h.imp fun e a hea => (hR e a hea).symm
  apply mergeSort_layers_of_increasing
  rw [← horders]
  exact d.pairwise_orderAt_numbered hfew horder kind

theorem Document.DrawnAs.id_eq {index : TileIndex} {e : Layer × Nat} {layer : TileLayer}
    (h : d.DrawnAs index e layer) : layer.id = e.1.idAt e.2 := by
  simp only [DrawnAs, Layer.toTileLayer, bind_eq_ok, pure_eq_ok] at h
  obtain ⟨-, -, -, -, rfl⟩ := h
  rfl

theorem Document.DrawnAs.order_eq {index : TileIndex} {e : Layer × Nat} {layer : TileLayer}
    (h : d.DrawnAs index e layer) : layer.order = e.1.orderAt e.2 := by
  simp only [DrawnAs, Layer.toTileLayer, bind_eq_ok, pure_eq_ok] at h
  obtain ⟨-, -, -, -, rfl⟩ := h
  rfl

theorem Document.PlacedAs.order_eq {e : Layer × Nat} {layer : ObjectLayer}
    (h : d.PlacedAs e layer) : layer.order = e.1.orderAt e.2 := by
  obtain ⟨-, rfl⟩ := h
  rfl

/-- A document with a tile layer gives its map tile layers. -/
theorem Document.layers_ne_nil {index : TileIndex} {layers : List TileLayer}
    (htile : ∃ l ∈ d.flatLayers, l.kind = "tilelayer")
    (h : List.Forall₂ (d.DrawnAs index) (d.numbered "tilelayer") layers) : layers ≠ [] := by
  rintro rfl
  obtain ⟨l, hl, hkind⟩ := htile
  obtain ⟨place, hplace, rfl⟩ := List.getElem_of_mem hl
  have hmem : (d.flatLayers[place], place) ∈ d.numbered "tilelayer" :=
    List.mem_filter.mpr ⟨List.mk_mem_zipIdx_iff_getElem?.mpr (List.getElem?_eq_getElem hplace),
      decide_eq_true hkind⟩
  rw [List.forall₂_nil_right_iff.mp h] at hmem
  cases hmem

end

/-! ### Main result -/

/-- Without its groups a forest is the list of its other layers in the order of the document. A map
keeps that order, unless a layer asks for another one. -/
theorem flatten_in_document_order :
    (∀ layers, ∃ places, IsFlattening true layers places (flattenAll true 1 layers)) ∧
    ∀ (d : Document) options m, d.toMap options = .ok m → d.flatLayers.length < 2 ^ 31 →
      (∃ l ∈ d.flatLayers, l.kind = "tilelayer") →
      (∀ l ∈ d.flatLayers, l.properties.get? "phase3:order" = none) → d.KeepsOrder m := by
  constructor
  · intro layers
    exact exists_isFlattening layers true 1
  · intro d options m hm hfew htile horder
    obtain ⟨index, layers, objectLayers, ids, doors, doorObjects, ids', hindex, hsplit, -, hm⟩ :=
      toMap_eq_ok hm
    obtain ⟨-, rfl⟩ := MapParts.assemble_eq_ok_iff.mp hm
    have hlayers : List.Forall₂ (d.DrawnAs index) (d.numbered "tilelayer") layers :=
      (forall₂_splitLayers hsplit).1
    have hobjects : List.Forall₂ d.PlacedAs (d.numbered "objectgroup") objectLayers :=
      (forall₂_splitLayers hsplit).2
    have htiles : (d.parts options index layers objectLayers doors doorObjects).completed.layers =
        layers := by
      rw [MapParts.completed_layers,
        MapParts.finalLayers_of_ne_nil (Document.layers_ne_nil htile hlayers)]
      exact Document.mergeSort_of_forall₂ hfew horder hlayers fun _ _ h => h.order_eq
    have hgroups : (d.parts options index layers objectLayers doors
        doorObjects).completed.objectLayers = objectLayers :=
      Document.mergeSort_of_forall₂ hfew horder hobjects fun _ _ h => h.order_eq
    constructor
    case tiles =>
      rw [htiles]
      exact ⟨index, hindex, hlayers⟩
    case objects =>
      rw [hgroups]
      exact hobjects

/-- A manor with an invisible group inside a group, a picture, and layers of both kinds around. -/
def manorDocument : Document where
  width := 1
  height := 1
  tileWidth := none
  tileHeight := none
  layers :=
    [layer "group" none
        [layer "objectgroup" none [],
          layer "group" (some false)
            [layer "tilelayer" (some true) [], layer "objectgroup" none []]],
      layer "imagelayer" none [], layer "tilelayer" none [], layer "group" none []]
  tilesets := []
  properties := []
where
  layer (kind : String) (visible : Option Bool) (layers : List Layer) : Layer :=
    ⟨none, none, kind, visible, none, none, none, none, none, [], layers, []⟩

theorem flatten_in_document_order_manor :
    manorDocument.flatLayers.map (fun l => (l.kind, l.visible)) =
      [("objectgroup", some true), ("tilelayer", some false), ("objectgroup", some false),
        ("imagelayer", some true), ("tilelayer", some true)] ∧
    ∃ m, manorDocument.toMap .default = .ok m ∧ manorDocument.flatLayers.length < 2 ^ 31 ∧
      (∃ l ∈ manorDocument.flatLayers, l.kind = "tilelayer") ∧
      (∀ l ∈ manorDocument.flatLayers, l.properties.get? "phase3:order" = none) ∧
      manorDocument.KeepsOrder m := by
  have hflat : manorDocument.flatLayers.map (fun l => (l.kind, l.visible)) =
      [("objectgroup", some true), ("tilelayer", some false), ("objectgroup", some false),
        ("imagelayer", some true), ("tilelayer", some true)] := by
    decide +kernel
  have hid : (manorDocument.toMap .default).toOption.map (·.id) = some "map" := by decide +kernel
  obtain ⟨m, hm, -⟩ := exists_ok_of_toOption_map hid
  have hfew : manorDocument.flatLayers.length < 2 ^ 31 := by decide +kernel
  have htile : ∃ l ∈ manorDocument.flatLayers, l.kind = "tilelayer" := by decide +kernel
  have horder : ∀ l ∈ manorDocument.flatLayers,
      l.properties.get? "phase3:order" = none := by
    decide +kernel
  exact ⟨hflat, m, hm, hfew, htile, horder,
    flatten_in_document_order.2 manorDocument .default m hm hfew htile horder⟩

end Tilemap.Tiled
