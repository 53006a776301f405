import Tilemap.Proofs.Groups
import Tilemap.Proofs.Text.Integers

/-!
# Orders that layers ask for

A layer of a Tiled map can ask for its order with an integer of 64 bits. Of two layers that do, the
one that asks for less is drawn first as long as both integers fit 32 bits (`layers_as_asked`).

They need not fit: an order has 32 bits, and of an integer that is longer only the lower ones are
kept. So a layer that asks for a very high order can be drawn before all others, as
`exists_overtaken_layer` shows.
-/

namespace Tilemap.Tiled

open Text

/-! ### Statement -/

/-- A layer asks for its order with an integer of 64 bits. -/
def Layer.AsksFor (l : Layer) (n : Int) : Prop :=
  l.properties.get? "phase3:order" = some (.number (.int n)) ∧ FitsInt64 n

/-- The layer at a place of a list asks for its order. -/
def AsksAt (layers : List (Layer × Nat)) (i : Nat) (n : Int) : Prop :=
  ∃ e, layers[i]? = some e ∧ e.1.AsksFor n

/-- Layers stand as they ask for: the lower of two orders stands first. Of orders that do not fit 32
bits the lower bits are compared. -/
structure AsAsked (layers : List (Layer × Nat)) : Prop where
  lower_first : ∀ i j a b, AsksAt layers i a → AsksAt layers j b → FitsInt32 a → FitsInt32 b →
    a < b → i < j
  lower_bits_first : ∀ i j a b, AsksAt layers i a → AsksAt layers j b →
    a.bmod (2 ^ 32) < b.bmod (2 ^ 32) → i < j

/-- Layers of a map are all those of a kind that a document has, standing as they ask for. -/
def Document.StandAsAsked {α : Type} (d : Document) (kind : String) (R : Layer × Nat → α → Prop)
    (layers : List α) : Prop :=
  ∃ arranged, arranged.Perm (d.numbered kind) ∧ List.Forall₂ R arranged layers ∧ AsAsked arranged

/-! ### Orders -/

section

variable {a b : Int}

theorem Layer.AsksFor.orderAt_eq {l : Layer} (h : l.AsksFor a) (place : Nat) :
    l.orderAt place = Int32.ofInt a := by
  obtain ⟨hproperty, -, hlt⟩ := h
  rw [orderAt, hproperty, Option.bind_some, int64?, Number.toInt64?_int (le_maxValue_of_lt hlt)]

theorem ofInt_lt_ofInt_iff :
    Int32.ofInt a < Int32.ofInt b ↔ a.bmod (2 ^ 32) < b.bmod (2 ^ 32) := by
  rw [Int32.lt_iff_toInt_lt, Int32.toInt_ofInt, Int32.toInt_ofInt]
  exact Iff.rfl

/-- Integers that fit are ordered as their lower bits are. -/
theorem bmod_lt_bmod_of_fits (ha : FitsInt32 a) (hb : FitsInt32 b) (hlt : a < b) :
    a.bmod (2 ^ 32) < b.bmod (2 ^ 32) := by
  rw [← ofInt_lt_ofInt_iff, Int32.lt_iff_toInt_lt, toInt_ofInt_of_fits ha, toInt_ofInt_of_fits hb]
  exact hlt

end

/-! ### Sorted layers -/

section

variable {arranged : List (Layer × Nat)}

/-- Where orders go up, the lower of two stands first. -/
theorem lt_of_orderAt_lt (h : (arranged.map fun e => e.1.orderAt e.2).Pairwise (· ≤ ·)) {i j : Nat}
    {e e' : Layer × Nat} (he : arranged[i]? = some e) (he' : arranged[j]? = some e')
    (hlt : e.1.orderAt e.2 < e'.1.orderAt e'.2) : i < j := by
  rw [List.pairwise_map, List.pairwise_iff_getElem] at h
  obtain ⟨hi, rfl⟩ := List.getElem?_eq_some_iff.mp he
  obtain ⟨hj, rfl⟩ := List.getElem?_eq_some_iff.mp he'
  rcases Nat.lt_trichotomy i j with hij | rfl | hji
  · exact hij
  · exact absurd hlt Int32.lt_irrefl
  · exact absurd hlt (Int32.not_lt.mpr (h j i hj hi hji))

theorem asAsked_of_pairwise (h : (arranged.map fun e => e.1.orderAt e.2).Pairwise (· ≤ ·)) :
    AsAsked arranged := by
  have hbits (i j : Nat) (a b : Int) (ha : AsksAt arranged i a) (hb : AsksAt arranged j b)
      (hlt : a.bmod (2 ^ 32) < b.bmod (2 ^ 32)) : i < j := by
    obtain ⟨e, he, hasks⟩ := ha
    obtain ⟨e', he', hasks'⟩ := hb
    apply lt_of_orderAt_lt h he he'
    rw [hasks.orderAt_eq, hasks'.orderAt_eq, ofInt_lt_ofInt_iff]
    exact hlt
  constructor
  case lower_first =>
    intro i j a b ha hb hfits hfits' hlt
    exact hbits i j a b ha hb (bmod_lt_bmod_of_fits hfits hfits' hlt)
  case lower_bits_first =>
    exact hbits

/-- Layers are sorted once their orders go up. -/
theorem mergeSort_layers_eq_of_increasing {α : Type} {order : α → Int32} {id : α → String}
    {layers layers' : List α} (h : (layers'.map order).Pairwise (· < ·))
    (hperm : layers.Perm layers') :
    (layers.mergeSort fun a b => comesFirst (order a) (id a) (order b) (id b)) = layers' := by
  have hkeys : (layers'.map fun a => (order a, id a)).Nodup := by
    rw [List.Nodup, List.pairwise_map]
    refine (List.pairwise_map.mp h).imp ?_
    intro a b hlt heq
    rw [(Prod.mk.inj heq).1] at hlt
    exact Int32.lt_irrefl hlt
  rw [mergeSort_layers_eq_of_perm hkeys hperm, mergeSort_layers_of_increasing h]

/-- What is made of the layers of a document stands as they ask for once it is sorted. -/
theorem Document.standAsAsked_mergeSort {α : Type} {order : α → Int32} {id : α → String}
    {R : Layer × Nat → α → Prop} {d : Document} {kind : String} {layers : List α}
    (h : List.Forall₂ R (d.numbered kind) layers) (hR : ∀ e a, R e a → order a = e.1.orderAt e.2) :
    d.StandAsAsked kind R
      (layers.mergeSort fun a b => comesFirst (order a) (id a) (order b) (id b)) := by
  -- The layers of the document are put into the order that sorting gives what is made of them.
  obtain ⟨arranged, harranged, hperm⟩ := List.perm_comp_forall₂ (List.mergeSort_perm layers
    fun a b => comesFirst (order a) (id a) (order b) (id b)) h.flip
  refine ⟨arranged, hperm, harranged.flip, asAsked_of_pairwise ?_⟩
  have horders : arranged.map (fun e => e.1.orderAt e.2) = (layers.mergeSort fun a b =>
      comesFirst (order a) (id a) (order b) (id b)).map order := by
    rw [← List.forall₂_eq_eq_eq, List.forall₂_map_left_iff, List.forall₂_map_right_iff]
    exact harranged.flip.imp fun e a hea => (hR e a hea).symm
  rw [horders, List.pairwise_map]
  refine (pairwise_comesFirst_mergeSort layers).imp ?_
  intro a b hfirst
  rw [Int32.le_iff_toInt_le]
  rcases comesFirst_iff.mp hfirst with hlt | ⟨heq, -⟩
  · exact Int.le_of_lt hlt
  · exact Int.le_of_eq heq

end

/-! ### Main result -/

/-- The tile layers and the object groups of an accepted document are drawn as they ask for. -/
theorem layers_as_asked {d : Document} {options : CompileOptions} {m : MapModel}
    (h : d.toMap options = .ok m) :
    (∃ index, TileIndex.build d.tilesets = .ok index ∧
      ((∃ l ∈ d.flatLayers, l.kind = "tilelayer") →
        d.StandAsAsked "tilelayer" (d.DrawnAs index) m.layers)) ∧
    d.StandAsAsked "objectgroup" d.PlacedAs m.objectLayers := by
  obtain ⟨index, layers, objectLayers, ids, doors, doorObjects, ids', hindex, hsplit, -, hm⟩ :=
    toMap_eq_ok h
  obtain ⟨-, rfl⟩ := MapParts.assemble_eq_ok_iff.mp hm
  have hlayers : List.Forall₂ (d.DrawnAs index) (d.numbered "tilelayer") layers :=
    (forall₂_splitLayers hsplit).1
  have hobjects : List.Forall₂ d.PlacedAs (d.numbered "objectgroup") objectLayers :=
    (forall₂_splitLayers hsplit).2
  constructor
  · refine ⟨index, hindex, ?_⟩
    intro htile
    rw [MapParts.completed_layers,
      MapParts.finalLayers_of_ne_nil (Document.layers_ne_nil htile hlayers)]
    exact Document.standAsAsked_mergeSort hlayers fun _ _ h => h.order_eq
  · exact Document.standAsAsked_mergeSort hobjects fun _ _ h => h.order_eq

/-- A document whose layers ask for orders, each given by its kind, its name and the order. -/
def orderedDocument (asked : List (String × String × Int)) : Document where
  width := 1
  height := 1
  tileWidth := none
  tileHeight := none
  layers := asked.map fun (kind, name, n) =>
    ⟨none, some name, kind, none, none, none, none, none, none, [], [],
      [("phase3:order", .number (.int n))]⟩
  tilesets := []
  properties := []

/-- A house whose layers stand upside down, with the highest and the lowest order. -/
def houseDocument : Document :=
  orderedDocument
    [("tilelayer", "attic", 2147483647), ("objectgroup", "lamps", 1), ("tilelayer", "hall", 0),
      ("objectgroup", "chairs", -1), ("tilelayer", "cellar", -2147483648)]

/-- The house has a layer of tiles and one of objects that ask for an order. -/
theorem layers_as_asked_house :
    ∃ m, houseDocument.toMap .default = .ok m ∧
      (∃ index, TileIndex.build houseDocument.tilesets = .ok index ∧
        (∃ l ∈ houseDocument.flatLayers, l.kind = "tilelayer") ∧
        houseDocument.StandAsAsked "tilelayer" (houseDocument.DrawnAs index) m.layers) ∧
      houseDocument.StandAsAsked "objectgroup" houseDocument.PlacedAs m.objectLayers := by
  have hid : (houseDocument.toMap .default).toOption.map (·.id) = some "map" := by decide +kernel
  obtain ⟨m, hm, -⟩ := exists_ok_of_toOption_map hid
  obtain ⟨⟨index, hindex, htiles⟩, hobjects⟩ := layers_as_asked hm
  have htile : ∃ l ∈ houseDocument.flatLayers, l.kind = "tilelayer" := by decide +kernel
  exact ⟨m, hm, ⟨index, hindex, htile, htiles htile⟩, hobjects⟩

/-- A tower whose roof asks for an order above all integers of 32 bits. -/
def towerDocument : Document :=
  orderedDocument [("tilelayer", "floor", 1), ("tilelayer", "roof", 4294967296)]

/-- The roof asks for the higher order and is drawn before the floor. -/
theorem exists_overtaken_layer :
    ∃ floor roof m, towerDocument.numbered "tilelayer" = [(floor, 0), (roof, 1)] ∧
      floor.AsksFor 1 ∧ roof.AsksFor 4294967296 ∧ towerDocument.toMap .default = .ok m ∧
      m.layers.map (·.id) = [roof.idAt 1, floor.idAt 0] ∧ roof.idAt 1 ≠ floor.idAt 0 := by
  have hid : (towerDocument.toMap .default).toOption.map (·.id) = some "map" := by decide +kernel
  obtain ⟨m, hm, -⟩ := exists_ok_of_toOption_map hid
  refine ⟨_, _, m, rfl, ⟨rfl, by decide⟩, ⟨rfl, by decide⟩, hm, ?_, by decide⟩
  obtain ⟨index, layers, objectLayers, ids, doors, doorObjects, ids', -, hsplit, -, hm⟩ :=
    toMap_eq_ok hm
  obtain ⟨-, rfl⟩ := MapParts.assemble_eq_ok_iff.mp hm
  have hlayers : List.Forall₂ (towerDocument.DrawnAs index) (towerDocument.numbered "tilelayer")
      layers := (forall₂_splitLayers hsplit).1
  change List.Forall₂ _ [(_, 0), (_, 1)] _ at hlayers
  simp only [List.forall₂_cons_left_iff, List.forall₂_nil_left_iff] at hlayers
  obtain ⟨floor, _, hfloor, ⟨roof, _, hroof, rfl, rfl⟩, rfl⟩ := hlayers
  have hsorted : sortTileLayers [floor, roof] = [roof, floor] := by
    refine mergeSort_layers_eq_of_increasing ?_ (List.Perm.swap _ _ _)
    rw [List.map_cons, List.map_singleton, hroof.order_eq, hfloor.order_eq]
    decide
  rw [MapParts.completed_layers, MapParts.finalLayers_of_ne_nil (by simp [Document.parts])]
  change (sortTileLayers [floor, roof]).map (·.id) = _
  rw [hsorted, List.map_cons, List.map_singleton, hroof.id_eq, hfloor.id_eq]

end Tilemap.Tiled
