import Mathlib.Data.List.Nodup
import Mathlib.Data.String.Basic
import Tilemap.Proofs.MapGeometry

/-!
# The order of layers

Layers are sorted by their orders, and those with the same order by their ids. So as long as no two
layers agree in both, it does not matter in which order they arrive: `assemble_of_perm` says that
the parts make the same map, or are refused for the same reason, whichever way their layers are
arranged. What a map derives from its layers it derives from the sorted ones, or else it looks at
the largest of them only.
-/

namespace Tilemap

/-! ### Statement -/

/-- A layer with one order and id is drawn before one with another. -/
def DrawnBefore (order : Int32) (id : String) (order' : Int32) (id' : String) : Prop :=
  order < order' ∨ order = order' ∧ id < id'

/-- Layers, given their orders and ids, stand in the order in which they are drawn, and no two of
them at one place. -/
def InDrawingOrder {α : Type} (order : α → Int32) (id : α → String) (layers : List α) : Prop :=
  layers.Pairwise fun a b => DrawnBefore (order a) (id a) (order b) (id b)

/-- The parts with their layers arranged in another way. -/
def MapParts.arranged (p : MapParts) (layers : List TileLayer) (objectLayers : List ObjectLayer) :
    MapParts :=
  { p with layers, objectLayers }

/-! ### Comparing layers -/

section Comparing

variable {order order' order'' : Int32} {id id' id'' : String}

/-- The order of layers in integers: by orders, and with the same order by ids. -/
theorem comesFirst_iff : comesFirst order id order' id' ↔
    order.toInt < order'.toInt ∨ order.toInt = order'.toInt ∧ id ≤ id' := by
  simp only [comesFirst, Bool.or_eq_true, Bool.and_eq_true, decide_eq_true_eq,
    Int32.lt_iff_toInt_lt, Int32.toInt_inj]

theorem comesFirst_total (order order' : Int32) (id id' : String) :
    comesFirst order id order' id' || comesFirst order' id' order id := by
  simp only [Bool.or_eq_true, comesFirst_iff]
  rcases Int.lt_trichotomy order.toInt order'.toInt with hlt | heq | hlt
  · exact .inl (.inl hlt)
  · exact (le_total id id').imp (fun hle => .inr ⟨heq, hle⟩) fun hle => .inr ⟨heq.symm, hle⟩
  · exact .inr (.inl hlt)

theorem comesFirst_trans (h : comesFirst order id order' id')
    (h' : comesFirst order' id' order'' id'') : comesFirst order id order'' id'' := by
  rw [comesFirst_iff] at h h' ⊢
  rcases h with hlt | ⟨heq, hle⟩
  · exact .inl (by omega)
  · rcases h' with hlt' | ⟨heq', hle'⟩
    · exact .inl (by omega)
    · exact .inr ⟨heq.trans heq', hle.trans hle'⟩

theorem comesFirst_antisymm (h : comesFirst order id order' id')
    (h' : comesFirst order' id' order id) : order = order' ∧ id = id' := by
  rw [comesFirst_iff] at h h'
  rcases h with hlt | ⟨heq, hle⟩
  · omega
  · rcases h' with hlt | ⟨-, hle'⟩
    · omega
    · exact ⟨Int32.toInt_inj.mp heq, le_antisymm hle hle'⟩

theorem drawnBefore_of_comesFirst (h : comesFirst order id order' id')
    (hne : (order, id) ≠ (order', id')) : DrawnBefore order id order' id' := by
  rcases comesFirst_iff.mp h with hlt | ⟨heq, hle⟩
  · exact .inl (Int32.lt_iff_toInt_lt.mpr hlt)
  · have heq := Int32.toInt_inj.mp heq
    refine .inr ⟨heq, lt_of_le_of_ne hle ?_⟩
    rintro rfl
    exact hne (by rw [heq])

end Comparing

/-! ### Sorting layers

Tile layers and object layers are sorted in one way, by the orders and ids that they have. -/

section Sorting

variable {α : Type} {order : α → Int32} {id : α → String} {layers layers' : List α}

/-- Sorting puts layers into the one order that they can have. -/
theorem mergeSort_layers_eq_of_perm (hkeys : (layers.map fun a => (order a, id a)).Nodup)
    (h : layers'.Perm layers) :
    (layers'.mergeSort fun a b => comesFirst (order a) (id a) (order b) (id b)) =
      layers.mergeSort fun a b => comesFirst (order a) (id a) (order b) (id b) := by
  refine mergeSort_congr_perm (fun _ _ _ => comesFirst_trans) (fun a b => ?_) ?_ h
  · exact comesFirst_total (order a) (order b) (id a) (id b)
  · intro a ha b hb hab hba
    obtain ⟨horder, hid⟩ := comesFirst_antisymm hab hba
    exact List.inj_on_of_nodup_map hkeys ha hb (by rw [horder, hid])

theorem pairwise_comesFirst_mergeSort (layers : List α) :
    (layers.mergeSort fun a b => comesFirst (order a) (id a) (order b) (id b)).Pairwise
      fun a b => comesFirst (order a) (id a) (order b) (id b) := by
  apply List.pairwise_mergeSort
  · intro a b c
    exact comesFirst_trans
  · intro a b
    exact comesFirst_total (order a) (order b) (id a) (id b)

/-- Sorting brings layers of different orders or ids into the one order in which they are drawn. -/
theorem inDrawingOrder_mergeSort (hkeys : (layers.map fun a => (order a, id a)).Nodup) :
    InDrawingOrder order id
      (layers.mergeSort fun a b => comesFirst (order a) (id a) (order b) (id b)) := by
  have hdistinct : (layers.mergeSort fun a b =>
      comesFirst (order a) (id a) (order b) (id b)).Pairwise
        fun a b => (order a, id a) ≠ (order b, id b) := by
    apply List.pairwise_map.mp
    exact ((List.mergeSort_perm layers _).map _).nodup_iff.mpr hkeys
  refine (pairwise_comesFirst_mergeSort layers).imp₂ ?_ hdistinct
  intro a b hfirst hne
  exact drawnBefore_of_comesFirst hfirst hne

/-- Layers whose orders go up stay as they are. -/
theorem mergeSort_layers_of_increasing (h : (layers.map order).Pairwise (· < ·)) :
    (layers.mergeSort fun a b => comesFirst (order a) (id a) (order b) (id b)) = layers := by
  apply List.mergeSort_of_pairwise
  rw [List.pairwise_map] at h
  refine h.imp ?_
  intro a b hlt
  exact comesFirst_iff.mpr (.inl (Int32.lt_iff_toInt_lt.mp hlt))

/-- Layers of one order and id stay in their order. -/
theorem filter_mergeSort_layers (layers : List α) (o : Int32) (i : String) :
    (layers.mergeSort fun a b => comesFirst (order a) (id a) (order b) (id b)).filter
        (fun a => order a = o ∧ id a = i) =
      layers.filter fun a => order a = o ∧ id a = i := by
  have hsorted : (layers.filter fun a => order a = o ∧ id a = i).Pairwise
      fun a b => comesFirst (order a) (id a) (order b) (id b) := by
    apply List.pairwise_of_forall_mem_list
    intro a ha b hb
    obtain ⟨-, ha⟩ := List.mem_filter.mp ha
    obtain ⟨-, hb⟩ := List.mem_filter.mp hb
    simp only [decide_eq_true_eq] at ha hb
    rw [ha.1, ha.2, hb.1, hb.2]
    exact comesFirst_iff.mpr (.inr ⟨rfl, le_rfl⟩)
  have hsublist : (layers.filter fun a => order a = o ∧ id a = i).Sublist
      (layers.mergeSort fun a b => comesFirst (order a) (id a) (order b) (id b)) := by
    refine List.sublist_mergeSort ?_ ?_ hsorted List.filter_sublist
    · intro a b c
      exact comesFirst_trans
    · intro a b
      exact comesFirst_total (order a) (order b) (id a) (id b)
  have hfilter := hsublist.filter fun a => order a = o ∧ id a = i
  rw [List.filter_filter] at hfilter
  simp only [Bool.and_self] at hfilter
  exact (hfilter.eq_of_length ((List.mergeSort_perm layers _).filter _).length_eq.symm).symm

end Sorting

/-! ### Arranged layers -/

theorem largest_le_of_subset {f : TileLayer → Nat} {layers layers' : List TileLayer}
    (h : layers' ⊆ layers) : largest f layers' ≤ largest f layers := by
  by_cases hnil : layers' = []
  · rw [hnil]
    exact Nat.zero_le _
  · obtain ⟨l, hl, heq⟩ := exists_eq_largest (f := f) hnil
    rw [← heq]
    exact le_largest (h hl)

/-- A largest number does not depend on how layers are arranged. -/
theorem largest_of_perm {f : TileLayer → Nat} {layers layers' : List TileLayer}
    (h : layers'.Perm layers) : largest f layers' = largest f layers :=
  Nat.le_antisymm (largest_le_of_subset h.subset) (largest_le_of_subset h.symm.subset)

theorem layerBounds?_of_perm {layers layers' : List TileLayer} (h : layers'.Perm layers) :
    layerBounds? layers' = layerBounds? layers := by
  rw [layerBounds?_eq, layerBounds?_eq, largest_of_perm h, largest_of_perm h]

namespace MapParts

variable {p : MapParts} {layers : List TileLayer} {objectLayers : List ObjectLayer}

theorem finalSize_arranged (h : layers.Perm p.layers) :
    (p.arranged layers objectLayers).finalSize = p.finalSize := by
  rw [finalSize, finalSize]
  simp only [arranged]
  rw [layerBounds?_of_perm h]

/-- The layers of a map do not depend on how they were arranged, if no two agree in order and id. -/
theorem finalLayers_arranged (hkeys : (p.layers.map fun l => (l.order, l.id)).Nodup)
    (h : layers.Perm p.layers) :
    (p.arranged layers objectLayers).finalLayers = p.finalLayers := by
  have hempty : (p.arranged layers objectLayers).layers.isEmpty = p.layers.isEmpty := h.isEmpty_eq
  -- Without layers there is the ground, for which only the size is read.
  rw [finalLayers, finalLayers, finalSize_arranged h, hempty]
  split
  · rfl
  · exact mergeSort_layers_eq_of_perm hkeys h

/-- Nothing of a map depends on how its layers were arranged, if no two agree in order and id. -/
theorem completed_arranged (hkeys : (p.layers.map fun l => (l.order, l.id)).Nodup)
    (hkeys' : (p.objectLayers.map fun l => (l.order, l.id)).Nodup) (h : layers.Perm p.layers)
    (h' : objectLayers.Perm p.objectLayers) :
    (p.arranged layers objectLayers).completed = p.completed := by
  have hobjects : sortObjectLayers objectLayers = sortObjectLayers p.objectLayers :=
    mergeSort_layers_eq_of_perm hkeys' h'
  rw [completed, completed, finalSize_arranged h, finalLayers_arranged hkeys h]
  simp only [arranged]
  rw [hobjects]
  rfl

theorem assemble_eq (p : MapParts) : p.assemble = p.finalSize.check.map fun _ => p.completed := by
  rw [assemble]
  rfl

theorem completed_layers (p : MapParts) : p.completed.layers = p.finalLayers := rfl

theorem finalLayers_of_ne_nil (hne : p.layers ≠ []) : p.finalLayers = sortTileLayers p.layers := by
  have hempty : ¬ p.layers.isEmpty := by simpa using hne
  rw [finalLayers, if_neg hempty]

theorem perm_finalLayers (hne : p.layers ≠ []) : p.finalLayers.Perm p.layers := by
  rw [finalLayers_of_ne_nil hne]
  exact List.mergeSort_perm ..

theorem inDrawingOrder_finalLayers (hkeys : (p.layers.map fun l => (l.order, l.id)).Nodup) :
    InDrawingOrder TileLayer.order TileLayer.id p.finalLayers := by
  apply inDrawingOrder_mergeSort
  split
  · exact List.nodup_singleton _
  · exact hkeys

end MapParts

/-! ### Main result -/

/-- Layers with distinct places make the same map in whichever order they arrive, or are refused for
the same reason. The map has all of them, in the order in which they are drawn. -/
theorem assemble_of_perm {p : MapParts} {layers : List TileLayer} {objectLayers : List ObjectLayer}
    (hlayers : layers.Perm p.layers) (hobjectLayers : objectLayers.Perm p.objectLayers)
    (hkeys : (p.layers.map fun l => (l.order, l.id)).Nodup)
    (hobjectKeys : (p.objectLayers.map fun l => (l.order, l.id)).Nodup) :
    (p.arranged layers objectLayers).assemble = p.assemble ∧
    ∀ m, p.assemble = .ok m →
      (p.layers ≠ [] → m.layers.Perm p.layers) ∧
      InDrawingOrder TileLayer.order TileLayer.id m.layers ∧
      m.objectLayers.Perm p.objectLayers ∧
      InDrawingOrder ObjectLayer.order ObjectLayer.id m.objectLayers := by
  constructor
  · rw [MapParts.assemble_eq, MapParts.assemble_eq, MapParts.finalSize_arranged hlayers,
      MapParts.completed_arranged hkeys hobjectKeys hlayers hobjectLayers]
  · intro m hm
    obtain ⟨-, rfl⟩ := MapParts.assemble_eq_ok_iff.mp hm
    refine ⟨?_, ?_, ?_, ?_⟩
    · intro hne
      exact MapParts.perm_finalLayers hne
    · exact MapParts.inDrawingOrder_finalLayers hkeys
    · exact List.mergeSort_perm ..
    · exact inDrawingOrder_mergeSort hobjectKeys

/-- A yard whose roof came before its floor, and with two object layers of one order. -/
def yardParts : MapParts :=
  { MapParts.empty with
    layers := [{ TileLayer.plain "roof" [[none, none]] with order := 1 }, .plain "floor" [[none]]]
    objectLayers := [⟨"trees", "Trees", 3, true, []⟩, ⟨"benches", "Benches", 3, true, []⟩] }

theorem assemble_of_perm_yard :
    (yardParts.arranged yardParts.layers.reverse yardParts.objectLayers.reverse).assemble =
      yardParts.assemble ∧
    ∃ m, yardParts.assemble = .ok m ∧ m.layers.Perm yardParts.layers ∧
      InDrawingOrder TileLayer.order TileLayer.id m.layers ∧
      m.objectLayers.Perm yardParts.objectLayers ∧
      InDrawingOrder ObjectLayer.order ObjectLayer.id m.objectLayers := by
  have hm : yardParts.assemble = .ok yardParts.completed :=
    MapParts.assemble_eq_ok_iff.mpr ⟨by decide +kernel, rfl⟩
  have h := assemble_of_perm (List.reverse_perm yardParts.layers)
    (List.reverse_perm yardParts.objectLayers) (by decide) (by decide)
  obtain ⟨hperm, hsorted⟩ := h.2 _ hm
  exact ⟨h.1, _, hm, hperm (by simp [yardParts]), hsorted⟩

end Tilemap
