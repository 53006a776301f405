import Mathlib.Algebra.Group.Nat.Defs
import Tilemap.Proofs.TileReferences

/-!
# Tiles that cannot be walked on

A map lists the tiles that cannot be walked on, so that nobody has to look through its layers.
`collisions_indexed` says that the list is exact: a tile is in it when some layer has a tile there
whose type collides, and no other tile is, and the list goes strictly row by row. When no two layers
have the same id, it is as good to ask for the tile under every layer id.

Layers may be ragged here, and of any size up to the range of the coordinates.
-/

namespace Tilemap

/-! ### Statement -/

/-- Some layer has a tile at a column and a row whose type collides. -/
def MapModel.CollidesAt (m : MapModel) (x y : Nat) : Prop :=
  ∃ l ∈ m.layers, ∃ id t, l.cell? x y = some id ∧ m.tileTypes.get? id = some t ∧ t.collides

/-- The position is that of a column and a row. -/
def Position.IsAt (p : Position) (x y : Nat) : Prop := p.x.toInt = x ∧ p.y.toInt = y

/-- A position comes before another, row by row. -/
def Position.Before (p q : Position) : Prop := p.y < q.y ∨ p.y = q.y ∧ p.x < q.x

/-- The tiles that a map lists are those that cannot be walked on. -/
structure MapModel.IndexesCollisions (m : MapModel) : Prop where
  listed_iff : ∀ x y, (∃ p ∈ m.collidableTiles, p.IsAt x y) ↔ m.CollidesAt x y
  /-- Nothing is listed that is no tile. -/
  exists_isAt : ∀ p ∈ m.collidableTiles, ∃ x y, p.IsAt x y
  increasing : m.collidableTiles.Pairwise Position.Before
  nodup : m.collidableTiles.Nodup
  /-- Under distinct layer ids the tiles can be asked for by these. -/
  listed_iff_tileAt : (m.layers.map (·.id)).Nodup → ∀ x y,
    (∃ p ∈ m.collidableTiles, p.IsAt x y) ↔
      ∃ layer t, m.tileAt? layer x y = some t ∧ t.collides

/-! ### Repeats -/

section

variable {α : Type} [DecidableEq α]

@[simp] theorem mem_dropRepeats {a : α} {l : List α} : a ∈ dropRepeats l ↔ a ∈ l := by
  fun_induction dropRepeats l with
  | case1 b rest ih => simp [ih]
  | case2 b c rest hne ih => simp [ih]
  | case3 l => rfl

/-- Without its repeats a sorted list is strictly sorted: between two equals there is nothing else,
so only neighbours have to be compared. -/
theorem pairwise_dropRepeats {r : α → α → Prop} (hantisymm : ∀ a b, r a b → r b a → a = b)
    {l : List α} (h : l.Pairwise r) : (dropRepeats l).Pairwise fun a b => r a b ∧ a ≠ b := by
  fun_induction dropRepeats l with
  | case1 b rest ih => exact ih (List.pairwise_cons.mp h).2
  | case2 b c rest hne ih =>
    obtain ⟨hfirst, hrest⟩ := List.pairwise_cons.mp h
    refine List.pairwise_cons.mpr ⟨fun d hd => ⟨?_, ?_⟩, ih hrest⟩
    · exact hfirst d (mem_dropRepeats.mp hd)
    · rintro rfl
      rcases List.mem_cons.mp (mem_dropRepeats.mp hd) with heq | hd
      · exact hne heq
      · have hcd := (List.pairwise_cons.mp hrest).1 _ hd
        exact hne (hantisymm _ _ (hfirst c List.mem_cons_self) hcd)
  | case3 l hshort =>
    match l, hshort with
    | [], _ => exact .nil
    | [a], _ => exact List.pairwise_singleton _ a
    | a :: b :: rest, hshort => exact (hshort a b rest rfl).elim

end

/-! ### The order of positions -/

namespace Position

theorem ext_toInt {p q : Position} (hx : p.x.toInt = q.x.toInt) (hy : p.y.toInt = q.y.toInt) :
    p = q := by
  cases p
  cases q
  rw [Position.mk.injEq]
  exact ⟨Int32.toInt_inj.mp hx, Int32.toInt_inj.mp hy⟩

/-- The order of positions in integers: by rows, and in a row by columns. -/
theorem comesFirst_iff {p q : Position} : p.comesFirst q ↔
    p.y.toInt < q.y.toInt ∨ p.y.toInt = q.y.toInt ∧ p.x.toInt ≤ q.x.toInt := by
  simp only [comesFirst, Bool.or_eq_true, Bool.and_eq_true, decide_eq_true_eq,
    Int32.lt_iff_toInt_lt, Int32.le_iff_toInt_le, Int32.toInt_inj]

theorem before_iff {p q : Position} : p.Before q ↔
    p.y.toInt < q.y.toInt ∨ p.y.toInt = q.y.toInt ∧ p.x.toInt < q.x.toInt := by
  simp only [Before, Int32.lt_iff_toInt_lt, Int32.toInt_inj]

theorem comesFirst_total (p q : Position) : p.comesFirst q || q.comesFirst p := by
  simp only [Bool.or_eq_true, comesFirst_iff]
  omega

theorem comesFirst_trans (p q r : Position) (hpq : p.comesFirst q) (hqr : q.comesFirst r) :
    p.comesFirst r := by
  rw [comesFirst_iff] at hpq hqr ⊢
  omega

theorem comesFirst_antisymm (p q : Position) (hpq : p.comesFirst q) (hqp : q.comesFirst p) :
    p = q := by
  rw [comesFirst_iff] at hpq hqp
  exact ext_toInt (by omega) (by omega)

theorem before_of_comesFirst {p q : Position} (h : p.comesFirst q) (hne : p ≠ q) :
    p.Before q := by
  rw [comesFirst_iff] at h
  rw [before_iff]
  have hdiffer : p.y.toInt = q.y.toInt → p.x.toInt ≠ q.x.toInt :=
    fun hy hx => hne (ext_toInt hx hy)
  omega

theorem ne_of_before {p q : Position} (h : p.Before q) : p ≠ q := by
  rintro rfl
  rw [before_iff] at h
  omega

/-- Below `2 ^ 31` a column and a row are those of their position in 32 bits. -/
theorem isAt_ofNat {x y : Nat} (hx : x < 2 ^ 31) (hy : y < 2 ^ 31) :
    (⟨Int32.ofNat x, Int32.ofNat y⟩ : Position).IsAt x y :=
  ⟨Int32.toInt_ofNat_of_lt hx, Int32.toInt_ofNat_of_lt hy⟩

/-- Below the range of the coordinates a position is that of one column and one row only. -/
theorem eq_of_isAt {p : Position} {x y x' y' : Nat} (h : p.IsAt x y) (h' : p.IsAt x' y') :
    x = x' ∧ y = y' :=
  ⟨Int.ofNat_inj.mp (h.1.symm.trans h'.1), Int.ofNat_inj.mp (h.2.symm.trans h'.2)⟩

end Position

/-! ### Tiles of a layer -/

/-- A cell collides if its tile has a type and the type collides. -/
theorem cellCollides_iff {types : SortedMap TileType} {c : Cell} :
    cellCollides types c ↔ ∃ id t, c = some id ∧ types.get? id = some t ∧ t.collides := by
  cases c with
  | none => simp [cellCollides]
  | some id => cases h : types.get? id <;> simp [cellCollides, h]

namespace TileLayer

/-- The layer has a tile, or an empty cell, at a column and a row. -/
def HasCell (l : TileLayer) (x y : Nat) : Prop := ∃ row, l.tiles[y]? = some row ∧ x < row.length

theorem hasCell_of_cell? {l : TileLayer} {x y : Nat} {id : String}
    (h : l.cell? x y = some id) : l.HasCell x y := by
  rw [cell?, Option.join_eq_some_iff, Option.bind_eq_some_iff] at h
  obtain ⟨row, hrow, hcell⟩ := h
  exact ⟨row, hrow, (List.getElem?_eq_some_iff.mp hcell).1⟩

/-- A layer lists the colliding cells, each by its column and row in 32 bits. -/
theorem mem_collisions {types : SortedMap TileType} {l : TileLayer} {p : Position} :
    p ∈ l.collisions types ↔
      ∃ x y, cellCollides types (l.cell? x y) ∧ p = ⟨Int32.ofNat x, Int32.ofNat y⟩ := by
  have hempty : ¬ cellCollides types none := by simp [cellCollides]
  simp only [collisions, List.mem_flatMap, List.mem_filterMap, Prod.exists,
    List.mk_mem_zipIdx_iff_getElem?, Option.ite_none_right_eq_some, Option.some.injEq]
  constructor
  · rintro ⟨row, y, hrow, c, x, hc, hcollides, rfl⟩
    refine ⟨x, y, ?_, rfl⟩
    simpa [cell?, hrow, hc] using hcollides
  · rintro ⟨x, y, hcollides, rfl⟩
    obtain ⟨id, -, hid, -⟩ := cellCollides_iff.mp hcollides
    obtain ⟨row, hrow, hx⟩ := hasCell_of_cell? hid
    refine ⟨row, y, hrow, row[x], x, List.getElem?_eq_getElem hx, ?_, rfl⟩
    simpa [cell?, hrow, List.getElem?_eq_getElem hx] using hcollides

end TileLayer

/-- A map lists what any of its layers lists. -/
theorem mem_collidableTiles {types : SortedMap TileType} {layers : List TileLayer} {p : Position} :
    p ∈ collidableTiles types layers ↔ ∃ l ∈ layers, p ∈ l.collisions types := by
  rw [collidableTiles, mem_dropRepeats, (List.mergeSort_perm ..).mem_iff, List.mem_flatMap]

/-- The list goes row by row and names no position twice. -/
theorem pairwise_before_collidableTiles (types : SortedMap TileType) (layers : List TileLayer) :
    (collidableTiles types layers).Pairwise Position.Before := by
  have hsorted := List.pairwise_mergeSort Position.comesFirst_trans Position.comesFirst_total
    (layers.flatMap (TileLayer.collisions types))
  exact (pairwise_dropRepeats Position.comesFirst_antisymm hsorted).imp fun ⟨hle, hne⟩ =>
    Position.before_of_comesFirst hle hne

/-! ### Layers of an assembled map -/

theorem Size.check_eq_ok_iff {s : Size} : s.check = .ok () ↔ s.cells ≤ Size.maxCells := by
  rw [Size.check]
  split <;> simp_all

/-- A size has a column and a row. -/
def Size.Holds (s : Size) (x y : Nat) : Prop := x < s.width.toNat ∧ y < s.height.toNat

/-- What a map holds is far below the range of the coordinates. -/
theorem Size.lt_of_check {s : Size} (hsize : s.check = .ok ()) {x y : Nat} (h : s.Holds x y) :
    x < 2 ^ 31 ∧ y < 2 ^ 31 := by
  obtain ⟨hx, hy⟩ := h
  have hcells : s.width.toNat * s.height.toNat ≤ 4096 * 4096 := Size.check_eq_ok_iff.mp hsize
  have hwidth : s.width.toNat ≤ s.width.toNat * s.height.toNat :=
    Nat.le_mul_of_pos_right _ (by omega)
  have hheight : s.height.toNat ≤ s.width.toNat * s.height.toNat :=
    Nat.le_mul_of_pos_left _ (by omega)
  omega

theorem hasCell_groundLayer {size : Size} {tile : Cell} {x y : Nat} :
    (groundLayer size tile).HasCell x y ↔ size.Holds x y := by
  simp only [TileLayer.HasCell, Size.Holds, groundLayer, List.getElem?_replicate,
    Option.ite_none_right_eq_some, Option.some.injEq]
  constructor
  · rintro ⟨row, ⟨hy, rfl⟩, hx⟩
    exact ⟨by simpa using hx, hy⟩
  · rintro ⟨hx, hy⟩
    exact ⟨_, ⟨hy, rfl⟩, by simpa using hx⟩

namespace MapParts

/-- The layers of the map stay within the range of the coordinates. -/
def CoordinatesFit (p : MapParts) : Prop :=
  ∀ l ∈ p.finalLayers, ∀ x y, l.HasCell x y → x < 2 ^ 31 ∧ y < 2 ^ 31

/-- Only the layers that were read have to be looked at: the ground that a map has without any is
bounded by its size. -/
theorem coordinatesFit {p : MapParts} (hsize : p.finalSize.check = .ok ())
    (hsmall : ∀ l ∈ p.layers, l.height < 2 ^ 31 ∧ ∀ row ∈ l.tiles, row.length < 2 ^ 31) :
    p.CoordinatesFit := by
  intro l hl x y h
  have hl := (p.mem_finalLayers l).mp hl
  split at hl
  · subst hl
    exact Size.lt_of_check hsize (hasCell_groundLayer.mp h)
  · obtain ⟨row, hrow, hx⟩ := h
    obtain ⟨hheight, hwidth⟩ := hsmall l hl
    have hy : y < l.height := (List.getElem?_eq_some_iff.mp hrow).1
    exact ⟨Nat.lt_trans hx (hwidth row (List.mem_of_getElem? hrow)), Nat.lt_trans hy hheight⟩

variable {p : MapParts}

/-- Where a layer collides, the map lists a position. -/
theorem exists_listed_of_collidesAt (hfit : p.CoordinatesFit) {x y : Nat}
    (h : p.completed.CollidesAt x y) : ∃ q ∈ p.completed.collidableTiles, q.IsAt x y := by
  obtain ⟨l, hl, id, t, hid, ht, hcollides⟩ := h
  obtain ⟨hx, hy⟩ := hfit l hl x y (TileLayer.hasCell_of_cell? hid)
  refine ⟨⟨Int32.ofNat x, Int32.ofNat y⟩, mem_collidableTiles.mpr ⟨l, hl, ?_⟩,
    Position.isAt_ofNat hx hy⟩
  exact TileLayer.mem_collisions.mpr ⟨x, y, cellCollides_iff.mpr ⟨id, t, hid, ht, hcollides⟩, rfl⟩

/-- Where the map lists a position, a layer collides. -/
theorem exists_collidesAt_of_listed (hfit : p.CoordinatesFit) {q : Position}
    (h : q ∈ p.completed.collidableTiles) : ∃ x y, q.IsAt x y ∧ p.completed.CollidesAt x y := by
  obtain ⟨l, hl, hq⟩ := mem_collidableTiles.mp h
  obtain ⟨x, y, hcollides, rfl⟩ := TileLayer.mem_collisions.mp hq
  obtain ⟨id, t, hid, ht, hcollides⟩ := cellCollides_iff.mp hcollides
  obtain ⟨hx, hy⟩ := hfit l hl x y (TileLayer.hasCell_of_cell? hid)
  exact ⟨x, y, Position.isAt_ofNat hx hy, l, hl, id, t, hid, ht, hcollides⟩

end MapParts

/-- A layer can be asked for by its id when no other has it. -/
theorem MapModel.collidesAt_iff_tileAt? {m : MapModel} (hids : (m.layers.map (·.id)).Nodup)
    {x y : Nat} :
    m.CollidesAt x y ↔ ∃ layer t, m.tileAt? layer x y = some t ∧ t.collides := by
  simp only [tileAt?, Option.bind_eq_bind, Option.bind_eq_some_iff]
  constructor
  · rintro ⟨l, hl, id, t, hid, ht, hcollides⟩
    exact ⟨l.id, t, ⟨l, find?_eq_some_of_nodup hids hl, id, hid, ht⟩, hcollides⟩
  · rintro ⟨layer, t, ⟨l, hl, id, hid, ht⟩, hcollides⟩
    exact ⟨l, List.mem_of_find?_eq_some hl, id, t, hid, ht, hcollides⟩

/-! ### Main result -/

/-- The tiles that an assembled map lists are exactly those that cannot be walked on. -/
theorem collisions_indexed {p : MapParts} {m : MapModel} (h : p.assemble = .ok m)
    (hsmall : ∀ l ∈ p.layers, l.height < 2 ^ 31 ∧ ∀ row ∈ l.tiles, row.length < 2 ^ 31) :
    m.IndexesCollisions := by
  obtain ⟨hsize, rfl⟩ := MapParts.assemble_eq_ok_iff.mp h
  have hfit := MapParts.coordinatesFit hsize hsmall
  have hlisted : ∀ x y, (∃ q ∈ p.completed.collidableTiles, q.IsAt x y) ↔
      p.completed.CollidesAt x y := by
    refine fun x y => ⟨fun ⟨q, hq, hat⟩ => ?_, MapParts.exists_listed_of_collidesAt hfit⟩
    obtain ⟨x', y', hat', hcollides⟩ := MapParts.exists_collidesAt_of_listed hfit hq
    obtain ⟨rfl, rfl⟩ := Position.eq_of_isAt hat hat'
    exact hcollides
  have hincreasing : p.completed.collidableTiles.Pairwise Position.Before :=
    pairwise_before_collidableTiles p.typeMap p.finalLayers
  refine ⟨hlisted, fun q hq => ?_, hincreasing, hincreasing.imp Position.ne_of_before, ?_⟩
  · obtain ⟨x, y, hat, -⟩ := MapParts.exists_collidesAt_of_listed hfit hq
    exact ⟨x, y, hat⟩
  · intro hids x y
    rw [hlisted, MapModel.collidesAt_iff_tileAt? hids]

/-- A layer that says nothing but its id and its tiles. -/
def TileLayer.plain (id : String) (tiles : List (List Cell)) : TileLayer :=
  ⟨id, id, 0, true, none, none, none, tiles⟩

/-- Two ragged layers with a rock at one place, and moss that was declared twice. -/
def ruinParts : MapParts :=
  { MapParts.empty with
    tileTypes := [{ TileType.fresh "rock" "r" with collides := true },
      { TileType.fresh "moss" "m" with collides := true }, TileType.fresh "moss" "m"]
    layers := [.plain "ceiling" [[some "rock", some "rock"], [], [some "mist"]],
      .plain "floor" [[some "rock", none], [some "moss", none, some "rock"]]] }

theorem collisions_indexed_ruin :
    (∀ l ∈ ruinParts.layers, l.height < 2 ^ 31 ∧ ∀ row ∈ l.tiles, row.length < 2 ^ 31) ∧
    ∃ m, ruinParts.assemble = .ok m ∧ m.IndexesCollisions ∧
      m.collidableTiles = [⟨0, 0⟩, ⟨1, 0⟩, ⟨2, 1⟩] := by
  have hsmall : ∀ l ∈ ruinParts.layers,
      l.height < 2 ^ 31 ∧ ∀ row ∈ l.tiles, row.length < 2 ^ 31 := by
    decide
  have hm : ruinParts.assemble = .ok ruinParts.completed :=
    MapParts.assemble_eq_ok_iff.mpr ⟨by decide +kernel, rfl⟩
  have hlayers : ruinParts.finalLayers = ruinParts.layers :=
    List.mergeSort_of_pairwise (by decide)
  have hcollisions : ruinParts.layers.flatMap (TileLayer.collisions ruinParts.typeMap) =
      [⟨0, 0⟩, ⟨1, 0⟩, ⟨0, 0⟩, ⟨2, 1⟩] := by
    decide +kernel
  have hsorted : ([⟨0, 0⟩, ⟨1, 0⟩, ⟨0, 0⟩, ⟨2, 1⟩] : List Position).mergeSort Position.comesFirst =
      [⟨0, 0⟩, ⟨0, 0⟩, ⟨1, 0⟩, ⟨2, 1⟩] := by
    refine List.Perm.eq_of_pairwise (fun p q _ _ => Position.comesFirst_antisymm p q)
      (List.pairwise_mergeSort Position.comesFirst_trans Position.comesFirst_total _)
      (by decide) ?_
    exact (List.mergeSort_perm _ _).trans (.cons _ (.swap _ _ _))
  refine ⟨hsmall, ruinParts.completed, hm, collisions_indexed hm hsmall, ?_⟩
  change collidableTiles ruinParts.typeMap ruinParts.finalLayers = _
  rw [hlayers, collidableTiles, hcollisions, hsorted]
  decide

end Tilemap
