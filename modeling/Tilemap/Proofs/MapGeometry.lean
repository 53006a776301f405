import Tilemap.Proofs.Collisions
import Tilemap.Proofs.LayerExtents

/-!
# The size of a map and what lies in it

The size of a map is the one that its source gives, or else the smallest that holds its layers.
`maps_laidOut` says that an accepted map has at least one tile and at most `2 ^ 24`, that its border
is blocked and nothing else of it, and that what was derived stays inside: a spawn that nobody gave,
and, under a size that nobody gave, every cell and every tile that cannot be walked on.

A layer is as wide as its first row, so cells are only inside because its rows are equally long. The
numbers of rows and columns are cut to 32 bits on their way into a size; a text that is shorter than
that draws no layer that would be cut.
-/

namespace Tilemap

/-! ### Statement -/

/-- A column and a row are on the border of a size. -/
def Size.OnBorder (s : Size) (x y : Nat) : Prop :=
  x = 0 ∨ y = 0 ∨ x + 1 = s.width.toNat ∨ y + 1 = s.height.toNat

/-- An area has a column and a row. -/
def Area.Covers (a : Area) (x y : Nat) : Prop :=
  (a.x.toNat ≤ x ∧ x < a.x.toNat + a.width.toNat) ∧ a.y.toNat ≤ y ∧ y < a.y.toNat + a.height.toNat

/-- All of an area is inside a size. -/
def Area.Inside (a : Area) (s : Size) : Prop :=
  a.x.toNat + a.width.toNat ≤ s.width.toNat ∧ a.y.toNat + a.height.toNat ≤ s.height.toNat

/-- A position is inside a size. -/
def Position.Inside (p : Position) (s : Size) : Prop := ∃ x y, p.IsAt x y ∧ s.Holds x y

/-- How a map is laid out whose source gives a size, or none, and a spawn, or none. -/
structure MapModel.LaidOut (m : MapModel) (size : Option Size) (spawn : Option Position) :
    Prop where
  width_pos : 1 ≤ m.size.width.toNat
  height_pos : 1 ≤ m.size.height.toNat
  cells_le : m.size.width.toNat * m.size.height.toNat ≤ 2 ^ 24
  blocked_iff : ∀ x y, m.size.Holds x y →
    ((∃ a ∈ m.blockedAreas, a.Covers x y) ↔ m.size.OnBorder x y)
  blocked_inside : ∀ a ∈ m.blockedAreas, a.Inside m.size
  spawn_given : ∀ p, spawn = some p → m.spawn = p
  spawn_inside : spawn = none → m.spawn.Inside m.size
  size_given : ∀ s, size = some s → m.size = s
  cells_inside : size = none → ∀ l ∈ m.layers, ∀ x y, l.HasCell x y → m.size.Holds x y
  collidable_inside : size = none → ∀ p ∈ m.collidableTiles, p.Inside m.size

/-- A size is as wide as the widest of some layers and as high as the highest; without any layer it
is a single tile. -/
structure Size.FitsExactly (s : Size) (layers : List TileLayer) : Prop where
  unit : layers = [] → s = .unit
  le : ∀ l ∈ layers, l.width ≤ s.width.toNat ∧ l.height ≤ s.height.toNat
  width : layers ≠ [] → ∃ l ∈ layers, l.width = s.width.toNat
  height : layers ≠ [] → ∃ l ∈ layers, l.height = s.height.toNat

/-- The size that a map text gives. -/
def givenSize? (text : String) : Option Size :=
  ((headOf text).get? ["dimensions", "size"]).bind Size.parse?

def givenSpawn? (text : String) : Option Position :=
  ["startingPoint", "spawnPoint", "spawn"].findSome? fun key =>
    ((headOf text).get? [key]).bind Position.parse?

/-- The layers that a map text draws. -/
def drawnLayers (text : String) (options : CompileOptions) : Except MapError (List TileLayer) := do
  let tiles ← resolveTiles options.catalog (legendLines text)
    ((headOf text).get? ["floorColour", "floorColor"])
  compileLayers tiles (sectionsStarting (splitSections text) "layer")

def Tiled.Document.givenSize? (d : Document) : Option Size :=
  if 0 < d.width && 0 < d.height then some ⟨d.width, d.height⟩ else none

def Tiled.Document.givenSpawn? (d : Document) : Option Position :=
  (text? d.properties "spawn").bind Position.parse?

/-! ### Borders -/

namespace Size

variable {s : Size}

/-- A map that is not empty has four bands along its edges. -/
theorem border_of_pos (hwidth : 0 < s.width) (hheight : 0 < s.height) :
    s.border = [⟨0, 0, s.width, 1⟩, ⟨0, s.height - 1, s.width, 1⟩, ⟨0, 0, 1, s.height⟩,
      ⟨s.width - 1, 0, 1, s.height⟩] := by
  have hne : ¬ (s.width = 0 || s.height = 0) := by
    simpa using ⟨(UInt32.ne_of_lt hwidth).symm, (UInt32.ne_of_lt hheight).symm⟩
  rw [border, if_neg hne]

theorem toNat_pred {n : UInt32} (h : 0 < n) : (n - 1).toNat + 1 = n.toNat := by
  have hpos : 0 < n.toNat := UInt32.lt_iff_toNat_lt.mp h
  have hle : (1 : UInt32) ≤ n := UInt32.le_iff_toNat_le.mpr hpos
  rw [UInt32.toNat_sub_of_le n 1 hle, UInt32.toNat_one]
  omega

/-- The bands cover the tiles along the edges and no others. -/
theorem exists_border_covers_iff (hwidth : 0 < s.width) (hheight : 0 < s.height) {x y : Nat}
    (h : s.Holds x y) : (∃ a ∈ s.border, a.Covers x y) ↔ s.OnBorder x y := by
  have hright := toNat_pred hwidth
  have hbottom := toNat_pred hheight
  obtain ⟨hx, hy⟩ := h
  rw [border_of_pos hwidth hheight]
  simp only [List.mem_cons, List.not_mem_nil, or_false, exists_eq_or_imp, exists_eq_left,
    Area.Covers, OnBorder, UInt32.toNat_zero, UInt32.toNat_one]
  omega

theorem inside_of_mem_border (hwidth : 0 < s.width) (hheight : 0 < s.height) {a : Area}
    (ha : a ∈ s.border) : a.Inside s := by
  have hright := toNat_pred hwidth
  have hbottom := toNat_pred hheight
  rw [border_of_pos hwidth hheight] at ha
  simp only [List.mem_cons, List.not_mem_nil, or_false] at ha
  rcases ha with rfl | rfl | rfl | rfl <;>
    simp only [Area.Inside, UInt32.toNat_zero, UInt32.toNat_one] <;>
    omega

/-- The middle of a size is inside, since half of a positive number is less than the number. -/
theorem centre_inside (hcheck : s.check = .ok ()) (hwidth : 0 < s.width) (hheight : 0 < s.height) :
    s.centre.Inside s := by
  have hpos : 0 < s.width.toNat ∧ 0 < s.height.toNat :=
    ⟨UInt32.lt_iff_toNat_lt.mp hwidth, UInt32.lt_iff_toNat_lt.mp hheight⟩
  have hx : (s.width / 2).toNat = s.width.toNat / 2 := UInt32.toNat_div _ _
  have hy : (s.height / 2).toNat = s.height.toNat / 2 := UInt32.toNat_div _ _
  have hholds : s.Holds (s.width / 2).toNat (s.height / 2).toNat := by
    rw [Holds, hx, hy]
    omega
  obtain ⟨hltX, hltY⟩ := lt_of_check hcheck hholds
  exact ⟨_, _, Position.isAt_ofNat hltX hltY, hholds⟩

end Size

/-! ### Sizes of layers -/

/-- The largest number that a function gives layers. -/
def largest (f : TileLayer → Nat) (layers : List TileLayer) : Nat :=
  (layers.map f).max?.getD 0

section

variable {f : TileLayer → Nat} {layers : List TileLayer}

theorem le_largest {l : TileLayer} (hl : l ∈ layers) : f l ≤ largest f layers :=
  List.le_max?_getD_of_mem (List.mem_map_of_mem hl)

theorem exists_eq_largest (h : layers ≠ []) : ∃ l ∈ layers, f l = largest f layers := by
  cases hmax : (layers.map f).max? with
  | none => exact absurd (List.map_eq_nil_iff.mp (List.max?_eq_none_iff.mp hmax)) h
  | some n =>
    obtain ⟨l, hl, heq⟩ := List.mem_map.mp (List.max?_mem hmax)
    exact ⟨l, hl, by rw [heq, largest, hmax, Option.getD_some]⟩

theorem largest_lt {n : Nat} (hpos : 0 < n) (h : ∀ l ∈ layers, f l < n) :
    largest f layers < n := by
  by_cases hnil : layers = []
  · rw [hnil]
    exact hpos
  · obtain ⟨l, hl, heq⟩ := exists_eq_largest (f := f) hnil
    rw [← heq]
    exact h l hl

/-- The bounds are the greatest width and the greatest height, unless one is zero. -/
theorem layerBounds?_eq (layers : List TileLayer) :
    layerBounds? layers =
      if 0 < largest TileLayer.width layers && 0 < largest TileLayer.height layers then
        some ⟨UInt32.ofNat (largest TileLayer.width layers),
          UInt32.ofNat (largest TileLayer.height layers)⟩
      else none :=
  rfl

end

/-- The rows of a layer are equally long, and there are not too many or too long ones for a size. -/
structure TileLayer.IsGrid (l : TileLayer) : Prop where
  rows : ∀ row ∈ l.tiles, row.length = l.width
  width_lt : l.width < UInt32.size
  height_lt : l.height < UInt32.size

theorem TileLayer.IsGrid.lt_of_hasCell {l : TileLayer} (h : l.IsGrid) {x y : Nat}
    (hcell : l.HasCell x y) : x < l.width ∧ y < l.height := by
  obtain ⟨row, hrow, hx⟩ := hcell
  refine ⟨?_, (List.getElem?_eq_some_iff.mp hrow).1⟩
  rwa [← h.rows row (List.mem_of_getElem? hrow)]

/-! ### Assembled maps -/

namespace MapParts

variable {p : MapParts}

/-- A size that is not given is that of the layers, unless these are all without columns or all
without rows. -/
theorem finalSize_of_size_none (hnone : p.size = none) (hgrid : ∀ l ∈ p.layers, l.IsGrid) :
    (0 < largest TileLayer.width p.layers ∧ 0 < largest TileLayer.height p.layers ∧
      p.finalSize.width.toNat = largest TileLayer.width p.layers ∧
      p.finalSize.height.toNat = largest TileLayer.height p.layers) ∨
    ((largest TileLayer.width p.layers = 0 ∨ largest TileLayer.height p.layers = 0) ∧
      p.finalSize = .unit) := by
  have hwidth : largest TileLayer.width p.layers < UInt32.size :=
    largest_lt (by decide) fun l hl => (hgrid l hl).width_lt
  have hheight : largest TileLayer.height p.layers < UInt32.size :=
    largest_lt (by decide) fun l hl => (hgrid l hl).height_lt
  rw [finalSize, hnone, Option.none_or, layerBounds?_eq]
  split
  · rename_i hpos
    simp only [Bool.and_eq_true, decide_eq_true_eq] at hpos
    refine .inl ⟨hpos.1, hpos.2, ?_, ?_⟩
    · exact UInt32.toNat_ofNat_of_lt' hwidth
    · exact UInt32.toNat_ofNat_of_lt' hheight
  · rename_i hpos
    simp only [Bool.and_eq_true, decide_eq_true_eq] at hpos
    exact .inr ⟨by omega, rfl⟩

/-- A map is never empty unless it asks for an empty size. -/
theorem finalSize_pos (hgiven : ∀ s, p.size = some s → 0 < s.height ∧ 0 < s.width)
    (hgrid : ∀ l ∈ p.layers, l.IsGrid) : 0 < p.finalSize.width ∧ 0 < p.finalSize.height := by
  cases hsize : p.size with
  | some s =>
    have hfinal : p.finalSize = s := by rw [finalSize, hsize, Option.some_or, Option.getD_some]
    rw [hfinal]
    exact (hgiven s hsize).symm
  | none =>
    rcases finalSize_of_size_none hsize hgrid with ⟨hwidth, hheight, hw, hh⟩ | ⟨-, hunit⟩
    · rw [UInt32.lt_iff_toNat_lt, UInt32.lt_iff_toNat_lt, hw, hh]
      exact ⟨hwidth, hheight⟩
    · rw [hunit]
      decide

/-- Under a size that is not given every cell is inside. -/
theorem holds_of_hasCell (hnone : p.size = none) (hgrid : ∀ l ∈ p.layers, l.IsGrid) {l : TileLayer}
    (hl : l ∈ p.finalLayers) {x y : Nat} (hcell : l.HasCell x y) : p.finalSize.Holds x y := by
  have hl := (p.mem_finalLayers l).mp hl
  split at hl
  · subst hl
    exact hasCell_groundLayer.mp hcell
  · obtain ⟨hx, hy⟩ := (hgrid l hl).lt_of_hasCell hcell
    have hwidth := le_largest (f := TileLayer.width) hl
    have hheight := le_largest (f := TileLayer.height) hl
    rcases finalSize_of_size_none hnone hgrid with ⟨-, -, hw, hh⟩ | ⟨hzero, -⟩
    · rw [Size.Holds, hw, hh]
      exact ⟨Nat.lt_of_lt_of_le hx hwidth, Nat.lt_of_lt_of_le hy hheight⟩
    · omega

/-- A map of grids is laid out within the size that it gets. -/
theorem laidOut_completed (hcheck : p.finalSize.check = .ok ())
    (hgiven : ∀ s, p.size = some s → 0 < s.height ∧ 0 < s.width)
    (hgrid : ∀ l ∈ p.layers, l.IsGrid) : p.completed.LaidOut p.size p.spawn := by
  obtain ⟨hwidth, hheight⟩ := finalSize_pos hgiven hgrid
  refine
    { width_pos := UInt32.lt_iff_toNat_lt.mp hwidth
      height_pos := UInt32.lt_iff_toNat_lt.mp hheight
      cells_le := Size.check_eq_ok_iff.mp hcheck
      blocked_iff := fun x y => Size.exists_border_covers_iff hwidth hheight
      blocked_inside := fun a => Size.inside_of_mem_border hwidth hheight
      spawn_given := ?spawnGiven
      spawn_inside := ?spawnInside
      size_given := ?sizeGiven
      cells_inside := fun hnone l hl x y => holds_of_hasCell hnone hgrid hl
      collidable_inside := ?collidableInside }
  case spawnGiven =>
    intro q hq
    rw [completed, hq]
    rfl
  case spawnInside =>
    intro hnone
    rw [completed, hnone]
    exact Size.centre_inside hcheck hwidth hheight
  case sizeGiven =>
    intro s hs
    rw [completed, finalSize, hs]
    rfl
  case collidableInside =>
    intro hnone q hq
    have hfit : p.CoordinatesFit := fun l hl x y hcell =>
      Size.lt_of_check hcheck (holds_of_hasCell hnone hgrid hl hcell)
    obtain ⟨x, y, hat, l, hl, id, t, hid, -⟩ := exists_collidesAt_of_listed hfit hq
    exact ⟨x, y, hat, holds_of_hasCell hnone hgrid hl (TileLayer.hasCell_of_cell? hid)⟩

/-- Layers that all have a cell are what their size is made of. -/
theorem fitsExactly_finalSize (hnone : p.size = none) (hgrid : ∀ l ∈ p.layers, l.IsGrid)
    (hpos : ∀ l ∈ p.layers, 0 < l.height ∧ 0 < l.width) : p.finalSize.FitsExactly p.layers := by
  by_cases hnil : p.layers = []
  · have hunit : p.finalSize = .unit := by
      rw [finalSize, hnone, hnil]
      rfl
    exact ⟨fun _ => hunit, by simp [hnil], absurd hnil, absurd hnil⟩
  · obtain ⟨l, hl⟩ := List.exists_mem_of_ne_nil _ hnil
    have hwidth := le_largest (f := TileLayer.width) hl
    have hheight := le_largest (f := TileLayer.height) hl
    have hsizes := hpos l hl
    rcases finalSize_of_size_none hnone hgrid with ⟨-, -, hw, hh⟩ | ⟨hzero, -⟩
    · refine ⟨fun h => absurd h hnil, fun l hl => ?_, fun _ => ?_, fun _ => ?_⟩
      · rw [hw, hh]
        exact ⟨le_largest hl, le_largest hl⟩
      · rw [hw]
        exact exists_eq_largest hnil
      · rw [hh]
        exact exists_eq_largest hnil
    · omega

end MapParts

/-! ### Layers of a map text and of a document -/

section TextParts

variable {text : String} {options : CompileOptions} {tiles : TileTable} {layers : List TileLayer}
  {doors : List Door} {doorObjects : List ObjectPlacement} {objectLayers : List ObjectLayer}

theorem size_textParts :
    (textParts text options tiles layers doors doorObjects objectLayers).size =
      givenSize? text := by
  rw [textParts, givenSize?]

theorem spawn_textParts :
    (textParts text options tiles layers doors doorObjects objectLayers).spawn =
      givenSpawn? text := by
  rw [textParts, givenSpawn?]

end TextParts

/-- The layers of a text are too small for their sizes to be cut. -/
theorem isGrid_compileLayers {text : String} {tiles : TileTable} {layers : List TileLayer}
    (hsize : text.utf8ByteSize < 2 ^ 31) (htiles : tiles.Sound)
    (h : compileLayers tiles (sectionsStarting (splitSections text) "layer") = .ok layers) :
    ∀ l ∈ layers, l.IsGrid ∧ 0 < l.height ∧ 0 < l.width := by
  intro l hl
  have hlength := Text.length_le_utf8ByteSize text
  obtain ⟨hdrawn, hne⟩ := drawn_compileLayers htiles
    (fun s hs l hl => hasWords_of_mem_sections (List.mem_filter.mp hs).1 hl) h l hl
  obtain ⟨hcolumns, hrows⟩ := within_compileLayers h l hl
  obtain ⟨row, hrow⟩ := List.exists_mem_of_ne_nil _ hne
  have hwidth : l.width ≤ text.toList.length := by
    rw [← hdrawn.fits.rows row hrow]
    exact hcolumns row hrow
  refine ⟨⟨hdrawn.fits.rows, ?_, ?_⟩, hdrawn.size_pos hne⟩
  · simp only [UInt32.size]
    omega
  · simp only [UInt32.size]
    omega

namespace Tiled

theorem TileIndex.length_rows (index : TileIndex) (width height : Nat) (data : List Json) :
    (index.rows width height data).length = height := by
  induction height generalizing data with
  | zero => rfl
  | succ height ih => rw [rows_succ, List.length_cons, ih]

/-- Data are cut into rows of one width, so imported layers are grids. -/
theorem isGrid_toTileLayer {index : TileIndex} (h : index.Sound) {l : Layer} {d : Document}
    {place : Nat} {layer : TileLayer} (hlayer : l.toTileLayer d index place = .ok layer) :
    layer.IsGrid := by
  have hrows := (fitsTypes_toTileLayer h hlayer).rows
  simp only [Layer.toTileLayer, bind_eq_ok, pure_eq_ok] at hlayer
  obtain ⟨-, -, items, -, rfl⟩ := hlayer
  refine ⟨hrows, ?_, ?_⟩
  · rw [TileLayer.width]
    cases htiles : index.rows (l.width.getD d.width).toNat (l.height.getD d.height).toNat items with
    | nil => simp
    | cons first rest =>
      have hfirst : first.length = (l.width.getD d.width).toNat :=
        (TileIndex.rows_spec h (by rw [htiles]; exact List.mem_cons_self)).1
      simpa [htiles, hfirst] using UInt32.toNat_lt (l.width.getD d.width)
  · rw [TileLayer.height, TileIndex.length_rows]
    exact UInt32.toNat_lt _

end Tiled

/-! ### Main result -/

/-- Accepted maps are laid out as their sources say, and inside their sizes otherwise. -/
theorem maps_laidOut :
    (∀ (text : String) (options : CompileOptions) (m : MapModel),
      text.utf8ByteSize < 2 ^ 31 → compile text options = .ok m →
        m.LaidOut (givenSize? text) (givenSpawn? text) ∧
          (givenSize? text = none →
            ∃ layers, drawnLayers text options = .ok layers ∧ m.size.FitsExactly layers)) ∧
    (∀ (d : Tiled.Document) (options : CompileOptions) (m : MapModel),
      d.toMap options = .ok m → m.LaidOut d.givenSize? d.givenSpawn?) := by
  constructor
  · intro text options m hsize h
    obtain ⟨tiles, layers, doors, doorObjects, ids, objectLayers, ids', htiles, hlayers, -, -,
      hm⟩ := compile_eq_ok h
    obtain ⟨hcheck, rfl⟩ := MapParts.assemble_eq_ok_iff.mp hm
    have hgrid := isGrid_compileLayers hsize (sound_resolveTiles htiles) hlayers
    constructor
    · have hgiven (s : Size) (hs : givenSize? text = some s) : 0 < s.height ∧ 0 < s.width := by
        obtain ⟨given, -, hgiven⟩ := Option.bind_eq_some_iff.mp hs
        exact Size.parse?_pos hgiven
      have hlaidOut := MapParts.laidOut_completed hcheck
        (fun s hs => hgiven s (size_textParts ▸ hs)) fun l hl => (hgrid l hl).1
      rw [size_textParts, spawn_textParts] at hlaidOut
      exact hlaidOut
    · intro hnone
      refine ⟨layers, bind_eq_ok.mpr ⟨tiles, htiles, hlayers⟩, ?_⟩
      rw [MapParts.completed_size]
      exact MapParts.fitsExactly_finalSize (size_textParts.trans hnone)
        (fun l hl => (hgrid l hl).1) fun l hl => (hgrid l hl).2
  · intro d options m h
    obtain ⟨index, layers, objectLayers, ids, doors, doorObjects, ids', hindex, hlayers, -, hm⟩ :=
      Tiled.toMap_eq_ok h
    obtain ⟨hcheck, rfl⟩ := MapParts.assemble_eq_ok_iff.mp hm
    refine MapParts.laidOut_completed hcheck ?_ ?_
    · intro s hs
      have hs : d.givenSize? = some s := hs
      rw [Tiled.Document.givenSize?] at hs
      split at hs
      · rename_i hpos
        simp only [Bool.and_eq_true, decide_eq_true_eq] at hpos
        cases hs
        exact hpos.symm
      · cases hs
    · intro l hl
      obtain ⟨l', place, -, hlayer⟩ := Tiled.exists_toTileLayer_of_mem_splitLayers hlayers hl
      exact Tiled.isGrid_toTileLayer (Tiled.TileIndex.sound_build hindex) hlayer

/-- A text without a size whose layer has a wall in the last column and row. -/
def cliffText : String := "title: Cliff\n[Layer low]\n. . .\n. ~ .\n, , .\n. . #"

/-- A document without a size whose layers are a row and a column. -/
def Tiled.cliffDocument : Document where
  width := 0
  height := 7
  tileWidth := none
  tileHeight := none
  layers :=
    [⟨none, none, "tilelayer", none, none, some 5, some 1, none, none, [], [], []⟩,
      ⟨none, none, "tilelayer", none, none, some 1, some 2, none, none, [], [], []⟩]
  tilesets := []
  properties := []

theorem maps_laidOut_cliff :
    cliffText.utf8ByteSize < 2 ^ 31 ∧
    (∃ m, compile cliffText .default = .ok m ∧ m.LaidOut none none ∧
      (∃ layers, drawnLayers cliffText .default = .ok layers ∧ m.size.FitsExactly layers) ∧
      (m.size, m.spawn) = (⟨3, 4⟩, ⟨1, 2⟩)) ∧
    (∃ m, Tiled.cliffDocument.toMap .default = .ok m ∧ m.LaidOut none none ∧
      (m.size, m.spawn) = (⟨5, 2⟩, ⟨2, 1⟩)) := by
  have hsize : cliffText.utf8ByteSize < 2 ^ 31 := by decide +kernel
  have hgivenSize : givenSize? cliffText = none := by decide +kernel
  have hgivenSpawn : givenSpawn? cliffText = none := by decide +kernel
  refine ⟨hsize, ?_, ?_⟩
  · have hsummary : (compile cliffText .default).toOption.map (fun m => (m.size, m.spawn)) =
        some (⟨3, 4⟩, ⟨1, 2⟩) := by
      decide +kernel
    obtain ⟨m, hm, hsummary⟩ := exists_ok_of_toOption_map hsummary
    obtain ⟨hlaidOut, hexact⟩ := maps_laidOut.1 cliffText .default m hsize hm
    rw [hgivenSize, hgivenSpawn] at hlaidOut
    exact ⟨m, hm, hlaidOut, hexact hgivenSize, hsummary⟩
  · have hsummary : (Tiled.cliffDocument.toMap .default).toOption.map
        (fun m => (m.size, m.spawn)) = some (⟨5, 2⟩, ⟨2, 1⟩) := by
      decide +kernel
    obtain ⟨m, hm, hsummary⟩ := exists_ok_of_toOption_map hsummary
    exact ⟨m, hm, maps_laidOut.2 Tiled.cliffDocument .default m hm, hsummary⟩

end Tilemap
