import Tilemap.Proofs.Groups

/-!
# Gids of cells

The data of a Tiled layer are gids, row by row. The lower 28 bits of a gid tell the tile and the
others how it is turned, which a map does not keep. `gids_resolve` says for every cell of a map
which tile it is, and that two documents make equal maps when their tiles are only turned in
different ways.
-/

namespace Tilemap.Tiled

/-! ### Statement -/

/-- The tiles of all tilesets in their order, each with its tileset. -/
def tilesOf (tilesets : List Tileset) : List (Tileset × Tile) :=
  tilesets.flatMap fun tileset => tileset.tiles.map (tileset, ·)

def gidOf (e : Tileset × Tile) : Nat := e.1.firstGid.toNat + e.2.id.toNat

/-- The last tile with a gid has an id, whatever the tiles before it have. -/
def LastTile (tilesets : List Tileset) (gid : Nat) (id : String) : Prop :=
  ∃ before e after, tilesOf tilesets = before ++ e :: after ∧ gidOf e = gid ∧
    (∀ e' ∈ after, gidOf e' ≠ gid) ∧ tileId e.1 e.2 = id

/-- An item of the data of a layer is a natural number whose lower 28 bits are the gid of a tile. -/
def Layer.ItemStandsFor (l : Layer) (tilesets : List Tileset) (i : Nat) (id : String) : Prop :=
  ∃ (items : List Json) (v : Nat), l.data = some (.array items) ∧
    items[i]? = some (.number (.int v)) ∧ v % 2 ^ 28 ≠ 0 ∧ LastTile tilesets (v % 2 ^ 28) id

/-- The number of columns of a layer, which is that of the map if it gives none. -/
def Layer.columns (l : Layer) (d : Document) : Nat := (l.width.getD d.width).toNat

/-- The number of rows of a layer, which is that of the map if it gives none. -/
def Layer.lines (l : Layer) (d : Document) : Nat := (l.height.getD d.height).toNat

/-- A layer of a map has the tiles that the data of a layer tell, row by row, and no others. -/
structure Layer.IsCutInto (l : Layer) (d : Document) (layer : TileLayer) : Prop where
  height : layer.tiles.length = l.lines d
  width : ∀ row ∈ layer.tiles, row.length = l.columns d
  cell_iff : ∀ x y id, x < l.columns d → y < l.lines d →
    (layer.cell? x y = some id ↔ l.ItemStandsFor d.tilesets (y * l.columns d + x) id)

/-- An item without the upper four bits of 32: a tile that is not turned. -/
def unturnedItem : Json → Json
  | .number (.int (.ofNat v)) =>
    if v < 2 ^ 32 then .number (.int (.ofNat (v % 2 ^ 28))) else .number (.int (.ofNat v))
  | item => item

/-- Data whose tiles are not turned. -/
def unturnedData : Json → Json
  | .array items => .array (items.map unturnedItem)
  | data => data

mutual

/-- The layer, and the layers in it, without a turned tile. -/
def Layer.unturned : Layer → Layer
  | ⟨id, name, kind, visible, opacity, width, height, data, encoding, objects, layers,
      properties⟩ =>
    ⟨id, name, kind, visible, opacity, width, height, data.map unturnedData, encoding, objects,
      unturnedAll layers, properties⟩

/-- Several layers, and the layers in them, without a turned tile. -/
def unturnedAll : List Layer → List Layer
  | [] => []
  | l :: rest => l.unturned :: unturnedAll rest

end

def Document.unturned (d : Document) : Document := { d with layers := unturnedAll d.layers }

/-! ### Gids of an index -/

namespace TileIndex

def gidEntry (e : Tileset × Tile) : UInt32 × String := (UInt32.ofNat (gidOf e), tileId e.1 e.2)

/-- The index with a tile more. -/
def put (index : TileIndex) (e : Tileset × Tile) : TileIndex :=
  ⟨gidEntry e :: index.gids, upsertType index.types (tileType e.1 e.2)⟩

/-- A tile is added only if its gid has 32 bits. -/
theorem addTile_eq_ok {tileset : Tileset} {index index' : TileIndex} {tile : Tile}
    (h : index.addTile tileset tile = .ok index') :
    gidOf (tileset, tile) < UInt32.size ∧ index.put (tileset, tile) = index' := by
  rw [addTile] at h
  dsimp only at h
  split at h
  · rename_i hlt
    cases h
    exact ⟨hlt, rfl⟩
  · cases h

/-- An index has the tiles that were added to it one after the other, whose gids fit 32 bits. -/
theorem foldlM_addTile {tileset : Tileset} {tiles : List Tile} {index index' : TileIndex}
    (h : tiles.foldlM (addTile tileset) index = .ok index') :
    (∀ tile ∈ tiles, gidOf (tileset, tile) < UInt32.size) ∧
      (tiles.map (tileset, ·)).foldl put index = index' := by
  induction tiles generalizing index with
  | nil =>
    obtain rfl := pure_eq_ok.mp h
    simp
  | cons tile rest ih =>
    rw [List.foldlM_cons] at h
    obtain ⟨next, hnext, hrest⟩ := bind_eq_ok.mp h
    obtain ⟨hlt, rfl⟩ := addTile_eq_ok hnext
    obtain ⟨hltRest, hindex⟩ := ih hrest
    exact ⟨List.forall_mem_cons.mpr ⟨hlt, hltRest⟩, hindex⟩

/-- Tilesets are added tile by tile, and every gid has 32 bits. -/
theorem foldlM_addTileset {tilesets : List Tileset} {index index' : TileIndex}
    (h : tilesets.foldlM addTileset index = .ok index') :
    (∀ e ∈ tilesOf tilesets, gidOf e < UInt32.size) ∧
      (tilesOf tilesets).foldl put index = index' := by
  induction tilesets generalizing index with
  | nil =>
    obtain rfl := pure_eq_ok.mp h
    simp [tilesOf]
  | cons tileset rest ih =>
    rw [List.foldlM_cons] at h
    obtain ⟨next, hnext, hrest⟩ := bind_eq_ok.mp h
    rw [addTileset] at hnext
    split at hnext
    · cases hnext
    · obtain ⟨hlt, rfl⟩ := foldlM_addTile hnext
      obtain ⟨hltRest, hindex⟩ := ih hrest
      have htiles : tilesOf (tileset :: rest) =
          tileset.tiles.map (tileset, ·) ++ tilesOf rest := by
        rw [tilesOf, List.flatMap_cons, tilesOf]
      rw [htiles, List.foldl_append]
      refine ⟨List.forall_mem_append.mpr ⟨?_, hltRest⟩, hindex⟩
      simpa using hlt

/-- The index of tilesets has all of their tiles, and a floor. -/
theorem build_eq_ok {tilesets : List Tileset} {index : TileIndex}
    (h : build tilesets = .ok index) : (∀ e ∈ tilesOf tilesets, gidOf e < UInt32.size) ∧
      ((tilesOf tilesets).foldl put ⟨[], []⟩).withFloor = index := by
  simp only [build, bind_eq_ok, pure_eq_ok] at h
  obtain ⟨index', hindex, rfl⟩ := h
  obtain ⟨hlt, rfl⟩ := foldlM_addTileset hindex
  exact ⟨hlt, rfl⟩

/-- The gids stand in an index with the latest first. -/
theorem gids_foldl_put (index : TileIndex) (es : List (Tileset × Tile)) :
    (es.foldl put index).gids = (es.map gidEntry).reverse ++ index.gids := by
  induction es generalizing index with
  | nil => rfl
  | cons e rest ih =>
    rw [List.foldl_cons, ih, List.map_cons, List.reverse_cons, List.append_assoc]
    rfl

theorem gids_withFloor (index : TileIndex) : index.withFloor.gids = index.gids := by
  rw [withFloor]
  split <;> rfl

/-- A look-up among entries that were put latest first finds the last one with its key. -/
theorem lookup_reverse_map {α β γ : Type} [BEq β] [LawfulBEq β] {f : α → β × γ} {l : List α}
    {k : β} {c : γ} : (l.map f).reverse.lookup k = some c ↔
      ∃ before a after, l = before ++ a :: after ∧ f a = (k, c) ∧ ∀ a' ∈ after, (f a').1 ≠ k := by
  rw [List.lookup_eq_some_iff]
  constructor
  · rintro ⟨after, before, hsplit, hafter⟩
    rw [List.reverse_eq_append_iff, List.reverse_cons, List.append_assoc, List.singleton_append,
      List.map_eq_append_iff] at hsplit
    obtain ⟨l₁, l₂, rfl, -, hl₂⟩ := hsplit
    obtain ⟨a, l₂, rfl, ha, hrest⟩ := List.map_eq_cons_iff.mp hl₂
    refine ⟨l₁, a, l₂, rfl, ha, ?_⟩
    intro a' ha'
    have hmem : f a' ∈ after := List.mem_reverse.mp (hrest ▸ List.mem_map_of_mem ha')
    exact (bne_iff_ne.mp (hafter _ hmem)).symm
  · rintro ⟨before, a, after, rfl, ha, hafter⟩
    refine ⟨(after.map f).reverse, (before.map f).reverse, by simp [ha], ?_⟩
    intro p hp
    obtain ⟨a', ha', rfl⟩ := List.mem_map.mp (List.mem_reverse.mp hp)
    exact bne_iff_ne.mpr (hafter a' ha').symm

theorem ofNat_eq_ofNat {a b : Nat} (ha : a < UInt32.size) (hb : b < UInt32.size) :
    UInt32.ofNat a = UInt32.ofNat b ↔ a = b := by
  constructor
  · intro h
    rw [← UInt32.toNat_ofNat_of_lt' ha, h, UInt32.toNat_ofNat_of_lt' hb]
  · intro h
    rw [h]

variable {tilesets : List Tileset} {index : TileIndex}

/-- A gid stands for the last tile with this number. -/
theorem lookup_gids (h : build tilesets = .ok index) {gid : Nat} (hgid : gid < UInt32.size)
    {id : String} : index.gids.lookup (UInt32.ofNat gid) = some id ↔ LastTile tilesets gid id := by
  obtain ⟨hlt, rfl⟩ := build_eq_ok h
  have hkey {e : Tileset × Tile} (he : e ∈ tilesOf tilesets) :
      (gidEntry e).1 = UInt32.ofNat gid ↔ gidOf e = gid :=
    ofNat_eq_ofNat (hlt e he) hgid
  rw [gids_withFloor, gids_foldl_put, List.append_nil, lookup_reverse_map, LastTile]
  refine exists_congr fun before => exists_congr fun e => exists_congr fun after =>
    and_congr_right fun hsplit => ?_
  have he : e ∈ tilesOf tilesets := hsplit ▸ List.mem_append_right _ List.mem_cons_self
  have hafter : (∀ e' ∈ after, (gidEntry e').1 ≠ UInt32.ofNat gid) ↔
      ∀ e' ∈ after, gidOf e' ≠ gid := by
    refine forall₂_congr fun e' he' => ?_
    have hmem : e' ∈ tilesOf tilesets :=
      hsplit ▸ List.mem_append_right _ (List.mem_cons_of_mem _ he')
    rw [ne_eq, hkey hmem]
  rw [Prod.ext_iff, hkey he, hafter]
  simp only [gidEntry]
  tauto

theorem natural?_eq_some {item : Json} {v : Nat} :
    item.number?.bind Number.toNat? = some v ↔ item = .number (.int v) := by
  constructor
  · intro h
    obtain ⟨n, hn, hv⟩ := Option.bind_eq_some_iff.mp h
    cases item with
    | number n' =>
      obtain rfl : n' = n := Option.some.inj hn
      cases n' with
      | int i =>
        obtain ⟨hpos, rfl⟩ : 0 ≤ i ∧ i.toNat = v := by simpa [Number.toNat?] using hv
        rw [Int.toNat_of_nonneg hpos]
      | double x => cases hv
      | single x => cases hv
    | _ => cases hn
  · rintro rfl
    simp [Json.number?, Number.toNat?]

/-- A cell holds the tile that the lower 28 bits of a natural number tell. -/
theorem cell_eq_some (h : build tilesets = .ok index) {item : Json} {id : String} :
    index.cell item = some id ↔ ∃ v : Nat, item = .number (.int v) ∧ v % 2 ^ 28 ≠ 0 ∧
      LastTile tilesets (v % 2 ^ 28) id := by
  have htile (v : Nat) : (if UInt32.ofNat (v % gidLimit) = 0 then none
      else index.gids.lookup (UInt32.ofNat (v % gidLimit))) = some id ↔
        v % 2 ^ 28 ≠ 0 ∧ LastTile tilesets (v % 2 ^ 28) id := by
    -- What is cut to 28 bits fits 32, so the gid that is looked up is the number itself.
    have hlt : v % 2 ^ 28 < UInt32.size := Nat.lt_trans (Nat.mod_lt v (by decide)) (by decide)
    have hzero : UInt32.ofNat (v % gidLimit) = 0 ↔ v % 2 ^ 28 = 0 :=
      @ofNat_eq_ofNat (v % 2 ^ 28) 0 hlt (by decide)
    rw [Option.ite_none_left_eq_some, hzero, ← lookup_gids h hlt]
    rfl
  rw [cell]
  constructor
  · intro hcell
    split at hcell
    · rename_i v hv
      exact ⟨v, natural?_eq_some.mp hv, (htile v).mp hcell⟩
    · cases hcell
  · rintro ⟨v, rfl, hv⟩
    rw [natural?_eq_some.mpr rfl]
    exact (htile v).mpr hv

/-! ### Rows -/

/-- The item under a cell of the first row. -/
theorem getElem?_firstRow (index : TileIndex) {width x : Nat} (hx : x < width) (data : List Json) :
    (index.firstRow width data)[x]? = some (data[x]?.bind index.cell) := by
  rw [firstRow]
  by_cases hlt : x < data.length
  · rw [List.getElem?_append_left (by simp; omega)]
    simp [hx, hlt]
  · rw [List.getElem?_append_right (by simp; omega), List.getElem?_replicate,
      List.getElem?_eq_none (Nat.le_of_not_lt hlt), if_pos (by simp; omega)]
    rfl

/-- The item under a cell is found row by row. -/
theorem getElem?_rows (index : TileIndex) {width height x y : Nat} (hx : x < width)
    (hy : y < height) (data : List Json) :
    ((index.rows width height data)[y]?.bind (·[x]?)) =
      some (data[y * width + x]?.bind index.cell) := by
  induction height generalizing y data with
  | zero => omega
  | succ height ih =>
    rw [rows_succ]
    cases y with
    | zero =>
      rw [Nat.zero_mul, Nat.zero_add, List.getElem?_cons_zero, Option.bind_some]
      exact index.getElem?_firstRow hx data
    | succ y =>
      have hplace : (y + 1) * width + x = width + (y * width + x) := by
        rw [Nat.succ_mul]
        omega
      rw [List.getElem?_cons_succ, ih (Nat.lt_of_succ_lt_succ hy), List.getElem?_drop, hplace]

end TileIndex

/-! ### Layers of the map -/

/-- The items of a layer are those of its data, of which there may be none. -/
theorem Layer.items_eq_ok {l : Layer} {id : String} {items : List Json}
    (h : l.items id = .ok items) :
    l.data = some (.array items) ∨ l.data = none ∧ items = [] := by
  rw [Layer.items] at h
  split at h
  · cases h
  · split at h
    · rename_i hdata
      exact .inr ⟨hdata, (Except.ok.inj h).symm⟩
    · rename_i hdata
      obtain rfl := Except.ok.inj h
      exact .inl hdata
    · cases h

/-- An item stands for a tile exactly if its cell holds the tile. -/
theorem Layer.itemStandsFor_iff {l : Layer} {d : Document} {index : TileIndex} {name : String}
    {items : List Json} (hindex : TileIndex.build d.tilesets = .ok index)
    (hitems : l.items name = .ok items) {i : Nat} {id : String} :
    l.ItemStandsFor d.tilesets i id ↔ items[i]?.bind index.cell = some id := by
  rw [Option.bind_eq_some_iff]
  constructor
  · rintro ⟨items', v, hdata, hitem, htile⟩
    rcases items_eq_ok hitems with hdata' | ⟨hdata', -⟩
    · obtain rfl : items' = items := by simpa [hdata] using hdata'
      exact ⟨_, hitem, (TileIndex.cell_eq_some hindex).mpr ⟨v, rfl, htile⟩⟩
    · simp [hdata] at hdata'
  · rintro ⟨item, hitem, hcell⟩
    obtain ⟨v, rfl, htile⟩ := (TileIndex.cell_eq_some hindex).mp hcell
    rcases items_eq_ok hitems with hdata | ⟨-, rfl⟩
    · exact ⟨items, v, hdata, hitem, htile⟩
    · cases hitem

/-- A layer of tiles is cut from its data, row by row. -/
theorem Layer.isCutInto {l : Layer} {d : Document} {index : TileIndex} {place : Nat}
    {layer : TileLayer} (hindex : TileIndex.build d.tilesets = .ok index)
    (h : l.toTileLayer d index place = .ok layer) : l.IsCutInto d layer := by
  simp only [toTileLayer, bind_eq_ok, pure_eq_ok] at h
  obtain ⟨-, -, items, hitems, rfl⟩ := h
  constructor
  case height => exact index.length_rows _ _ items
  case width =>
    intro row hrow
    exact (TileIndex.rows_spec (TileIndex.sound_build hindex) hrow).1
  case cell_iff =>
    intro x y id hx hy
    rw [itemStandsFor_iff hindex hitems, TileLayer.cell?]
    exact iff_of_eq (congrArg (Option.join · = some id) (index.getElem?_rows hx hy items))

/-- Every tile layer of an accepted document is cut into rows of the map. -/
theorem Document.exists_isCutInto {d : Document} {options : CompileOptions} {m : MapModel}
    (h : d.toMap options = .ok m) {e : Layer × Nat} (he : e ∈ d.numbered "tilelayer") :
    ∃ layer ∈ m.layers, layer.id = e.1.idAt e.2 ∧ e.1.IsCutInto d layer := by
  obtain ⟨index, layers, objectLayers, ids, doors, doorObjects, ids', hindex, hsplit, -, hm⟩ :=
    toMap_eq_ok h
  obtain ⟨-, rfl⟩ := MapParts.assemble_eq_ok_iff.mp hm
  obtain ⟨layer, hlayer, hdrawn⟩ := exists_of_mem_forall₂ (forall₂_splitLayers hsplit).1 he
  have hmem : layer ∈ layers := hlayer
  refine ⟨layer, ?_, DrawnAs.id_eq hdrawn, Layer.isCutInto hindex hdrawn⟩
  exact (MapParts.perm_finalLayers (List.ne_nil_of_mem hmem)).mem_iff.mpr hmem

/-! ### Tiles that are turned -/

theorem TileIndex.cell_unturnedItem (index : TileIndex) (item : Json) :
    index.cell (unturnedItem item) = index.cell item := by
  have hnatural (v : Nat) : (Json.number (.int (.ofNat v))).number?.bind Number.toNat? = some v :=
    natural?_eq_some.mpr rfl
  unfold unturnedItem
  split
  · rename_i v
    split
    · rw [cell, cell, hnatural, hnatural]
      dsimp only
      rw [show v % 2 ^ 28 % gidLimit = v % gidLimit from Nat.mod_mod v (2 ^ 28)]
    · rfl
  · rfl

theorem TileIndex.rows_map_unturnedItem (index : TileIndex) (width height : Nat)
    (data : List Json) :
    index.rows width height (data.map unturnedItem) = index.rows width height data := by
  have hcells (data : List Json) :
      (data.map unturnedItem).map index.cell = data.map index.cell := by
    rw [List.map_map]
    exact List.map_congr_left fun item _ => index.cell_unturnedItem item
  induction height generalizing data with
  | zero => rfl
  | succ height ih =>
    rw [rows_succ, rows_succ, firstRow, firstRow, ← List.map_take, ← List.map_drop, hcells, ih]

theorem Layer.unturned_eq (l : Layer) :
    l.unturned = { l with data := l.data.map unturnedData, layers := unturnedAll l.layers } := by
  cases l
  rfl

theorem Layer.items_unturned (l : Layer) (id : String) :
    l.unturned.items id = (l.items id).map (List.map unturnedItem) := by
  rw [l.unturned_eq, items, items]
  dsimp only
  split
  · rfl
  · cases l.data with
    | none => rfl
    | some data => cases data <;> rfl

/-- How tiles are turned does not matter to a layer: of its data only the rows are left. -/
theorem Layer.toTileLayer_unturned (l : Layer) (d : Document) (index : TileIndex) (place : Nat) :
    l.unturned.toTileLayer d.unturned index place = l.toTileLayer d index place := by
  have hitems := l.items_unturned (l.idAt place)
  rw [l.unturned_eq] at hitems ⊢
  change (Size.check _ >>= fun _ => Layer.items _ (l.idAt place) >>= _) =
    (Size.check _ >>= fun _ => l.items (l.idAt place) >>= _)
  rw [hitems]
  congr 1
  funext _
  cases l.items (l.idAt place) with
  | error e => rfl
  | ok items =>
    change Except.ok _ = Except.ok _
    rw [index.rows_map_unturnedItem]
    rfl

/-- Groups are flattened alike, however the tiles are turned. -/
theorem flattenAll_unturnedAll (layers : List Layer) (visible : Bool) (opacity : Float) :
    flattenAll visible opacity (unturnedAll layers) =
      (flattenAll visible opacity layers).map Layer.unturned := by
  match layers with
  | [] => rfl
  | ⟨_, _, kind, ownVisible, ownOpacity, _, _, _, _, _, layers, _⟩ :: rest =>
    have hrest := flattenAll_unturnedAll rest visible opacity
    rw [unturnedAll, Layer.unturned, flattenAll, flattenAll, List.map_append, hrest, Layer.flatten,
      Layer.flatten]
    dsimp only
    split
    · rw [flattenAll_unturnedAll layers]
    · rfl

theorem Object.place_unturned (o : Object) (d : Document) (a : IdAllocator) :
    o.place d.unturned a = o.place d a :=
  rfl

theorem placeAll_unturned (d : Document) (a : IdAllocator) (objects : List Object) :
    placeAll d.unturned a objects = placeAll d a objects := by
  induction objects generalizing a with
  | nil => rfl
  | cons o rest ih => simp only [placeAll, Object.place_unturned, ih]

/-- Layers are read alike, however their tiles are turned. -/
theorem splitLayers_unturned (d : Document) (index : TileIndex) (a : IdAllocator)
    (numbered : List (Layer × Nat)) :
    splitLayers d.unturned index a (numbered.map fun e => (e.1.unturned, e.2)) =
      splitLayers d index a numbered := by
  induction numbered generalizing a with
  | nil => rfl
  | cons head rest ih =>
    obtain ⟨l, place⟩ := head
    rw [List.map_cons]
    simp only [splitLayers, Layer.toTileLayer_unturned, placeAll_unturned, ih]
    rw [l.unturned_eq]
    rfl

namespace Document

variable (d : Document)

theorem flatLayers_unturned : d.unturned.flatLayers = d.flatLayers.map Layer.unturned :=
  flattenAll_unturnedAll d.layers true 1

theorem spawnPoints_unturned : d.unturned.spawnPoints = d.spawnPoints := by
  rw [spawnPoints, spawnPoints, flatLayers_unturned, List.filter_map, List.flatMap_map]
  simp only [Layer.unturned_eq, Function.comp_def]
  rfl

theorem toMap_unturned (options : CompileOptions) :
    d.unturned.toMap options = d.toMap options := by
  have hsplit (index : TileIndex) :
      splitLayers d.unturned index .empty d.unturned.flatLayers.zipIdx =
        splitLayers d index .empty d.flatLayers.zipIdx := by
    rw [flatLayers_unturned, List.zipIdx_map]
    exact splitLayers_unturned d index .empty d.flatLayers.zipIdx
  rw [toMap, toMap]
  simp only [hsplit, spawnPoints_unturned]
  rfl

end Document

/-! ### Main result -/

/-- Every tile layer of an accepted document is cut into rows, whose cells are the tiles that its
gids tell; how the tiles are turned makes no difference. -/
theorem gids_resolve :
    (∀ (d : Document) options m, d.toMap options = .ok m →
      ∃ layers, List.Forall₂ (fun e layer => layer.id = e.1.idAt e.2 ∧ e.1.IsCutInto d layer)
        (d.numbered "tilelayer") layers ∧ (layers ≠ [] → m.layers.Perm layers)) ∧
    ∀ (d d' : Document) options, d.unturned = d'.unturned →
      d.toMap options = d'.toMap options := by
  constructor
  · intro d options m hm
    obtain ⟨index, layers, objectLayers, ids, doors, doorObjects, ids', hindex, hsplit, -, hm⟩ :=
      toMap_eq_ok hm
    obtain ⟨-, rfl⟩ := MapParts.assemble_eq_ok_iff.mp hm
    refine ⟨layers, (forall₂_splitLayers hsplit).1.imp ?_, ?_⟩
    · intro e layer hlayer
      exact ⟨Document.DrawnAs.id_eq hlayer, Layer.isCutInto hindex hlayer⟩
    · intro hne
      exact MapParts.perm_finalLayers hne
  · intro d d' options h
    rw [← d.toMap_unturned, h, d'.toMap_unturned]

/-- A patio whose tilesets share a gid, and with data that end early. -/
def patioDocument (items : List Json) : Document where
  width := 3
  height := 2
  tileWidth := none
  tileHeight := none
  layers :=
    [⟨none, none, "tilelayer", none, none, none, none, some (.array items), none, [], [], []⟩]
  tilesets :=
    [⟨1, none, none, [⟨2, some "sand", none, []⟩, ⟨4, some "rock", none, []⟩]⟩,
      ⟨3, none, none, [⟨0, some "moss", none, []⟩]⟩]
  properties := []

/-- Gids of moss and rock, what is no gid, and a number of more than 32 bits. -/
def patioItems : List Json :=
  [.number (.int 3), .number (.int 5), .string "3", .number (.int (-3)), .number (.int 0x100000003)]

def turnedPatioItems : List Json :=
  [.number (.int 0x80000003), .number (.int 0xf0000005), .string "3", .number (.int (-3)),
    .number (.int 0x100000003)]

theorem gids_resolve_patio :
    ∃ m, (patioDocument patioItems).toMap .default = .ok m ∧
      m.layers.map (·.tiles) = [[[some "moss", some "rock", none], [none, some "moss", none]]] ∧
      (∃ layers, List.Forall₂
        (fun e layer => layer.id = e.1.idAt e.2 ∧ e.1.IsCutInto (patioDocument patioItems) layer)
        ((patioDocument patioItems).numbered "tilelayer") layers ∧
          (layers ≠ [] → m.layers.Perm layers)) ∧
      (patioDocument turnedPatioItems).toMap .default = .ok m := by
  have htiles : ((patioDocument patioItems).toMap .default).toOption.map
      (fun m => m.layers.map (·.tiles)) =
        some [[[some "moss", some "rock", none], [none, some "moss", none]]] := by
    decide +kernel
  obtain ⟨m, hm, htiles⟩ := exists_ok_of_toOption_map htiles
  have hturned : (patioDocument turnedPatioItems).unturned =
      (patioDocument patioItems).unturned := rfl
  refine ⟨m, hm, htiles, gids_resolve.1 _ .default m hm, ?_⟩
  rw [gids_resolve.2 _ _ .default hturned, hm]

end Tilemap.Tiled
