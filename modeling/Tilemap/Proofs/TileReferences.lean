import Tilemap.Proofs.SortedMaps
import Tilemap.Proofs.Stages
import Tilemap.Proofs.Text.Trimming

/-!
# Tile references

Every cell of an accepted map is empty or names a tile type of the map, whether it was drawn with a
symbol, with an id or with a gid, or belongs to the ground of a map without layers. The rows of a
layer are equally long, and the layers of a map text have at least one cell.

A table of symbols is `Sound` when it only knows ids of its own types. Every line of a legend and
every tile of a tileset keeps that, so whatever a cell is read from stands for a type.
-/

namespace Tilemap

open Text

/-! ### Statement -/

/-- The cells of a layer name declared types only, and its rows are equally long. -/
structure TileLayer.FitsTypes (l : TileLayer) (declared : String → Prop) : Prop where
  cells : ∀ row ∈ l.tiles, ∀ id, some id ∈ row → declared id
  rows : ∀ row ∈ l.tiles, row.length = l.width

/-- The cells of a map name types of the map, and the types stand under their own ids. -/
structure MapModel.TilesResolve (m : MapModel) : Prop where
  layers : ∀ l ∈ m.layers, l.FitsTypes fun id => m.tileTypes.contains id
  keys : ∀ e ∈ m.tileTypes.entries, e.1 = e.2.id
  nonempty : m.tileTypes.entries ≠ []

/-- The ids of tile types. -/
def typeIds (types : List TileType) : List String := types.map (·.id)

theorem typeIds_upsertType (types : List TileType) (t : TileType) :
    typeIds (upsertType types t) =
      if t.id ∈ typeIds types then typeIds types else typeIds types ++ [t.id] := by
  induction types with
  | nil => simp [upsertType, typeIds]
  | cons u rest ih =>
    rw [upsertType]
    by_cases hu : u.id = t.id
    · simp [typeIds, hu]
    · simp only [typeIds, List.map_cons, List.mem_cons] at ih ⊢
      rw [if_neg hu, List.map_cons, ih]
      by_cases hmem : t.id ∈ rest.map (·.id)
      · simp [hmem]
      · simp [hmem, Ne.symm hu]

theorem mem_typeIds_upsertType (types : List TileType) (t : TileType) (id : String) :
    id ∈ typeIds (upsertType types t) ↔ id = t.id ∨ id ∈ typeIds types := by
  rw [typeIds_upsertType]
  split
  · rename_i hmem
    constructor
    · exact .inr
    · rintro (rfl | h)
      · exact hmem
      · exact h
  · rw [List.mem_append, List.mem_singleton, or_comm]

/-! ### Assembled maps -/

theorem TileLayer.FitsTypes.mono {l : TileLayer} {P Q : String → Prop} (h : l.FitsTypes P)
    (hPQ : ∀ id, P id → Q id) : l.FitsTypes Q :=
  ⟨fun row hrow id hid => hPQ id (h.cells row hrow id hid), h.rows⟩

/-- Rows of one length have the length of the first of them. -/
theorem TileLayer.rows_of_length {l : TileLayer} {n : Nat}
    (h : ∀ row ∈ l.tiles, row.length = n) : ∀ row ∈ l.tiles, row.length = l.width := by
  intro row hrow
  rw [h row hrow, width]
  cases htiles : l.tiles with
  | nil => simp [htiles] at hrow
  | cons first rest => simp [h first (by simp [htiles])]

theorem fitsTypes_groundLayer {size : Size} {tile : Cell} {declared : String → Prop}
    (h : ∀ id, tile = some id → declared id) : (groundLayer size tile).FitsTypes declared := by
  refine ⟨fun row hrow id hid => ?_, TileLayer.rows_of_length (n := size.width.toNat) ?_⟩
  · rw [List.eq_of_mem_replicate hrow] at hid
    exact h id (List.eq_of_mem_replicate hid).symm
  · intro row hrow
    rw [List.eq_of_mem_replicate hrow, List.length_replicate]

theorem width_groundLayer {size : Size} {tile : Cell} (h : 0 < size.height.toNat) :
    (groundLayer size tile).width = size.width.toNat := by
  obtain ⟨n, hn⟩ := Nat.exists_eq_succ_of_ne_zero (Nat.ne_of_gt h)
  simp [TileLayer.width, groundLayer, hn, List.replicate_succ]

namespace MapParts

theorem finalTypes_ne_nil (p : MapParts) : p.finalTypes ≠ [] := by
  rw [finalTypes]
  split
  · simp
  · rename_i h
    simpa using h

theorem contains_typeMap (p : MapParts) (id : String) :
    p.typeMap.contains id ↔ id ∈ typeIds p.finalTypes := by
  rw [typeMap, SortedMap.contains_ofList, List.map_map]
  rfl

/-- A map without layers gets one of its first type; else its layers are kept. -/
theorem mem_finalLayers (p : MapParts) (l : TileLayer) :
    l ∈ p.finalLayers ↔ if p.layers.isEmpty then
      l = groundLayer p.finalSize (p.finalTypes.head?.map (·.id)) else l ∈ p.layers := by
  rw [finalLayers, sortTileLayers, (List.mergeSort_perm ..).mem_iff]
  split <;> simp

/-- Layers that name types of the parts are all that is needed. -/
theorem tilesResolve_completed {p : MapParts}
    (h : ∀ l ∈ p.layers, l.FitsTypes (· ∈ typeIds p.tileTypes)) : p.completed.TilesResolve := by
  refine ⟨fun l hl => ?_, fun e he => ?_, fun hnil => ?_⟩
  · have hfits : l.FitsTypes (· ∈ typeIds p.finalTypes) := by
      have hl := (p.mem_finalLayers l).mp hl
      split at hl
      · subst hl
        refine fitsTypes_groundLayer fun id hid => ?_
        obtain ⟨t, ht, rfl⟩ := Option.map_eq_some_iff.mp hid
        exact List.mem_map_of_mem (List.mem_of_mem_head? ht)
      · refine (h l hl).mono fun id hid => ?_
        rw [finalTypes]
        split
        · rename_i hempty
          simp [List.isEmpty_iff.mp hempty, typeIds] at hid
        · exact hid
    exact hfits.mono fun id hid => (p.contains_typeMap id).mpr hid
  · obtain ⟨t, -, rfl⟩ := List.mem_map.mp (SortedMap.mem_of_mem_ofList he)
    rfl
  · obtain ⟨t, ht⟩ := List.exists_mem_of_ne_nil _ p.finalTypes_ne_nil
    have hcontains := (p.contains_typeMap t.id).mpr (List.mem_map_of_mem ht)
    have hget : p.typeMap.get? t.id = none := by
      rw [SortedMap.get?, show p.typeMap.entries = [] from hnil, List.lookup_nil]
    simp [SortedMap.contains, hget] at hcontains

/-- A map without empty layers whose size is no less than a tile has no empty layer. -/
theorem nonempty_completed {p : MapParts} (hlayers : ∀ l ∈ p.layers, 0 < l.height ∧ 0 < l.width)
    (hsize : ∀ s, p.size = some s → 0 < s.height ∧ 0 < s.width) :
    ∀ l ∈ p.completed.layers, 0 < l.height ∧ 0 < l.width := by
  intro l hl
  have hl := (p.mem_finalLayers l).mp hl
  split at hl
  · rename_i hempty
    have hbounds : layerBounds? p.layers = none := by
      rw [List.isEmpty_iff.mp hempty]
      rfl
    have hpos : 0 < p.finalSize.height ∧ 0 < p.finalSize.width := by
      rw [finalSize, hbounds, Option.or_none]
      cases hs : p.size with
      | none => decide
      | some s => exact hsize s hs
    rw [UInt32.lt_iff_toNat_lt, UInt32.lt_iff_toNat_lt] at hpos
    subst hl
    rw [width_groundLayer hpos.1]
    exact ⟨by simpa [TileLayer.height, groundLayer] using hpos.1, hpos.2⟩
  · exact hlayers l hl

end MapParts

/-! ### Symbols of a map text -/

namespace TileTable

/-- The symbols of the table stand for its types. -/
def Sound (t : TileTable) : Prop := ∀ symbol id, t.symbol? symbol = some id → id ∈ typeIds t.types

theorem sound_ofCatalog (c : Catalog) : (ofCatalog c).Sound := by
  intro symbol id h
  have hmem := SortedMap.mem_of_mem_ofList (SortedMap.mem_of_get? h)
  obtain ⟨t, ht, heq⟩ := List.mem_map.mp hmem
  obtain rfl : t.id = id := congrArg Prod.snd heq
  exact List.mem_map_of_mem ht

theorem Sound.bind {t : TileTable} (h : t.Sound) (symbol : String) (type : TileType) :
    (t.bind symbol type).Sound := by
  intro s id hid
  refine (mem_typeIds_upsertType t.types type id).mpr ?_
  rw [symbol?, TileTable.bind, SortedMap.get?_insert] at hid
  split at hid
  · exact .inl (Option.some.inj hid).symm
  · exact .inr (h s id hid)

theorem typeIds_paintFloors (t : TileTable) (colour : String) :
    typeIds (t.paintFloors colour).types = typeIds t.types := by
  rw [typeIds, paintFloors, List.map_map]
  refine List.map_congr_left fun u _ => ?_
  rw [Function.comp_apply]
  split <;> rfl

theorem Sound.paintFloors {t : TileTable} (h : t.Sound) (colour : String) :
    (t.paintFloors colour).Sound := by
  intro s id hid
  rw [typeIds_paintFloors]
  exact h s id hid

theorem Sound.orDefaultFloor {t : TileTable} (h : t.Sound) : t.orDefaultFloor.Sound := by
  rw [TileTable.orDefaultFloor]
  split
  · exact h.bind _ _
  · exact h

end TileTable

/-- A line of an accepted legend is a comment, or goes into both tables. -/
theorem Legend.add_eq_ok {legend legend' : Legend} {l : Line} (h : legend.add l = .ok legend') :
    l.definitionText? = none ∧ legend' = legend ∨
    ∃ d, l.definitionText?.bind TileDefinition.parse? = some d ∧
      legend' = ⟨legend.table.bind d.symbol (d.apply (legend.table.get? d.id)),
        legend.bound.insert d.symbol d.id⟩ := by
  rw [add] at h
  split at h
  · rename_i htext
    exact .inl ⟨htext, (Except.ok.inj h).symm⟩
  · rename_i text htext
    split at h
    · cases h
    · rename_i d hparse
      dsimp only at h
      split at h
      · exact .inr ⟨d, by rw [htext]; exact hparse, (Except.ok.inj h).symm⟩
      · cases h

/-- A line of the legend leaves every symbol standing for a type of the table. -/
theorem Legend.sound_add {legend legend' : Legend} {l : Line} (h : legend.table.Sound)
    (hadd : legend.add l = .ok legend') : legend'.table.Sound := by
  rcases add_eq_ok hadd with ⟨-, rfl⟩ | ⟨d, -, rfl⟩
  · exact h
  · exact h.bind _ _

/-- What the symbols of a resolved table stand for is declared in it. -/
theorem sound_resolveTiles {catalog : Catalog} {lines : List Line} {colour : Option String}
    {tiles : TileTable} (h : resolveTiles catalog lines colour = .ok tiles) : tiles.Sound := by
  simp only [resolveTiles, bind_eq_ok, pure_eq_ok] at h
  obtain ⟨legend, hlegend, rfl⟩ := h
  have hsound : legend.table.Sound :=
    foldlM_preserves (P := fun legend => legend.table.Sound)
      (fun _ _ _ _ hsound hadd => Legend.sound_add hsound hadd)
      (TileTable.sound_ofCatalog catalog) hlegend
  cases colour with
  | none => exact hsound.orDefaultFloor
  | some colour => exact (hsound.paintFloors colour).orDefaultFloor

/-! ### Rows of a map text -/

namespace TileTable

/-- A cell that is read names a declared type. -/
theorem mem_typeIds_of_cell? {t : TileTable} (h : t.Sound) {token id : String}
    (hcell : t.cell? token = some (some id)) : id ∈ typeIds t.types := by
  rw [cell?] at hcell
  split at hcell
  · simp at hcell
  · split at hcell
    · rename_i id' hsymbol
      obtain rfl : id' = id := by simpa using hcell
      exact h _ _ hsymbol
    · split at hcell
      · rename_i hget
        obtain rfl : token = id := by simpa using hcell
        obtain ⟨u, hu⟩ := Option.isSome_iff_exists.mp hget
        have hid : u.id = token := by simpa using List.find?_some hu
        exact hid ▸ List.mem_map_of_mem (List.mem_of_find?_eq_some hu)
      · simp at hcell

theorem rowTokens_ne_nil {text : String} (h : words text.toList ≠ []) : rowTokens text ≠ [] := by
  rw [rowTokens]
  split
  · rename_i dense heq
    have hdense : dense ∈ words text.toList := by simp [heq]
    simpa using (List.mem_filter.mp hdense).2
  · simpa using h

/-- The cells of a row name types of the table, and a text with a word has at least one. -/
theorem row_spec {t : TileTable} (h : t.Sound) {text : String} (hwords : words text.toList ≠ [])
    {row : List Cell} (hrow : t.row text = .ok row) :
    row ≠ [] ∧ ∀ id, some id ∈ row → id ∈ typeIds t.types := by
  obtain ⟨hlength, hfrom⟩ := mapM_eq_ok hrow
  refine ⟨fun hnil => ?_, fun id hid => ?_⟩
  · have hempty : (rowTokens text).length = 0 := by rw [← hlength, hnil, List.length_nil]
    exact rowTokens_ne_nil hwords (List.length_eq_zero_iff.mp hempty)
  · obtain ⟨token, -, htoken⟩ := hfrom (some id) hid
    split at htoken
    · rename_i c hcell
      cases htoken
      exact mem_typeIds_of_cell? h hcell
    · cases htoken

end TileTable

/-! ### Layers of a map text -/

/-- The rows read so far name types of the table, are equally long and have at least one cell. -/
structure TileLayer.Drawn (tiles : TileTable) (l : TileLayer) : Prop where
  fits : l.FitsTypes (· ∈ typeIds tiles.types)
  rows_ne_nil : [] ∉ l.tiles

namespace TileLayer

variable {tiles : TileTable} {l l' : TileLayer}

theorem width_of_fits {row : List Cell} (hfits : l.fits row) :
    ({ l with tiles := l.tiles ++ [row] } : TileLayer).width = row.length ∧
      (l.tiles ≠ [] → l.width = row.length) := by
  unfold fits at hfits
  unfold width
  cases htiles : l.tiles with
  | nil => simp
  | cons first rest => simpa [htiles] using hfits

/-- A row that fits and names declared types only keeps the layer drawn. -/
theorem Drawn.addRow {row : List Cell} (h : l.Drawn tiles) (hne : row ≠ [])
    (hids : ∀ id, some id ∈ row → id ∈ typeIds tiles.types) (hadd : l.addRow row = .ok l') :
    l'.Drawn tiles := by
  obtain ⟨hfits, rfl⟩ := addRow_eq_ok.mp hadd
  obtain ⟨hwidth, hold⟩ := width_of_fits hfits
  refine ⟨⟨fun r hr id hid => ?_, fun r hr => ?_⟩, fun hr => ?_⟩
  · rcases List.mem_append.mp hr with hr | hr
    · exact h.fits.cells r hr id hid
    · exact hids id (List.mem_singleton.mp hr ▸ hid)
  · rw [hwidth]
    rcases List.mem_append.mp hr with hr | hr
    · rw [h.fits.rows r hr, hold (List.ne_nil_of_mem hr)]
    · rw [List.mem_singleton.mp hr]
  · rcases List.mem_append.mp hr with hr | hr
    · exact h.rows_ne_nil hr
    · exact hne (List.mem_singleton.mp hr).symm

theorem tiles_set (l : TileLayer) (key value : String) : (l.set key value).tiles = l.tiles := by
  rw [set]
  split <;> (try split) <;> rfl

theorem Drawn.set (h : l.Drawn tiles) (key value : String) : (l.set key value).Drawn tiles := by
  have htiles := tiles_set l key value
  have hwidth : (l.set key value).width = l.width := by rw [width, width, htiles]
  refine ⟨⟨?_, ?_⟩, ?_⟩
  · rw [htiles]
    exact h.fits.cells
  · rw [htiles, hwidth]
    exact h.fits.rows
  · rw [htiles]
    exact h.rows_ne_nil

/-- A line is a row, or sets a property, or is nothing. -/
theorem Drawn.addLine {line : Line} (h : l.Drawn tiles) (htiles : tiles.Sound)
    (hwords : line.HasWords) (hadd : l.addLine tiles line = .ok l') : l'.Drawn tiles := by
  rcases addLine_eq_ok hadd with ⟨text, row, htext, hrow, hadd⟩ | ⟨-, key, value, -, -, rfl⟩ | rfl
  · have hne : words text.toList ≠ [] := by
      rcases htext with rfl | hcode
      · exact hwords.raw
      · exact hwords.code hcode
    obtain ⟨hrowNe, hids⟩ := TileTable.row_spec htiles hne hrow
    exact h.addRow hrowNe hids hadd
  · exact h.set key value
  · exact h

theorem drawn_start (s : Section) (index : Nat) : (TileLayer.start s index).Drawn tiles :=
  ⟨⟨by simp [start], by simp [start]⟩, by simp [start]⟩

theorem Drawn.size_pos (h : l.Drawn tiles) (hne : l.tiles ≠ []) : 0 < l.height ∧ 0 < l.width := by
  obtain ⟨row, hrow⟩ := List.exists_mem_of_ne_nil _ hne
  refine ⟨List.length_pos_iff.mpr hne, ?_⟩
  rw [← h.fits.rows row hrow]
  exact List.length_pos_iff.mpr fun hnil => h.rows_ne_nil (hnil ▸ hrow)

end TileLayer

/-- The layers of a map text have cells, and these name types of the table. -/
theorem drawn_compileLayers {tiles : TileTable} {sections : List Section} {layers : List TileLayer}
    (htiles : tiles.Sound) (hwords : ∀ s ∈ sections, ∀ l ∈ s.lines, l.HasWords)
    (h : compileLayers tiles sections = .ok layers) :
    ∀ l ∈ layers, l.Drawn tiles ∧ l.tiles ≠ [] := by
  intro l hl
  obtain ⟨s, hs, index, hfold, hne⟩ := exists_foldlM_of_mem_compileLayers h hl
  refine ⟨?_, hne⟩
  exact foldlM_preserves
    (fun line hline _ _ hb hadd => hb.addLine htiles (hwords s hs line hline) hadd)
    (TileLayer.drawn_start s index) hfold

/-! ### Sizes of a map text -/

theorem ofNat_toNat_pos {n : Int32} (h : ¬ n ≤ 0) : 0 < UInt32.ofNat n.toInt.toNat := by
  rw [Int32.le_iff_toInt_le, Int32.toInt_zero] at h
  have hlt : n.toInt < 2 ^ 31 := Int32.toInt_lt n
  have hsize : n.toInt.toNat < UInt32.size := by
    simp only [UInt32.size]
    omega
  rw [UInt32.lt_iff_toNat_lt, UInt32.toNat_ofNat_of_lt' hsize, UInt32.toNat_zero]
  omega

theorem Size.parse?_pos {text : String} {s : Size} (h : Size.parse? text = some s) :
    0 < s.height ∧ 0 < s.width := by
  rw [Size.parse?] at h
  split at h
  · rename_i w ht heq
    split at h
    · cases h
    · rename_i hpos
      simp only [Bool.or_eq_true, decide_eq_true_eq, not_or] at hpos
      cases h
      exact ⟨ofNat_toNat_pos hpos.2, ofNat_toNat_pos hpos.1⟩
  · cases h

/-! ### Gids of a Tiled map -/

namespace Tiled

namespace TileIndex

/-- The gids of the index stand for its types. -/
def Sound (index : TileIndex) : Prop := ∀ e ∈ index.gids, e.2 ∈ typeIds index.types

theorem Sound.addTile {index index' : TileIndex} {tileset : Tileset} {tile : Tile}
    (h : index.Sound) (hadd : index.addTile tileset tile = .ok index') : index'.Sound := by
  rw [TileIndex.addTile] at hadd
  dsimp only at hadd
  split at hadd
  · cases hadd
    intro e he
    refine (mem_typeIds_upsertType index.types _ e.2).mpr ?_
    rcases List.mem_cons.mp he with rfl | he
    · exact .inl rfl
    · exact .inr (h e he)
  · cases hadd

theorem Sound.addTileset {index index' : TileIndex} {tileset : Tileset} (h : index.Sound)
    (hadd : index.addTileset tileset = .ok index') : index'.Sound := by
  rw [TileIndex.addTileset] at hadd
  split at hadd
  · cases hadd
  · exact foldlM_preserves (fun _ _ _ _ hsound htile => hsound.addTile htile) h hadd

theorem Sound.withFloor {index : TileIndex} (h : index.Sound) : index.withFloor.Sound := by
  rw [TileIndex.withFloor]
  split
  · exact h
  · intro e he
    simpa [typeIds] using Or.inl (List.mem_map.mp (h e he))

theorem sound_build {tilesets : List Tileset} {index : TileIndex}
    (h : build tilesets = .ok index) : index.Sound := by
  simp only [build, bind_eq_ok, pure_eq_ok] at h
  obtain ⟨index', hindex, rfl⟩ := h
  have hempty : (⟨[], []⟩ : TileIndex).Sound := fun e he => by cases he
  exact Sound.withFloor <|
    foldlM_preserves (fun _ _ _ _ hsound hadd => hsound.addTileset hadd) hempty hindex

variable {index : TileIndex}

/-- A cell of a layer names a declared type. -/
theorem mem_typeIds_of_cell (h : index.Sound) {item : Json} {id : String}
    (hcell : index.cell item = some id) : id ∈ typeIds index.types := by
  rw [cell] at hcell
  split at hcell
  · dsimp only at hcell
    split at hcell
    · cases hcell
    · obtain ⟨before, after, hgids, -⟩ := List.lookup_eq_some_iff.mp hcell
      exact h _ (hgids ▸ List.mem_append_right _ List.mem_cons_self)
  · cases hcell

/-- The rows cut from data have one width, and their cells name types of the index. -/
theorem rows_spec (h : index.Sound) {width height : Nat} {data : List Json} {row : List Cell}
    (hrow : row ∈ index.rows width height data) :
    row.length = width ∧ ∀ id, some id ∈ row → id ∈ typeIds index.types := by
  induction height generalizing data with
  | zero => simp at hrow
  | succ height ih =>
    rw [rows_succ, firstRow, List.mem_cons] at hrow
    rcases hrow with rfl | hrow
    · have hle : ((data.take width).map index.cell).length ≤ width := by
        rw [List.length_map]
        exact List.length_take_le width data
      refine ⟨by rw [List.length_append, List.length_replicate]; omega, fun id hid => ?_⟩
      rcases List.mem_append.mp hid with hid | hid
      · obtain ⟨item, -, hitem⟩ := List.mem_map.mp hid
        exact mem_typeIds_of_cell h hitem
      · cases List.eq_of_mem_replicate hid
    · exact ih hrow

end TileIndex

theorem fitsTypes_toTileLayer {index : TileIndex} (h : index.Sound) {l : Layer} {d : Document}
    {place : Nat} {layer : TileLayer} (hlayer : l.toTileLayer d index place = .ok layer) :
    layer.FitsTypes (· ∈ typeIds index.types) := by
  simp only [Layer.toTileLayer, bind_eq_ok, pure_eq_ok] at hlayer
  obtain ⟨-, -, items, -, rfl⟩ := hlayer
  exact ⟨fun row hrow => (TileIndex.rows_spec h hrow).2,
    TileLayer.rows_of_length fun row hrow => (TileIndex.rows_spec h hrow).1⟩

/-- Imported layers have rows of one length and cells of declared types. -/
theorem fitsTypes_splitLayers {d : Document} {index : TileIndex} (hindex : index.Sound)
    {a b : IdAllocator} {numbered : List (Layer × Nat)} {tiles : List TileLayer}
    {groups : List ObjectLayer} (h : splitLayers d index a numbered = .ok (tiles, groups, b)) :
    ∀ l ∈ tiles, l.FitsTypes (· ∈ typeIds index.types) := by
  intro l hl
  obtain ⟨l', place, -, hlayer⟩ := exists_toTileLayer_of_mem_splitLayers h hl
  exact fitsTypes_toTileLayer hindex hlayer

end Tiled

/-! ### Main result -/

/-- The cells of every accepted map name its tile types and the rows of a layer are equally long;
the layers of a map text have at least one cell. -/
theorem tiles_resolve :
    (∀ (text : String) (options : CompileOptions) (m : MapModel),
      compile text options = .ok m →
        m.TilesResolve ∧ ∀ l ∈ m.layers, 0 < l.height ∧ 0 < l.width) ∧
    (∀ (d : Tiled.Document) (options : CompileOptions) (m : MapModel),
      d.toMap options = .ok m → m.TilesResolve) := by
  constructor
  · intro text options m h
    obtain ⟨tiles, layers, doors, doorObjects, ids, objectLayers, ids', htiles, hlayers, -, -,
      hm⟩ := compile_eq_ok h
    obtain ⟨-, rfl⟩ := MapParts.assemble_eq_ok_iff.mp hm
    have hdrawn := drawn_compileLayers (sound_resolveTiles htiles)
      (fun s hs l hl => hasWords_of_mem_sections (List.mem_filter.mp hs).1 hl) hlayers
    refine ⟨MapParts.tilesResolve_completed fun l hl => (hdrawn l hl).1.fits,
      MapParts.nonempty_completed (fun l hl => (hdrawn l hl).1.size_pos (hdrawn l hl).2) ?_⟩
    intro s hs
    obtain ⟨given, -, hgiven⟩ := Option.bind_eq_some_iff.mp hs
    exact Size.parse?_pos hgiven
  · intro d options m h
    obtain ⟨index, layers, objectLayers, ids, doors, doorObjects, ids', hindex, hlayers, -, hm⟩ :=
      Tiled.toMap_eq_ok h
    obtain ⟨-, rfl⟩ := MapParts.assemble_eq_ok_iff.mp hm
    exact MapParts.tilesResolve_completed
      (Tiled.fitsTypes_splitLayers (Tiled.TileIndex.sound_build hindex) hlayers)

/-- A map text that draws with symbols and ids, in a row that looks like a comment too. -/
def courtText : String :=
  "[Tiles]\n# = wall\no = pond;solid\n[Layer base]\n# o # o\nnone o water wall # left"

/-- A map with two tiles under one id, a gid without a tile and a cell without a gid. -/
def Tiled.courtDocument : Document where
  width := 2
  height := 2
  tileWidth := none
  tileHeight := none
  layers :=
    [⟨none, none, "tilelayer", none, none, none, none,
      some (.array [.number (.int 3), .number (.int 4), .number (.int 9)]), none, [], [], []⟩]
  tilesets :=
    [⟨3, none, none,
      [⟨0, some "sand", none, []⟩, ⟨1, none, none, [("phase3:id", .string "sand")]⟩]⟩]
  properties := []

/-- The rows of the layers of a map and the ids of its tile types. -/
def MapModel.tileSummary (m : MapModel) : List (List (List Cell)) × List String :=
  (m.layers.map (·.tiles), m.tileTypes.entries.map (·.1))

/-- A court that is drawn and one that is imported. -/
theorem tiles_resolve_court :
    (∃ m, compile courtText .default = .ok m ∧
      m.TilesResolve ∧ (∀ l ∈ m.layers, 0 < l.height ∧ 0 < l.width) ∧
      m.tileSummary =
        ([[[some "wall", some "pond", some "wall", some "pond"],
            [none, some "pond", some "water", some "wall"]]],
          ["floor", "grass", "pond", "wall", "water"])) ∧
    (∃ m, Tiled.courtDocument.toMap .default = .ok m ∧ m.TilesResolve ∧
      m.tileSummary =
        ([[[some "sand", some "sand"], [none, none]]], ["floor", "sand"])) := by
  constructor
  · have hsummary : (compile courtText .default).toOption.map (·.tileSummary) =
        some ([[[some "wall", some "pond", some "wall", some "pond"],
            [none, some "pond", some "water", some "wall"]]],
          ["floor", "grass", "pond", "wall", "water"]) := by
      decide +kernel
    obtain ⟨m, hm, hsummary⟩ := exists_ok_of_toOption_map hsummary
    obtain ⟨hresolve, hsize⟩ := tiles_resolve.1 courtText .default m hm
    exact ⟨m, hm, hresolve, hsize, hsummary⟩
  · have hsummary : (Tiled.courtDocument.toMap .default).toOption.map (·.tileSummary) =
        some ([[[some "sand", some "sand"], [none, none]]], ["floor", "sand"]) := by
      decide +kernel
    obtain ⟨m, hm, hsummary⟩ := exists_ok_of_toOption_map hsummary
    exact ⟨m, hm, tiles_resolve.2 Tiled.courtDocument .default m hm, hsummary⟩

end Tilemap
