import Tilemap.Proofs.Gids

/-!
# Limits of imported layers

A map and each layer of a Tiled map may have `2 ^ 24` cells. One that would have more is refused
before a row of it is built, whatever its data are (`sizes_limited`). So the rows of a layer are
never longer than that, and there are no more of them if they have cells at all.

A layer without columns has no cells, and its number of rows is not limited: it can have far more
rows than a map has cells, as `exists_endless_layer` shows.
-/

namespace Tilemap

/-! ### Statement -/

/-- A layer has few enough cells, and if it has any, few enough rows. -/
structure TileLayer.Limited (l : TileLayer) : Prop where
  row_le : ∀ row ∈ l.tiles, row.length ≤ 2 ^ 24
  cells_le : l.width * l.height ≤ 2 ^ 24
  height_le : 0 < l.width → l.height ≤ 2 ^ 24

namespace Tiled

def Layer.size (l : Layer) (d : Document) : Size := ⟨l.width.getD d.width, l.height.getD d.height⟩

/-- A document asks for few enough cells, for the map and for every tile layer. -/
structure Document.Limited (d : Document) : Prop where
  map : d.width.toNat * d.height.toNat ≤ 2 ^ 24
  layers : ∀ e ∈ d.numbered "tilelayer", e.1.columns d * e.1.lines d ≤ 2 ^ 24

/-- Everything of a document can be read that comes before the size of the map is looked at. -/
def Document.Reads (d : Document) (options : CompileOptions) : Prop :=
  ∃ index layers objectLayers ids doors, TileIndex.build d.tilesets = .ok index ∧
    splitLayers d index .empty d.flatLayers.zipIdx = .ok (layers, objectLayers, ids) ∧
    buildDoors (doorList (json? d.properties "doors") "out")
      (doorList (json? d.properties "doors") "in")
      (resolveMapId (text? d.properties "id") options.sourcePath) ids = .ok doors

end Tiled

/-! ### Sizes -/

theorem Size.check_eq_error {s : Size} (h : 2 ^ 24 < s.width.toNat * s.height.toNat) :
    s.check = .error (.mapTooLarge s) :=
  if_neg (Nat.not_le_of_lt h)

/-- What is made of equally long rows is limited as soon as its cells are. -/
theorem TileLayer.limited_of_grid {l : TileLayer} {columns lines : Nat}
    (hlength : l.tiles.length = lines) (hrows : ∀ row ∈ l.tiles, row.length = columns)
    (h : columns * lines ≤ 2 ^ 24) : l.Limited := by
  by_cases hnil : l.tiles = []
  · constructor <;> simp [hnil, width, height]
  · obtain ⟨row, hrow⟩ := List.exists_mem_of_ne_nil _ hnil
    have hwidth : l.width = columns := by
      rw [← rows_of_length hrows row hrow, hrows row hrow]
    have hheight : l.height = lines := hlength
    have hpos : 0 < lines := hlength ▸ List.length_pos_iff.mpr hnil
    constructor
    case row_le =>
      intro row hrow
      rw [hrows row hrow]
      exact Nat.le_trans (Nat.le_mul_of_pos_right _ hpos) h
    case cells_le =>
      rwa [hwidth, hheight]
    case height_le =>
      intro hcells
      rw [hheight]
      exact Nat.le_trans (Nat.le_mul_of_pos_left _ (hwidth ▸ hcells)) h

theorem limited_groundLayer {s : Size} (h : s.check = .ok ()) (tile : Cell) :
    (groundLayer s tile).Limited := by
  refine @TileLayer.limited_of_grid _ s.width.toNat s.height.toNat List.length_replicate ?_
    (Size.check_eq_ok_iff.mp h)
  intro row hrow
  rw [List.eq_of_mem_replicate hrow, List.length_replicate]

namespace Tiled

/-! ### Layers that are refused -/

section

variable {d : Document} {index : TileIndex}

/-- A layer that is drawn has `2 ^ 24` cells at most. -/
theorem Document.DrawnAs.size_le {e : Layer × Nat} {layer : TileLayer}
    (h : d.DrawnAs index e layer) : e.1.columns d * e.1.lines d ≤ 2 ^ 24 := by
  simp only [DrawnAs, Layer.toTileLayer, bind_eq_ok] at h
  obtain ⟨_, hcheck, -⟩ := h
  exact Size.check_eq_ok_iff.mp hcheck

/-- A layer that is too large is refused before its data are looked at. -/
theorem Layer.toTileLayer_eq_error {l : Layer} (h : 2 ^ 24 < l.columns d * l.lines d)
    (place : Nat) : l.toTileLayer d index place = .error (.mapTooLarge (l.size d)) := by
  have hcheck : (l.size d).check = .error (.mapTooLarge (l.size d)) := Size.check_eq_error h
  rw [toTileLayer, ← size, hcheck]
  rfl

/-- The first tile layer that is refused is the reason why the layers are. -/
theorem splitLayers_eq_error {numbered before after : List (Layer × Nat)} {e : Layer × Nat}
    {error : MapError} (hsplit : numbered.filter (·.1.kind = "tilelayer") = before ++ e :: after)
    (hbefore : ∀ e' ∈ before, ∃ layer, d.DrawnAs index e' layer)
    (he : e.1.toTileLayer d index e.2 = .error error) (ids : IdAllocator) :
    splitLayers d index ids numbered = .error error := by
  induction numbered generalizing before ids with
  | nil => simp at hsplit
  | cons head rest ih =>
    obtain ⟨l, place⟩ := head
    unfold splitLayers
    split
    case isTrue hkind =>
      rw [List.filter_cons_of_pos (by simpa using hkind)] at hsplit
      cases before with
      | nil =>
        obtain ⟨rfl, -⟩ := List.cons.inj hsplit
        rw [he]
        rfl
      | cons first before =>
        obtain ⟨rfl, hrest⟩ := List.cons.inj hsplit
        obtain ⟨⟨layer, hlayer⟩, hbefore⟩ := List.forall_mem_cons.mp hbefore
        rw [hlayer, ih hrest hbefore]
        rfl
    case isFalse hkind =>
      rw [List.filter_cons_of_neg (by simpa using hkind)] at hsplit
      split
      · dsimp only
        rw [ih hsplit hbefore]
        rfl
      · exact ih hsplit hbefore ids

end

/-! ### Maps that are refused -/

section

variable {d : Document} {options : CompileOptions}

/-- A document that is too large gets no other size from its layers. -/
theorem Document.finalSize_parts (h : 2 ^ 24 < d.width.toNat * d.height.toNat) {index : TileIndex}
    {layers : List TileLayer} {objectLayers : List ObjectLayer} {doors : List Door}
    {doorObjects : List ObjectPlacement} :
    (d.parts options index layers objectLayers doors doorObjects).finalSize =
      ⟨d.width, d.height⟩ := by
  have hpos : 0 < d.width ∧ 0 < d.height := by
    obtain ⟨hwidth, hheight⟩ := Nat.mul_ne_zero_iff.mp (Nat.ne_zero_of_lt h)
    rw [UInt32.lt_iff_toNat_lt, UInt32.lt_iff_toNat_lt, UInt32.toNat_zero]
    exact ⟨Nat.pos_of_ne_zero hwidth, Nat.pos_of_ne_zero hheight⟩
  rw [MapParts.finalSize, parts, if_pos (by simpa using hpos)]
  rfl

/-- A map that is too large is refused when everything else can be read. -/
theorem Document.toMap_eq_error_of_size (hreads : d.Reads options)
    (h : 2 ^ 24 < d.width.toNat * d.height.toNat) :
    d.toMap options = .error (.mapTooLarge ⟨d.width, d.height⟩) := by
  obtain ⟨index, layers, objectLayers, ids, ⟨⟨doors, doorObjects⟩, ids'⟩, hindex, hsplit, hdoors⟩ :=
    hreads
  rw [toMap_of_stages hindex hsplit hdoors, MapParts.assemble_eq, finalSize_parts h,
    Size.check_eq_error h]
  rfl

/-- A tile layer that is too large is the reason for refusing a document when the tilesets and the
layers before it can be read. -/
theorem Document.toMap_eq_error_of_layer {index : TileIndex} {before after : List (Layer × Nat)}
    {e : Layer × Nat} (hindex : TileIndex.build d.tilesets = .ok index)
    (hlayers : d.numbered "tilelayer" = before ++ e :: after)
    (hbefore : ∀ e' ∈ before, ∃ layer, d.DrawnAs index e' layer)
    (h : 2 ^ 24 < e.1.columns d * e.1.lines d) :
    d.toMap options = .error (.mapTooLarge (e.1.size d)) := by
  have hsplit := splitLayers_eq_error hlayers hbefore (Layer.toTileLayer_eq_error h e.2) .empty
  rw [toMap, hindex]
  change (splitLayers d index .empty d.flatLayers.zipIdx >>= _) = _
  rw [hsplit]
  rfl

/-- The layers of an accepted map are limited, the ground that it has without any included. -/
theorem limited_of_mem_layers {m : MapModel} (h : d.toMap options = .ok m) {l : TileLayer}
    (hl : l ∈ m.layers) : l.Limited := by
  obtain ⟨index, layers, objectLayers, ids, doors, doorObjects, ids', hindex, hsplit, -, hm⟩ :=
    toMap_eq_ok h
  obtain ⟨hcheck, rfl⟩ := MapParts.assemble_eq_ok_iff.mp hm
  have hl := (MapParts.mem_finalLayers _ l).mp hl
  split at hl
  · subst hl
    exact limited_groundLayer hcheck _
  · obtain ⟨l', place, -, hlayer⟩ := exists_toTileLayer_of_mem_splitLayers hsplit hl
    have hdrawn : d.DrawnAs index (l', place) l := hlayer
    have hcut := Layer.isCutInto hindex hlayer
    exact TileLayer.limited_of_grid hcut.height hcut.width hdrawn.size_le

theorem limited_of_toMap {m : MapModel} (h : d.toMap options = .ok m) : d.Limited := by
  obtain ⟨index, layers, objectLayers, ids, doors, doorObjects, ids', hindex, hsplit, hdoors, hm⟩ :=
    toMap_eq_ok h
  constructor
  case map =>
    refine Nat.le_of_not_lt fun hlt => ?_
    have hreads : d.Reads options := ⟨_, _, _, _, _, hindex, hsplit, hdoors⟩
    rw [Document.toMap_eq_error_of_size hreads hlt] at h
    cases h
  case layers =>
    intro e he
    obtain ⟨layer, -, hlayer⟩ := exists_of_mem_forall₂ (forall₂_splitLayers hsplit).1 he
    exact Document.DrawnAs.size_le hlayer

end

/-! ### Main result -/

/-- An accepted document asks for few enough cells and its layers have no more. A tile layer or a
map that asks for more is refused with its size, once everything before it can be read. -/
theorem sizes_limited (d : Document) (options : CompileOptions) :
    (∀ m, d.toMap options = .ok m → d.Limited ∧ ∀ l ∈ m.layers, l.Limited) ∧
    (∀ index before e after, TileIndex.build d.tilesets = .ok index →
      d.numbered "tilelayer" = before ++ e :: after →
      (∀ e' ∈ before, ∃ layer, d.DrawnAs index e' layer) →
      2 ^ 24 < e.1.columns d * e.1.lines d →
      d.toMap options = .error (.mapTooLarge (e.1.size d))) ∧
    (d.Reads options → 2 ^ 24 < d.width.toNat * d.height.toNat →
      d.toMap options = .error (.mapTooLarge ⟨d.width, d.height⟩)) := by
  refine ⟨?_, ?_, ?_⟩
  · intro m h
    exact ⟨limited_of_toMap h, fun l hl => limited_of_mem_layers h hl⟩
  · intro index before e after hindex hlayers hbefore hlarge
    exact Document.toMap_eq_error_of_layer hindex hlayers hbefore hlarge
  · intro hreads hlarge
    exact Document.toMap_eq_error_of_size hreads hlarge

/-- A document with tile layers that have sizes and encodings of their own, but no data. -/
def corridorDocument (size : Size) (layers : List (Size × String)) : Document where
  width := size.width
  height := size.height
  tileWidth := none
  tileHeight := none
  layers := layers.map fun (size, encoding) =>
    ⟨none, none, "tilelayer", none, none, some size.width, some size.height, none, some encoding,
      [], [], []⟩
  tilesets := []
  properties := []

/-- A corridor that is just small enough, one whose second layer is too large, which is told before
its encoding, and one that is too large itself. -/
theorem sizes_limited_corridor :
    (∃ m, (corridorDocument ⟨4096, 4096⟩ [(⟨16777216, 1⟩, "csv")]).toMap .default = .ok m ∧
      (corridorDocument ⟨4096, 4096⟩ [(⟨16777216, 1⟩, "csv")]).Limited ∧
      ∀ l ∈ m.layers, l.Limited) ∧
    (corridorDocument ⟨1, 1⟩ [(⟨1, 1⟩, "csv"), (⟨4097, 4096⟩, "base64")]).toMap .default =
      .error (.mapTooLarge ⟨4097, 4096⟩) ∧
    (corridorDocument ⟨4097, 4096⟩ []).Reads .default ∧
    (corridorDocument ⟨4097, 4096⟩ []).toMap .default = .error (.mapTooLarge ⟨4097, 4096⟩) := by
  have hid : ((corridorDocument ⟨4096, 4096⟩ [(⟨16777216, 1⟩, "csv")]).toMap
      .default).toOption.map (·.id) = some "map" := by
    decide +kernel
  obtain ⟨m, hm, -⟩ := exists_ok_of_toOption_map hid
  have hnumbered : (corridorDocument ⟨1, 1⟩
      [(⟨1, 1⟩, "csv"), (⟨4097, 4096⟩, "base64")]).numbered "tilelayer" = [(_, 0), (_, 1)] := rfl
  have hreads : (corridorDocument ⟨4097, 4096⟩ []).Reads .default :=
    ⟨_, _, _, _, _, rfl, rfl, rfl⟩
  refine ⟨⟨m, hm, (sizes_limited _ _).1 m hm⟩, ?_, hreads, ?_⟩
  · exact (sizes_limited _ .default).2.1 _ [_] _ [] rfl hnumbered (by simpa using ⟨_, rfl⟩)
      (by decide +kernel)
  · exact (sizes_limited _ _).2.2 hreads (by decide +kernel)

/-- A corridor with more rows than a map may have cells, and without a single cell. -/
theorem exists_endless_layer :
    ∃ m, (corridorDocument ⟨1, 1⟩ [(⟨0, 16777217⟩, "csv")]).toMap .default = .ok m ∧
      ∃ l ∈ m.layers, 2 ^ 24 < l.tiles.length := by
  have hid : ((corridorDocument ⟨1, 1⟩ [(⟨0, 16777217⟩, "csv")]).toMap .default).toOption.map
      (·.id) = some "map" := by
    decide +kernel
  obtain ⟨m, hm, -⟩ := exists_ok_of_toOption_map hid
  have hnumbered : (corridorDocument ⟨1, 1⟩ [(⟨0, 16777217⟩, "csv")]).numbered "tilelayer" =
      [(_, 0)] := rfl
  obtain ⟨layer, hlayer, -, hcut⟩ :=
    Document.exists_isCutInto hm (hnumbered ▸ List.mem_singleton_self _)
  -- The rows are too many to be looked at; how many there are is known without.
  refine ⟨m, hm, layer, hlayer, ?_⟩
  rw [hcut.height]
  decide +kernel

end Tiled

end Tilemap
