import Tilemap.Proofs.Collisions
import Tilemap.Proofs.TileOverrides

/-!
# Tile types of the table and of the map

A map text is read with a table of tile types, and the map that comes of it holds the types under
their ids. Both agree on an id that no two tiles of the catalog have, so there the settings of the
legend decide whether the tile can be walked on (`tileTypes_agree`).

They need not agree on any other id: the table is searched from its start, and a definition changes
the first tile with its id, while in the map the last one counts. Then the map does not hold what
the legend says, as `exists_passable_wall` shows.
-/

namespace Tilemap

/-! ### Statement -/

/-- Some layer has a cell with the tile at a position. -/
def MapModel.HasTileAt (m : MapModel) (id : String) (p : Position) : Prop :=
  ∃ l ∈ m.layers, ∃ x y, l.cell? x y = some id ∧ p = ⟨Int32.ofNat x, Int32.ofNat y⟩

/-- What definitions say at last of whether a tile collides. -/
def collidesSetting? (ds : List TileDefinition) (id : String) : Option Bool :=
  lastValue? (valueUnder collidesKeys flag?) ((ds.filter (·.id = id)).flatMap (·.settings))

/-- A map agrees with a table on an id, and what the definitions say of whether the tile collides
decides on its cells. -/
structure MapModel.AgreesOn (m : MapModel) (tiles : TileTable) (ds : List TileDefinition)
    (id : String) : Prop where
  type : m.tileTypes.get? id = tiles.get? id
  blocked : collidesSetting? ds id = some true → ∀ p, m.HasTileAt id p → p ∈ m.collidableTiles
  /-- What is listed is listed for another tile. -/
  passable : collidesSetting? ds id = some false → ∀ p ∈ m.collidableTiles,
    ∃ other t, other ≠ id ∧ m.HasTileAt other p ∧ m.tileTypes.get? other = some t ∧ t.collides

/-! ### The first and the last type with an id -/

/-- A look-up by ids finds the first type with an id. -/
theorem lookup_map_id (types : List TileType) (id : String) :
    (types.map fun t => (t.id, t)).lookup id = types.find? (·.id = id) := by
  induction types with
  | nil => rfl
  | cons t rest ih =>
    by_cases h : t.id = id
    · simp [h]
    · simp [List.lookup_cons, beq_false_of_ne (Ne.symm h), h, ih]

/-- Of the types with an id the last one gets into a map. -/
theorem get?_ofList_eq_find?_reverse (types : List TileType) (id : String) :
    (SortedMap.ofList (types.map fun t => (t.id, t))).get? id =
      types.reverse.find? (·.id = id) := by
  rw [SortedMap.get?_ofList, ← List.map_reverse, lookup_map_id]

/-- Where no two types have an id, the first one with it is the last. -/
theorem find?_reverse_of_count_le {types : List TileType} {id : String}
    (h : (typeIds types).count id ≤ 1) :
    types.reverse.find? (·.id = id) = types.find? (·.id = id) := by
  have hlength : (types.filter (·.id = id)).length ≤ 1 := by
    rw [typeIds, List.count, List.countP_map, List.countP_eq_length_filter] at h
    exact h
  rw [← List.head?_filter, ← List.head?_filter, List.filter_reverse]
  cases hsame : types.filter (·.id = id) with
  | nil => rfl
  | cons t rest =>
    have hrest : rest = [] := by simpa [hsame] using hlength
    rw [hrest]
    rfl

/-- What is said at last of whether a tile collides holds of its type in the table. -/
theorem exists_of_collidesSetting? {catalog : Catalog} {ds : List TileDefinition} {id : String}
    {collides : Bool} (h : collidesSetting? ds id = some collides) :
    ∃ u, (ds.foldl overrideType catalog).find? (·.id = id) = some u ∧ u.collides = collides := by
  have hsome : ((ds.foldl overrideType catalog).find? (·.id = id)).isSome := by
    rw [find?_foldl_overrideType]
    cases hnamed : ds.filter (·.id = id) with
    | nil => simp [collidesSetting?, hnamed, lastValue?] at h
    | cons d rest => rw [List.foldl_cons, foldl_apply_some, Option.isSome_some]
  obtain ⟨u, hu⟩ := Option.isSome_iff_exists.mp hsome
  obtain rfl : u.id = id := by simpa using List.find?_some hu
  obtain ⟨start, -, hinherits⟩ := exists_inherits hu
  refine ⟨u, hu, ?_⟩
  rw [hinherits.collides]
  exact congrArg (·.getD start.collides) h

/-- The floor colour goes over the type under an id. -/
theorem TileTable.exists_get?_painted {table : TileTable} {id : String} {u : TileType}
    (h : table.get? id = some u) (colour : Option String) :
    ∃ t, (table.painted colour).get? id = some t ∧ Painted colour u t := by
  cases colour with
  | none => exact ⟨u, h, painted_none_iff.mpr rfl⟩
  | some c =>
    refine ⟨_, ?_, painted_some_iff.mpr rfl⟩
    have hsame : ((fun t : TileType => decide (t.id = id)) ∘ fun u : TileType =>
        if u.isFloor then { u with color := some c } else u) = fun u => decide (u.id = id) := by
      funext u
      rw [Function.comp_apply]
      split <;> rfl
    rw [painted, paintFloors, get?, List.find?_map, hsame]
    rw [get?] at h
    rw [h]
    rfl

theorem Painted.collides_eq {colour : Option String} {u t : TileType} (h : Painted colour u t) :
    t.collides = u.collides := by
  cases h <;> rfl

section Resolved

variable {catalog : Catalog} {ds : List TileDefinition} {colour : Option String}
  {table tiles : TileTable} (htable : table.types = ds.foldl overrideType catalog)
  (htypes : tiles.types = if catalog = [] ∧ ds = [] then [.defaultFloor]
    else (table.painted colour).types)
include htable htypes

theorem types_ne_nil_of_resolved : tiles.types ≠ [] := by
  rw [htypes]
  split
  · simp
  · rename_i hsome
    rwa [Ne, TileTable.types_painted, htable, foldl_overrideType_eq_nil]

theorem count_typeIds_le_of_resolved {id : String} (hid : (typeIds catalog).count id ≤ 1) :
    (typeIds tiles.types).count id ≤ 1 := by
  rw [htypes]
  split
  · exact List.count_le_length
  · rw [typeIds_painted, htable]
    exact count_typeIds_foldl_overrideType_le hid ds

/-- A definition that says whether a tile collides has the table say the same. -/
theorem exists_get?_of_collidesSetting? {id : String} {collides : Bool}
    (h : collidesSetting? ds id = some collides) :
    ∃ t, tiles.get? id = some t ∧ t.collides = collides := by
  obtain ⟨u, hu, rfl⟩ := exists_of_collidesSetting? h
  rw [← htable] at hu
  obtain ⟨t, ht, hpainted⟩ := TileTable.exists_get?_painted hu colour
  have hds : ¬ (catalog = [] ∧ ds = []) := by
    rintro ⟨-, rfl⟩
    cases h
  rw [if_neg hds] at htypes
  refine ⟨t, ?_, hpainted.collides_eq⟩
  rw [TileTable.get?, htypes]
  exact ht

end Resolved

/-! ### The listed tiles -/

/-- A tile is listed for what some layer has there. -/
theorem MapParts.mem_collidableTiles_completed {parts : MapParts} {p : Position} :
    p ∈ parts.completed.collidableTiles ↔ ∃ id t, parts.completed.HasTileAt id p ∧
      parts.completed.tileTypes.get? id = some t ∧ t.collides := by
  change p ∈ collidableTiles parts.typeMap parts.finalLayers ↔ _
  simp only [mem_collidableTiles, TileLayer.mem_collisions, cellCollides_iff]
  constructor
  · rintro ⟨l, hl, x, y, ⟨id, t, hcell, ht, hcollides⟩, rfl⟩
    exact ⟨id, t, ⟨l, hl, x, y, hcell, rfl⟩, ht, hcollides⟩
  · rintro ⟨id, t, ⟨l, hl, x, y, hcell, rfl⟩, ht, hcollides⟩
    exact ⟨l, hl, x, y, ⟨id, t, hcell, ht, hcollides⟩, rfl⟩

namespace MapParts

variable {parts : MapParts} {tiles : TileTable}

/-- Of the types of a map with the same id the last one counts. -/
theorem get?_tileTypes_completed {types : List TileType} (htypes : parts.tileTypes = types)
    (hne : types ≠ []) (id : String) :
    parts.completed.tileTypes.get? id = types.reverse.find? (·.id = id) := by
  have hfinal : parts.finalTypes = types := by
    rw [finalTypes, htypes, if_neg (by simpa using hne)]
  change parts.typeMap.get? id = _
  rw [typeMap, hfinal, get?_ofList_eq_find?_reverse]

/-- What is said of whether a tile collides decides on its cells where map and table agree. -/
theorem agreesOn_completed {ds : List TileDefinition} {id : String}
    (htype : parts.completed.tileTypes.get? id = tiles.get? id)
    (hdecided : ∀ collides, collidesSetting? ds id = some collides →
      ∃ t, tiles.get? id = some t ∧ t.collides = collides) :
    parts.completed.AgreesOn tiles ds id where
  type := htype
  blocked h p hp := by
    obtain ⟨t, ht, hcollides⟩ := hdecided true h
    exact mem_collidableTiles_completed.mpr ⟨id, t, hp, htype.trans ht, hcollides⟩
  passable h p hp := by
    obtain ⟨t, ht, hcollides⟩ := hdecided false h
    obtain ⟨other, u, hother, hu, hblocks⟩ := mem_collidableTiles_completed.mp hp
    refine ⟨other, u, ?_, hother, hu, hblocks⟩
    rintro rfl
    obtain rfl : u = t := Option.some.inj (hu.symm.trans (htype.trans ht))
    simp [hcollides] at hblocks

end MapParts

/-! ### Main result -/

/-- A map holds the last type of its table under each id. On an id that no two tiles of the catalog
have, the map agrees with the table, and a line that says whether the tile collides decides on its
cells. -/
theorem tileTypes_agree {text : String} {options : CompileOptions} {m : MapModel}
    (h : compile text options = .ok m) :
    ∃ tiles ds, resolveTiles options.catalog (legendLines text)
        ((headOf text).get? ["floorColour", "floorColor"]) = .ok tiles ∧
      IsLegend (legendLines text) ds ∧
      (∀ id, m.tileTypes.get? id = tiles.types.reverse.find? (·.id = id)) ∧
      ∀ id, (typeIds options.catalog).count id ≤ 1 → m.AgreesOn tiles ds id := by
  obtain ⟨tiles, layers, doors, doorObjects, ids, objectLayers, ids', htiles, -, -, -, hm⟩ :=
    compile_eq_ok h
  obtain ⟨-, rfl⟩ := MapParts.assemble_eq_ok_iff.mp hm
  obtain ⟨ds, hlines, table, htable, htypes⟩ := exists_types_of_resolveTiles htiles
  have hne := types_ne_nil_of_resolved htable htypes
  have hlast (id : String) :
      (textParts text options tiles layers doors doorObjects objectLayers).completed.tileTypes.get?
        id = tiles.types.reverse.find? (·.id = id) :=
    MapParts.get?_tileTypes_completed rfl hne id
  refine ⟨tiles, ds, htiles, hlines, hlast, fun id hid => ?_⟩
  refine MapParts.agreesOn_completed ?_ fun _ => exists_get?_of_collidesSetting? htable htypes
  rw [hlast, find?_reverse_of_count_le (count_typeIds_le_of_resolved htable htypes hid),
    TileTable.get?]

/-- A map text that makes the water of the catalog passable and a bridge over it not; of two lines
for the bridge the last one that can be read counts. -/
def fordText : String :=
  "[Tiles]\n~ = water;collides=no\nb = bridge;solid=off\nb = bridge;solid;collides=?\n[Layer]\n~ b"

theorem tileTypes_agree_ford :
    ∃ tiles ds m, resolveTiles .builtin (legendLines fordText)
        ((headOf fordText).get? ["floorColour", "floorColor"]) = .ok tiles ∧
      IsLegend (legendLines fordText) ds ∧ compile fordText .default = .ok m ∧
      (typeIds Catalog.builtin).count "water" ≤ 1 ∧ m.AgreesOn tiles ds "water" ∧
      (typeIds Catalog.builtin).count "bridge" ≤ 1 ∧ m.AgreesOn tiles ds "bridge" ∧
      ["water", "bridge"].map (collidesSetting? ds) = [some false, some true] ∧
      m.collidableTiles = [⟨1, 0⟩] := by
  have hford : (compile fordText .default).toOption.map (·.collidableTiles) = some [⟨1, 0⟩] := by
    decide +kernel
  obtain ⟨m, hm, hlisted⟩ := exists_ok_of_toOption_map hford
  obtain ⟨tiles, ds, htiles, hlines, -, hagree⟩ := tileTypes_agree hm
  have hwater : (typeIds Catalog.builtin).count "water" ≤ 1 := by decide +kernel
  have hbridge : (typeIds Catalog.builtin).count "bridge" ≤ 1 := by decide +kernel
  refine ⟨tiles, ds, m, htiles, hlines, hm, hwater, hagree _ hwater, hbridge, hagree _ hbridge, ?_,
    hlisted⟩
  rw [← hlines.eq_filterMap]
  decide +kernel

/-- A catalog with two walls under one id, which can both be walked through. -/
def twinWalls : Catalog :=
  [.fresh "wall" "W", { TileType.fresh "wall" "w" with name := "Other wall" }]

/-- A map text that makes the wall of the catalog collide. -/
def wallText : String := "[Tiles]\nW = wall;collides\n[Layer]\nW W"

/-- The wall collides in the table, but in the map it does not, so its cells are not listed. -/
theorem exists_passable_wall :
    ∃ tiles m, resolveTiles twinWalls (legendLines wallText)
        ((headOf wallText).get? ["floorColour", "floorColor"]) = .ok tiles ∧
      compile wallText ⟨twinWalls, none⟩ = .ok m ∧
      (tiles.get? "wall").map (·.collides) = some true ∧
      (m.tileTypes.get? "wall").map (·.collides) = some false ∧
      m.layers.map (·.tiles) = [[[some "wall", some "wall"]]] ∧ m.collidableTiles = [] := by
  have htable : (resolveTiles twinWalls (legendLines wallText)
      ((headOf wallText).get? ["floorColour", "floorColor"])).toOption.map
        (fun tiles => (tiles.get? "wall").map (·.collides)) = some (some true) := by
    decide +kernel
  have hmap : (compile wallText ⟨twinWalls, none⟩).toOption.map
      (fun m => (((m.tileTypes.get? "wall").map (·.collides), m.collidableTiles),
        m.layers.map (·.tiles))) = some ((some false, []), [[[some "wall", some "wall"]]]) := by
    decide +kernel
  obtain ⟨tiles, htiles, hcollides⟩ := exists_ok_of_toOption_map htable
  obtain ⟨m, hm, hvalues⟩ := exists_ok_of_toOption_map hmap
  obtain ⟨⟨hpasses, hlisted⟩, hlayers⟩ := by simpa only [Prod.mk.injEq] using hvalues
  exact ⟨tiles, m, htiles, hm, hcollides, hpasses, hlayers, hlisted⟩

end Tilemap
