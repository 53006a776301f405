import Tilemap.Proofs.Decimals
import Tilemap.Proofs.DeclaredTypes
import Tilemap.Proofs.Gids
import Tilemap.Proofs.UniqueIds

/-!
# Tiles without a name

A tile of a tileset need not name its type. Then an id is made for it of the name of the tileset and
its number, and cells with the tile have that id. The type under an id is that of the last tile with
it, so what a tile says of itself holds of its cells as long as no later tile has its id
(`unnamed_tiles_typed`).

The ids that are made need not be distinct: tilesets can have one name, or none. Then a tile can be
lost to one of another tileset, and a wall can be walked through as `exists_lost_wall` shows.
-/

namespace Tilemap

open Text

/-! ### Statement -/

/-- An element is the last one of a list that has a key. -/
def IsLastWith {α β : Type} (key : α → β) (k : β) (l : List α) (a : α) : Prop :=
  ∃ before after, l = before ++ a :: after ∧ key a = k ∧ ∀ a' ∈ after, key a' ≠ k

namespace Tiled

/-- The id that a tile names, or else its type, unless that is blank. -/
def Tile.namedId? (tile : Tile) : Option String :=
  ((text? tile.properties "phase3:id").or (tile.typeName.or tile.className)).bind nonBlank?

/-- A tile says that it collides. -/
def Tile.Collides (tile : Tile) : Prop :=
  (tile.properties.get? "phase3:collides").bind Json.flag? = some true

/-- What the ids that are made for tiles of a tileset start with. -/
def Tileset.label (tileset : Tileset) : String := tileset.name.getD "tile"

def idOf (e : Tileset × Tile) : String := tileId e.1 e.2

def typeOf (e : Tileset × Tile) : TileType := tileType e.1 e.2

/-- The id that is made for a tile without one. -/
def madeId (e : Tileset × Tile) : String := IdAllocator.numbered e.1.label e.2.id.toNat

/-- A cell of a layer shows a tile: the last one with its gid. -/
structure Layer.ShowsAt (l : Layer) (d : Document) (x y : Nat) (e : Tileset × Tile) : Prop where
  inside : x < l.columns d ∧ y < l.lines d
  item : ∃ (items : List Json) (v : Nat), l.data = some (.array items) ∧
    items[y * l.columns d + x]? = some (.number (.int v)) ∧ v % 2 ^ 28 ≠ 0 ∧
    IsLastWith gidOf (v % 2 ^ 28) (tilesOf d.tilesets) e

/-- A tile without a name has the id that is made for it to itself: no other tile names that id, and
it is not made for one with another gid. -/
structure KeepsId (tilesets : List Tileset) (e : Tileset × Tile) : Prop where
  unnamed : e.2.namedId? = none
  not_named : ∀ e' ∈ tilesOf tilesets, e'.2.namedId? ≠ some (madeId e)
  not_made : ∀ e' ∈ tilesOf tilesets, e'.2.namedId? = none → e'.1.label = e.1.label →
    e'.2.id = e.2.id → gidOf e' = gidOf e

/-- A cell of a map has the type of a tile, which collides if the tile says so. -/
structure HasTypeOf (m : MapModel) (c : Cell) (e : Tileset × Tile) : Prop where
  cell : c = some (idOf e)
  type : m.tileTypes.get? (idOf e) = some (typeOf e)
  collides_iff : (typeOf e).collides ↔ e.2.Collides

end Tiled

/-! ### Last elements -/

section

variable {α β γ : Type} {key : α → β} {l : List α} {a : α}

theorem exists_isLastWith (key : α → β) (h : a ∈ l) : ∃ b, IsLastWith key (key a) l b := by
  induction l using List.reverseRecOn with
  | nil => cases h
  | append_singleton before c ih =>
    by_cases hkey : key c = key a
    · exact ⟨c, before, [], rfl, hkey, by simp⟩
    · have hmem : a ∈ before := by
        rcases List.mem_append.mp h with hmem | hmem
        · exact hmem
        · exact absurd (List.mem_singleton.mp hmem ▸ rfl) hkey
      obtain ⟨b, before', after, rfl, hb, hafter⟩ := ih hmem
      refine ⟨b, before', after ++ [c], by simp, hb, ?_⟩
      exact List.forall_mem_append.mpr ⟨hafter, by simpa using hkey⟩

theorem IsLastWith.mem {k : β} (h : IsLastWith key k l a) : a ∈ l := by
  obtain ⟨before, after, rfl, -⟩ := h
  exact List.mem_append_right _ List.mem_cons_self

theorem IsLastWith.key_eq {k : β} (h : IsLastWith key k l a) : key a = k := by
  obtain ⟨-, -, -, hkey, -⟩ := h
  exact hkey

/-- The last element with a key is the last one with another that only such elements have. -/
theorem IsLastWith.of_imp {key' : α → γ} {k : β} (h : IsLastWith key k l a)
    (himp : ∀ b ∈ l, key' b = key' a → key b = key a) : IsLastWith key' (key' a) l a := by
  obtain ⟨before, after, rfl, hkey, hafter⟩ := h
  refine ⟨before, after, rfl, rfl, ?_⟩
  intro b hb hsame
  refine hafter b hb ?_
  rw [himp b (List.mem_append_right _ (List.mem_cons_of_mem _ hb)) hsame, hkey]

end

/-! ### Ids that are made -/

theorem IdAllocator.numbered_inj {base base' : String} {m n : Nat} :
    numbered base m = numbered base' n ↔ base = base' ∧ m = n := by
  constructor
  · intro h
    have hdash (n : Nat) : '-' ∉ (Nat.toDigits 10 n).reverse := by
      intro hmem
      have hdigit := (Decimal.isDigits_toDigits n).2 '-' (List.mem_reverse.mp hmem)
      cases hdigit
    have hlists : base.toList ++ '-' :: Nat.toDigits 10 m =
        base'.toList ++ '-' :: Nat.toDigits 10 n := by
      simpa [numbered, ofNatural, Nat.toList_repr] using congrArg String.toList h
    -- The dash before the number is the first one from behind.
    have hcut := congrArg (fun s => cut? ['-'] s.reverse) hlists
    simp only [List.reverse_append, List.reverse_cons, List.append_assoc, List.singleton_append,
      cut?_append (hdash _)] at hcut
    obtain ⟨-, hbase⟩ := Prod.mk.inj (Option.some.inj hcut)
    obtain rfl := String.toList_inj.mp (List.reverse_inj.mp hbase)
    exact ⟨rfl, numbered_injective base h⟩
  · rintro ⟨rfl, rfl⟩
    rfl

namespace Tiled

theorem tileId_eq (e : Tileset × Tile) : idOf e = e.2.namedId?.getD (madeId e) := rfl

theorem idOf_of_unnamed {e : Tileset × Tile} (h : e.2.namedId? = none) : idOf e = madeId e := by
  rw [tileId_eq, h, Option.getD_none]

theorem collides_typeOf_iff (e : Tileset × Tile) : (typeOf e).collides ↔ e.2.Collides := by
  rw [Tile.Collides]
  change Option.getD _ false = true ↔ _
  cases (e.2.properties.get? "phase3:collides").bind Json.flag? <;> simp

/-- Unnamed tiles have one id when their labels and their numbers agree. -/
theorem idOf_eq_idOf_iff {e e' : Tileset × Tile} (h : e.2.namedId? = none)
    (h' : e'.2.namedId? = none) : idOf e = idOf e' ↔ e.1.label = e'.1.label ∧ e.2.id = e'.2.id := by
  rw [idOf_of_unnamed h, idOf_of_unnamed h', madeId, madeId, IdAllocator.numbered_inj,
    UInt32.toNat_inj]

/-- A tile that keeps its id shares it only with tiles of its gid. -/
theorem KeepsId.gidOf_eq {tilesets : List Tileset} {e e' : Tileset × Tile}
    (h : KeepsId tilesets e) (he' : e' ∈ tilesOf tilesets) (hid : idOf e' = idOf e) :
    gidOf e' = gidOf e := by
  cases hname : e'.2.namedId? with
  | none =>
    obtain ⟨hlabel, hnumber⟩ := (idOf_eq_idOf_iff hname h.unnamed).mp hid
    exact h.not_made e' he' hname hlabel hnumber
  | some id =>
    refine absurd ?_ (h.not_named e' he')
    rw [hname, ← idOf_of_unnamed h.unnamed, ← hid, tileId_eq, hname, Option.getD_some]

/-! ### Types of an index -/

namespace TileIndex

variable {es : List (Tileset × Tile)} {id : String} {index : TileIndex}

theorem types_put (index : TileIndex) (e : Tileset × Tile) :
    (index.put e).types = upsertType index.types (typeOf e) := rfl

/-- Tiles with other ids do not change a type. -/
theorem find?_types_foldl_put_of_ne (h : ∀ e ∈ es, idOf e ≠ id) (index : TileIndex) :
    (es.foldl put index).types.find? (·.id = id) = index.types.find? (·.id = id) := by
  induction es generalizing index with
  | nil => rfl
  | cons e rest ih =>
    obtain ⟨he, hrest⟩ := List.forall_mem_cons.mp h
    rw [List.foldl_cons, ih hrest, types_put, find?_upsertType]
    exact if_neg he

/-- The type under an id is that of the last tile with it. -/
theorem find?_types_foldl_put {e : Tileset × Tile} (h : IsLastWith idOf id es e)
    (index : TileIndex) : (es.foldl put index).types.find? (·.id = id) = some (typeOf e) := by
  obtain ⟨before, after, rfl, hid, hafter⟩ := h
  rw [List.foldl_append, List.foldl_cons, find?_types_foldl_put_of_ne hafter, types_put,
    find?_upsertType]
  exact if_pos hid

/-- However tiles are put, every id has one type. -/
theorem nodup_types_foldl_put (h : (typeIds index.types).Nodup) (es : List (Tileset × Tile)) :
    (typeIds (es.foldl put index).types).Nodup := by
  induction es generalizing index with
  | nil => exact h
  | cons e rest ih =>
    refine ih ?_
    rw [types_put, typeIds_upsertType]
    split
    · exact h
    · rename_i hnew
      exact List.Nodup.append h (List.nodup_singleton _) (by simpa using hnew)

/-- The floor is added at the end, unless it is there. -/
theorem types_withFloor (index : TileIndex) :
    index.withFloor.types = if TileType.defaultFloor.id ∈ typeIds index.types then index.types
      else index.types ++ [TileType.defaultFloor] := by
  have hany : index.types.any (·.id = TileType.defaultFloor.id) ↔
      TileType.defaultFloor.id ∈ typeIds index.types := by
    simp [typeIds]
  rw [withFloor]
  split
  · rename_i hfloor
    rw [if_pos (hany.mp hfloor)]
  · rename_i hfloor
    rw [if_neg fun hmem => hfloor (hany.mpr hmem)]

/-- The types of tilesets have ids of their own, and under each is the last tile with it. -/
theorem types_build {tilesets : List Tileset} (h : build tilesets = .ok index) :
    index.types ≠ [] ∧ (typeIds index.types).Nodup ∧
      ∀ id e, IsLastWith idOf id (tilesOf tilesets) e →
        index.types.find? (·.id = id) = some (typeOf e) := by
  obtain ⟨-, rfl⟩ := build_eq_ok h
  have hnodup : (typeIds ((tilesOf tilesets).foldl put ⟨[], []⟩).types).Nodup :=
    @nodup_types_foldl_put ⟨[], []⟩ List.nodup_nil _
  rw [types_withFloor]
  split
  · rename_i hfloor
    refine ⟨?_, hnodup, fun id e he => find?_types_foldl_put he _⟩
    intro hnil
    simp [hnil, typeIds] at hfloor
  · rename_i hfloor
    refine ⟨by simp, ?_, ?_⟩
    · rw [typeIds, List.map_append]
      exact List.Nodup.append hnodup (List.nodup_singleton _) (by simpa [typeIds] using hfloor)
    · intro id e he
      rw [List.find?_append, find?_types_foldl_put he, Option.some_or]

end TileIndex

/-! ### Cells of the map -/

section

variable {d : Document} {options : CompileOptions} {index : TileIndex}

variable {layers : List TileLayer} {objectLayers : List ObjectLayer} {doors : List Door}
  {doorObjects : List ObjectPlacement} {id : String} {e : Tileset × Tile}

/-- Under an id a map has the type of the last tile with it. -/
theorem get?_tileTypes_parts (hindex : TileIndex.build d.tilesets = .ok index)
    (he : IsLastWith idOf id (tilesOf d.tilesets) e) :
    (d.parts options index layers objectLayers doors doorObjects).completed.tileTypes.get? id =
      some (typeOf e) := by
  obtain ⟨hne, hnodup, hfind⟩ := TileIndex.types_build hindex
  have htypes : (d.parts options index layers objectLayers doors doorObjects).tileTypes =
      index.types := rfl
  rw [MapParts.get?_tileTypes_completed htypes hne,
    find?_reverse_of_count_le (List.nodup_iff_count_le_one.mp hnodup id), hfind id e he]

/-- In the map, a cell with an id has the type of the last tile with it. -/
theorem hasTypeOf_parts (hindex : TileIndex.build d.tilesets = .ok index) {c : Cell}
    (hc : c = some id) (he : IsLastWith idOf id (tilesOf d.tilesets) e) :
    HasTypeOf (d.parts options index layers objectLayers doors doorObjects).completed c e where
  cell := by rw [hc, he.key_eq]
  type := by rw [he.key_eq, get?_tileTypes_parts hindex he]
  collides_iff := collides_typeOf_iff e

end

section

variable {d : Document} {l : Layer} {x y : Nat} {e : Tileset × Tile}

theorem Layer.ShowsAt.mem (h : l.ShowsAt d x y e) : e ∈ tilesOf d.tilesets := by
  obtain ⟨_, _, -, -, -, hlast⟩ := h.item
  exact hlast.mem

/-- A cell that shows a tile has the id of the tile. -/
theorem Layer.ShowsAt.cell_eq {layer : TileLayer} (h : l.ShowsAt d x y e)
    (hcut : l.IsCutInto d layer) : layer.cell? x y = some (idOf e) := by
  obtain ⟨items, v, hdata, hitem, hne, before, after, hsplit, hgid, hafter⟩ := h.item
  refine (hcut.cell_iff x y _ h.inside.1 h.inside.2).mpr ⟨items, v, hdata, hitem, hne, ?_⟩
  exact ⟨before, e, after, hsplit, hgid, hafter, rfl⟩

/-- No later tile has the id of a tile that is shown and keeps its id. -/
theorem Layer.ShowsAt.isLastWith (h : l.ShowsAt d x y e) (hkeeps : KeepsId d.tilesets e) :
    IsLastWith idOf (idOf e) (tilesOf d.tilesets) e := by
  obtain ⟨_, _, -, -, -, hlast⟩ := h.item
  exact hlast.of_imp fun e' he' hid => hkeeps.gidOf_eq he' hid

end

/-! ### Main result -/

/-- A cell of an accepted document has the type of the last tile with the id of its own tile. That
is its own tile if this is unnamed and keeps the id that is made for it, which then no tile with
another gid has. Unnamed tiles share an id when they have one number in tilesets of one label. -/
theorem unnamed_tiles_typed {d : Document} {options : CompileOptions} {m : MapModel}
    (h : d.toMap options = .ok m) :
    (∃ layers, List.Forall₂ (fun l layer => ∀ x y e, l.1.ShowsAt d x y e →
        (∃ last, IsLastWith idOf (idOf e) (tilesOf d.tilesets) last ∧
          HasTypeOf m (layer.cell? x y) last) ∧
        (KeepsId d.tilesets e → HasTypeOf m (layer.cell? x y) e))
      (d.numbered "tilelayer") layers ∧ (layers ≠ [] → m.layers.Perm layers)) ∧
    (∀ e e', KeepsId d.tilesets e → e' ∈ tilesOf d.tilesets → idOf e' = idOf e →
      gidOf e' = gidOf e) ∧
    ∀ e e' : Tileset × Tile, e.2.namedId? = none → e'.2.namedId? = none →
      (idOf e = idOf e' ↔ e.1.label = e'.1.label ∧ e.2.id = e'.2.id) := by
  refine ⟨?_, fun e e' hkeeps => hkeeps.gidOf_eq, fun e e' => idOf_eq_idOf_iff⟩
  obtain ⟨index, layers, objectLayers, ids, doors, doorObjects, ids', hindex, hsplit, -, hm⟩ :=
    toMap_eq_ok h
  obtain ⟨-, rfl⟩ := MapParts.assemble_eq_ok_iff.mp hm
  refine ⟨layers, (forall₂_splitLayers hsplit).1.imp ?_, fun hne => MapParts.perm_finalLayers hne⟩
  intro l layer hlayer x y e hshows
  have hcell := hshows.cell_eq (Layer.isCutInto hindex hlayer)
  constructor
  · obtain ⟨last, hlast⟩ := exists_isLastWith idOf hshows.mem
    exact ⟨last, hlast, hasTypeOf_parts hindex hcell hlast⟩
  · intro hkeeps
    exact hasTypeOf_parts hindex hcell (hshows.isLastWith hkeeps)

/-- A tileset with one tile, which does not name its type. -/
def onlyTile (firstGid : UInt32) (name : Option String) (properties : Bag) : Tileset × Tile :=
  (⟨firstGid, none, name, [⟨0, none, none, properties⟩]⟩, ⟨0, none, none, properties⟩)

/-- A tile that collides, in a tileset that may have a name. -/
def wallTile (name : Option String) : Tileset × Tile :=
  onlyTile 1 name [("phase3:collides", .bool true)]

/-- A tile that says nothing, in a tileset that may have a name. -/
def lawnTile (name : Option String) : Tileset × Tile := onlyTile 2 name []

def gardenDocument (wall lawn : Option String) : Document where
  width := 2
  height := 1
  tileWidth := none
  tileHeight := none
  layers :=
    [⟨none, none, "tilelayer", none, none, none, none,
      some (.array [.number (.int 1), .number (.int 2)]), none, [], [], []⟩]
  tilesets := [(wallTile wall).1, (lawnTile lawn).1]
  properties := []

section

variable {wall lawn : Option String}

/-- The wall stands in the first column. -/
theorem showsAt_wallTile {l : Layer}
    (h : (gardenDocument wall lawn).numbered "tilelayer" = [(l, 0)]) :
    l.ShowsAt (gardenDocument wall lawn) 0 0 (wallTile wall) := by
  obtain rfl : _ = l := (Prod.mk.inj (List.singleton_inj.mp h)).1
  constructor
  case inside => exact show 0 < 2 ∧ 0 < 1 by decide
  case item =>
    refine ⟨_, 1, rfl, rfl, by decide, [], [lawnTile lawn], rfl, rfl, ?_⟩
    exact List.forall_mem_singleton.mpr (show 2 ≠ 1 by decide)

/-- Neither tile of the garden names the id of the other. -/
theorem namedId?_of_mem_gardenDocument {e : Tileset × Tile}
    (he : e ∈ tilesOf (gardenDocument wall lawn).tilesets) : e.2.namedId? = none := by
  change e ∈ [wallTile wall, lawnTile lawn] at he
  rcases List.mem_pair.mp he with rfl | rfl <;> rfl

end

/-- A garden of two tilesets, whose tiles have no names. -/
theorem unnamed_tiles_typed_garden :
    ∃ l m layer, (gardenDocument (some "brick") (some "grass")).numbered "tilelayer" = [(l, 0)] ∧
      (gardenDocument (some "brick") (some "grass")).toMap .default = .ok m ∧ m.layers = [layer] ∧
      l.ShowsAt (gardenDocument (some "brick") (some "grass")) 0 0 (wallTile (some "brick")) ∧
      KeepsId (gardenDocument (some "brick") (some "grass")).tilesets (wallTile (some "brick")) ∧
      HasTypeOf m (layer.cell? 0 0) (wallTile (some "brick")) ∧ m.collidableTiles = [⟨0, 0⟩] ∧
      idOf (lawnTile (some "grass")) ≠ idOf (wallTile (some "brick")) ∧
      idOf (lawnTile none) = idOf (wallTile none) := by
  have hlisted : ((gardenDocument (some "brick") (some "grass")).toMap .default).toOption.map
      (·.collidableTiles) = some [⟨0, 0⟩] := by
    decide +kernel
  obtain ⟨m, hm, hlisted⟩ := exists_ok_of_toOption_map hlisted
  have hnumbered : (gardenDocument (some "brick") (some "grass")).numbered "tilelayer" =
      [(_, 0)] := rfl
  have hshows := showsAt_wallTile hnumbered
  have hkeeps : KeepsId (gardenDocument (some "brick") (some "grass")).tilesets
      (wallTile (some "brick")) := by
    constructor
    case unnamed => rfl
    case not_named =>
      intro e he
      rw [namedId?_of_mem_gardenDocument he]
      exact (Option.some_ne_none _).symm
    case not_made =>
      intro e he _ hlabel _
      change e ∈ [wallTile (some "brick"), lawnTile (some "grass")] at he
      rcases List.mem_pair.mp he with rfl | rfl
      · rfl
      · exact absurd hlabel (by decide)
  obtain ⟨⟨layers, hlayers, hperm⟩, hapart, hshared⟩ := unnamed_tiles_typed hm
  rw [hnumbered, List.forall₂_cons_left_iff] at hlayers
  obtain ⟨layer, _, htyped, hnil, rfl⟩ := hlayers
  obtain rfl := List.forall₂_nil_left_iff.mp hnil
  refine ⟨_, m, layer, hnumbered, hm, ?_, hshows, hkeeps, ?_, hlisted, ?_, ?_⟩
  · exact List.perm_singleton.mp (hperm (List.cons_ne_nil _ _))
  · exact (htyped 0 0 _ hshows).2 hkeeps
  · intro hid
    have hgid := hapart _ _ hkeeps (.tail _ (.head _)) hid
    exact absurd hgid (by decide)
  · exact (hshared _ _ rfl rfl).mpr ⟨rfl, rfl⟩

/-- A wall and a lawn of tilesets without names have one id, and the lawn comes later, so the wall
can be walked through. -/
theorem exists_lost_wall :
    ∃ l m, (gardenDocument none none).numbered "tilelayer" = [(l, 0)] ∧
      (gardenDocument none none).toMap .default = .ok m ∧
      l.ShowsAt (gardenDocument none none) 0 0 (wallTile none) ∧
      (wallTile none).2.namedId? = none ∧
      (∀ e ∈ tilesOf (gardenDocument none none).tilesets,
        e.2.namedId? ≠ some (madeId (wallTile none))) ∧
      (wallTile none).2.Collides ∧ gidOf (wallTile none) ≠ gidOf (lawnTile none) ∧
      idOf (wallTile none) = idOf (lawnTile none) ∧
      m.layers.map (·.tiles) = [[[some (idOf (wallTile none)), some (idOf (lawnTile none))]]] ∧
      (m.tileTypes.get? (idOf (wallTile none))).map (·.collides) = some false := by
  have hmap : ((gardenDocument none none).toMap .default).toOption.map
      (fun m => (m.layers.map (·.tiles),
        (m.tileTypes.get? (idOf (wallTile none))).map (·.collides))) =
          some ([[[some (idOf (wallTile none)), some (idOf (lawnTile none))]]], some false) := by
    decide +kernel
  obtain ⟨m, hm, hvalues⟩ := exists_ok_of_toOption_map hmap
  obtain ⟨htiles, hcollides⟩ := Prod.mk.inj hvalues
  have hnumbered : (gardenDocument none none).numbered "tilelayer" = [(_, 0)] := rfl
  refine ⟨_, m, hnumbered, hm, showsAt_wallTile hnumbered, rfl, ?_, rfl, by decide, by decide,
    htiles, hcollides⟩
  intro e he
  rw [namedId?_of_mem_gardenDocument he]
  exact (Option.some_ne_none _).symm

end Tiled

end Tilemap
