import Tilemap.MapError
import Tilemap.Tile.Basic
import Tilemap.Tiled.Document

/-!
# Tiles of the tilesets

Every tile of a tileset has a number of its own, its gid: the first gid of the set plus its id. What
a tile is stands in its properties, whose names may start with `phase3:`.
-/

namespace Tilemap.Tiled

/-- The tile types of a map and the ids of the types under their gids, latest first. -/
structure TileIndex where
  gids : List (UInt32 × String)
  types : List TileType

/-- A property name without its mark. -/
def unmarked (name : String) : String :=
  let mark := "phase3:".toList
  if mark.isPrefixOf name.toList then String.ofList (name.toList.drop mark.length) else name

/-- The properties that are not kept as metadata. -/
def tileFields : List String := ["id", "collides", "transparent", "color", "name"]

/-- The metadata of a tile: its other properties that have a text. -/
def tileMetadata (properties : Bag) : SortedMap String :=
  SortedMap.ofList <| properties.filterMap fun (name, value) =>
    if tileFields.contains (unmarked name) then none
    else (valueText? value).map (unmarked name, ·)

/-- The id of a tile: the one that it names, or else its type, or else one made from its tileset. -/
def tileId (tileset : Tileset) (tile : Tile) : String :=
  let named := (text? tile.properties "phase3:id").or (tile.typeName.or tile.className)
  (named.bind Text.nonBlank?).getD
    (tileset.name.getD "tile" ++ "-" ++ Text.ofNatural tile.id.toNat)

def tileType (tileset : Tileset) (tile : Tile) : TileType :=
  let id := tileId tileset tile
  let p := tile.properties
  let metadata := tileMetadata p
  let symbol := (((metadata.get? "symbol").bind (·.toList.head?)).or id.toList.head?).getD '?'
  { id
    symbol := String.singleton symbol
    name := ((text? p "phase3:name").or (text? p "name")).getD id
    collides := ((p.get? "phase3:collides").bind Json.flag?).getD false
    transparent := ((p.get? "phase3:transparent").bind Json.flag?).getD true
    color := text? p "phase3:color"
    metadata }

namespace TileIndex

/-- Adds a tile; its type replaces the one with the same id. -/
def addTile (tileset : Tileset) (index : TileIndex) (tile : Tile) : Except MapError TileIndex :=
  let gid := tileset.firstGid.toNat + tile.id.toNat
  if gid < UInt32.size then
    let type := tileType tileset tile
    .ok ⟨(UInt32.ofNat gid, type.id) :: index.gids, upsertType index.types type⟩
  else .error (.invalidTiledMap (.gidOverflow tile.id tileset.firstGid))

/-- Adds the tiles of a tileset, which must be at hand. -/
def addTileset (index : TileIndex) (tileset : Tileset) : Except MapError TileIndex :=
  match tileset.source with
  | some source => .error (.invalidTiledMap (.unresolvedTileset source))
  | none => tileset.tiles.foldlM (addTile tileset) index

/-- Adds the default floor, unless there is a type with its id. -/
def withFloor (index : TileIndex) : TileIndex :=
  if index.types.any (·.id = TileType.defaultFloor.id) then index
  else { index with types := index.types ++ [TileType.defaultFloor] }

def build (tilesets : List Tileset) : Except MapError TileIndex := do
  return (← tilesets.foldlM addTileset ⟨[], []⟩).withFloor

end TileIndex

end Tilemap.Tiled
