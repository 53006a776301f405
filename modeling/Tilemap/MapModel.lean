import Tilemap.Door
import Tilemap.Tile.Basic

/-!
# Maps

A map has everything filled in, and nothing changes it once it is built. What was read of a map,
whichever way it was written, becomes one by one set of rules: the size and the spawn are derived
when they are missing, the layers are sorted, and the border and the tiles that cannot be walked on
are collected.
-/

namespace Tilemap

/-- How a map looks and sounds around its tiles. -/
structure Theme where
  borderColour : Option String
  soundscape : Option String
  deriving Repr, DecidableEq

/-- A map with everything filled in. -/
structure MapModel where
  id : String
  name : String
  biome : String
  description : String
  size : Size
  spawn : Position
  spawnPoints : SortedMap Position
  blockedAreas : List Area
  tileTypes : SortedMap TileType
  layers : List TileLayer
  objectLayers : List ObjectLayer
  /-- The objects of all layers and those of the doors. -/
  objects : List ObjectPlacement
  doors : List Door
  theme : Theme
  /-- The tiles that cannot be walked on, row by row. -/
  collidableTiles : List Position
  sourcePath : Option String
  extra : Bag

namespace MapModel

def object? (m : MapModel) (id : String) : Option ObjectPlacement := m.objects.find? (·.id = id)

/-- The type of the tile at a column and a row of the first layer with an id. -/
def tileAt? (m : MapModel) (layer : String) (x y : Nat) : Option TileType := do
  let l ← m.layers.find? (·.id = layer)
  let id ← l.cell? x y
  m.tileTypes.get? id

end MapModel

/-! ### Parts of a map -/

/-- What was read of a map. -/
structure MapParts where
  id : String
  name : Option String
  biome : Option String
  description : Option String
  size : Option Size
  spawn : Option Position
  spawnPoints : SortedMap Position
  /-- In the order of their declaration; the first one fills a map without layers. -/
  tileTypes : List TileType
  layers : List TileLayer
  objectLayers : List ObjectLayer
  objects : List ObjectPlacement
  doors : List Door
  theme : Theme
  sourcePath : Option String
  extra : Bag

def MapParts.empty : MapParts where
  id := ""
  name := none
  biome := none
  description := none
  size := none
  spawn := none
  spawnPoints := .empty
  tileTypes := []
  layers := []
  objectLayers := []
  objects := []
  doors := []
  theme := ⟨none, none⟩
  sourcePath := none
  extra := []

def defaultBiome : String := "Comunidad"

/-- The smallest size that holds every layer, unless they are all empty. -/
def layerBounds? (layers : List TileLayer) : Option Size :=
  let width := (layers.map TileLayer.width).max?.getD 0
  let height := (layers.map TileLayer.height).max?.getD 0
  if 0 < width && 0 < height then some ⟨UInt32.ofNat width, UInt32.ofNat height⟩ else none

/-- A layer full of one tile. -/
def groundLayer (size : Size) (tile : Cell) : TileLayer where
  id := "ground"
  name := "Ground"
  order := 0
  visible := true
  placement := some .ground
  elevation := some 0
  opacity := none
  tiles := List.replicate size.height.toNat (List.replicate size.width.toNat tile)

/-- Whether a cell holds a tile that cannot be walked on. -/
def cellCollides (types : SortedMap TileType) (c : Cell) : Bool :=
  ((c.bind types.get?).map (·.collides)).getD false

/-- Where a layer has tiles that cannot be walked on. -/
def TileLayer.collisions (types : SortedMap TileType) (l : TileLayer) : List Position :=
  l.tiles.zipIdx.flatMap fun (row, y) =>
    row.zipIdx.filterMap fun (c, x) =>
      if cellCollides types c then some ⟨Int32.ofNat x, Int32.ofNat y⟩ else none

/-- Whether a position comes no later than another, row by row. -/
def Position.comesFirst (p q : Position) : Bool := p.y < q.y || p.y = q.y && p.x ≤ q.x

/-- Drops every element that equals the one before it. -/
def dropRepeats {α : Type} [DecidableEq α] : List α → List α
  | a :: b :: rest => if a = b then dropRepeats (b :: rest) else a :: dropRepeats (b :: rest)
  | l => l

/-- The tiles that cannot be walked on in any layer, row by row and each once. -/
def collidableTiles (types : SortedMap TileType) (layers : List TileLayer) : List Position :=
  dropRepeats ((layers.flatMap (TileLayer.collisions types)).mergeSort Position.comesFirst)

/-- The map that the parts make. -/
def MapParts.assemble (p : MapParts) : Except MapError MapModel := do
  let tileTypes := if p.tileTypes.isEmpty then [TileType.defaultFloor] else p.tileTypes
  let size := (p.size.or (layerBounds? p.layers)).getD .unit
  size.check
  let layers :=
    if p.layers.isEmpty then [groundLayer size (tileTypes.head?.map (·.id))] else p.layers
  let layers := sortTileLayers layers
  let types := SortedMap.ofList (tileTypes.map fun t => (t.id, t))
  return {
    id := p.id
    name := p.name.getD p.id
    biome := p.biome.getD defaultBiome
    description := p.description.getD ""
    size
    spawn := p.spawn.getD size.centre
    spawnPoints := p.spawnPoints
    blockedAreas := size.border
    tileTypes := types
    layers
    objectLayers := sortObjectLayers p.objectLayers
    objects := p.objects
    doors := p.doors
    theme := p.theme
    collidableTiles := collidableTiles types layers
    sourcePath := p.sourcePath
    extra := p.extra }

end Tilemap
