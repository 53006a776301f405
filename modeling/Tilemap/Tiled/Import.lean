import Tilemap.Compile
import Tilemap.Tiled.Document
import Tilemap.Tiled.TileIndex

/-!
# Importing Tiled maps

A Tiled map becomes the same parts as a map text. Its layers are taken in their order without
groups, and the doors get their ids after the objects.
-/

namespace Tilemap.Tiled

open Text

/-! ### Layers -/

def Layer.givenName? (l : Layer) : Option String := l.name.bind nonBlank?

/-- The id of a layer: its own, or else its name, or else its place. -/
def Layer.idAt (l : Layer) (index : Nat) : String :=
  let own := match l.id with
    | some (.number n) => some (String.ofList n.chars)
    | some (.string s) => nonBlank? s
    | _ => none
  (own.or l.givenName?).getD ("layer-" ++ ofNatural (index + 1))

/-- The order of a layer: the one in its properties, cut to 32 bits, or else its place. -/
def Layer.orderAt (l : Layer) (index : Nat) : Int32 :=
  match (l.properties.get? "phase3:order").bind int64? with
  | some n => Int32.ofInt n
  | none => Int32.ofNat index

/-- The number of gids, which take 28 bits. -/
def gidLimit : Nat := 0x10000000

/-- The tile that an item of the data of a layer stands for. Only the lower 28 bits tell the gid;
the others tell how the tile is turned. -/
def TileIndex.cell (index : TileIndex) (item : Json) : Cell :=
  match item.number?.bind Number.toNat? with
  | some n =>
    let gid := UInt32.ofNat (n % gidLimit)
    if gid = 0 then none else index.gids.lookup gid
  | none => none

/-- The first row of data; missing items are empty cells. -/
def TileIndex.firstRow (index : TileIndex) (width : Nat) (data : List Json) : List Cell :=
  let row := (data.take width).map index.cell
  row ++ List.replicate (width - row.length) none

/-- Cuts rows from data, with those cut so far at hand, the last one first. A layer without columns
can have very many rows, so they are collected in a loop. -/
def TileIndex.rowsFrom (index : TileIndex) (width : Nat) (before : List (List Cell)) :
    Nat → List Json → List (List Cell)
  | 0, _ => before.reverse
  | height + 1, data =>
    rowsFrom index width (index.firstRow width data :: before) height (data.drop width)

/-- Cuts data into rows of one width. -/
def TileIndex.rows (index : TileIndex) (width height : Nat) (data : List Json) : List (List Cell) :=
  index.rowsFrom width [] height data

/-- The rows that were cut before stand in front of the others. -/
theorem TileIndex.rowsFrom_eq (index : TileIndex) (width : Nat) (before : List (List Cell))
    (height : Nat) (data : List Json) :
    index.rowsFrom width before height data = before.reverse ++ index.rows width height data := by
  induction height generalizing before data with
  | zero => simp [rows, rowsFrom]
  | succ height ih => rw [rows, rowsFrom, rowsFrom, ih, ih [_]]; simp

@[simp] theorem TileIndex.rows_zero (index : TileIndex) (width : Nat) (data : List Json) :
    index.rows width 0 data = [] := rfl

theorem TileIndex.rows_succ (index : TileIndex) (width height : Nat) (data : List Json) :
    index.rows width (height + 1) data =
      index.firstRow width data :: index.rows width height (data.drop width) := by
  rw [rows, rowsFrom, rowsFrom_eq]
  rfl

/-- The items of a layer, which must be a plain list. -/
def Layer.items (l : Layer) (id : String) : Except MapError (List Json) :=
  match l.encoding.filter (· ≠ "csv") with
  | some encoding => .error (.invalidTiledMap (.encoded id encoding))
  | none =>
    match l.data with
    | none => .ok []
    | some (.array items) => .ok items
    | some _ => .error (.invalidTiledMap (.notGids id))

def Layer.elevation? (l : Layer) : Option Float32 :=
  match l.properties.get? "phase3:elevation" with
  | some (.number n) => some (Binary.narrow n.toFloat)
  | some (.string s) => (Decimal.toFloat? (trim s.toList)).map Binary.narrow
  | _ => none

/-- The tile layer that a layer is, `index` being its place. -/
def Layer.toTileLayer (l : Layer) (d : Document) (index : TileIndex) (place : Nat) :
    Except MapError TileLayer := do
  let id := l.idAt place
  let width := l.width.getD d.width
  let height := l.height.getD d.height
  (Size.mk width height).check
  let items ← l.items id
  return {
    id
    name := l.givenName?.getD id
    order := l.orderAt place
    visible := l.visible.getD true
    placement := (text? l.properties "phase3:placement").bind LayerPlacement.parse?
    elevation := l.elevation?
    opacity := l.opacity.map fun o => Binary.narrow (clamp o 0 1)
    tiles := index.rows width.toNat height.toNat items }

/-! ### Objects -/

/-- The size of a tile in pixels when the map does not tell. -/
def defaultTileSize : Float := 64

/-- A tile size, which must be positive. -/
def tileSize (size : Option Float) : Float := (size.filter (0 < ·)).getD defaultTileSize

def objectFields : List String := ["objectId", "solid", "tile", "spawnId"]

/-- The tile that an object stands on: the one that it names, or else the one nearest to its
pixel. -/
def Object.tile (o : Object) (d : Document) : Position :=
  ((text? o.properties "tile").bind Position.parse?).getD
    ⟨Binary.roundToInt32 (o.x / tileSize d.tileWidth),
      Binary.roundToInt32 (o.y / tileSize d.tileHeight)⟩

/-- The template that an object refers to: the one that it names, or else its type. -/
def Object.template? (o : Object) : Option String :=
  ((text? o.properties "objectId").or (o.typeName.or o.className)).bind nonBlank?

/-- The object placed on the map, with an id of its own. -/
def Object.place (o : Object) (d : Document) (ids : IdAllocator) :
    ObjectPlacement × IdAllocator :=
  let givenName := o.name.bind nonBlank?
  let requested := (givenName.or (o.id.map fun n => "object-" ++ ofNatural n)).getD "object"
  let (id, ids) := ids.allocate requested
  let kept := o.properties.filter fun (name, _) => !objectFields.contains name
  ({ id
     name := givenName.getD id
     position := o.tile d
     size := .unit
     solid := ((o.properties.get? "solid").bind Json.flag?).getD false
     objectId := o.template?
     metadata := Json.optional "objectId" .string o.template? ++ kept
     appearance := none
     interaction := none }, ids)

def placeAll (d : Document) (ids : IdAllocator) : List Object → List ObjectPlacement × IdAllocator
  | [] => ([], ids)
  | o :: rest =>
    let (placement, ids) := o.place d ids
    let (placements, ids) := placeAll d ids rest
    (placement :: placements, ids)

def spawnEntries (d : Document) (objects : List Object) : List (String × Position) :=
  objects.filterMap fun o => (text? o.properties "spawnId").map (·, o.tile d)

/-- The tile layers and object layers among the layers, in their order. Only objects can use up ids,
and only tile layers can fail. -/
def splitLayers (d : Document) (index : TileIndex) (ids : IdAllocator) :
    List (Layer × Nat) → Except MapError (List TileLayer × List ObjectLayer × IdAllocator)
  | [] => .ok ([], [], ids)
  | (l, place) :: rest =>
    if l.kind = "tilelayer" then do
      let layer ← l.toTileLayer d index place
      let (tiles, objects, ids) ← splitLayers d index ids rest
      return (layer :: tiles, objects, ids)
    else if l.kind = "objectgroup" then do
      let (placements, ids) := placeAll d ids l.objects
      let id := l.idAt place
      let layer : ObjectLayer :=
        ⟨id, l.givenName?.getD id, l.orderAt place, l.visible.getD true, placements⟩
      let (tiles, objects, ids) ← splitLayers d index ids rest
      return (tiles, layer :: objects, ids)
    else splitLayers d index ids rest

/-! ### Doors and spawn points -/

/-- The door entries under a key: a text or a list of texts. -/
def doorList (doors : Option Json) (key : String) : List String :=
  match doors.bind (·.get? key) with
  | some (.array items) => (items.filterMap Json.string?).flatMap splitDoorEntries
  | some (.string s) => splitDoorEntries s
  | _ => []

/-- A coordinate of a spawn point, cut to 32 bits. -/
def spawnCoordinate? (b : Bag) (key : String) : Option Int32 :=
  ((b.get? key).bind Json.number?).bind fun n => n.toInt64?.map Int32.ofInt

/-- The position of a spawn point: a text, or an object with two integers. -/
def spawnPosition? : Json → Option Position
  | .string s => Position.parse? s
  | .object b => do return ⟨← spawnCoordinate? b "x", ← spawnCoordinate? b "y"⟩
  | _ => none

/-- The spawn points of a map: those of its property, and of the others those that objects name. -/
def Document.spawnPoints (d : Document) : SortedMap Position :=
  let groups := d.flatLayers.filter (·.kind = "objectgroup")
  let named := groups.flatMap fun l => spawnEntries d l.objects
  let listed := match json? d.properties "spawnPoints" with
    | some (.object b) => b.filterMap fun (name, value) => (spawnPosition? value).map (name, ·)
    | _ => []
  SortedMap.ofList (named ++ listed)

/-! ### Maps -/

/-- The properties of a map that have a meaning of their own. -/
def mapFields : List String :=
  ["id", "name", "biome", "description", "spawn", "spawnPoints", "doors", "theme.borderColour",
    "theme.soundscape"]

/-- The map that a document describes. -/
def Document.toMap (d : Document) (options : CompileOptions) : Except MapError MapModel := do
  let p := d.properties
  let index ← TileIndex.build d.tilesets
  let mapId := resolveMapId (text? p "id") options.sourcePath
  let (layers, objectLayers, ids) ← splitLayers d index .empty d.flatLayers.zipIdx
  let doors := json? p "doors"
  let ((doors, doorObjects), _) ←
    buildDoors (doorList doors "out") (doorList doors "in") mapId ids
  MapParts.assemble {
    id := mapId
    name := text? p "name"
    biome := text? p "biome"
    description := text? p "description"
    size := if 0 < d.width && 0 < d.height then some ⟨d.width, d.height⟩ else none
    spawn := (text? p "spawn").bind Position.parse?
    spawnPoints := d.spawnPoints
    tileTypes := index.types
    layers
    objectLayers
    objects := objectLayers.flatMap (·.objects) ++ doorObjects
    doors
    theme := ⟨text? p "theme.borderColour", text? p "theme.soundscape"⟩
    sourcePath := options.sourcePath
    extra := p.filter fun (name, _) => !mapFields.contains name }

def importText (text : String) (options : CompileOptions) : Except MapError MapModel :=
  match Document.parse? text with
  | some d => d.toMap options
  | none => .error .json

end Tilemap.Tiled
