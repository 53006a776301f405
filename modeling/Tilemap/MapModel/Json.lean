import Tilemap.MapModel

/-!
# Maps as JSON

Every record of a map has one JSON form, written by `toJson` and read by `decode`. An optional field
that is absent is left out, but for the border colour and the source path, which are written as
`null`.
-/

namespace Tilemap

open Json (Decoder)

/-! ### Geometry -/

def Size.toJson (s : Size) : Json :=
  .object [("width", .ofUInt32 s.width), ("height", .ofUInt32 s.height)]

def Area.toJson (a : Area) : Json :=
  .object [("x", .ofUInt32 a.x), ("y", .ofUInt32 a.y), ("width", .ofUInt32 a.width),
    ("height", .ofUInt32 a.height)]

def Position.decode : Decoder Position := fun depth r => do
  let f ← Json.Fields.of? [["x"], ["y"]] depth r
  return ⟨← f.required "x" .int32, ← f.required "y" .int32⟩

def Size.decode : Decoder Size := fun depth r => do
  let f ← Json.Fields.of? [["width"], ["height"]] depth r
  return ⟨← f.required "width" .uint32, ← f.required "height" .uint32⟩

def Area.decode : Decoder Area := fun depth r => do
  let f ← Json.Fields.of? [["x"], ["y"], ["width"], ["height"]] depth r
  return ⟨← f.required "x" .uint32, ← f.required "y" .uint32, ← f.required "width" .uint32,
    ← f.required "height" .uint32⟩

/-! ### Tiles and layers -/

def SortedMap.toJson {α : Type} (encode : α → Json) (m : SortedMap α) : Json :=
  .object (m.entries.map fun (k, v) => (k, encode v))

/-- The entry of a sorted map, which is left out when the map is empty. -/
def SortedMap.optional {α : Type} (key : String) (encode : α → Json) (m : SortedMap α) : Bag :=
  if m.isEmpty then [] else [(key, m.toJson encode)]

def TileType.toJson (t : TileType) : Json :=
  .object <|
    [("id", .string t.id), ("symbol", .string t.symbol), ("name", .string t.name),
      ("collides", .bool t.collides), ("transparent", .bool t.transparent)] ++
    Json.optional "color" .string t.color ++ t.metadata.optional "metadata" .string

def TileType.decode : Decoder TileType := fun depth r => do
  let f ← Json.Fields.of? [["id"], ["symbol"], ["name"], ["collides"], ["transparent"], ["color"],
    ["metadata"]] depth r
  return {
    id := ← f.required "id" .string
    symbol := ← f.required "symbol" .string
    name := ← f.required "name" .string
    collides := ← f.required "collides" .bool
    transparent := ← f.required "transparent" .bool
    color := ← f.optional "color" .string
    metadata := ← f.withDefault "metadata" .empty (.sortedMap .string) }

def LayerPlacement.toJson (p : LayerPlacement) : Json := .string p.name

def TileLayer.toJson (l : TileLayer) : Json :=
  .object <|
    [("id", .string l.id), ("name", .string l.name), ("order", .ofInt32 l.order),
      ("visible", .bool l.visible)] ++
    Json.optional "placement" LayerPlacement.toJson l.placement ++
    Json.optional "elevation" .ofFloat32 l.elevation ++
    Json.optional "opacity" .ofFloat32 l.opacity ++
    [("tiles", .array (l.tiles.map fun row => .array (row.map (Json.orNull .string))))]

def TileLayer.decode : Decoder TileLayer := fun depth r => do
  let f ← Json.Fields.of? [["id"], ["name"], ["order"], ["visible"], ["placement"], ["elevation"],
    ["opacity"], ["tiles"]] depth r
  return {
    id := ← f.required "id" .string
    name := ← f.required "name" .string
    order := ← f.required "order" .int32
    visible := ← f.required "visible" .bool
    placement := ← f.optional "placement" (.choice LayerPlacement.ofName?)
    elevation := ← f.optional "elevation" .single
    opacity := ← f.optional "opacity" .single
    tiles := ← f.required "tiles" (.list (.list (.nullable .string))) }

/-! ### Objects and doors -/

def ObjectPlacement.toJson (p : ObjectPlacement) : Json :=
  .object <|
    [("id", .string p.id), ("name", .string p.name), ("position", p.position.toJson),
      ("size", p.size.toJson), ("solid", .bool p.solid)] ++
    Json.optional "objectId" .string p.objectId ++ [("metadata", .object p.metadata)] ++
    Json.optional "appearance" Appearance.toJson p.appearance ++
    Json.optional "interaction" InteractionSpec.toJson p.interaction

def ObjectPlacement.decode : Decoder ObjectPlacement := fun depth r => do
  let f ← Json.Fields.of? [["id"], ["name"], ["position"], ["size"], ["solid"], ["objectId"],
    ["metadata"], ["appearance"], ["interaction"]] depth r
  return {
    id := ← f.required "id" .string
    name := ← f.required "name" .string
    position := ← f.required "position" Position.decode
    size := ← f.required "size" Size.decode
    solid := ← f.required "solid" .bool
    objectId := ← f.optional "objectId" .string
    metadata := ← f.withDefault "metadata" [] .bag
    appearance := ← f.optional "appearance" Appearance.decode
    interaction := ← f.optional "interaction" InteractionSpec.decode }

def ObjectLayer.toJson (l : ObjectLayer) : Json :=
  .object
    [("id", .string l.id), ("name", .string l.name), ("order", .ofInt32 l.order),
      ("visible", .bool l.visible), ("objects", .array (l.objects.map ObjectPlacement.toJson))]

def ObjectLayer.decode : Decoder ObjectLayer := fun depth r => do
  let f ← Json.Fields.of? [["id"], ["name"], ["order"], ["visible"], ["objects"]] depth r
  return {
    id := ← f.required "id" .string
    name := ← f.required "name" .string
    order := ← f.required "order" .int32
    visible := ← f.required "visible" .bool
    objects := ← f.required "objects" (.list ObjectPlacement.decode) }

def Door.toJson (d : Door) : Json :=
  .object <|
    [("id", .string d.id), ("kind", .string d.kind.name), ("position", d.position.toJson)] ++
    Json.optional "targetMap" .string d.targetMap ++
    Json.optional "targetPosition" Position.toJson d.targetPosition

def Door.decode : Decoder Door := fun depth r => do
  let f ← Json.Fields.of? [["id"], ["kind"], ["position"], ["targetMap"], ["targetPosition"]]
    depth r
  return {
    id := ← f.required "id" .string
    kind := ← f.required "kind" (.choice DoorKind.ofName?)
    position := ← f.required "position" Position.decode
    targetMap := ← f.optional "targetMap" .string
    targetPosition := ← f.optional "targetPosition" Position.decode }

/-! ### Maps -/

def Theme.toJson (t : Theme) : Json :=
  .object <| ("borderColour", Json.orNull .string t.borderColour) ::
    Json.optional "soundscape" .string t.soundscape

def Theme.decode : Decoder Theme := fun depth r => do
  let f ← Json.Fields.of? [["borderColour"], ["soundscape"]] depth r
  return ⟨← f.optionalNamed "borderColour" .string, ← f.optional "soundscape" .string⟩

/-- The entry of a bag, which is left out when the bag is empty. -/
def Bag.optional (key : String) (b : Bag) : Bag := if b.isEmpty then [] else [(key, .object b)]

def MapModel.toJson (m : MapModel) : Json :=
  .object <|
    [("id", .string m.id), ("name", .string m.name), ("biome", .string m.biome),
      ("description", .string m.description), ("size", m.size.toJson),
      ("spawn", m.spawn.toJson)] ++
    m.spawnPoints.optional "spawnPoints" Position.toJson ++
    [("blockedAreas", .array (m.blockedAreas.map Area.toJson)),
      ("tileTypes", m.tileTypes.toJson TileType.toJson),
      ("layers", .array (m.layers.map TileLayer.toJson)),
      ("objectLayers", .array (m.objectLayers.map ObjectLayer.toJson)),
      ("objects", .array (m.objects.map ObjectPlacement.toJson)),
      ("doors", .array (m.doors.map Door.toJson)), ("theme", m.theme.toJson),
      ("collidableTiles", .array (m.collidableTiles.map Position.toJson)),
      ("sourcePath", Json.orNull .string m.sourcePath)] ++
    Bag.optional "extra" m.extra

/-- Reads a map. -/
def MapModel.decode : Decoder MapModel := fun depth r => do
  let f ← Json.Fields.of? [["id"], ["name"], ["biome"], ["description"], ["size"], ["spawn"],
    ["spawnPoints"], ["blockedAreas"], ["tileTypes"], ["layers"], ["objectLayers"], ["objects"],
    ["doors"], ["theme"], ["collidableTiles"], ["sourcePath"], ["extra"]] depth r
  return {
    id := ← f.required "id" .string
    name := ← f.required "name" .string
    biome := ← f.required "biome" .string
    description := ← f.required "description" .string
    size := ← f.required "size" Size.decode
    spawn := ← f.required "spawn" Position.decode
    spawnPoints := ← f.withDefault "spawnPoints" .empty (.sortedMap Position.decode)
    blockedAreas := ← f.required "blockedAreas" (.list Area.decode)
    tileTypes := ← f.required "tileTypes" (.sortedMap TileType.decode)
    layers := ← f.required "layers" (.list TileLayer.decode)
    objectLayers := ← f.required "objectLayers" (.list ObjectLayer.decode)
    objects := ← f.required "objects" (.list ObjectPlacement.decode)
    doors := ← f.required "doors" (.list Door.decode)
    theme := ← f.required "theme" Theme.decode
    collidableTiles := ← f.required "collidableTiles" (.list Position.decode)
    sourcePath := ← f.optionalNamed "sourcePath" .string
    extra := ← f.withDefault "extra" [] .bag }

def MapModel.parse? (text : String) : Option MapModel := MapModel.decode.parse? text

/-- Reads the parts of a map; what is missing stays as in a map about which nothing is said. -/
def MapParts.decode : Decoder MapParts := fun depth r => do
  let f ← Json.Fields.of? [["id"], ["name"], ["biome"], ["description"], ["size"], ["spawn"],
    ["spawnPoints"], ["tileTypes"], ["layers"], ["objectLayers"], ["objects"], ["doors"],
    ["theme"], ["sourcePath"], ["extra"]] depth r
  return {
    id := ← f.withDefault "id" "" .string
    name := ← f.optional "name" .string
    biome := ← f.optional "biome" .string
    description := ← f.optional "description" .string
    size := ← f.optional "size" Size.decode
    spawn := ← f.optional "spawn" Position.decode
    spawnPoints := ← f.withDefault "spawnPoints" .empty (.sortedMap Position.decode)
    tileTypes := ← f.withDefault "tileTypes" [] (.list TileType.decode)
    layers := ← f.withDefault "layers" [] (.list TileLayer.decode)
    objectLayers := ← f.withDefault "objectLayers" [] (.list ObjectLayer.decode)
    objects := ← f.withDefault "objects" [] (.list ObjectPlacement.decode)
    doors := ← f.withDefault "doors" [] (.list Door.decode)
    theme := ← f.withDefault "theme" ⟨none, none⟩ Theme.decode
    sourcePath := ← f.optional "sourcePath" .string
    extra := ← f.withDefault "extra" [] .bag }

end Tilemap
