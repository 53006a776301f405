import Tilemap.Json.Decode
import Tilemap.Json.Printer

/-!
# Tiled documents

The parts of a map in the JSON format of Tiled that are read. Everything but the name of a property
and the id of a tile may be missing. Custom data stand in properties, whose values may be typed or
text.

A group of layers is replaced by its layers, which are visible only if the group is, and whose
opacity is multiplied by that of the group.
-/

namespace Tilemap.Tiled

open Json (Decoder Fields)

/-- An object of an object group, in pixels. -/
structure Object where
  id : Option Nat
  name : Option String
  typeName : Option String
  /-- Another spelling of the type. -/
  className : Option String
  x : Float
  y : Float
  properties : Bag

/-- A layer, which may be a group of layers. -/
structure Layer where
  id : Option Json
  name : Option String
  /-- What the layer holds: `tilelayer`, `objectgroup` or `group`. -/
  kind : String
  visible : Option Bool
  opacity : Option Float
  width : Option UInt32
  height : Option UInt32
  data : Option Json
  encoding : Option String
  objects : List Object
  layers : List Layer
  properties : Bag

/-- A tile of a tileset. -/
structure Tile where
  id : UInt32
  typeName : Option String
  /-- Another spelling of the type. -/
  className : Option String
  properties : Bag

/-- A tileset; with a source its tiles stand in another file. -/
structure Tileset where
  firstGid : UInt32
  source : Option String
  name : Option String
  tiles : List Tile

/-- A map. -/
structure Document where
  width : UInt32
  height : UInt32
  tileWidth : Option Float
  tileHeight : Option Float
  layers : List Layer
  tilesets : List Tileset
  properties : Bag

/-! ### Reading -/

def decodeProperty : Decoder (String × Json) := fun depth r => do
  let f ← Fields.of? [["name"], ["value"]] depth r
  return (← f.required "name" .string, ← f.withDefault "value" .null .json)

/-- Reads a list of properties; of two with the same name the later one counts. -/
def decodeProperties : Decoder Bag := fun depth r =>
  (Decoder.list decodeProperty depth r).map Bag.ofEntries

def Object.decode : Decoder Object := fun depth r => do
  let f ← Fields.of? [["id"], ["name"], ["type"], ["class"], ["x"], ["y"], ["properties"]] depth r
  return {
    id := ← f.optional "id" .nat64
    name := ← f.optional "name" .string
    typeName := ← f.optional "type" .string
    className := ← f.optional "class" .string
    x := ← f.withDefault "x" 0 .double
    y := ← f.withDefault "y" 0 .double
    properties := ← f.withDefault "properties" [] decodeProperties }

/-- Reads a layer. The layers of a group are two brackets deeper. -/
def Layer.decode (depth : Nat) (r : Json.Raw) : Option Layer := do
  let f ← Fields.of? [["id"], ["name"], ["type"], ["visible"], ["opacity"], ["width"], ["height"],
    ["data"], ["encoding"], ["objects"], ["layers"], ["properties"]] depth r
  let inner : Decoder Layer := fun _ r => if 2 ≤ depth then Layer.decode (depth - 2) r else none
  return {
    id := ← f.optional "id" .json
    name := ← f.optional "name" .string
    kind := ← f.withDefault "type" "" .string
    visible := ← f.optional "visible" .bool
    opacity := ← f.optional "opacity" .double
    width := ← f.optional "width" .uint32
    height := ← f.optional "height" .uint32
    data := ← f.optional "data" .json
    encoding := ← f.optional "encoding" .string
    objects := ← f.withDefault "objects" [] (.list Object.decode)
    layers := ← f.withDefault "layers" [] inner.list
    properties := ← f.withDefault "properties" [] decodeProperties }
termination_by depth
decreasing_by omega

def Tile.decode : Decoder Tile := fun depth r => do
  let f ← Fields.of? [["id"], ["type"], ["class"], ["properties"]] depth r
  return {
    id := ← f.required "id" .uint32
    typeName := ← f.optional "type" .string
    className := ← f.optional "class" .string
    properties := ← f.withDefault "properties" [] decodeProperties }

def Tileset.decode : Decoder Tileset := fun depth r => do
  let f ← Fields.of? [["firstgid"], ["source"], ["name"], ["tiles"]] depth r
  return {
    firstGid := ← f.withDefault "firstgid" 1 .uint32
    source := ← f.optional "source" .string
    name := ← f.optional "name" .string
    tiles := ← f.withDefault "tiles" [] (.list Tile.decode) }

def Document.decode : Decoder Document := fun depth r => do
  let f ← Fields.of? [["width"], ["height"], ["tilewidth"], ["tileheight"], ["layers"],
    ["tilesets"], ["properties"]] depth r
  return {
    width := ← f.withDefault "width" 0 .uint32
    height := ← f.withDefault "height" 0 .uint32
    tileWidth := ← f.optional "tilewidth" .double
    tileHeight := ← f.optional "tileheight" .double
    layers := ← f.withDefault "layers" [] (.list Layer.decode)
    tilesets := ← f.withDefault "tilesets" [] (.list Tileset.decode)
    properties := ← f.withDefault "properties" [] decodeProperties }

def Document.parse? (text : String) : Option Document := Document.decode.parse? text

def Tileset.parse? (text : String) : Option Tileset := Tileset.decode.parse? text

/-! ### Values of properties -/

/-- A value as text: a text is trimmed and must not be blank, `null` has none, and any other value
is written as JSON. -/
def valueText? : Json → Option String
  | .string s => Text.nonBlank? s
  | .null => none
  | j => some j.compact

def text? (properties : Bag) (name : String) : Option String :=
  (properties.get? name).bind valueText?

/-- The value of a property that holds JSON, either as a value or as a text. -/
def json? (properties : Bag) (name : String) : Option Json :=
  match properties.get? name with
  | some (.string s) => Json.parse? s
  | other => other

/-- A 64-bit integer, either as a number or as a text. -/
def int64? : Json → Option Int
  | .number n => n.toInt64?
  | .string s => Text.int64? (Text.trim s.toList)
  | _ => none

/-! ### Groups -/

def groupKind : String := "group"

mutual

/-- The layers that a layer stands for inside groups with a visibility and an opacity. -/
def Layer.flatten (visible : Bool) (opacity : Float) : Layer → List Layer
  | l@⟨_, _, kind, ownVisible, ownOpacity, _, _, _, _, _, layers, _⟩ =>
    let visible := visible && ownVisible.getD true
    let product := ownOpacity.map (· * opacity)
    if kind = groupKind then flattenAll visible (product.getD opacity) layers
    else
      [{ l with
        visible := some visible
        opacity := product.or (if opacity < 1 then some opacity else none) }]

def flattenAll (visible : Bool) (opacity : Float) : List Layer → List Layer
  | [] => []
  | l :: rest => l.flatten visible opacity ++ flattenAll visible opacity rest

end

def Document.flatLayers (d : Document) : List Layer := flattenAll true 1 d.layers

end Tilemap.Tiled
