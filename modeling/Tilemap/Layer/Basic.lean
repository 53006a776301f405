import Tilemap.Geometry
import Tilemap.Template.Interaction
import Tilemap.Text.Basic

/-!
# Layers

A tile layer is a grid of tile ids, row by row, some of them empty. Layers are drawn in their order,
and those with the same order by their ids.

An object layer holds objects. What kind of object one is says the template that it refers to; its
own appearance, interaction and metadata come before those of the template.
-/

namespace Tilemap

/-! ### Tile layers -/

/-- Where a layer is drawn. -/
inductive LayerPlacement where
  | ground
  | elevated
  | overlay
  deriving Repr, DecidableEq

namespace LayerPlacement

def name : LayerPlacement → String
  | .ground => "ground"
  | .elevated => "elevated"
  | .overlay => "overlay"

def ofName? (s : String) : Option LayerPlacement :=
  match s with
  | "ground" => some .ground
  | "elevated" => some .elevated
  | "overlay" => some .overlay
  | _ => none

/-- Reads a placement in any case, with blanks around it. -/
def parse? (text : String) : Option LayerPlacement :=
  ofName? (String.ofList (Text.asciiLower (Text.trim text.toList)))

@[simp] theorem ofName?_name (p : LayerPlacement) : ofName? p.name = some p := by
  cases p <;> rfl

end LayerPlacement

/-- A cell of a layer: the id of its tile, unless it is empty. -/
abbrev Cell := Option String

/-- A grid of tiles. -/
structure TileLayer where
  id : String
  name : String
  order : Int32
  visible : Bool
  placement : Option LayerPlacement
  elevation : Option Float32
  opacity : Option Float32
  /-- The rows, from top to bottom. -/
  tiles : List (List Cell)

namespace TileLayer

/-- The length of the first row. -/
def width (l : TileLayer) : Nat := (l.tiles.head?.map List.length).getD 0

def height (l : TileLayer) : Nat := l.tiles.length

def cell? (l : TileLayer) (x y : Nat) : Cell := (l.tiles[y]?.bind (·[x]?)).join

end TileLayer

/-- Whether a layer with one order and id comes no later than one with another. -/
def comesFirst (order : Int32) (id : String) (order' : Int32) (id' : String) : Bool :=
  order < order' || order = order' && id ≤ id'

/-- The layers in the order in which they are drawn; equals stay as they are. -/
def sortTileLayers (layers : List TileLayer) : List TileLayer :=
  layers.mergeSort fun a b => comesFirst a.order a.id b.order b.id

/-! ### Object layers -/

/-- An object on a map. -/
structure ObjectPlacement where
  id : String
  name : String
  position : Position
  size : Size
  solid : Bool
  objectId : Option String
  metadata : Bag
  appearance : Option Appearance
  interaction : Option InteractionSpec

/-- A layer of objects. -/
structure ObjectLayer where
  id : String
  name : String
  order : Int32
  visible : Bool
  objects : List ObjectPlacement

namespace ObjectPlacement

/-- The id of the template that the object refers to: its field, or else `objectId` in its
metadata. -/
def templateRef? (p : ObjectPlacement) : Option String :=
  (p.objectId.bind Text.nonBlank?).or (Json.cleanText? (p.metadata.get? "objectId"))

end ObjectPlacement

/-- The object layers in their order, and those with the same order by their ids; equals stay as
they are. -/
def sortObjectLayers (layers : List ObjectLayer) : List ObjectLayer :=
  layers.mergeSort fun a b => comesFirst a.order a.id b.order b.id

end Tilemap
