import Tilemap.Json.Decode
import Tilemap.Text.Basic

/-!
# Appearances

How an object is drawn. `Appearance.ofJson?` reads what an author wrote and puts every number into
its range; what has the wrong type counts as absent.
-/

namespace Tilemap

/-- A text without the blanks at its ends, unless it is missing, blank or no text. -/
def Json.cleanText? (j : Option Json) : Option String :=
  (j.bind Json.string?).bind Text.nonBlank?

/-- A pair of floats. -/
structure Vec where
  x : Float
  y : Float

/-- How an object is drawn. -/
structure Appearance where
  generator : String
  width : UInt32
  height : UInt32
  tileSize : UInt32
  options : Bag
  anchor : Vec
  offset : Vec
  scale : Vec
  variant : Option String

/-- A float put between two bounds; what is no number stays. -/
def clamp (x low high : Float) : Float := if x < low then low else if high < x then high else x

namespace Appearance

/-- The keys that can name the generator, the first one first. -/
def generatorKeys : List String := ["generator", "draw", "renderer", "type", "id", "name", "kind"]

/-- The first number under several keys, truncated, but at least `least`. -/
def dimension (b : Bag) (keys : List String) (fallback least : Int) : UInt32 :=
  let n := (keys.findSome? fun k => (b.get? k).bind Json.number?).getD (.int fallback)
  UInt32.ofNat (n.truncate least (UInt32.size - 1 : Nat)).toNat

def number (b : Bag) (key : String) (fallback : Float) : Float :=
  match (b.get? key).bind Json.number? with
  | some n => if n.toFloat.isFinite then n.toFloat else fallback
  | none => fallback

/-- The point of the drawing that stands on the tile. -/
def readAnchor (j : Option Json) : Vec :=
  match j.bind Json.object? with
  | some b => ⟨clamp (number b "x" 0.5) 0 1, clamp (number b "y" 1) 0 1.5⟩
  | none => ⟨0.5, 1⟩

def readOffset (j : Option Json) : Vec :=
  match j.bind Json.object? with
  | some b => ⟨number b "x" 0, number b "y" 0⟩
  | none => ⟨0, 0⟩

/-- The scale of the drawing: one number for both directions or one for each. -/
def readScale : Option Json → Vec
  | some (.number n) => ⟨clamp n.toFloat 0.1 6, clamp n.toFloat 0.1 6⟩
  | some (.object b) => ⟨clamp (number b "x" 1) 0.1 6, clamp (number b "y" 1) 0.1 6⟩
  | _ => ⟨1, 1⟩

def ofJson? (j : Json) : Option Appearance := do
  let b ← j.object?
  let generator ← generatorKeys.findSome? fun k => Json.cleanText? (b.get? k)
  return {
    generator
    width := dimension b ["width", "columns"] 1 1
    height := dimension b ["height", "rows"] 1 1
    tileSize := dimension b ["tileSize", "tile_size", "pixelSize"] 16 4
    options := ((b.get? "options").bind Json.object?).getD []
    anchor := readAnchor (b.get? "anchor")
    offset := readOffset ((b.get? "offset").or (b.get? "positionOffset"))
    scale := readScale (b.get? "scale")
    variant := Json.cleanText? (b.get? "variant") }

end Appearance

/-! ### As JSON -/

def Vec.toJson (v : Vec) : Json := .object [("x", .ofFloat v.x), ("y", .ofFloat v.y)]

def Appearance.toJson (a : Appearance) : Json :=
  .object <|
    [("generator", .string a.generator), ("width", .ofUInt32 a.width),
      ("height", .ofUInt32 a.height), ("tileSize", .ofUInt32 a.tileSize),
      ("options", .object a.options), ("anchor", a.anchor.toJson), ("offset", a.offset.toJson),
      ("scale", a.scale.toJson)] ++
    Json.optional "variant" .string a.variant

def Vec.decode : Json.Decoder Vec := fun depth r => do
  let f ← Json.Fields.of? [["x"], ["y"]] depth r
  return ⟨← f.required "x" .double, ← f.required "y" .double⟩

def Appearance.decode : Json.Decoder Appearance := fun depth r => do
  let f ← Json.Fields.of? [["generator"], ["width"], ["height"], ["tileSize"], ["options"],
    ["anchor"], ["offset"], ["scale"], ["variant"]] depth r
  return {
    generator := ← f.required "generator" .string
    width := ← f.required "width" .uint32
    height := ← f.required "height" .uint32
    tileSize := ← f.required "tileSize" .uint32
    options := ← f.withDefault "options" [] .bag
    anchor := ← f.required "anchor" Vec.decode
    offset := ← f.required "offset" Vec.decode
    scale := ← f.required "scale" Vec.decode
    variant := ← f.optional "variant" .string }

end Tilemap
