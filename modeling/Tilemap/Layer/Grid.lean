import Tilemap.Decimal.Reading
import Tilemap.Layer.Basic
import Tilemap.Spelling
import Tilemap.Tile.Legend

/-!
# Drawn grids

A section whose key starts with `layer` draws one layer. The lines before the first row may set its
properties; every other line is a row. When `#` is a tile of the map, a line that looks like a
comment, or like a row with a trailing comment, is a row if all of it reads as one.
-/

namespace Tilemap

open Text

def emptyWords : List String := ["none", "empty", "void", "transparent"]

/-- The tokens of a row: its words, but a single word is split into characters. -/
def rowTokens (row : String) : List String :=
  match words row.toList with
  | [dense] => dense.map String.singleton
  | ws => ws.map String.ofList

/-- The cell that a token stands for; `none` if it stands for nothing. -/
def TileTable.cell? (tiles : TileTable) (token : String) : Option Cell :=
  if emptyWords.contains (String.ofList (asciiLower token.toList)) then some none
  else match tiles.symbol? token with
    | some id => some (some id)
    | none => if (tiles.get? token).isSome then some (some token) else none

/-- The cells of a row, or its first token that stands for nothing. -/
def TileTable.row (tiles : TileTable) (text : String) : Except String (List Cell) :=
  (rowTokens text).mapM fun token => match tiles.cell? token with
    | some c => .ok c
    | none => .error token

/-- Reads `key: value` with a key of letters, digits, blanks, `_` and `-` that starts with a
letter. -/
def layerProperty? (text : String) : Option (String × String) :=
  match cut? [':'] text.toList with
  | some (key, value) =>
    match trim key with
    | c :: rest =>
      if c.isAlpha && rest.all (fun d => d.isAlphanum || d = '_' || d = '-' || d = ' ') then
        some (String.ofList (c :: rest), String.ofList (trim value))
      else none
    | [] => none
  | none => none

/-- A 32-bit float put between zero and one; what is no number stays. -/
def clampUnit (x : Float32) : Float32 := if x < 0 then 0 else if 1 < x then 1 else x

/-- The layer with a property set; a value that cannot be read changes nothing. -/
def TileLayer.set (l : TileLayer) (key value : String) : TileLayer :=
  match Key.compact key with
  | "id" => if value = "" then l else { l with id := value }
  | "name" => if value = "" then l else { l with name := value }
  | "order" => { l with order := (int32? value.toList).getD l.order }
  | "visible" => { l with visible := (flag? value).getD l.visible }
  | "placement" => { l with placement := (LayerPlacement.parse? value).or l.placement }
  | "elevation" => { l with elevation := (Decimal.toFloat32? value.toList).or l.elevation }
  | "opacity" =>
    { l with opacity := ((Decimal.toFloat32? value.toList).map clampUnit).or l.opacity }
  | _ => l

/-- Whether a row is as long as the first one, if there is one. -/
def TileLayer.fits (l : TileLayer) (row : List Cell) : Bool :=
  l.tiles.head?.all (·.length = row.length)

def TileLayer.addRow (l : TileLayer) (row : List Cell) : Except MapError TileLayer :=
  if l.fits row then .ok { l with tiles := l.tiles ++ [row] }
  else .error (.unequalLayerWidth l.id (l.height + 1) l.width row.length)

/-- The row that all of a line makes, comments included, when `#` is a tile and the line has what
could be a comment. -/
def TileLayer.uncutRow? (l : TileLayer) (tiles : TileTable) (line : Line) : Option (List Cell) :=
  if tiles.isBound "#" && line.code ≠ some line.raw then
    match tiles.row line.raw with
    | .ok row => if l.fits row then some row else none
    | .error _ => none
  else none

/-- Reads one line of the section. -/
def TileLayer.addLine (tiles : TileTable) (l : TileLayer) (line : Line) :
    Except MapError TileLayer :=
  match l.uncutRow? tiles line with
  | some row => l.addRow row
  | none =>
    match line.code with
    | none => .ok l
    | some code =>
      match if l.tiles.isEmpty then layerProperty? code else none with
      | some (key, value) => .ok (l.set key value)
      | none =>
        match tiles.row code with
        | .ok row => l.addRow row
        | .error token => .error (.unknownTileReference l.id (l.height + 1) token)

/-- The layer that a section starts with, `index` being its place among the layers. -/
def TileLayer.start (s : Section) (index : Nat) : TileLayer where
  id := s.key
  name := s.title
  order := Int32.ofNat index
  visible := true
  placement := some .ground
  elevation := some 0
  opacity := none
  tiles := []

/-- The layer that a section draws; without any row there is none. -/
def compileLayer (tiles : TileTable) (s : Section) (index : Nat) :
    Except MapError (Option TileLayer) := do
  let l ← s.lines.foldlM (TileLayer.addLine tiles) (TileLayer.start s index)
  return if l.tiles.isEmpty then none else some l

/-- The layers that the sections draw, sorted. -/
def compileLayers (tiles : TileTable) (sections : List Section) :
    Except MapError (List TileLayer) := do
  let layers ← sections.zipIdx.mapM fun (s, index) => compileLayer tiles s index
  return sortTileLayers (layers.filterMap id)

end Tilemap
