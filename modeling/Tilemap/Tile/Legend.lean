import Tilemap.MapError
import Tilemap.Section
import Tilemap.Spelling
import Tilemap.Tile.Basic

/-!
# Legend of a map

The section `tiles` binds symbols to tile types, one per line: `SYMBOL = id;key=value;flag`. A type
starts as the catalog has it, or fresh, and takes the settings of every line that names its id. A
symbol can be bound anew to a type of the catalog's, but only once by the map itself.
-/

namespace Tilemap

open Text

/-- One line of the legend. -/
structure TileDefinition where
  symbol : String
  id : String
  /-- Keys with their values; a key alone has the value `true`. -/
  settings : List (String × String)
  deriving Repr, DecidableEq

/-- Reads one setting, which is not blank. -/
def TileDefinition.setting (token : List Char) : String × String :=
  match cut? ['='] token with
  | some (key, value) => (String.ofList (trim key), String.ofList (trim value))
  | none => (String.ofList token, "true")

/-- Reads a line; it needs a symbol before the first `=` and an id behind it. -/
def TileDefinition.parse? (text : String) : Option TileDefinition := do
  let (symbol, rest) ← cut? ['='] text.toList
  let symbol ← nonBlank? (String.ofList symbol)
  match (pieces (· = ';') rest).map trim with
  | [] | [] :: _ => none
  | id :: tokens =>
    return ⟨symbol, String.ofList id, (tokens.filter (· ≠ [])).map setting⟩

/-- The type with one setting applied. A flag that cannot be read changes nothing, and an unknown
key goes into the metadata. -/
def TileType.set (t : TileType) (key value : String) : TileType :=
  match Key.compact key with
  | "name" | "label" => { t with name := value }
  | "collides" | "solid" | "collision" => { t with collides := (flag? value).getD t.collides }
  | "transparent" => { t with transparent := (flag? value).getD t.transparent }
  | "color" | "colour" => { t with color := some value }
  | _ => { t with metadata := t.metadata.insert key value }

/-- The type that a definition makes of the one known under its id, if any. -/
def TileDefinition.apply (d : TileDefinition) (known : Option TileType) : TileType :=
  let start := { known.getD (TileType.fresh d.id d.symbol) with symbol := d.symbol }
  d.settings.foldl (fun t (key, value) => t.set key value) start

/-- The text of a line of the legend. A line that starts with `#` is a comment unless an `=`
follows: then `#` is the symbol. -/
def Line.definitionText? (l : Line) : Option String :=
  match l.raw.toList with
  | '#' :: rest => match trimStart rest with
    | '=' :: _ => some l.uncommented
    | _ => l.code
  | _ => l.code

/-- The table so far and the symbols that the map itself has bound. -/
structure Legend where
  table : TileTable
  bound : SortedMap String

def Legend.add (legend : Legend) (l : Line) : Except MapError Legend :=
  match l.definitionText? with
  | none => .ok legend
  | some text =>
    match TileDefinition.parse? text with
    | none => .error (.malformedTileDefinition l.number text)
    | some d =>
      let existing := (legend.bound.get? d.symbol).getD d.id
      if existing = d.id then
        .ok ⟨legend.table.bind d.symbol (d.apply (legend.table.get? d.id)),
          legend.bound.insert d.symbol d.id⟩
      else .error (.conflictingSymbol d.symbol existing d.id)

/-- The tile table of a map: the catalog, then the lines of the legend, then the floor colour. -/
def resolveTiles (catalog : Catalog) (lines : List Line) (floorColour : Option String) :
    Except MapError TileTable := do
  let legend ← lines.foldlM Legend.add ⟨TileTable.ofCatalog catalog, SortedMap.empty⟩
  let painted := match floorColour with
    | some colour => legend.table.paintFloors colour
    | none => legend.table
  return painted.orDefaultFloor

end Tilemap
