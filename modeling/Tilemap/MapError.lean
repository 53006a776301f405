import Tilemap.Geometry
import Tilemap.Text.Basic

/-!
# Errors

Why a map is refused. Each error is a cause with its particulars; `MapError.message` puts it into
words. The first error ends the work, and no part of a map is handed out.
-/

namespace Tilemap

open Text (ofNatural)

def quoted (s : String) : String := "`" ++ s ++ "`"

/-- One of the two coordinates. -/
inductive Axis where
  | x
  | y
  deriving Repr, DecidableEq

def Axis.name : Axis → String
  | .x => "x"
  | .y => "y"

/-- Why an object line is refused. -/
inductive ObjectLineError where
  | missingObject
  | emptyInstance
  | noSeparator
  | missingCoordinate (axis : Axis)
  | coordinateOutOfRange (axis : Axis) (digits : String)
  | noCoordinateSeparator
  | trailingText (text : String)
  deriving Repr, DecidableEq

def ObjectLineError.message : ObjectLineError → String
  | .missingObject => "missing object id"
  | .emptyInstance => "empty instance id after `#`"
  | .noSeparator => "expected `@`, `:` or whitespace before the coordinates"
  | .missingCoordinate axis => "missing " ++ axis.name ++ " coordinate"
  | .coordinateOutOfRange axis digits =>
    axis.name ++ " coordinate " ++ quoted digits ++ " is out of range"
  | .noCoordinateSeparator => "expected `x`, `,` or whitespace between the coordinates"
  | .trailingText text => "unexpected trailing text " ++ quoted text

/-- Which coordinate of a door entry is refused. -/
inductive DoorError where
  | position
  | target
  deriving Repr, DecidableEq

def DoorError.message : DoorError → String
  | .position => "door coordinate is not `XxY`"
  | .target => "target coordinate is not `XxY`"

/-- Why a Tiled map is refused. -/
inductive TiledError where
  | unresolvedTileset (source : String)
  | notTileset (source : String)
  | gidOverflow (tile first : UInt32)
  | encoded (layer encoding : String)
  | notGids (layer : String)
  deriving Repr, DecidableEq

def TiledError.message : TiledError → String
  | .unresolvedTileset source =>
    "external tileset " ++ quoted source ++ " must be resolved by loading the map from a file"
  | .notTileset source => "tileset " ++ quoted source ++ " is not Tiled JSON"
  | .gidOverflow tile first =>
    "tile " ++ ofNatural tile.toNat ++ " with firstgid " ++ ofNatural first.toNat ++
      " overflows the gid range"
  | .encoded layer encoding =>
    "layer " ++ quoted layer ++ " uses " ++ quoted encoding ++
      " encoding; export with CSV/array data"
  | .notGids layer => "layer " ++ quoted layer ++ " data is not a gid array"

/-- Why a file cannot be read or written. -/
inductive FileError where
  | notFound
  | invalidData
  | isDirectory
  | notDirectory
  | alreadyExists
  /-- The path holds a character that no name may hold. -/
  | invalidName
  | nameTooLong
  | other
  deriving Repr, DecidableEq

/-- Why a map is refused. -/
inductive MapError where
  | conflictingSymbol (symbol existing requested : String)
  | unequalLayerWidth (layer : String) (row expected found : Nat)
  | mapTooLarge (size : Size)
  | unknownTileReference (layer : String) (row : Nat) (token : String)
  /-- The entry is counted within its section and the line within the text, both from one. -/
  | malformedObjectLine (section_ : String) (entry line : Nat) (content : String)
      (reason : ObjectLineError)
  | invalidDoorCoordinate (entry : String) (reason : DoorError)
  | malformedTileDefinition (line : Nat) (content : String)
  | invalidTiledMap (reason : TiledError)
  | file (path : String) (reason : FileError)
  /-- A JSON text that does not parse, or not as what it should hold. -/
  | json
  deriving Repr, DecidableEq

def MapError.message : MapError → String
  | .conflictingSymbol symbol existing requested =>
    "tile symbol " ++ quoted symbol ++ " is already bound to " ++ quoted existing ++
      ", cannot rebind it to " ++ quoted requested
  | .unequalLayerWidth layer row expected found =>
    "layer " ++ quoted layer ++ " row " ++ ofNatural row ++ " has " ++ ofNatural found ++
      " cells, expected " ++ ofNatural expected
  | .mapTooLarge size =>
    "map size " ++ ofNatural size.width.toNat ++ "x" ++ ofNatural size.height.toNat ++
      " exceeds the " ++ ofNatural Size.maxCells ++ " cell limit"
  | .unknownTileReference layer row token =>
    "layer " ++ quoted layer ++ " row " ++ ofNatural row ++ ": unknown tile reference " ++
      quoted token
  | .malformedObjectLine section_ entry line content reason =>
    "[" ++ section_ ++ "] object #" ++ ofNatural entry ++ " (line " ++ ofNatural line ++ "): " ++
      reason.message ++ " in " ++ quoted content
  | .invalidDoorCoordinate entry reason =>
    "invalid door entry " ++ quoted entry ++ ": " ++ reason.message
  | .malformedTileDefinition line content =>
    "malformed tile definition at line " ++ ofNatural line ++ ": " ++ quoted content
  | .invalidTiledMap reason => "invalid Tiled map: " ++ reason.message
  | .file path _ => "I/O error on " ++ path
  | .json => "JSON error"

def Size.check (s : Size) : Except MapError Unit :=
  if s.cells ≤ Size.maxCells then .ok () else .error (.mapTooLarge s)

end Tilemap
