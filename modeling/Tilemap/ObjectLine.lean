import Tilemap.IdAllocator
import Tilemap.Layer.Basic
import Tilemap.MapError
import Tilemap.Scanner
import Tilemap.Section

/-!
# Object lines

A section whose key starts with `objects` places one object per line:
`[-] [!] object[#instance] (@ | : | blank) X (x | , | blank) Y [| label]`. The dash is a bullet and
`!` makes the object solid.
-/

namespace Tilemap

open Text

/-- An object line as written. -/
structure ObjectLine where
  objectId : String
  instanceId : Option String
  solid : Bool
  position : Position
  label : Option String
  deriving Repr, DecidableEq

def isRefChar (c : Char) : Bool := c.isAlphanum || c = '_' || c = '.' || c = '-'

namespace ObjectLine

/-- Reads a coordinate: ASCII digits without a sign. -/
def readCoordinate (axis : Axis) (s : Scanner) : Except ObjectLineError (Int32 × Scanner) :=
  match s.digits with
  | ([], _) => .error (.missingCoordinate axis)
  | (digits, s) =>
    match int32? digits with
    | some n => .ok (n, s)
    | none => .error (.coordinateOutOfRange axis (String.ofList digits))

def readInstance (s : Scanner) : Except ObjectLineError (Option String × Scanner) :=
  match s.eat '#' with
  | (false, s) => .ok (none, s)
  | (true, s) =>
    match s.takeWhile isRefChar with
    | ([], _) => .error .emptyInstance
    | (instanceId, s) => .ok (some (String.ofList instanceId), s)

/-- Takes one of several characters if it is next. -/
def eatAny (cs : List Char) (s : Scanner) : Bool × Scanner :=
  match cs with
  | [] => (false, s)
  | c :: rest =>
    match s.eat c with
    | (true, s) => (true, s)
    | (false, s) => eatAny rest s

/-- Takes a separator with blanks around it, or blanks alone; whether there was either. -/
def eatSeparator (cs : List Char) (s : Scanner) : Bool × Scanner :=
  let (before, s) := s.skipBlanks
  let (eaten, s) := eatAny cs s
  let (after, s) := s.skipBlanks
  (before || eaten || after, s)

/-- Reads the label; nothing else may stand behind the coordinates. -/
def readLabel (s : Scanner) : Except ObjectLineError (Option String) :=
  let (_, s) := s.skipBlanks
  if s.atEnd then .ok none
  else match s.eat '|' with
    | (true, s) => .ok (nonBlank? (String.ofList s.rest))
    | (false, s) => .error (.trailingText (trimmed (String.ofList s.rest)))

def parse (text : String) : Except ObjectLineError ObjectLine := do
  let (_, s) := (Scanner.ofText text).skipBlanks
  let (bullet, s) := s.eat '-'
  let s := if bullet then s.skipBlanks.2 else s
  let (solid, s) := s.eat '!'
  let (_, s) := s.skipBlanks
  let (objectId, s) := s.takeWhile isRefChar
  if objectId = [] then throw .missingObject
  let (instanceId, s) ← readInstance s
  let (separated, s) := eatSeparator ['@', ':'] s
  if !separated then throw .noSeparator
  let (x, s) ← readCoordinate .x s
  let (separated, s) := eatSeparator ['x', 'X', ','] s
  if !separated then throw .noCoordinateSeparator
  let (y, s) ← readCoordinate .y s
  let label ← readLabel s
  return ⟨String.ofList objectId, instanceId, solid, ⟨x, y⟩, label⟩

/-- The object that a line places, with an id of its own. The metadata tell what was asked for when
the id differs from it. -/
def place (l : ObjectLine) (ids : IdAllocator) : ObjectPlacement × IdAllocator :=
  let requested := l.instanceId.getD l.objectId
  let (id, ids) := ids.allocate requested
  let metadata : Bag :=
    [("objectId", .string l.objectId), ("instanceId", .string id)] ++
      (if id ≠ requested then [("originalInstanceId", .string requested)] else [])
  ({ id
     name := l.label.getD id
     position := l.position
     size := .unit
     solid := l.solid
     objectId := some l.objectId
     metadata
     appearance := none
     interaction := none }, ids)

end ObjectLine

def placeLines (key : String) (ids : IdAllocator) :
    List ((Line × String) × Nat) → Except MapError (List ObjectPlacement × IdAllocator)
  | [] => .ok ([], ids)
  | ((line, code), entry) :: rest =>
    match ObjectLine.parse code with
    | .error reason => .error (.malformedObjectLine key entry line.number code reason)
    | .ok l => do
      let (object, ids) := l.place ids
      let (objects, ids) ← placeLines key ids rest
      return (object :: objects, ids)

/-- The object layers of numbered sections, in their order. -/
def compileObjectLayersFrom (ids : IdAllocator) :
    List (Section × Nat) → Except MapError (List ObjectLayer × IdAllocator)
  | [] => .ok ([], ids)
  | (s, order) :: rest => do
    let (objects, ids) ← placeLines s.key ids (s.codeLines.zipIdx 1)
    let (layers, ids) ← compileObjectLayersFrom ids rest
    return (⟨s.key, s.title, Int32.ofNat order, true, objects⟩ :: layers, ids)

def compileObjectLayers (ids : IdAllocator) (sections : List Section) :
    Except MapError (List ObjectLayer × IdAllocator) :=
  compileObjectLayersFrom ids sections.zipIdx

end Tilemap
