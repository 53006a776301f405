import Tilemap.Geometry
import Tilemap.IdAllocator
import Tilemap.Layer.Basic
import Tilemap.MapError

/-!
# Doors

A door leads out of a map or into it. The head of a map lists doors as entries such as
`1x0->lobby@2x2`: the position, and behind an arrow or a colon the map and the position that the
door leads to. A door that leads out is also an object.
-/

namespace Tilemap

open Text

/-- Whether a door leads into the map or out of it. -/
inductive DoorKind where
  | inbound
  | outbound
  deriving Repr, DecidableEq

def DoorKind.name : DoorKind → String
  | .inbound => "in"
  | .outbound => "out"

def DoorKind.ofName? (s : String) : Option DoorKind :=
  match s with
  | "in" => some .inbound
  | "out" => some .outbound
  | _ => none

/-- A door of a map. -/
structure Door where
  id : String
  kind : DoorKind
  position : Position
  targetMap : Option String
  targetPosition : Option Position
  deriving Repr, DecidableEq

def doorTemplateId : String := "community_door"

/-! ### Entries -/

/-- A door as an author writes it. -/
structure DoorEntry where
  position : Position
  targetMap : Option String
  targetPosition : Option Position
  deriving Repr, DecidableEq

/-- The entries of a list, which are separated by semicolons, commas or line breaks. -/
def splitDoorEntries (text : String) : List String :=
  (pieces (fun c => c = ';' || c = ',' || c = '\n') text.toList).filterMap fun s =>
    nonBlank? (String.ofList s)

namespace DoorEntry

/-- Reads what stands behind the arrow: `map`, `map@XxY` or `@XxY`. -/
def readTarget (s : List Char) : Except DoorError (Option String × Option Position) :=
  match cut? ['@'] (trim s) with
  | none => .ok (nonBlank? (String.ofList s), none)
  | some (map, target) =>
    let map := nonBlank? (String.ofList map)
    if trim target = [] then .ok (map, none)
    else match Position.parse? (String.ofList target) with
      | some p => .ok (map, some p)
      | none => .error .target

def parse (entry : String) : Except MapError DoorEntry :=
  let s := entry.toList
  let (coordinate, rest) := ((cut? ['-', '>'] s).or (cut? [':'] s)).getD (s, [])
  match Position.parse? (String.ofList coordinate) with
  | none => .error (.invalidDoorCoordinate entry .position)
  | some position =>
    match readTarget rest with
    | .ok (targetMap, targetPosition) => .ok ⟨position, targetMap, targetPosition⟩
    | .error reason => .error (.invalidDoorCoordinate entry reason)

end DoorEntry

/-- The entries of the doors that lead out: a list, or else a single position in the older form,
which is ignored if it cannot be read. -/
def outboundEntries (doorOut doorPosition : Option String) : List String :=
  match doorOut with
  | some list => splitDoorEntries list
  | none => ((doorPosition.bind Position.parse?).map Position.text).toList

/-! ### Building -/

def Position.toJson (p : Position) : Json := .object [("x", .ofInt32 p.x), ("y", .ofInt32 p.y)]

def Door.place (d : Door) (label : String) : ObjectPlacement where
  id := d.id
  name := label
  position := d.position
  size := .unit
  solid := false
  objectId := some doorTemplateId
  metadata :=
    [("type", .string "door"), ("objectId", .string doorTemplateId), ("instanceId", .string d.id),
      ("doorKind", .string d.kind.name)] ++
    Json.optional "targetMap" .string d.targetMap ++
    Json.optional "targetPosition" Position.toJson d.targetPosition
  appearance := none
  interaction := none

/-- The label of an outbound door, by its number and how many there are. -/
def doorLabel (count number : Nat) : String :=
  if 1 < count then "Acceso " ++ ofNatural number else "Acceso principal"

/-- The doors of one kind, one for each entry. -/
def buildDoorsOf (kind : DoorKind) (mapId : String) (ids : IdAllocator) :
    List String → Except MapError (List Door × IdAllocator)
  | [] => .ok ([], ids)
  | entry :: rest => do
    let e ← DoorEntry.parse entry
    let (id, ids) := ids.allocate (mapId ++ "-door-" ++ kind.name)
    let (doors, ids) ← buildDoorsOf kind mapId ids rest
    return (⟨id, kind, e.position, e.targetMap, e.targetPosition⟩ :: doors, ids)

def doorPlacements (outbound : List Door) : List ObjectPlacement :=
  (outbound.zipIdx 1).map fun (d, number) => d.place (doorLabel outbound.length number)

/-- The doors of a map, the outbound ones first, and the objects of the outbound ones. -/
def buildDoors (outbound inbound : List String) (mapId : String) (ids : IdAllocator) :
    Except MapError ((List Door × List ObjectPlacement) × IdAllocator) := do
  let (outDoors, ids) ← buildDoorsOf .outbound mapId ids outbound
  let (inDoors, ids) ← buildDoorsOf .inbound mapId ids inbound
  return ((outDoors ++ inDoors, doorPlacements outDoors), ids)

end Tilemap
