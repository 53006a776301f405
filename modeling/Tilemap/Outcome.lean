import Tilemap.Binding

/-!
# Outcomes

What happens when a player turns to an object of a map.
-/

namespace Tilemap

open Text

/-- Who turns to an object. -/
structure Player where
  nickname : Option String
  name : Option String
  deriving Repr, DecidableEq

namespace Player

def unknown : Player := ⟨none, none⟩

def named (name : String) : Player := ⟨none, some name⟩

def defaultName : String := "Explorador"

/-- The nickname, or else the name, unless they are blank. -/
def displayName (p : Player) : String :=
  ((p.nickname.bind nonBlank?).or (p.name.bind nonBlank?)).getD defaultName

end Player

/-- What is told of an interaction that took place. -/
structure InteractionEvent where
  kind : String
  title : String
  description : String
  message : String
  objectId : String
  objectName : String
  mapId : String
  action : String
  metadata : Bag

/-- What comes of an interaction. -/
structure Outcome where
  /-- What took place, if anything did. -/
  event : Option InteractionEvent
  broadcast : Bool
  effects : List Json
  message : String

def defaultAction : String := "interact"

/-- What a message says in place of the name of the player. -/
def playerToken : String := "\x7bplayer\x7d"

namespace Outcome

def failed (message : String) : Outcome := ⟨none, false, [], message⟩

def unavailable : Outcome := failed "El objeto no está disponible."

def unresponsive : Outcome := failed "El objeto no responde."

/-- A text, or another in place of an empty one. -/
def orElse (text other : String) : String := if text = "" then other else text

/-- What an object with a behaviour says to a player. -/
def messageFor (b : Behaviour) (player : Player) : String :=
  let text := (nonBlank? b.message).getD b.description
  match playerToken.toList with
  | [] => text
  | c :: rest => String.ofList (replaceAll c rest player.displayName.toList text.toList)

/-- What comes of an object with a behaviour. -/
def ofBehaviour (mapId : String) (o : PublicObject) (b : Behaviour) (player : Player)
    (action : String) : Outcome :=
  let message := messageFor b player
  { event := some {
      kind := orElse b.kind defaultKind
      title := orElse b.title o.name
      description := orElse b.description message
      message
      objectId := o.id
      objectName := o.name
      mapId
      action := orElse action defaultAction
      metadata := Bag.merge b.metadata o.metadata }
    broadcast := b.broadcast
    effects := b.effects
    message }

end Outcome

/-- What comes of a player's action on an object. -/
def BoundMap.interact (m : BoundMap) (objectId : String) (player : Player) (action : String) :
    Outcome :=
  match m.object? objectId with
  | none => .unavailable
  | some o =>
    match o.runtime.behaviour with
    | none => .unresponsive
    | some b => .ofBehaviour m.map.id o.publicView b player action

/-! ### As JSON -/

def InteractionEvent.toJson (e : InteractionEvent) : Json :=
  .object
    [("type", .string e.kind), ("title", .string e.title), ("description", .string e.description),
      ("message", .string e.message), ("objectId", .string e.objectId),
      ("objectName", .string e.objectName), ("mapId", .string e.mapId),
      ("action", .string e.action), ("metadata", .object e.metadata)]

def Outcome.toJson (o : Outcome) : Json :=
  .object <|
    ("ok", .bool o.event.isSome) :: Json.optional "event" InteractionEvent.toJson o.event ++
    [("broadcast", .bool o.broadcast), ("effects", .array o.effects),
      ("message", .string o.message)]

end Tilemap
