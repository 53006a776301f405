import Tilemap.Spelling
import Tilemap.Template.Appearance

/-!
# Interactions and behaviours

An interaction is what a player is shown when he turns to an object, and a behaviour what the object
does then. A behaviour is not shown to players beforehand: the effects and whether others are told
stay with the server. An author may leave out any part; `resolve` fills the parts that are missing
from the name and the description of the object.
-/

namespace Tilemap

/-! ### Interactions -/

/-- An interaction as an author specifies it. -/
structure InteractionSpec where
  kind : Option String
  title : Option String
  description : Option String
  message : Option String
  icon : Option String
  animation : Option String
  metadata : Option Bag

/-- An interaction with every part that is shown. -/
structure Interaction where
  kind : String
  title : String
  description : String
  message : Option String
  icon : Option String
  animation : Option String
  metadata : Option Bag

def defaultKind : String := "message"

namespace InteractionSpec

def empty : InteractionSpec := ⟨none, none, none, none, none, none, none⟩

def ofJson? (j : Json) : Option InteractionSpec := do
  let b ← j.object?
  return {
    kind := Json.cleanText? (b.get? "type")
    title := Json.cleanText? (b.get? "title")
    description := Json.cleanText? (b.get? "description")
    message := (Json.cleanText? (b.get? "message")).or (Json.cleanText? (b.get? "text"))
    icon := Json.cleanText? (b.get? "icon")
    animation := Json.cleanText? (b.get? "animation")
    metadata := (b.get? "metadata").bind Json.object? }

/-- Fills the missing parts. The message falls back to the description, and an empty one is none. -/
def resolve (spec : Option InteractionSpec) (title description : String) : Interaction :=
  let spec := spec.getD empty
  let description := spec.description.getD description
  { kind := spec.kind.getD defaultKind
    title := spec.title.getD title
    description
    message := (some (spec.message.getD description)).filter (· ≠ "")
    icon := spec.icon
    animation := spec.animation
    metadata := spec.metadata }

/-- The parts that are there, as the entries of an object. -/
def entries (spec : InteractionSpec) : Bag :=
  Json.optional "type" .string spec.kind ++ Json.optional "title" .string spec.title ++
    Json.optional "description" .string spec.description ++
    Json.optional "message" .string spec.message ++ Json.optional "icon" .string spec.icon ++
    Json.optional "animation" .string spec.animation ++
    Json.optional "metadata" .object spec.metadata

def toJson (spec : InteractionSpec) : Json := .object spec.entries

/-- Reads a specification as it is written; the message may also stand under `text`. -/
def decode : Json.Decoder InteractionSpec := fun depth r => do
  let f ← Json.Fields.of? [["type"], ["title"], ["description"], ["message", "text"], ["icon"],
    ["animation"], ["metadata"]] depth r
  return {
    kind := ← f.optional "type" .string
    title := ← f.optional "title" .string
    description := ← f.optional "description" .string
    message := ← f.optional "message" .string
    icon := ← f.optional "icon" .string
    animation := ← f.optional "animation" .string
    metadata := ← f.optional "metadata" .bag }

end InteractionSpec

def Interaction.toJson (i : Interaction) : Json :=
  .object <|
    [("type", .string i.kind), ("title", .string i.title),
      ("description", .string i.description)] ++
    Json.optional "message" .string i.message ++ Json.optional "icon" .string i.icon ++
    Json.optional "animation" .string i.animation ++ Json.optional "metadata" .object i.metadata

/-! ### Behaviours -/

/-- A behaviour as an author specifies it. -/
structure BehaviourSpec where
  interaction : InteractionSpec
  broadcast : Bool
  effects : List Json

/-- A behaviour with every part. -/
structure Behaviour where
  kind : String
  title : String
  description : String
  message : String
  broadcast : Bool
  effects : List Json
  metadata : Bag

namespace BehaviourSpec

def ofJson? (j : Json) : Option BehaviourSpec := do
  let interaction ← InteractionSpec.ofJson? j
  return {
    interaction
    broadcast := ((j.get? "broadcast").map Json.isTruthy).getD false
    effects := ((j.get? "effects").bind Json.array?).getD [] }

/-- Fills the missing parts. Without a specification the message is the description. -/
def resolve (spec : Option BehaviourSpec) (title description : String) : Behaviour :=
  match spec with
  | none =>
    { kind := defaultKind, title, description, message := description, broadcast := false
      effects := [], metadata := [] }
  | some spec =>
    let i := InteractionSpec.resolve (some spec.interaction) title description
    { kind := i.kind
      title := i.title
      description := i.description
      message := i.message.getD i.description
      broadcast := spec.broadcast
      effects := spec.effects
      metadata := i.metadata.getD [] }

/-- A specification as an object: the parts of its interaction and then its own. -/
def toJson (spec : BehaviourSpec) : Json :=
  .object <| spec.interaction.entries ++
    [("broadcast", .bool spec.broadcast), ("effects", .array spec.effects)]

end BehaviourSpec

def Behaviour.toJson (b : Behaviour) : Json :=
  .object
    [("type", .string b.kind), ("title", .string b.title), ("description", .string b.description),
      ("message", .string b.message), ("broadcast", .bool b.broadcast),
      ("effects", .array b.effects), ("metadata", .object b.metadata)]

end Tilemap
