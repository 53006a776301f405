import Tilemap.SortedMap
import Tilemap.Template.Interaction

/-!
# Object templates

What all objects of a kind have in common. A template is read from a loose JSON object of which only
the id is needed. The templates of one load are kept by their ids.
-/

namespace Tilemap

/-- What objects of a kind have in common. -/
structure ObjectTemplate where
  id : String
  name : String
  description : String
  interaction : Option InteractionSpec
  behaviour : Option BehaviourSpec
  appearance : Option Appearance
  metadata : Bag
  /-- The file that the template was read from. -/
  source : Option String

/-- Why a template is refused. -/
inductive TemplateError where
  | notObject
  | noId
  | unreadable (path : String)
  | notJson (path : String)
  deriving Repr, DecidableEq

def TemplateError.message : TemplateError → String
  | .notObject => "template must be a JSON object"
  | .noId => "template has no valid `id`"
  | .unreadable path => "reading " ++ path
  | .notJson path => "parsing " ++ path

namespace ObjectTemplate

/-- Reads a template. Its interaction may be given by its behaviour and its behaviour by its
interaction. -/
def ofJson (j : Json) (source : Option String) : Except TemplateError ObjectTemplate :=
  match j.object? with
  | none => .error .notObject
  | some b =>
    match Json.cleanText? (b.get? "id") with
    | none => .error .noId
    | some id =>
      .ok {
        id
        name := (Json.cleanText? (b.get? "name")).getD id
        description := (Json.cleanText? (b.get? "description")).getD ""
        interaction :=
          ((b.get? "interaction").or (b.get? "behavior")).bind InteractionSpec.ofJson?
        behaviour :=
          ((b.get? "behavior").or ((b.get? "behaviour").or (b.get? "interaction"))).bind
            BehaviourSpec.ofJson?
        appearance := ((b.get? "appearance").or (b.get? "sprite")).bind Appearance.ofJson?
        metadata := ((b.get? "metadata").bind Json.object?).getD []
        source }

def toJson (t : ObjectTemplate) : Json :=
  .object
    [("id", .string t.id), ("name", .string t.name), ("description", .string t.description),
      ("interaction", Json.orNull InteractionSpec.toJson t.interaction),
      ("behaviour", Json.orNull BehaviourSpec.toJson t.behaviour),
      ("appearance", Json.orNull Appearance.toJson t.appearance),
      ("metadata", .object t.metadata)]

end ObjectTemplate

/-! ### Sets of templates -/

/-- Templates by their ids, and the directory that they were read from. -/
structure TemplateSet where
  directory : Option String
  templates : SortedMap ObjectTemplate

namespace TemplateSet

def empty : TemplateSet := ⟨none, .empty⟩

/-- The set of a list of templates; of two with the same id the later one counts. -/
def ofList (directory : Option String) (templates : List ObjectTemplate) : TemplateSet :=
  ⟨directory, SortedMap.ofList (templates.map fun t => (t.id, t))⟩

def get? (s : TemplateSet) (id : String) : Option ObjectTemplate := s.templates.get? id

def size (s : TemplateSet) : Nat := s.templates.entries.length

end TemplateSet

end Tilemap
