import Tilemap.MapModel.Json
import Tilemap.Template.Basic

/-!
# Binding objects to templates

Every object of a map takes from its template what it does not say itself. What players may know of
it is its public view; what it does when they turn to it stays in its runtime record.

The first that is there counts, as a whole:
* appearance: the object's field, its metadata, the template's;
* name: the object's, the template's, the object's id;
* description: the object's metadata, the template's;
* interaction: the object's field, its metadata, the template's;
* behaviour: the object's metadata, the template's, or else one that follows the interaction.
-/

namespace Tilemap

/-- What players may know of an object. -/
structure PublicObject where
  id : String
  name : String
  description : String
  solid : Bool
  position : Position
  size : Size
  metadata : Bag
  objectId : Option String
  appearance : Option Appearance
  interaction : Interaction

/-- What only the server knows of an object. -/
structure RuntimeRecord where
  definitionId : Option String
  /-- What the object does, if it does anything. -/
  behaviour : Option Behaviour
  /-- The metadata of the template. -/
  metadata : Bag

/-- An object with its template. -/
structure BoundObject where
  publicView : PublicObject
  runtime : RuntimeRecord

/-- A map with its objects bound to one set of templates. -/
structure BoundMap where
  map : MapModel
  objects : List BoundObject

/-! ### Templates -/

namespace ObjectTemplate

/-- The interaction of a template, filled from its name and description. -/
def resolvedInteraction (t : ObjectTemplate) : Interaction :=
  InteractionSpec.resolve t.interaction t.name t.description

/-- The behaviour of a template, filled from its name and its description or, without one, that of
its interaction. -/
def resolvedBehaviour (t : ObjectTemplate) : Behaviour :=
  BehaviourSpec.resolve t.behaviour t.name
    (if t.description = "" then t.resolvedInteraction.description else t.description)

end ObjectTemplate

/-! ### Objects -/

namespace ObjectPlacement

/-- The template that the object refers to, if the set has it. -/
def template? (p : ObjectPlacement) (s : TemplateSet) : Option ObjectTemplate :=
  p.templateRef?.bind s.get?

/-- The appearance of the object. -/
def boundAppearance? (p : ObjectPlacement) (t : Option ObjectTemplate) : Option Appearance :=
  p.appearance.or (((p.metadata.get? "appearance").bind Appearance.ofJson?).or
    (t.bind (·.appearance)))

def boundName (p : ObjectPlacement) (t : Option ObjectTemplate) : String :=
  ((Text.nonBlank? p.name).or (t.map (·.name))).getD p.id

def boundDescription (p : ObjectPlacement) (t : Option ObjectTemplate) : String :=
  ((Json.cleanText? (p.metadata.get? "description")).or (t.map (·.description))).getD ""

/-- The interaction that the object itself specifies. -/
def ownInteraction? (p : ObjectPlacement) : Option InteractionSpec :=
  p.interaction.or ((p.metadata.get? "interaction").bind InteractionSpec.ofJson?)

/-- The behaviour that the object itself specifies. -/
def ownBehaviour? (p : ObjectPlacement) : Option BehaviourSpec :=
  ((p.metadata.get? "behaviour").or (p.metadata.get? "behavior")).bind BehaviourSpec.ofJson?

def boundInteraction (p : ObjectPlacement) (t : Option ObjectTemplate) : Interaction :=
  match p.ownInteraction?, t with
  | none, some t => t.resolvedInteraction
  | own, _ => InteractionSpec.resolve own (p.boundName t) (p.boundDescription t)

/-- The behaviour of the object. Without a template it does something only if it specifies its
behaviour or its interaction. -/
def boundBehaviour? (p : ObjectPlacement) (t : Option ObjectTemplate) : Option Behaviour :=
  let i := p.boundInteraction t
  match p.ownBehaviour?, t with
  | some own, _ => some (BehaviourSpec.resolve (some own) i.title i.description)
  | none, some t => some t.resolvedBehaviour
  | none, none =>
    if p.ownInteraction?.isSome then some (BehaviourSpec.resolve none i.title i.description)
    else none

/-- The metadata of the template, over it those of the object, and over both the reference to the
template. -/
def boundMetadata (p : ObjectPlacement) (t : Option ObjectTemplate) : Bag :=
  let merged := Bag.merge ((t.map (·.metadata)).getD []) p.metadata
  match p.templateRef? with
  | some reference => merged.put "objectId" (.string reference)
  | none => merged

/-- The object with its template. -/
def bindTo (p : ObjectPlacement) (s : TemplateSet) : BoundObject :=
  let reference := p.templateRef?
  let t := p.template? s
  { publicView := {
      id := p.id
      name := p.boundName t
      description := p.boundDescription t
      solid := p.solid
      position := p.position
      size := p.size
      metadata := p.boundMetadata t
      objectId := reference.or (t.map (·.id))
      appearance := p.boundAppearance? t
      interaction := p.boundInteraction t }
    runtime := {
      definitionId := (t.map (·.id)).or reference
      behaviour := p.boundBehaviour? t
      metadata := (t.map (·.metadata)).getD [] } }

end ObjectPlacement

/-! ### Maps -/

def MapModel.bindTo (m : MapModel) (s : TemplateSet) : BoundMap := ⟨m, m.objects.map (·.bindTo s)⟩

def BoundMap.object? (b : BoundMap) (id : String) : Option BoundObject :=
  b.objects.find? (·.publicView.id = id)

/-! ### As JSON -/

def PublicObject.toJson (o : PublicObject) : Json :=
  .object <|
    [("id", .string o.id), ("name", .string o.name), ("description", .string o.description),
      ("solid", .bool o.solid), ("position", o.position.toJson), ("size", o.size.toJson),
      ("metadata", .object o.metadata), ("objectId", Json.orNull .string o.objectId)] ++
    Json.optional "appearance" Appearance.toJson o.appearance ++
    [("interaction", o.interaction.toJson)]

def RuntimeRecord.toJson (r : RuntimeRecord) : Json :=
  .object
    [("definitionId", Json.orNull .string r.definitionId),
      ("behaviour", Json.orNull Behaviour.toJson r.behaviour), ("metadata", .object r.metadata)]

def BoundObject.toJson (o : BoundObject) : Json :=
  .object [("public", o.publicView.toJson), ("runtime", o.runtime.toJson)]

/-- The map as players may know it: its objects are their public views, and all floats have 64
bits. -/
def BoundMap.publicView (b : BoundMap) : Json :=
  match b.map.toJson with
  | .object entries =>
    Json.widen (.object (Bag.put entries "objects"
      (.array (b.objects.map (·.publicView.toJson)))))
  | j => j

end Tilemap
