import Tilemap.Proofs.Interactions

/-!
# Objects with an interaction of their own

An object without a template, and without a behaviour of its own, does something if it has an
interaction. `own_interaction_bound` says what: it shows the description of the interaction. The
kind, the message and the metadata of the interaction are public, but they do not get into the
behaviour, so the behaviour follows the interaction (`Behaviour.Follows`) only if they are what an
interaction has that names none of them. `exists_lost_message` is a sign that does not show its
message.
-/

namespace Tilemap

open Text

/-! ### Statement -/

/-- The behaviour does what an interaction announces. -/
structure Behaviour.Follows (b : Behaviour) (i : Interaction) : Prop where
  kind : b.kind = i.kind
  title : b.title = i.title
  description : b.description = i.description
  message : b.message = i.message.getD i.description
  metadata : b.metadata = i.metadata.getD []

/-- The interaction announces no more than a title and a description. -/
structure Interaction.OnlyDescribes (i : Interaction) : Prop where
  kind : i.kind = defaultKind
  message : i.message.getD i.description = i.description
  metadata : i.metadata.getD [] = []

/-- The behaviour that shows a description. -/
def Behaviour.describing (title description : String) : Behaviour where
  kind := defaultKind
  title
  description
  message := description
  broadcast := false
  effects := []
  metadata := []

/-- What a player reads of a text: the token is replaced by his name. -/
def Player.reads (player : Player) (text : String) : String :=
  match playerToken.toList with
  | [] => text
  | c :: rest => String.ofList (replaceAll c rest player.displayName.toList text.toList)

/-- The object leaves it to its interaction what it does: it has no behaviour of its own, and the
set has no template for it. -/
structure ObjectPlacement.LeftTo (p : ObjectPlacement) (spec : InteractionSpec) (s : TemplateSet) :
    Prop where
  no_behaviour : p.ownBehaviour? = none
  no_template : p.template? s = none
  interaction : p.ownInteraction? = some spec

/-! ### Behaviours -/

theorem Behaviour.follows_describing_iff {i : Interaction} :
    (describing i.title i.description).Follows i ↔ i.OnlyDescribes := by
  constructor
  · rintro ⟨hkind, -, -, hmessage, hmetadata⟩
    exact ⟨hkind.symm, hmessage.symm, hmetadata.symm⟩
  · rintro ⟨hkind, hmessage, hmetadata⟩
    exact ⟨hkind.symm, rfl, rfl, hmessage.symm, hmetadata.symm⟩

/-- The message of such a behaviour is its description, trimmed unless it is blank. -/
theorem messageFor_describing (title description : String) (player : Player) :
    Outcome.messageFor (.describing title description) player =
      player.reads ((nonBlank? description).getD description) := rfl

namespace ObjectPlacement.LeftTo

variable {p : ObjectPlacement} {spec : InteractionSpec} {s : TemplateSet}

/-- An object left to itself shows the interaction that it spells out. -/
theorem interaction_bindTo (h : p.LeftTo spec s) : (p.bindTo s).publicView.interaction =
    InteractionSpec.resolve (some spec) (p.boundName none) (p.boundDescription none) := by
  change p.boundInteraction (p.template? s) = _
  rw [h.no_template]
  unfold boundInteraction
  rw [h.interaction]

/-- Its behaviour has the title and the description of that interaction and nothing else. -/
theorem behaviour_bindTo (h : p.LeftTo spec s) : (p.bindTo s).runtime.behaviour =
    some (.describing (p.bindTo s).publicView.interaction.title
      (p.bindTo s).publicView.interaction.description) := by
  change p.boundBehaviour? (p.template? s) = some (.describing
    (p.boundInteraction (p.template? s)).title (p.boundInteraction (p.template? s)).description)
  rw [h.no_template]
  unfold boundBehaviour?
  rw [h.no_behaviour, h.interaction]
  rfl

/-- Whoever interacts with it is answered with that title and that description. -/
theorem interact_eq (h : p.LeftTo spec s) {m : MapModel} (hp : m.object? p.id = some p)
    (player : Player) (action : String) :
    (m.bindTo s).interact p.id player action =
      .ofBehaviour m.id (p.bindTo s).publicView
        (.describing (p.bindTo s).publicView.interaction.title
          (p.bindTo s).publicView.interaction.description) player action := by
  rw [BoundMap.interact, object?_bindTo, hp, Option.map_some]
  simp only [h.behaviour_bindTo]
  rfl

end ObjectPlacement.LeftTo

/-! ### Main result -/

/-- What an object does that leaves it to its own interaction: it shows the description of the
public interaction, and its behaviour follows that interaction exactly if this announces no more. -/
theorem own_interaction_bound {p : ObjectPlacement} {spec : InteractionSpec} {s : TemplateSet}
    (h : p.LeftTo spec s) :
    ∃ i b, (p.bindTo s).publicView.interaction = i ∧ (p.bindTo s).runtime.behaviour = some b ∧
      i = InteractionSpec.resolve (some spec) (p.boundName none) (p.boundDescription none) ∧
      b = .describing i.title i.description ∧ (b.Follows i ↔ i.OnlyDescribes) ∧
      ∀ (m : MapModel) (player : Player) (action : String), m.object? p.id = some p →
        ((m.bindTo s).interact p.id player action).event.isSome ∧
        ((m.bindTo s).interact p.id player action).message =
          player.reads ((nonBlank? i.description).getD i.description) := by
  refine ⟨_, _, rfl, h.behaviour_bindTo, h.interaction_bindTo, rfl,
    Behaviour.follows_describing_iff, fun m player action hp => ?_⟩
  rw [h.interact_eq hp]
  exact ⟨rfl, messageFor_describing _ _ player⟩

/-- A sign with an interaction and nothing else of its own. -/
def signDocument (interaction : Bag) : Tiled.Document where
  width := 1
  height := 1
  tileWidth := none
  tileHeight := none
  layers :=
    [⟨none, none, "objectgroup", none, none, none, none, none, none,
      [⟨none, some "sign", none, none, 0, 0, [("interaction", .object interaction)]⟩], [], []⟩]
  tilesets := []
  properties := []

/-- Without templates an object is left to its interaction if it has one and no behaviour. -/
theorem ObjectPlacement.exists_leftTo {p : ObjectPlacement} (hbehaviour : p.ownBehaviour?.isNone)
    (hinteraction : p.ownInteraction?.isSome) : ∃ spec, p.LeftTo spec .empty := by
  have htemplate : p.template? .empty = none := by
    rw [template?]
    cases p.templateRef? <;> rfl
  obtain ⟨spec, hspec⟩ := Option.isSome_iff_exists.mp hinteraction
  exact ⟨spec, Option.isNone_iff_eq_none.mp hbehaviour, htemplate, hspec⟩

/-- The object of a sign is left to its interaction, of which the description and the message are
known. -/
theorem exists_sign {interaction : Bag} {description : String} {message : Option String}
    (h : ((signDocument interaction).toMap .default).toOption.map (fun m =>
      ((m.object? "sign").filter fun p => p.ownBehaviour?.isNone && p.ownInteraction?.isSome).map
        fun p => ((p.boundInteraction none).description, (p.boundInteraction none).message)) =
          some (some (description, message))) :
    ∃ m p spec, (signDocument interaction).toMap .default = .ok m ∧ m.object? p.id = some p ∧
      p.LeftTo spec .empty ∧ (p.bindTo .empty).publicView.interaction.description = description ∧
      (p.bindTo .empty).publicView.interaction.message = message := by
  obtain ⟨m, hm, h⟩ := exists_ok_of_toOption_map h
  obtain ⟨p, hp, h⟩ := Option.map_eq_some_iff.mp h
  obtain ⟨hp, hown⟩ := Option.filter_eq_some_iff.mp hp
  obtain ⟨hbehaviour, hinteraction⟩ := Bool.and_eq_true_iff.mp hown
  obtain ⟨spec, hleft⟩ := ObjectPlacement.exists_leftTo hbehaviour hinteraction
  obtain ⟨hdescription, hmessage⟩ := Prod.mk.inj h
  have hid : p.id = "sign" := by simpa using List.find?_some hp
  refine ⟨m, p, spec, hm, hid ▸ hp, hleft, ?_⟩
  change (p.boundInteraction (p.template? .empty)).description = _ ∧
    (p.boundInteraction (p.template? .empty)).message = _
  rw [hleft.no_template]
  exact ⟨hdescription, hmessage⟩

def greetingText : String := "Hola \x7bplayer\x7d"

/-- A sign with a description of its own, which greets the player by name. -/
theorem own_interaction_bound_sign :
    ∃ m p spec, (signDocument [("description", .string greetingText)]).toMap .default = .ok m ∧
      m.object? p.id = some p ∧ p.LeftTo spec .empty ∧
      ((m.bindTo .empty).interact p.id (.named "Ana") defaultAction).message = "Hola Ana" := by
  obtain ⟨m, p, spec, hm, hp, hleft, hdescription, -⟩ :=
    @exists_sign [("description", .string greetingText)] greetingText (some greetingText)
      (by decide +kernel)
  obtain ⟨i, b, rfl, -, -, -, -, hinteract⟩ := own_interaction_bound hleft
  refine ⟨m, p, spec, hm, hp, hleft, ?_⟩
  rw [(hinteract m (.named "Ana") defaultAction hp).2, hdescription]
  decide +kernel

/-- A sign announces a message, and shows an empty one. -/
theorem exists_lost_message :
    ∃ m p spec, (signDocument [("message", .string "Hola")]).toMap .default = .ok m ∧
      m.object? p.id = some p ∧ p.LeftTo spec .empty ∧
      (p.bindTo .empty).publicView.interaction.message = some "Hola" ∧
      (∀ b, (p.bindTo .empty).runtime.behaviour = some b →
        ¬ b.Follows (p.bindTo .empty).publicView.interaction) ∧
      ((m.bindTo .empty).interact p.id (.named "Ana") defaultAction).message = "" := by
  obtain ⟨m, p, spec, hm, hp, hleft, hdescription, hmessage⟩ :=
    @exists_sign [("message", .string "Hola")] "" (some "Hola") (by decide +kernel)
  refine ⟨m, p, spec, hm, hp, hleft, hmessage, ?_, ?_⟩
  · intro b hb hfollows
    obtain rfl := Option.some.inj (hb.symm.trans hleft.behaviour_bindTo)
    have hlost := (Behaviour.follows_describing_iff.mp hfollows).message
    rw [hmessage, hdescription] at hlost
    exact absurd hlost (by decide)
  · rw [hleft.interact_eq hp, hdescription]
    change Outcome.messageFor (.describing _ "") _ = ""
    rw [messageFor_describing]
    decide +kernel

end Tilemap
