import Tilemap.Outcome
import Tilemap.Proofs.DoorsAndObjects
import Tilemap.Proofs.Text.Trimming

/-!
# Interactions with the objects of a map text

The objects of a map text do what their templates say: no line and no door gives an object a
behaviour, an interaction or anything else that would come before its template
(`ObjectPlacement.IsPlain`). `interact_compile` says what follows for players. An interaction takes
place exactly with the objects whose templates are loaded, and it has the effects of the template.
-/

namespace Tilemap

open Text

/-! ### Statement -/

/-- The keys of metadata that come before a part of a template. -/
def overrideKeys : List String :=
  ["appearance", "description", "interaction", "behaviour", "behavior"]

/-- The object refers to a template by a text without blanks at its ends, and has nothing that would
come before a part of it. -/
structure ObjectPlacement.IsPlain (p : ObjectPlacement) : Prop where
  reference : ∃ id, p.objectId = some id ∧ nonBlank? id = some id
  appearance : p.appearance = none
  interaction : p.interaction = none
  metadata : ∀ key ∈ overrideKeys, p.metadata.get? key = none

/-- The template of the object, if there is one under the id that the object gives. -/
def ObjectPlacement.loaded? (p : ObjectPlacement) (s : TemplateSet) : Option ObjectTemplate :=
  p.objectId.bind s.get?

def ObjectTemplate.broadcasts (t : ObjectTemplate) : Bool :=
  (t.behaviour.map (·.broadcast)).getD false

def ObjectTemplate.effects (t : ObjectTemplate) : List Json :=
  (t.behaviour.map (·.effects)).getD []

/-! ### Object lines -/

theorem not_blank_of_isRefChar {c : Char} (h : isRefChar c) : ¬ isBlank c := by
  intro hblank
  have hnot : isRefChar c = false := by
    simpa using @of_blank (!isRefChar ·) (by decide) c hblank
  rw [hnot] at h
  cases h

/-- The id that an object line refers to is a run of id characters. -/
theorem objectId_of_parse {text : String} {l : ObjectLine} (h : ObjectLine.parse text = .ok l) :
    l.objectId.toList ≠ [] ∧ ∀ c ∈ l.objectId.toList, isRefChar c := by
  rw [ObjectLine.parse] at h
  simp only [guard_eq_ok, bind_eq_ok, pure_eq_ok] at h
  obtain ⟨hne, _, -, -, _, -, -, _, -, _, -, rfl⟩ := h
  rw [String.toList_ofList]
  exact ⟨hne, fun c hc => List.mem_takeWhile_imp hc⟩

namespace ObjectPlacement.IsPlain

/-- An object of a map text has nothing of its own to say. -/
theorem place_line {text : String} {l : ObjectLine} (h : ObjectLine.parse text = .ok l)
    (ids : IdAllocator) : (l.place ids).1.IsPlain where
  reference := by
    obtain ⟨hne, hchars⟩ := objectId_of_parse h
    exact ⟨l.objectId, rfl,
      nonBlank?_of_not_blank hne fun c hc => not_blank_of_isRefChar (hchars c hc)⟩
  appearance := rfl
  interaction := rfl
  metadata := by
    simp only [overrideKeys, ObjectLine.place, Bag.get?]
    split <;> simp [List.lookup_cons]

theorem place_door (d : Door) (label : String) : (d.place label).IsPlain where
  reference := ⟨doorTemplateId, rfl, by decide⟩
  appearance := rfl
  interaction := rfl
  metadata := by
    simp only [overrideKeys, Door.place, Bag.get?]
    cases d.targetMap <;> cases d.targetPosition <;> simp [Json.optional, List.lookup_cons]

end ObjectPlacement.IsPlain

theorem isPlain_of_placeLines {key : String} {a b : IdAllocator}
    {lines : List ((Line × String) × Nat)} {objects : List ObjectPlacement}
    (h : placeLines key a lines = .ok (objects, b)) : ∀ p ∈ objects, p.IsPlain := by
  induction lines generalizing a b objects with
  | nil =>
    obtain ⟨rfl, -⟩ : [] = objects ∧ a = b := by simpa [placeLines] using h
    simp
  | cons numbered rest ih =>
    obtain ⟨⟨line, code⟩, entry⟩ := numbered
    unfold placeLines at h
    split at h
    · simp at h
    · rename_i l hparse
      simp only [bind_eq_ok, pure_eq_ok, Prod.mk.injEq] at h
      obtain ⟨⟨objects', c⟩, hrest, rfl, -⟩ := h
      intro p hp
      rcases List.mem_cons.mp hp with rfl | hp
      · exact .place_line hparse a
      · exact ih hrest p hp

theorem isPlain_of_compileObjectLayersFrom {a b : IdAllocator} {sections : List (Section × Nat)}
    {layers : List ObjectLayer} (h : compileObjectLayersFrom a sections = .ok (layers, b)) :
    ∀ l ∈ layers, ∀ p ∈ l.objects, p.IsPlain := by
  induction sections generalizing a b layers with
  | nil =>
    obtain ⟨rfl, -⟩ : [] = layers ∧ a = b := by simpa [compileObjectLayersFrom] using h
    simp
  | cons numbered rest ih =>
    obtain ⟨s, order⟩ := numbered
    simp only [compileObjectLayersFrom, bind_eq_ok, pure_eq_ok, Prod.mk.injEq] at h
    obtain ⟨⟨objects, c⟩, hlines, ⟨layers', c'⟩, hrest, rfl, -⟩ := h
    intro l hl
    rcases List.mem_cons.mp hl with rfl | hl
    · exact isPlain_of_placeLines hlines
    · exact ih hrest l hl

/-- All objects of a map text are plain. -/
theorem isPlain_of_compile {text : String} {options : CompileOptions} {m : MapModel}
    (h : compile text options = .ok m) : ∀ p ∈ m.objects, p.IsPlain := by
  obtain ⟨tiles, layers, doors, doorObjects, ids, objectLayers, ids', -, -, hdoors, hlayers, hm⟩ :=
    compile_eq_ok h
  obtain ⟨-, rfl⟩ := MapParts.assemble_eq_ok_iff.mp hm
  obtain ⟨-, outDoors, inDoors, -, rfl, -, -⟩ := issues_buildDoors hdoors
  intro p hp
  rw [MapParts.completed_objects, textParts] at hp
  rcases List.mem_append.mp hp with hp | hp
  · obtain ⟨⟨d, number⟩, -, rfl⟩ := List.mem_map.mp hp
    exact .place_door d _
  · obtain ⟨l, hl, hp⟩ := List.mem_flatMap.mp hp
    exact isPlain_of_compileObjectLayersFrom hlayers l hl p hp

/-! ### Binding -/

namespace ObjectPlacement.IsPlain

variable {p : ObjectPlacement}

theorem templateRef?_eq (h : p.IsPlain) : p.templateRef? = p.objectId := by
  obtain ⟨id, hid, hclean⟩ := h.reference
  rw [templateRef?, hid, Option.bind_some, hclean, Option.some_or]

theorem template?_eq (h : p.IsPlain) (s : TemplateSet) : p.template? s = p.loaded? s := by
  rw [template?, h.templateRef?_eq, loaded?]

theorem ownInteraction?_eq (h : p.IsPlain) : p.ownInteraction? = none := by
  rw [ownInteraction?, h.interaction, h.metadata "interaction" (by decide)]
  rfl

theorem ownBehaviour?_eq (h : p.IsPlain) : p.ownBehaviour? = none := by
  rw [ownBehaviour?, h.metadata "behaviour" (by decide), h.metadata "behavior" (by decide)]
  rfl

/-- A plain object does what its template says, and nothing without one. -/
theorem behaviour_eq (h : p.IsPlain) (s : TemplateSet) :
    (p.bindTo s).runtime.behaviour = (p.loaded? s).map (·.resolvedBehaviour) := by
  change p.boundBehaviour? (p.template? s) = _
  rw [h.template?_eq]
  unfold boundBehaviour?
  rw [h.ownBehaviour?_eq]
  cases p.loaded? s with
  | none => simp [h.ownInteraction?_eq]
  | some t => rfl

end ObjectPlacement.IsPlain

theorem broadcast_resolvedBehaviour (t : ObjectTemplate) :
    t.resolvedBehaviour.broadcast = t.broadcasts := by
  rw [ObjectTemplate.resolvedBehaviour, ObjectTemplate.broadcasts]
  cases t.behaviour <;> rfl

theorem effects_resolvedBehaviour (t : ObjectTemplate) :
    t.resolvedBehaviour.effects = t.effects := by
  rw [ObjectTemplate.resolvedBehaviour, ObjectTemplate.effects]
  cases t.behaviour <;> rfl

/-! ### Interactions -/

/-- An object is found by the same id before and after binding. -/
theorem object?_bindTo (m : MapModel) (s : TemplateSet) (id : String) :
    (m.bindTo s).object? id = (m.object? id).map (·.bindTo s) := by
  rw [BoundMap.object?, MapModel.bindTo, List.find?_map]
  rfl

/-- An interaction with a plain object is up to its template. -/
theorem interact_of_isPlain {m : MapModel} {p : ObjectPlacement} (hplain : p.IsPlain)
    (hp : m.object? p.id = some p) (s : TemplateSet) (player : Player) (action : String) :
    (m.bindTo s).interact p.id player action =
      match p.loaded? s with
      | none => .unresponsive
      | some t => .ofBehaviour m.id (p.bindTo s).publicView t.resolvedBehaviour player action := by
  rw [BoundMap.interact, object?_bindTo, hp, Option.map_some]
  simp only [hplain.behaviour_eq]
  cases p.loaded? s <;> rfl

section Compiled

variable {text : String} {options : CompileOptions} {m : MapModel}

/-- Ids are unique, so each object is found by its id. -/
theorem object?_of_compile (h : compile text options = .ok m) {p : ObjectPlacement}
    (hp : p ∈ m.objects) : m.object? p.id = some p :=
  find?_eq_some_of_nodup (doorsAgree_of_compile h).objects_nodup hp

/-- An object whose template is loaded answers with the behaviour of the template. -/
theorem interact_of_loaded (h : compile text options = .ok m) {s : TemplateSet}
    {p : ObjectPlacement} {t : ObjectTemplate} (hp : p ∈ m.objects) (ht : p.loaded? s = some t)
    (player : Player) (action : String) :
    (m.bindTo s).interact p.id player action =
      .ofBehaviour m.id (p.bindTo s).publicView t.resolvedBehaviour player action := by
  rw [interact_of_isPlain (isPlain_of_compile h p hp) (object?_of_compile h hp), ht]

/-- Without an object whose template is loaded, nothing takes place. -/
theorem interact_of_not_loaded (h : compile text options = .ok m) {s : TemplateSet} {id : String}
    (hnone : ∀ p ∈ m.objects, p.id = id → p.loaded? s = none) (player : Player)
    (action : String) :
    ∃ message, (m.bindTo s).interact id player action = .failed message := by
  cases hobject : m.object? id with
  | none =>
    rw [BoundMap.interact, object?_bindTo, hobject]
    exact ⟨_, rfl⟩
  | some p =>
    have hp : p ∈ m.objects := List.mem_of_find?_eq_some hobject
    obtain rfl : p.id = id := by simpa using List.find?_some hobject
    rw [interact_of_isPlain (isPlain_of_compile h p hp) hobject, hnone p hp rfl]
    exact ⟨_, rfl⟩

/-- What comes of an interaction with an object of a map text. It takes place exactly if there is
an object with the id whose template is loaded, and then it is told to others and has effects as the
template says. Otherwise nothing happens. -/
theorem interact_compile (h : compile text options = .ok m) (s : TemplateSet) (id : String)
    (player : Player) (action : String) :
    (((m.bindTo s).interact id player action).event.isSome ↔
      ∃ p ∈ m.objects, p.id = id ∧ (p.loaded? s).isSome) ∧
    (∀ e, ((m.bindTo s).interact id player action).event = some e →
      e.objectId = id ∧ e.mapId = m.id ∧
        ∃ p ∈ m.objects, p.id = id ∧ ∃ t, p.loaded? s = some t ∧
          ((m.bindTo s).interact id player action).broadcast = t.broadcasts ∧
          ((m.bindTo s).interact id player action).effects = t.effects) ∧
    (((m.bindTo s).interact id player action).event = none →
      ((m.bindTo s).interact id player action).broadcast = false ∧
        ((m.bindTo s).interact id player action).effects = []) := by
  by_cases hloaded : ∃ p ∈ m.objects, p.id = id ∧ (p.loaded? s).isSome
  · have hsome := hloaded
    obtain ⟨p, hp, rfl, ht⟩ := hloaded
    obtain ⟨t, ht⟩ := Option.isSome_iff_exists.mp ht
    rw [interact_of_loaded h hp ht]
    refine ⟨iff_of_true rfl hsome, ?_, ?_⟩
    · intro e he
      obtain rfl := Option.some.inj he
      exact ⟨rfl, rfl, p, hp, rfl, t, ht, broadcast_resolvedBehaviour t,
        effects_resolvedBehaviour t⟩
    · intro hnone
      cases hnone
  · have hnone : ∀ p ∈ m.objects, p.id = id → p.loaded? s = none := by
      intro p hp hid
      rw [← Option.not_isSome_iff_eq_none]
      intro hsome
      exact hloaded ⟨p, hp, hid, hsome⟩
    obtain ⟨message, hfailed⟩ := interact_of_not_loaded h hnone player action
    rw [hfailed]
    refine ⟨iff_of_false Bool.false_ne_true hloaded, ?_, fun _ => ⟨rfl, rfl⟩⟩
    intro e he
    cases he

end Compiled

/-- Two lamps and a rock, with a template for the lamps only. -/
def porchText : String := "id: porch\n[Objects]\nlamp@1x1\nlamp@2x1\nrock@1x2"

/-- The template of a lamp that is seen by others when it is lit. -/
def porchSet : TemplateSet :=
  .ofList none [⟨"lamp", "Lamp", "It glows", none,
    some ⟨InteractionSpec.empty, true, [.string "light"]⟩, none, [], none⟩]

theorem interact_compile_porch : ∃ m, compile porchText ⟨[], none⟩ = .ok m ∧
    (∃ e, ((m.bindTo porchSet).interact "lamp-2" .unknown "light").event = some e ∧
      e.objectId = "lamp-2" ∧ e.mapId = m.id) ∧
    ((m.bindTo porchSet).interact "rock" .unknown "light").broadcast = false ∧
    ((m.bindTo porchSet).interact "rock" .unknown "light").effects = [] := by
  have hevents : (compile porchText ⟨[], none⟩).toOption.map (fun m =>
      (((m.bindTo porchSet).interact "lamp-2" .unknown "light").event.isSome,
        ((m.bindTo porchSet).interact "rock" .unknown "light").event.isSome)) =
          some (true, false) := by
    decide +kernel
  obtain ⟨m, hm, hevents⟩ := exists_ok_of_toOption_map hevents
  obtain ⟨hlamp, hrock⟩ := Prod.mk.inj hevents
  obtain ⟨e, he⟩ := Option.isSome_iff_exists.mp hlamp
  obtain ⟨hobject, hmap, -⟩ := (interact_compile hm porchSet "lamp-2" .unknown "light").2.1 e he
  have hnone := (interact_compile hm porchSet "rock" .unknown "light").2.2
    (Option.not_isSome_iff_eq_none.mp (by simp [hrock]))
  exact ⟨m, hm, ⟨e, he, hobject, hmap⟩, hnone⟩

end Tilemap
