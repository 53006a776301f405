import Tilemap.Outcome
import Tilemap.Proofs.MapJson
import Tilemap.Proofs.Stages

/-!
# What players may know

What an object does when a player turns to it is kept from the players until then. `publicView_spec`
says that the public view of a map does not depend on the behaviours of the templates: with two sets
of templates that differ in nothing else (`TemplateSet.ShownAlike`) it is the same. Apart from the
objects it is the whole map, and each object is replaced by its public view.

Each part of a public view is a function of the template that is the same for what is shown of it
(`ObjectTemplate.shown`), so the parts agree one by one.
-/

namespace Tilemap

/-! ### Statement -/

/-- The template without its behaviour and the file that it was read from. -/
def ObjectTemplate.shown (t : ObjectTemplate) : ObjectTemplate :=
  { t with behaviour := none, source := none }

/-- Two sets have the same ids, and the templates with an id differ at most in their behaviours and
in the files that they were read from. -/
def TemplateSet.ShownAlike (s s' : TemplateSet) : Prop :=
  ∀ id, (s.get? id).map ObjectTemplate.shown = (s'.get? id).map ObjectTemplate.shown

/-! ### Objects -/

namespace ObjectPlacement

variable (p : ObjectPlacement) (t : Option ObjectTemplate)

@[simp] theorem boundAppearance?_shown :
    p.boundAppearance? (t.map ObjectTemplate.shown) = p.boundAppearance? t := by
  cases t <;> rfl

@[simp] theorem boundName_shown : p.boundName (t.map ObjectTemplate.shown) = p.boundName t := by
  cases t <;> rfl

@[simp] theorem boundDescription_shown :
    p.boundDescription (t.map ObjectTemplate.shown) = p.boundDescription t := by
  cases t <;> rfl

@[simp] theorem boundInteraction_shown :
    p.boundInteraction (t.map ObjectTemplate.shown) = p.boundInteraction t := by
  cases t with
  | none => rfl
  | some t =>
    unfold boundInteraction
    cases p.ownInteraction? <;> rfl

@[simp] theorem boundMetadata_shown :
    p.boundMetadata (t.map ObjectTemplate.shown) = p.boundMetadata t := by
  cases t <;> rfl

variable {p t}

/-- What is the same for what is shown of a template agrees for templates that are shown alike. -/
theorem eq_of_shown {α : Type} {f : Option ObjectTemplate → α} {t' : Option ObjectTemplate}
    (hf : ∀ t, f (t.map ObjectTemplate.shown) = f t)
    (h : t.map ObjectTemplate.shown = t'.map ObjectTemplate.shown) : f t = f t' := by
  rw [← hf t, h, hf t']

/-- Sets that show the same templates give an object templates that show the same. -/
theorem template?_shownAlike {s s' : TemplateSet} (h : s.ShownAlike s') :
    (p.template? s).map ObjectTemplate.shown = (p.template? s').map ObjectTemplate.shown := by
  rw [template?, template?]
  cases p.templateRef? with
  | none => rfl
  | some reference => exact h reference

/-- The public view of an object does not depend on the behaviour of its template. -/
theorem publicView_bindTo {s s' : TemplateSet} (h : s.ShownAlike s') :
    (p.bindTo s).publicView = (p.bindTo s').publicView := by
  have htemplate := template?_shownAlike (p := p) h
  have happearance := eq_of_shown p.boundAppearance?_shown htemplate
  have hname := eq_of_shown p.boundName_shown htemplate
  have hdescription := eq_of_shown p.boundDescription_shown htemplate
  have hinteraction := eq_of_shown p.boundInteraction_shown htemplate
  have hmetadata := eq_of_shown p.boundMetadata_shown htemplate
  have hid : (p.template? s).map (·.id) = (p.template? s').map (·.id) :=
    eq_of_shown (f := fun t => t.map (·.id)) (by rintro (_ | _) <;> rfl) htemplate
  simp only [bindTo, happearance, hname, hdescription, hinteraction, hmetadata, hid]

end ObjectPlacement

/-! ### Maps -/

/-- The entries with another value under a key. -/
def Bag.replace (b : Bag) (key : String) (value : Json) : Bag :=
  b.map fun e => (e.1, if e.1 = key then value else e.2)

theorem Bag.replace_of_notMem {b : Bag} {key : String} (h : key ∉ b.map (·.1)) (value : Json) :
    b.replace key value = b := by
  rw [replace, List.map_congr_left, List.map_id]
  intro e he
  have hne : e.1 ≠ key := by
    rintro rfl
    exact h (List.mem_map_of_mem he)
  rw [if_neg hne]
  rfl

/-- To put a value under a key that is there is to replace the one under it. -/
theorem Bag.put_eq_replace {b : Bag} {key : String} (hmem : key ∈ b.map (·.1))
    (hnodup : (b.map (·.1)).Nodup) (value : Json) : b.put key value = b.replace key value := by
  induction b with
  | nil => simp at hmem
  | cons e rest ih =>
    obtain ⟨k, v⟩ := e
    obtain ⟨hk, hrest⟩ := List.nodup_cons.mp hnodup
    rw [put]
    split
    · rename_i heq
      subst heq
      have hsame := replace_of_notMem hk value
      rw [replace] at hsame ⊢
      simp [hsame]
    · rename_i hne
      have hmem : key ∈ rest.map (·.1) := by simpa [Ne.symm hne] using hmem
      rw [ih hmem hrest, replace, replace]
      simp [hne]

theorem widenEntries_eq_map (entries : Bag) :
    Json.widenEntries entries = entries.map fun e => (e.1, e.2.widen) := by
  induction entries with
  | nil => rfl
  | cons e rest ih => rw [Json.widenEntries, ih, List.map_cons]

theorem widenAll_eq_map (items : List Json) : Json.widenAll items = items.map Json.widen := by
  induction items with
  | nil => rfl
  | cons j rest ih => rw [Json.widenAll, ih, List.map_cons]

namespace MapModel

theorem nodup_entries (m : MapModel) : (m.entries.map (·.1)).Nodup := by
  have hfields : ["id", "name", "biome", "description", "size", "spawn", "spawnPoints",
      "blockedAreas", "tileTypes", "layers", "objectLayers", "objects", "doors", "theme",
      "collidableTiles", "sourcePath", "extra"].Nodup := by
    decide
  exact hfields.sublist m.keys_entries

theorem objects_mem_entries (m : MapModel) : "objects" ∈ m.entries.map (·.1) := by
  simp [entries, toJson, Json.object?]

/-- The entries of a map as a value, in which all floats have 64 bits. -/
def wideEntries (m : MapModel) : Bag := Json.widenEntries m.entries

theorem widen_toJson (m : MapModel) : m.toJson.widen = .object m.wideEntries := by
  rw [toJson_eq, Json.widen, wideEntries]

/-- The public view of a map is the map with the public views in place of the objects. -/
theorem publicView_eq (m : MapModel) (s : TemplateSet) :
    (m.bindTo s).publicView = .object (Bag.replace m.wideEntries "objects"
      (.array (m.objects.map fun p => (p.bindTo s).publicView.toJson.widen))) := by
  have hview : (m.bindTo s).publicView = Json.widen (.object (Bag.put m.entries "objects"
      (.array ((m.bindTo s).objects.map (·.publicView.toJson))))) := rfl
  rw [hview, Bag.put_eq_replace m.objects_mem_entries m.nodup_entries, Json.widen, wideEntries,
    widenEntries_eq_map, widenEntries_eq_map, Bag.replace, Bag.replace, bindTo]
  simp only [List.map_map, Function.comp_def]
  congr 2
  funext e
  split
  · rw [Json.widen, widenAll_eq_map, List.map_map]
    rfl
  · rfl

end MapModel

/-! ### Main result -/

/-- The public view of a map is the map as a value, in which the i-th object is replaced by the
public view of the i-th object. It does not depend on the behaviours of the templates. -/
theorem publicView_spec (m : MapModel) (s : TemplateSet) :
    (∃ entries, m.toJson.widen = .object entries ∧ "objects" ∈ entries.map (·.1) ∧
      (m.bindTo s).publicView = .object (entries.map fun e => (e.1,
        if e.1 = "objects" then
          .array (m.objects.map fun p => (p.bindTo s).publicView.toJson.widen)
        else e.2))) ∧
    ∀ s', s.ShownAlike s' →
      (∀ p : ObjectPlacement, (p.bindTo s).publicView = (p.bindTo s').publicView) ∧
        (m.bindTo s).publicView = (m.bindTo s').publicView := by
  constructor
  · refine ⟨m.wideEntries, m.widen_toJson, ?_, m.publicView_eq s⟩
    rw [MapModel.wideEntries, widenEntries_eq_map, List.map_map]
    exact m.objects_mem_entries
  · intro s' h
    have hobjects (p : ObjectPlacement) : (p.bindTo s).publicView = (p.bindTo s').publicView :=
      ObjectPlacement.publicView_bindTo h
    refine ⟨hobjects, ?_⟩
    rw [m.publicView_eq s, m.publicView_eq s']
    simp only [hobjects]

/-- The templates of a lamp, with a behaviour or without one. -/
def lampSet (behaviour : Option BehaviourSpec) : TemplateSet :=
  .ofList none [⟨"lamp", "Lamp", "It glows", none, behaviour, none, [], none⟩]

def lampBehaviour : BehaviourSpec :=
  ⟨{ InteractionSpec.empty with message := some "A secret" }, true, [.string "light"]⟩

theorem shownAlike_lampSet (behaviour behaviour' : Option BehaviourSpec) :
    (lampSet behaviour).ShownAlike (lampSet behaviour') := by
  intro id
  simp only [lampSet, TemplateSet.ofList, TemplateSet.get?, SortedMap.ofList, List.map_cons,
    List.map_nil, List.foldl_cons, List.foldl_nil, SortedMap.get?_insert, SortedMap.get?_empty]
  split <;> rfl

/-- Players see the same of a lamp that does something and of one that does not. -/
theorem publicView_spec_lamp : ∃ m, compile "[Objects]\nlamp@1x1" ⟨[], none⟩ = .ok m ∧
    (lampSet (some lampBehaviour)).ShownAlike (lampSet none) ∧
    (m.bindTo (lampSet (some lampBehaviour))).publicView = (m.bindTo (lampSet none)).publicView ∧
    ((m.bindTo (lampSet (some lampBehaviour))).interact "lamp" .unknown "look").broadcast = true ∧
    ((m.bindTo (lampSet none)).interact "lamp" .unknown "look").broadcast = false := by
  have hbroadcast : (compile "[Objects]\nlamp@1x1" ⟨[], none⟩).toOption.map (fun m =>
      (((m.bindTo (lampSet (some lampBehaviour))).interact "lamp" .unknown "look").broadcast,
        ((m.bindTo (lampSet none)).interact "lamp" .unknown "look").broadcast)) =
          some (true, false) := by
    decide +kernel
  obtain ⟨m, hm, hboth⟩ := exists_ok_of_toOption_map hbroadcast
  obtain ⟨hsome, hnone⟩ := Prod.mk.inj hboth
  have halike := shownAlike_lampSet (some lampBehaviour) none
  exact ⟨m, hm, halike, ((publicView_spec m _).2 _ halike).2, hsome, hnone⟩

end Tilemap
