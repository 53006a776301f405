import Tilemap.Proofs.Bags
import Tilemap.Proofs.Interactions

/-!
# Metadata of events

The metadata of an event comes from four places, and under each key the first of them counts: the
reference to the template under `objectId`, then the object, then its template, and last its
behaviour (`ObjectPlacement.Holds`). `event_metadata` says so for every interaction that takes
place, and that the public view has the same metadata without that of the behaviour.
-/

namespace Tilemap

open Text

/-! ### Statement -/

/-- The object refers to a template, by its field, or by its metadata if the field is missing or
blank. The blanks around the id do not count. -/
inductive ObjectPlacement.RefersTo (p : ObjectPlacement) (id : String) : Prop where
  | field {text : String} (htext : p.objectId = some text) (hid : nonBlank? text = some id)
  | metadata {text : String} (hfield : ∀ text, p.objectId = some text → nonBlank? text = none)
      (htext : p.metadata.get? "objectId" = some (.string text)) (hid : nonBlank? text = some id)

/-- The object refers to a template that the set has. -/
def ObjectPlacement.HasTemplate (p : ObjectPlacement) (s : TemplateSet) (t : ObjectTemplate) :
    Prop :=
  ∃ id, p.RefersTo id ∧ s.get? id = some t

/-- What the metadata of an object holds under a key when it is put over a bag. -/
inductive ObjectPlacement.Holds (p : ObjectPlacement) (s : TemplateSet) (below : Bag)
    (key : String) : Option Json → Prop where
  | reference {id : String} (hkey : key = "objectId") (hid : p.RefersTo id) :
    Holds p s below key (some (.string id))
  | own {value : Json} (hfree : key = "objectId" → ∀ id, ¬ p.RefersTo id)
      (hown : p.metadata.get? key = some value) :
    Holds p s below key (some value)
  | template {t : ObjectTemplate} {value : Json} (hfree : key = "objectId" → ∀ id, ¬ p.RefersTo id)
      (hown : p.metadata.get? key = none) (ht : p.HasTemplate s t)
      (hvalue : t.metadata.get? key = some value) :
    Holds p s below key (some value)
  | below (hfree : key = "objectId" → ∀ id, ¬ p.RefersTo id) (hown : p.metadata.get? key = none)
      (htemplate : ∀ t, p.HasTemplate s t → t.metadata.get? key = none) :
    Holds p s below key (below.get? key)

/-- The metadata of all objects and templates are proper bags: no key is there twice. -/
structure DistinctKeys (m : MapModel) (s : TemplateSet) : Prop where
  objects : ∀ p ∈ m.objects, (p.metadata.map Prod.fst).Nodup
  templates : ∀ id t, s.get? id = some t → (t.metadata.map Prod.fst).Nodup

/-! ### References -/

namespace ObjectPlacement

variable {p : ObjectPlacement} {s : TemplateSet}

theorem refersTo_iff {id : String} : p.RefersTo id ↔ p.templateRef? = some id := by
  rw [templateRef?, Option.or_eq_some_iff, Option.bind_eq_none_iff]
  constructor
  · rintro (⟨htext, hid⟩ | ⟨hfield, htext, hid⟩)
    · exact .inl (by rw [htext, Option.bind_some, hid])
    · exact .inr ⟨hfield, by rw [Json.cleanText?, htext]; exact hid⟩
  · rintro (hid | ⟨hfield, hid⟩)
    · obtain ⟨text, htext, hid⟩ := Option.bind_eq_some_iff.mp hid
      exact .field htext hid
    · obtain ⟨text, htext, hid⟩ := Option.bind_eq_some_iff.mp hid
      obtain ⟨value, hvalue, htext⟩ := Option.bind_eq_some_iff.mp htext
      cases value <;> cases htext
      exact .metadata hfield hvalue hid

theorem hasTemplate_iff {t : ObjectTemplate} : p.HasTemplate s t ↔ p.template? s = some t := by
  simp only [HasTemplate, refersTo_iff, template?, Option.bind_eq_some_iff]

/-! ### Bound metadata -/

/-- Metadata that come from two places have no key twice. -/
theorem nodup_boundMetadata {t : Option ObjectTemplate}
    (ht : ∀ u, t = some u → (u.metadata.map Prod.fst).Nodup) :
    ((p.boundMetadata t).map Prod.fst).Nodup := by
  have hbase : (((t.map (·.metadata)).getD []).map Prod.fst).Nodup := by
    cases t with
    | none => exact .nil
    | some u => exact ht u rfl
  rw [boundMetadata]
  split
  · exact Bag.nodup_put _ _ (Bag.nodup_merge hbase _)
  · exact Bag.nodup_merge hbase _

/-- A key is looked up in the reference first, then in the object and then in its template. -/
theorem get?_boundMetadata (hp : (p.metadata.map Prod.fst).Nodup) (t : Option ObjectTemplate)
    (key : String) :
    (p.boundMetadata t).get? key =
      if key = "objectId" ∧ p.templateRef?.isSome then p.templateRef?.map .string
      else (p.metadata.get? key).or (t.bind (·.metadata.get? key)) := by
  have hmerged : (Bag.merge ((t.map (·.metadata)).getD []) p.metadata).get? key =
      (p.metadata.get? key).or (t.bind (·.metadata.get? key)) := by
    rw [Bag.get?_merge_of_nodup hp]
    cases t <;> rfl
  rw [boundMetadata]
  split
  · rename_i reference href
    rw [Bag.get?_put, hmerged, href]
    simp
  · rename_i href
    rw [hmerged, href]
    simp

/-- Over a bag, the bound metadata of an object counts first. -/
theorem holds_boundMetadata (hp : (p.metadata.map Prod.fst).Nodup) (below : Bag) (key : String) :
    p.Holds s below key (((p.boundMetadata (p.template? s)).get? key).or (below.get? key)) := by
  rw [get?_boundMetadata hp]
  split
  · rename_i hreference
    obtain ⟨hkey, href⟩ := hreference
    obtain ⟨id, hid⟩ := Option.isSome_iff_exists.mp href
    rw [hid]
    exact .reference hkey (refersTo_iff.mpr hid)
  · rename_i hno
    have hfree : key = "objectId" → ∀ id, ¬ p.RefersTo id := by
      intro hkey id hid
      exact hno ⟨hkey, by rw [refersTo_iff.mp hid]; rfl⟩
    cases hown : p.metadata.get? key with
    | some value => exact .own hfree hown
    | none =>
      rw [Option.none_or]
      cases hvalue : (p.template? s).bind (·.metadata.get? key) with
      | some value =>
        obtain ⟨t, ht, hvalue⟩ := Option.bind_eq_some_iff.mp hvalue
        exact .template hfree hown (hasTemplate_iff.mpr ht) hvalue
      | none =>
        refine .below hfree hown fun t ht => ?_
        exact Option.bind_eq_none_iff.mp hvalue t (hasTemplate_iff.mp ht)

end ObjectPlacement

/-! ### Main result -/

/-- What the metadata of an object holds: in the public view it is put over nothing, and in the
event of an interaction over the metadata of the behaviour. -/
theorem event_metadata {m : MapModel} {s : TemplateSet} (hids : (m.objects.map (·.id)).Nodup)
    (hkeys : DistinctKeys m s) {p : ObjectPlacement} (hp : p ∈ m.objects) :
    (∀ key, p.Holds s [] key ((p.bindTo s).publicView.metadata.get? key)) ∧
    ∀ b, (p.bindTo s).runtime.behaviour = some b → ∀ (player : Player) (action : String),
      ∃ e, ((m.bindTo s).interact p.id player action).event = some e ∧
        ∀ key, p.Holds s b.metadata key (e.metadata.get? key) := by
  have hown := hkeys.objects p hp
  constructor
  · intro key
    have hholds := ObjectPlacement.holds_boundMetadata (s := s) hown [] key
    rwa [Bag.get?, Bag.get?, List.lookup_nil, Option.or_none] at hholds
  · intro b hb player action
    have hobject : (m.bindTo s).object? p.id = some (p.bindTo s) := by
      rw [object?_bindTo, MapModel.object?, find?_eq_some_of_nodup hids hp, Option.map_some]
    have hshown : (((p.bindTo s).publicView.metadata).map Prod.fst).Nodup := by
      refine ObjectPlacement.nodup_boundMetadata fun t ht => ?_
      obtain ⟨id, -, hid⟩ := ObjectPlacement.hasTemplate_iff.mpr ht
      exact hkeys.templates id t hid
    have hinteract : (m.bindTo s).interact p.id player action =
        .ofBehaviour m.id (p.bindTo s).publicView b player action := by
      rw [BoundMap.interact, hobject]
      simp only [hb]
      rfl
    rw [hinteract]
    refine ⟨_, rfl, fun key => ?_⟩
    change p.Holds s b.metadata key
      ((Bag.merge b.metadata (p.bindTo s).publicView.metadata).get? key)
    rw [Bag.get?_merge_of_nodup hshown]
    exact ObjectPlacement.holds_boundMetadata hown b.metadata key

/-- A lamp whose field for the template is blank, and of which each place says something. -/
def deskLamp : ObjectPlacement where
  id := "desk-lamp"
  name := "Lamp"
  position := ⟨0, 0⟩
  size := .unit
  solid := false
  objectId := some " "
  metadata :=
    [("objectId", .string " lamp "), ("colour", .string "red"),
      ("behaviour", .object
        [("metadata", .object
          [("sound", .string "click"), ("shade", .string "none"), ("colour", .string "white"),
            ("objectId", .string "switch")])])]
  appearance := none
  interaction := none

def deskMap : MapModel := { MapParts.empty with objects := [deskLamp] : MapParts }.completed

def deskTemplate : ObjectTemplate where
  id := "lamp"
  name := "Lamp"
  description := ""
  interaction := none
  behaviour := none
  appearance := none
  metadata :=
    [("objectId", .string "ignored"), ("shade", .string "paper"), ("colour", .string "blue")]
  source := none

theorem event_metadata_desk :
    (deskMap.objects.map (·.id)).Nodup ∧ DistinctKeys deskMap (.ofList none [deskTemplate]) ∧
    deskLamp ∈ deskMap.objects ∧
    ∃ b e, (deskLamp.bindTo (.ofList none [deskTemplate])).runtime.behaviour = some b ∧
      ((deskMap.bindTo (.ofList none [deskTemplate])).interact "desk-lamp" .unknown "look").event =
        some e ∧
      (∀ key, deskLamp.Holds (.ofList none [deskTemplate]) b.metadata key
        (e.metadata.get? key)) ∧
      ["objectId", "colour", "shade", "sound", "size"].map
        (fun key => (e.metadata.get? key).bind Json.string?) =
          [some "lamp", some "red", some "paper", some "click", none] := by
  have hids : (deskMap.objects.map (·.id)).Nodup := by decide
  have hmem : deskLamp ∈ deskMap.objects := List.mem_cons_self
  have hkeys : DistinctKeys deskMap (.ofList none [deskTemplate]) := by
    constructor
    · intro p hp
      obtain rfl : p = deskLamp := by simpa [deskMap, MapParts.completed] using hp
      decide
    · intro id t ht
      have hentry := SortedMap.mem_of_mem_ofList (SortedMap.mem_of_get? ht)
      obtain ⟨-, rfl⟩ : id = "lamp" ∧ t = deskTemplate := by simpa [deskTemplate] using hentry
      decide
  have hbehaviour :
      (deskLamp.bindTo (.ofList none [deskTemplate])).runtime.behaviour.isSome := by
    decide +kernel
  obtain ⟨b, hb⟩ := Option.isSome_iff_exists.mp hbehaviour
  obtain ⟨e, he, hholds⟩ := (event_metadata hids hkeys hmem).2 b hb .unknown "look"
  refine ⟨hids, hkeys, hmem, b, e, hb, he, hholds, ?_⟩
  have hvalues : ((deskMap.bindTo (.ofList none [deskTemplate])).interact "desk-lamp" .unknown
      "look").event.map (fun e => ["objectId", "colour", "shade", "sound", "size"].map
        fun key => (e.metadata.get? key).bind Json.string?) =
          some [some "lamp", some "red", some "paper", some "click", none] := by
    decide +kernel
  have he : ((deskMap.bindTo (.ofList none [deskTemplate])).interact "desk-lamp" .unknown
      "look").event = some e := he
  rw [he] at hvalues
  exact Option.some.inj hvalues

end Tilemap
