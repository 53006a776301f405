import Tilemap.Binding
import Tilemap.Proofs.Bags

/-!
# Null values

Where a value is read under one key only, `null` is the same as nothing, and where the first usable
value of several keys counts it is passed over. But some parts of appearances, templates and objects
are read under the first of several keys that is there, and there a `null` hides what stands under
the other keys (`Bag.NullHides`). `nulls_read_as_absent` says that nothing else depends on the
entries that are `null`: without them each of these parts is read from the first key that has a
value, and every other part as before.
-/

namespace Tilemap

/-! ### Statement -/

def Json.isNull : Json → Bool
  | .null => true
  | _ => false

namespace Bag

variable (b : Bag)

def withoutNulls : Bag := b.filter fun e => !e.2.isNull

/-- What stands under the first of several keys that is there. -/
def present? (keys : List String) : Option Json := keys.findSome? b.get?

/-- What stands under the first of several keys that has a value besides `null`. -/
def firstValue? (keys : List String) : Option Json :=
  keys.findSome? fun key => (b.get? key).filter (!·.isNull)

/-- The first of several keys that is there holds `null`, but another one has a value. -/
def NullHides (keys : List String) : Prop :=
  b.present? keys = some .null ∧ (b.firstValue? keys).isSome

end Bag

/-- The keys for the shift of a drawing, of which the first one that is there counts. -/
def offsetKeys : List String := ["offset", "positionOffset"]

/-- The keys for the interaction of a template. -/
def interactionKeys : List String := ["interaction", "behavior"]

def behaviourKeys : List String := ["behavior", "behaviour", "interaction"]

def appearanceKeys : List String := ["appearance", "sprite"]

def ownBehaviourKeys : List String := ["behaviour", "behavior"]

/-- The appearance with the shift under the first key that has a value. -/
def Appearance.withOffsetOf (a : Appearance) (b : Bag) : Appearance :=
  { a with offset := readOffset (b.firstValue? offsetKeys) }

/-- The template with the parts under the first keys that have values. -/
def ObjectTemplate.withPartsOf (t : ObjectTemplate) (b : Bag) : ObjectTemplate :=
  { t with
    interaction := (b.firstValue? interactionKeys).bind InteractionSpec.ofJson?
    behaviour := (b.firstValue? behaviourKeys).bind BehaviourSpec.ofJson?
    appearance := (b.firstValue? appearanceKeys).bind Appearance.ofJson? }

/-- The object without the entries of its metadata that are `null`. -/
def ObjectPlacement.withoutNulls (p : ObjectPlacement) : ObjectPlacement :=
  { p with metadata := p.metadata.withoutNulls }

/-! ### Values under keys -/

theorem Json.isNull_iff {j : Json} : j.isNull ↔ j = .null := by
  cases j <;> simp [isNull]

/-- What has no use for `null` reads the same without it. -/
theorem bind_filter_isNull {α : Type} {f : Json → Option α} (hf : f .null = none)
    (j : Option Json) : (j.filter (!·.isNull)).bind f = j.bind f := by
  cases j with
  | none => rfl
  | some j => cases j <;> simp [Option.filter, Json.isNull, hf]

theorem cleanText?_filter_isNull (j : Option Json) :
    Json.cleanText? (j.filter (!·.isNull)) = Json.cleanText? j := by
  rw [Json.cleanText?, bind_filter_isNull rfl, Json.cleanText?]

namespace Bag

variable {b : Bag} {keys : List String}

/-- Without nulls a key answers as before, unless it answered `null`. -/
theorem get?_withoutNulls (h : (b.map Prod.fst).Nodup) (key : String) :
    b.withoutNulls.get? key = (b.get? key).filter (!·.isNull) := by
  have hnodup : (b.withoutNulls.map Prod.fst).Nodup := h.sublist (List.filter_sublist.map _)
  ext value
  rw [← mem_iff_get? hnodup, withoutNulls, List.mem_filter, mem_iff_get? h,
    Option.filter_eq_some_iff]

@[simp] theorem present?_nil : b.present? [] = none := rfl

theorem present?_cons (key : String) :
    b.present? (key :: keys) = (b.get? key).or (b.present? keys) := by
  rw [present?, List.findSome?_cons]
  cases b.get? key <;> rfl

/-- A key is asked first unless its value is `null`. -/
theorem firstValue?_cons (key : String) :
    b.firstValue? (key :: keys) =
      ((b.get? key).filter (!·.isNull)).or (b.firstValue? keys) := by
  rw [firstValue?, List.findSome?_cons]
  cases (b.get? key).filter (!·.isNull) <;> rfl

@[simp] theorem firstValue?_nil : b.firstValue? [] = none := rfl

/-- The first key that has a value is the first one that is there, unless that holds `null`. -/
theorem firstValue?_eq_present? (h : b.present? keys ≠ some .null) :
    b.firstValue? keys = b.present? keys := by
  induction keys with
  | nil => rfl
  | cons key rest ih =>
    rw [present?_cons] at h
    rw [firstValue?_cons, present?_cons]
    cases hj : b.get? key with
    | none =>
      rw [hj, Option.none_or] at h
      exact ih h
    | some j =>
      have hvalue : j.isNull = false := by
        rw [← Bool.not_eq_true, Json.isNull_iff]
        rintro rfl
        simp [hj] at h
      simp [Option.filter, hvalue]

/-- What takes `null` for nothing is read under the first key that is there as under the first one
that has a value, if no `null` hides that. -/
theorem read_firstValue? {α : Type} (f : Option Json → α) (hf : f (some .null) = f none)
    (h : ¬ b.NullHides keys) : f (b.firstValue? keys) = f (b.present? keys) := by
  by_cases hnull : b.present? keys = some .null
  · have hnone : b.firstValue? keys = none := by simpa [NullHides, hnull] using h
    rw [hnone, hnull, hf]
  · rw [firstValue?_eq_present? hnull]

end Bag

/-! ### Readers -/

namespace Appearance

variable {b : Bag}

/-- Sizes are looked for among numbers, so nulls hide none of them. -/
theorem dimension_withoutNulls (h : (b.map Prod.fst).Nodup) (keys : List String)
    (fallback least : Int) :
    dimension b.withoutNulls keys fallback least = dimension b keys fallback least := by
  have hnumber : (Json.number? .null) = none := rfl
  simp only [dimension, Bag.get?_withoutNulls h, bind_filter_isNull hnumber]

theorem readAnchor_filter_isNull (j : Option Json) :
    readAnchor (j.filter (!·.isNull)) = readAnchor j := by
  rw [readAnchor, bind_filter_isNull rfl, readAnchor]

theorem readScale_filter_isNull (j : Option Json) :
    readScale (j.filter (!·.isNull)) = readScale j := by
  cases j with
  | none => rfl
  | some j => cases j <;> rfl

/-- Of the nulls of an appearance only one for its shift matters. -/
theorem ofJson?_withoutNulls (h : (b.map Prod.fst).Nodup) :
    ofJson? (.object b.withoutNulls) = (ofJson? (.object b)).map (·.withOffsetOf b) := by
  have hobject : Json.object? .null = none := rfl
  rw [ofJson?, ofJson?]
  simp only [Json.object?, Option.bind_eq_bind, Option.bind_some, Option.pure_def,
    dimension_withoutNulls h, Bag.get?_withoutNulls h, cleanText?_filter_isNull,
    readAnchor_filter_isNull, readScale_filter_isNull, bind_filter_isNull hobject]
  cases generatorKeys.findSome? fun k => Json.cleanText? (b.get? k) with
  | none => rfl
  | some generator => simp [withOffsetOf, offsetKeys, Bag.firstValue?_cons]

theorem map_withOffsetOf (h : ¬ b.NullHides offsetKeys) :
    (ofJson? (.object b)).map (·.withOffsetOf b) = ofJson? (.object b) := by
  have hoffset : readOffset (b.firstValue? offsetKeys) =
      readOffset ((b.get? "offset").or (b.get? "positionOffset")) := by
    rw [Bag.read_firstValue? readOffset rfl h]
    simp [offsetKeys, Bag.present?_cons]
  rw [ofJson?]
  simp only [Json.object?, Option.bind_eq_bind, Option.bind_some, Option.pure_def]
  cases generatorKeys.findSome? fun k => Json.cleanText? (b.get? k) with
  | none => rfl
  | some generator =>
    rw [Option.bind_some, Option.map_some, withOffsetOf, hoffset]

end Appearance

namespace ObjectTemplate

variable {b : Bag}

/-- Of the nulls of a template only those for its interaction, its behaviour and its appearance
matter. -/
theorem ofJson_withoutNulls (h : (b.map Prod.fst).Nodup) (source : Option String) :
    ofJson (.object b.withoutNulls) source = (ofJson (.object b) source).map (·.withPartsOf b) := by
  have hobject : Json.object? .null = none := rfl
  rw [ofJson, ofJson]
  simp only [Json.object?, Bag.get?_withoutNulls h, cleanText?_filter_isNull,
    bind_filter_isNull hobject]
  cases Json.cleanText? (b.get? "id") with
  | none => rfl
  | some id =>
    simp [Except.map, withPartsOf, interactionKeys, behaviourKeys, appearanceKeys,
      Bag.firstValue?_cons]

/-- A template is read as if nulls were absent unless one hides another spelling. -/
theorem map_withPartsOf (hinteraction : ¬ b.NullHides interactionKeys)
    (hbehaviour : ¬ b.NullHides behaviourKeys) (happearance : ¬ b.NullHides appearanceKeys)
    (source : Option String) :
    (ofJson (.object b) source).map (·.withPartsOf b) = ofJson (.object b) source := by
  have hparts (t : ObjectTemplate) : t.withPartsOf b = { t with
      interaction := (b.present? interactionKeys).bind InteractionSpec.ofJson?
      behaviour := (b.present? behaviourKeys).bind BehaviourSpec.ofJson?
      appearance := (b.present? appearanceKeys).bind Appearance.ofJson? } := by
    rw [withPartsOf, Bag.read_firstValue? (·.bind InteractionSpec.ofJson?) rfl hinteraction,
      Bag.read_firstValue? (·.bind BehaviourSpec.ofJson?) rfl hbehaviour,
      Bag.read_firstValue? (·.bind Appearance.ofJson?) rfl happearance]
  rw [ofJson]
  simp only [Json.object?]
  cases Json.cleanText? (b.get? "id") with
  | none => rfl
  | some id =>
    simp [Except.map, hparts, interactionKeys, behaviourKeys, appearanceKeys, Bag.present?_cons]

end ObjectTemplate

namespace ObjectPlacement

variable {p : ObjectPlacement} (h : (p.metadata.map Prod.fst).Nodup)

include h

theorem template?_withoutNulls (s : TemplateSet) : p.withoutNulls.template? s = p.template? s := by
  rw [template?, templateRef?, withoutNulls, Bag.get?_withoutNulls h, cleanText?_filter_isNull]
  rfl

theorem boundAppearance?_withoutNulls (t : Option ObjectTemplate) :
    p.withoutNulls.boundAppearance? t = p.boundAppearance? t := by
  rw [boundAppearance?, withoutNulls, Bag.get?_withoutNulls h, bind_filter_isNull rfl]
  rfl

theorem ownInteraction?_withoutNulls : p.withoutNulls.ownInteraction? = p.ownInteraction? := by
  rw [ownInteraction?, withoutNulls, Bag.get?_withoutNulls h, bind_filter_isNull rfl]
  rfl

theorem boundDescription_withoutNulls (t : Option ObjectTemplate) :
    p.withoutNulls.boundDescription t = p.boundDescription t := by
  rw [boundDescription, withoutNulls, Bag.get?_withoutNulls h, cleanText?_filter_isNull]
  rfl

theorem boundInteraction_withoutNulls (t : Option ObjectTemplate) :
    p.withoutNulls.boundInteraction t = p.boundInteraction t := by
  simp only [boundInteraction, ownInteraction?_withoutNulls h, boundDescription_withoutNulls h]
  rfl

/-- Without nulls the behaviour of an object is the one under the first key that has a value. -/
theorem ownBehaviour?_withoutNulls : p.withoutNulls.ownBehaviour? =
    (p.metadata.firstValue? ownBehaviourKeys).bind BehaviourSpec.ofJson? := by
  rw [ownBehaviour?, withoutNulls, Bag.get?_withoutNulls h, Bag.get?_withoutNulls h]
  simp [ownBehaviourKeys, Bag.firstValue?_cons]

/-- The behaviour of an object is found as if nulls were absent unless one hides it. -/
theorem boundBehaviour?_withoutNulls (hhidden : ¬ p.metadata.NullHides ownBehaviourKeys)
    (t : Option ObjectTemplate) : p.withoutNulls.boundBehaviour? t = p.boundBehaviour? t := by
  have hown : p.withoutNulls.ownBehaviour? = p.ownBehaviour? := by
    rw [ownBehaviour?_withoutNulls h,
      Bag.read_firstValue? (·.bind BehaviourSpec.ofJson?) rfl hhidden, ownBehaviour?]
    simp [ownBehaviourKeys, Bag.present?_cons]
  simp only [boundBehaviour?, hown, ownInteraction?_withoutNulls h,
    boundInteraction_withoutNulls h]

end ObjectPlacement

/-! ### Main result -/

/-- Without its entries that are `null` an object is read as before, but for the shift if it is read
as an appearance, and for the interaction, the behaviour and the appearance if it is read as a
template; these are then read under the first keys that have values. If no `null` hides such a value
nothing changes at all. A placed object with such metadata keeps its appearance and its interaction,
and its behaviour unless a `null` hides it. -/
theorem nulls_read_as_absent {b : Bag} (h : (b.map Prod.fst).Nodup) :
    (Appearance.ofJson? (.object b.withoutNulls) =
        (Appearance.ofJson? (.object b)).map (·.withOffsetOf b) ∧
      (¬ b.NullHides offsetKeys →
        Appearance.ofJson? (.object b.withoutNulls) = Appearance.ofJson? (.object b))) ∧
    (∀ source,
      ObjectTemplate.ofJson (.object b.withoutNulls) source =
        (ObjectTemplate.ofJson (.object b) source).map (·.withPartsOf b) ∧
      (¬ b.NullHides interactionKeys → ¬ b.NullHides behaviourKeys →
        ¬ b.NullHides appearanceKeys →
          ObjectTemplate.ofJson (.object b.withoutNulls) source =
            ObjectTemplate.ofJson (.object b) source)) ∧
    ∀ (p : ObjectPlacement) (s : TemplateSet), p.metadata = b →
      (p.withoutNulls.bindTo s).publicView.appearance = (p.bindTo s).publicView.appearance ∧
      (p.withoutNulls.bindTo s).publicView.interaction = (p.bindTo s).publicView.interaction ∧
      p.withoutNulls.ownBehaviour? =
        (b.firstValue? ownBehaviourKeys).bind BehaviourSpec.ofJson? ∧
      (¬ b.NullHides ownBehaviourKeys →
        (p.withoutNulls.bindTo s).runtime.behaviour = (p.bindTo s).runtime.behaviour) := by
  refine ⟨⟨Appearance.ofJson?_withoutNulls h, fun hoffset => ?_⟩, fun source =>
    ⟨ObjectTemplate.ofJson_withoutNulls h source, fun hinteraction hbehaviour happearance => ?_⟩,
    ?_⟩
  · rw [Appearance.ofJson?_withoutNulls h, Appearance.map_withOffsetOf hoffset]
  · rw [ObjectTemplate.ofJson_withoutNulls h,
      ObjectTemplate.map_withPartsOf hinteraction hbehaviour happearance]
  · rintro p s rfl
    simp only [ObjectPlacement.bindTo, ObjectPlacement.template?_withoutNulls h]
    exact ⟨p.boundAppearance?_withoutNulls h _, p.boundInteraction_withoutNulls h _,
      p.ownBehaviour?_withoutNulls h, fun hhidden => p.boundBehaviour?_withoutNulls h hhidden _⟩

def lampEntries : Bag :=
  [("id", .string "lamp"), ("name", .null),
    ("behavior", .object [("message", .string "Brilla")]), ("behaviour", .null), ("sprite", .null)]

def placedWith (metadata : Bag) : ObjectPlacement :=
  ⟨"object", "", ⟨0, 0⟩, .unit, false, none, metadata, none, none⟩

def behaviourEntries (behaviour behavior : Json) : Bag :=
  [("objectId", .null), ("behaviour", behaviour), ("behavior", behavior)]

def greetingJson : Json := .object [("message", .string "Hola")]

theorem nulls_read_as_absent_lamp :
    (lampEntries.map Prod.fst).Nodup ∧
    ¬ lampEntries.NullHides interactionKeys ∧ ¬ lampEntries.NullHides behaviourKeys ∧
    ¬ lampEntries.NullHides appearanceKeys ∧
    ObjectTemplate.ofJson (.object lampEntries.withoutNulls) none =
      ObjectTemplate.ofJson (.object lampEntries) none ∧
    ¬ (behaviourEntries greetingJson .null).NullHides ownBehaviourKeys ∧
    ((placedWith (behaviourEntries greetingJson .null)).withoutNulls.bindTo
        .empty).runtime.behaviour =
      ((placedWith (behaviourEntries greetingJson .null)).bindTo .empty).runtime.behaviour := by
  have hnodup : (lampEntries.map Prod.fst).Nodup := by decide
  have hinteraction : ¬ lampEntries.NullHides interactionKeys := by
    rintro ⟨h, -⟩
    cases h
  have hbehaviour : ¬ lampEntries.NullHides behaviourKeys := by
    rintro ⟨h, -⟩
    cases h
  have happearance : ¬ lampEntries.NullHides appearanceKeys := by
    rintro ⟨-, h⟩
    cases h
  have hown : ¬ (behaviourEntries greetingJson .null).NullHides ownBehaviourKeys := by
    rintro ⟨h, -⟩
    cases h
  obtain ⟨-, htemplate, -⟩ := nulls_read_as_absent hnodup
  obtain ⟨-, -, hbound⟩ := @nulls_read_as_absent (behaviourEntries greetingJson .null) (by decide)
  obtain ⟨-, -, -, hplaced⟩ := hbound (placedWith (behaviourEntries greetingJson .null)) .empty rfl
  exact ⟨hnodup, hinteraction, hbehaviour, happearance,
    (htemplate none).2 hinteraction hbehaviour happearance, hown, hplaced hown⟩

/-- A `null` under the first key hides the interaction of a template, and likewise the behaviour of
an object. -/
theorem exists_hidden_greeting :
    (∃ b : Bag, (b.map Prod.fst).Nodup ∧
      ObjectTemplate.ofJson (.object b.withoutNulls) none ≠
        ObjectTemplate.ofJson (.object b) none) ∧
    ∃ (p : ObjectPlacement) (s : TemplateSet), (p.metadata.map Prod.fst).Nodup ∧
      (p.withoutNulls.bindTo s).runtime.behaviour ≠ (p.bindTo s).runtime.behaviour := by
  constructor
  · refine ⟨[("id", .string "sign"), ("interaction", .null), ("behavior", greetingJson)],
      by decide, fun heq => ?_⟩
    have hread := congrArg (fun t => t.toOption.map (·.interaction.isSome)) heq
    revert hread
    decide +kernel
  · refine ⟨placedWith (behaviourEntries .null greetingJson), .empty, by decide, fun heq => ?_⟩
    have hread := congrArg Option.isSome heq
    revert hread
    decide +kernel

end Tilemap
