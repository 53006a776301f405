import Tilemap.Proofs.Clamping
import Tilemap.Proofs.Json.MapParts
import Tilemap.Proofs.Stages
import Tilemap.Proofs.Text.Trimming
import Tilemap.Template.Basic

/-!
# Templates that are written and read

Whatever JSON value a template is read from, what was read is sane: its texts are trimmed and not
blank, its sizes and floats are in their ranges, and its bags hold JSON values. What is sane is
written in such a way that it is read as it is, although the reader looks under other keys as well:
the written form has every key that is looked under first. So to read, write and read again is to
read once (`templates_retract`).

A template is written as a value, in which a float that is not finite would be `null`; nothing that
was read has one.
-/

namespace Tilemap

open Text

/-! ### Texts -/

/-- A text that is not blank and has no blanks at its ends. -/
def IsClean (s : String) : Prop := nonBlank? s = some s

namespace Json

theorem isClean_of_cleanText? {j : Option Json} {s : String} (h : cleanText? j = some s) :
    IsClean s := by
  obtain ⟨written, -, hs⟩ := Option.bind_eq_some_iff.mp h
  exact nonBlank?_of_nonBlank? hs

theorem cleanText?_string {s : String} (h : IsClean s) : cleanText? (some (.string s)) = some s := h

/-- A clean text is read as it is, and a text that is left out is none. -/
theorem cleanText?_map_string {o : Option String} (h : ∀ s ∈ o, IsClean s) :
    cleanText? (o.map .string) = o := by
  cases o with
  | none => rfl
  | some s => exact cleanText?_string (h s rfl)

/-- A bag that is read from under a key of a proper object holds proper values. -/
theorem proper_of_object? {b m : Bag} (hb : (object b).Proper) {key : String}
    (h : (b.get? key).bind object? = some m) : (object m).Proper := by
  obtain ⟨j, hj, hm⟩ := Option.bind_eq_some_iff.mp h
  obtain rfl := object?_eq_some.mp hm
  exact proper_of_get? hb hj

end Json

open Json

/-! ### Interactions -/

/-- The texts are clean and the bag holds JSON values. -/
structure InteractionSpec.Sane (i : InteractionSpec) : Prop where
  kind : ∀ s ∈ i.kind, IsClean s
  title : ∀ s ∈ i.title, IsClean s
  description : ∀ s ∈ i.description, IsClean s
  message : ∀ s ∈ i.message, IsClean s
  icon : ∀ s ∈ i.icon, IsClean s
  animation : ∀ s ∈ i.animation, IsClean s
  metadata : ∀ b ∈ i.metadata, (object b).Proper

namespace InteractionSpec

variable {i : InteractionSpec}

theorem sane_of_ofJson? {j : Json} (hj : j.Proper) (h : ofJson? j = some i) : i.Sane := by
  obtain ⟨b, hb, hi⟩ := Option.bind_eq_some_iff.mp h
  obtain rfl := Option.some.inj hi
  obtain rfl := object?_eq_some.mp hb
  refine ⟨fun s => isClean_of_cleanText?, fun s => isClean_of_cleanText?,
    fun s => isClean_of_cleanText?, fun s hs => ?_, fun s => isClean_of_cleanText?,
    fun s => isClean_of_cleanText?, fun m => proper_of_object? hj⟩
  rcases Option.or_eq_some_iff.mp hs with hs | ⟨-, hs⟩
  · exact isClean_of_cleanText? hs
  · exact isClean_of_cleanText? hs

theorem Sane.widenEntries_entries (h : i.Sane) : widenEntries i.entries = i.entries := by
  have htext (s : String) : (Json.string s).widen = .string s := rfl
  simp only [entries, widenEntries_append, widenEntries_optional fun s _ => htext s]
  rw [widenEntries_optional fun b hb => widen_of_proper _ (h.metadata b hb)]

/-- The keys that an interaction is read from. -/
def keys : List String :=
  ["type", "title", "description", "message", "text", "icon", "animation", "metadata"]

/-- An interaction is read from its entries, also when entries under other keys follow. -/
theorem Sane.ofJson?_entries_append (h : i.Sane) {rest : Bag}
    (hrest : ∀ key ∈ keys, rest.lookup key = none) :
    ofJson? (.object (i.entries ++ rest)) = some i := by
  have hget {key : String} (hkey : key ∈ keys) :
      Bag.get? (i.entries ++ rest) key = i.entries.lookup key := by
    rw [Bag.get?, List.lookup_append, hrest key hkey, Option.or_none]
  have htext (key : String) {o : Option String} (hkey : key ∈ keys) (ho : ∀ s ∈ o, IsClean s)
      (hentry : i.entries.lookup key = o.map .string) :
      cleanText? (Bag.get? (i.entries ++ rest) key) = o := by
    rw [hget hkey, hentry]
    exact cleanText?_map_string ho
  have hkind := htext "type" (by decide) h.kind (by simp [entries, List.lookup_append])
  have htitle := htext "title" (by decide) h.title (by simp [entries, List.lookup_append])
  have hdescription := htext "description" (by decide) h.description
    (by simp [entries, List.lookup_append])
  have hmessage := htext "message" (by decide) h.message
    (by simp [entries, List.lookup_append])
  -- The other key of the message is never written.
  have hother := htext "text" (o := none) (by decide) (by simp)
    (by simp [entries, List.lookup_append])
  have hicon := htext "icon" (by decide) h.icon (by simp [entries, List.lookup_append])
  have hanimation := htext "animation" (by decide) h.animation
    (by simp [entries, List.lookup_append])
  have hmetadata : (Bag.get? (i.entries ++ rest) "metadata").bind object? = i.metadata := by
    rw [hget (by decide)]
    cases hbag : i.metadata <;> simp [entries, List.lookup_append, hbag, object?]
  simp only [ofJson?, object?, Option.bind_eq_bind, Option.bind_some, hkind, htitle, hdescription,
    hmessage, hother, hicon, hanimation, hmetadata, Option.or_none]
  rfl

theorem Sane.ofJson?_toJson (h : i.Sane) : ofJson? i.toJson = some i := by
  have hread : ofJson? (.object (i.entries ++ [])) = some i :=
    h.ofJson?_entries_append fun _ _ => rfl
  rwa [List.append_nil] at hread

theorem Sane.widen_toJson (h : i.Sane) : i.toJson.widen = i.toJson := by
  rw [toJson, widen, h.widenEntries_entries]

end InteractionSpec

/-! ### Behaviours -/

/-- The interaction is sane and the effects are JSON values. -/
structure BehaviourSpec.Sane (s : BehaviourSpec) : Prop where
  interaction : s.interaction.Sane
  effects : (Json.array s.effects).Proper

namespace BehaviourSpec

variable {s : BehaviourSpec}

theorem sane_of_ofJson? {j : Json} (hj : j.Proper) (h : ofJson? j = some s) : s.Sane := by
  obtain ⟨i, hi, hs⟩ := Option.bind_eq_some_iff.mp h
  obtain rfl := Option.some.inj hs
  refine ⟨InteractionSpec.sane_of_ofJson? hj hi, ?_⟩
  obtain ⟨b, hb, -⟩ := Option.bind_eq_some_iff.mp hi
  obtain rfl := object?_eq_some.mp hb
  dsimp only
  cases heffects : (Json.get? (.object b) "effects").bind array? with
  | none => exact trivial
  | some items =>
    obtain ⟨value, hvalue, hitems⟩ := Option.bind_eq_some_iff.mp heffects
    have hproper := proper_of_get? hj hvalue
    cases value with
    | array items' =>
      obtain rfl := Option.some.inj hitems
      exact hproper
    | _ => cases hitems

theorem Sane.widen_toJson (h : s.Sane) : s.toJson.widen = s.toJson := by
  have heffects : (Json.array s.effects).widen = .array s.effects := widen_of_proper _ h.effects
  rw [toJson, widen, widenEntries_append, h.interaction.widenEntries_entries, widenEntries,
    widenEntries, widenEntries, heffects]
  rfl

theorem Sane.ofJson?_toJson (h : s.Sane) : ofJson? s.toJson = some s := by
  have hinteraction : InteractionSpec.ofJson? s.toJson = some s.interaction :=
    h.interaction.ofJson?_entries_append (by simp [InteractionSpec.keys])
  have hbroadcast : s.toJson.get? "broadcast" = some (.bool s.broadcast) := by
    simp [toJson, Json.get?, object?, Bag.get?, InteractionSpec.entries, List.lookup_append]
  have heffects : s.toJson.get? "effects" = some (.array s.effects) := by
    simp [toJson, Json.get?, object?, Bag.get?, InteractionSpec.entries, List.lookup_append]
  simp only [ofJson?, hinteraction, hbroadcast, heffects, Option.bind_eq_bind, Option.bind_some]
  rfl

end BehaviourSpec

/-! ### Appearances -/

open Binary (IsRange InRange)

/-- Both floats of a pair are in ranges of their own. -/
structure Vec.InRange (lowX highX lowY highY : Float) (v : Vec) : Prop where
  x : Binary.InRange lowX highX v.x
  y : Binary.InRange lowY highY v.y

theorem Vec.InRange.isFinite {lowX highX lowY highY : Float} {v : Vec}
    (h : v.InRange lowX highX lowY highY) : v.IsFinite :=
  ⟨h.x.finite, h.y.finite⟩

/-- The texts are clean, the numbers are in their ranges and the bag holds JSON values. -/
structure Appearance.Sane (a : Appearance) : Prop where
  generator : IsClean a.generator
  width : 1 ≤ a.width.toNat
  height : 1 ≤ a.height.toNat
  tileSize : 4 ≤ a.tileSize.toNat
  options : (object a.options).Proper
  anchor : a.anchor.InRange 0 1 0 1.5
  offset : a.offset.IsFinite
  scale : a.scale.InRange 0.1 6 0.1 6
  variant : ∀ s ∈ a.variant, IsClean s

namespace Appearance

variable {a : Appearance} {b : Bag}

/-- A size is never below the least one, as long as that has 32 bits. -/
theorem le_dimension {keys : List String} {fallback least : Int}
    (h : least ≤ (UInt32.size - 1 : Nat)) :
    least ≤ (dimension b keys fallback least).toNat := by
  rw [dimension]
  generalize (keys.findSome? fun k => (b.get? k).bind Json.number?).getD (.int fallback) = n
  have hbetween : least ≤ n.truncate least (UInt32.size - 1 : Nat) ∧
      n.truncate least (UInt32.size - 1 : Nat) ≤ (UInt32.size - 1 : Nat) := by
    cases n <;> simp only [Number.truncate, Binary.truncate] <;> omega
  have hlt : (n.truncate least (UInt32.size - 1 : Nat)).toNat < UInt32.size := by
    simp only [UInt32.size] at hbetween ⊢
    omega
  rw [UInt32.toNat_ofNat_of_lt' hlt]
  omega

/-- A size that was written is read from under its first key. -/
theorem dimension_of_get? {key : String} {keys : List String} {n : UInt32}
    {fallback least : Int} (h : b.get? key = some (.ofUInt32 n)) (hle : least ≤ n.toNat) :
    dimension b (key :: keys) fallback least = n := by
  have hlt := n.toNat_lt
  have hsame : max least (min ((UInt32.size - 1 : Nat) : Int) n.toNat) = n.toNat := by
    simp only [UInt32.size]
    omega
  rw [dimension, List.findSome?_cons, h]
  simp only [ofUInt32, ofNat, Option.bind_some, Json.number?, Option.getD_some, Number.truncate]
  rw [hsame, Int.toNat_natCast, UInt32.ofNat_toNat]

theorem isFinite_number {key : String} {fallback : Float} (h : fallback.isFinite) :
    (number b key fallback).isFinite := by
  rw [number]
  split
  · split
    · assumption
    · exact h
  · exact h

theorem number_of_get? {key : String} {fallback x : Float} (h : b.get? key = some (.ofFloat x))
    (hx : x.isFinite) : number b key fallback = x := by
  rw [number, h]
  exact if_pos hx

/-- A number of a JSON value is a number as a float. -/
theorem not_isNaN_toFloat {n : Number} (h : n.Proper) : ¬ n.toFloat.isNaN := by
  cases n with
  | int n => exact Binary.not_isNaN_ofInt64 n
  | double x => exact Binary.not_isNaN_of_isFinite h
  | single x => exact h.elim

/-- A number that is clamped lies in the range, be it read or the default. -/
theorem inRange_clamp_number {key : String} {low high fallback : Float} (h : IsRange low high)
    (hfallback : fallback.isFinite) : InRange low high (clamp (number b key fallback) low high) :=
  h.inRange_clamp (Binary.not_isNaN_of_isFinite (isFinite_number hfallback))

theorem isRange_anchor : IsRange 0 1 ∧ IsRange 0 1.5 := by decide +kernel

theorem isRange_scale : IsRange 0.1 6 := by decide +kernel

theorem inRange_readAnchor (j : Option Json) : (readAnchor j).InRange 0 1 0 1.5 := by
  have hhalf : (0.5 : Float).isFinite := by decide +kernel
  have hone : (1 : Float).isFinite := by decide +kernel
  rw [readAnchor]
  split
  · exact ⟨inRange_clamp_number isRange_anchor.1 hhalf, inRange_clamp_number isRange_anchor.2 hone⟩
  · exact ⟨⟨hhalf, by decide +kernel⟩, ⟨hone, by decide +kernel⟩⟩

theorem isFinite_readOffset (j : Option Json) : (readOffset j).IsFinite := by
  have hzero : (0 : Float).isFinite := by decide +kernel
  rw [readOffset]
  split
  · exact ⟨isFinite_number hzero, isFinite_number hzero⟩
  · exact ⟨hzero, hzero⟩

theorem inRange_readScale {j : Option Json} (hj : ∀ v ∈ j, v.Proper) :
    (readScale j).InRange 0.1 6 0.1 6 := by
  have hone : (1 : Float).isFinite := by decide +kernel
  unfold readScale
  split
  · rename_i n
    have hnumber : ¬ n.toFloat.isNaN := not_isNaN_toFloat (hj _ rfl)
    exact ⟨isRange_scale.inRange_clamp hnumber, isRange_scale.inRange_clamp hnumber⟩
  · exact ⟨inRange_clamp_number isRange_scale hone, inRange_clamp_number isRange_scale hone⟩
  · exact ⟨⟨hone, by decide +kernel⟩, ⟨hone, by decide +kernel⟩⟩

section

variable {v : Vec}

theorem number_toJson (h : v.IsFinite) (fallback : Float) :
    number [("x", .ofFloat v.x), ("y", .ofFloat v.y)] "x" fallback = v.x ∧
      number [("x", .ofFloat v.x), ("y", .ofFloat v.y)] "y" fallback = v.y :=
  ⟨number_of_get? (by simp [Bag.get?]) h.x, number_of_get? (by simp [Bag.get?]) h.y⟩

theorem readAnchor_toJson (h : v.InRange 0 1 0 1.5) : readAnchor (some v.toJson) = v := by
  simp only [readAnchor, Vec.toJson, Option.bind_some, object?, number_toJson h.isFinite,
    h.x.clamp_eq, h.y.clamp_eq]

theorem readOffset_toJson (h : v.IsFinite) : readOffset (some v.toJson) = v := by
  simp only [readOffset, Vec.toJson, Option.bind_some, object?, number_toJson h]

theorem readScale_toJson (h : v.InRange 0.1 6 0.1 6) : readScale (some v.toJson) = v := by
  simp only [readScale, Vec.toJson, number_toJson h.isFinite, h.x.clamp_eq, h.y.clamp_eq]

theorem widen_toJson (h : v.IsFinite) : v.toJson.widen = v.toJson := by
  have hwiden {x : Float} (hx : x.isFinite) : (ofFloat x).widen = ofFloat x := if_pos hx
  rw [Vec.toJson, widen, widenEntries, widenEntries, widenEntries, hwiden h.x, hwiden h.y]

end

theorem sane_of_ofJson? {j : Json} (hj : j.Proper) (h : ofJson? j = some a) : a.Sane := by
  obtain ⟨b, hb, h⟩ := Option.bind_eq_some_iff.mp h
  obtain ⟨generator, hgenerator, ha⟩ := Option.bind_eq_some_iff.mp h
  obtain rfl := Option.some.inj ha
  obtain rfl := object?_eq_some.mp hb
  obtain ⟨key, -, hclean⟩ := List.exists_of_findSome?_eq_some hgenerator
  refine
    { generator := isClean_of_cleanText? hclean
      width := Int.ofNat_le.mp (le_dimension (by decide))
      height := Int.ofNat_le.mp (le_dimension (by decide))
      tileSize := Int.ofNat_le.mp (le_dimension (by decide))
      options := ?options
      anchor := inRange_readAnchor _
      offset := isFinite_readOffset _
      scale := inRange_readScale fun v hv => proper_of_get? hj hv
      variant := fun s => isClean_of_cleanText? }
  case options =>
    cases hoptions : (b.get? "options").bind object? with
    | none => simp [Json.Proper, ProperEntries]
    | some m => exact proper_of_object? hj hoptions

namespace Sane

theorem isFinite (h : a.Sane) : a.IsFinite := ⟨h.anchor.isFinite, h.offset, h.scale.isFinite⟩

theorem widen_toJson (h : a.Sane) : a.toJson.widen = a.toJson := by
  have hoptions : widenEntries a.options = a.options := widenEntries_of_proper _ h.options.2
  have htext (s : String) : (Json.string s).widen = .string s := rfl
  have hnumber (n : UInt32) : (ofUInt32 n).widen = ofUInt32 n := rfl
  simp only [toJson, widen, widenEntries_append, widenEntries, hoptions, hnumber,
    Appearance.widen_toJson h.isFinite.anchor, Appearance.widen_toJson h.isFinite.offset,
    Appearance.widen_toJson h.isFinite.scale, widenEntries_optional fun s _ => htext s]

end Sane

/-- The entries of an appearance as an object. -/
def entries (a : Appearance) : Bag := (a.toJson.object?).getD []

/-- An appearance is written under the keys that are looked under first. -/
theorem Sane.ofJson?_toJson (h : a.Sane) : ofJson? a.toJson = some a := by
  have hgenerator : generatorKeys.findSome? (fun k => cleanText? (a.entries.get? k)) =
      some a.generator := by
    have hget : a.entries.get? "generator" = some (.string a.generator) := by
      simp [entries, toJson, object?, Bag.get?]
    rw [generatorKeys, List.findSome?_cons, hget, cleanText?_string h.generator]
  have hwidth : dimension a.entries ["width", "columns"] 1 1 = a.width :=
    dimension_of_get? (by simp [entries, toJson, object?, Bag.get?]) (Int.ofNat_le.mpr h.width)
  have hheight : dimension a.entries ["height", "rows"] 1 1 = a.height :=
    dimension_of_get? (by simp [entries, toJson, object?, Bag.get?]) (Int.ofNat_le.mpr h.height)
  have htileSize : dimension a.entries ["tileSize", "tile_size", "pixelSize"] 16 4 = a.tileSize :=
    dimension_of_get? (by simp [entries, toJson, object?, Bag.get?]) (Int.ofNat_le.mpr h.tileSize)
  have hoptions : a.entries.get? "options" = some (.object a.options) := by
    simp [entries, toJson, object?, Bag.get?]
  have hanchor : a.entries.get? "anchor" = some a.anchor.toJson := by
    simp [entries, toJson, object?, Bag.get?]
  have hoffset : a.entries.get? "offset" = some a.offset.toJson := by
    simp [entries, toJson, object?, Bag.get?]
  have hscale : a.entries.get? "scale" = some a.scale.toJson := by
    simp [entries, toJson, object?, Bag.get?]
  have hvariant : a.entries.get? "variant" = a.variant.map .string := by
    simp [entries, toJson, object?, Bag.get?]
  have hobject : a.toJson.object? = some a.entries := rfl
  simp only [ofJson?, hobject, hgenerator, hwidth, hheight, htileSize, hoptions, hanchor, hoffset,
    hscale, hvariant, Option.bind_eq_bind, Option.bind_some, Option.some_or,
    readAnchor_toJson h.anchor, readOffset_toJson h.offset, readScale_toJson h.scale,
    cleanText?_map_string h.variant]
  rfl

end Appearance

/-! ### Templates -/

/-- Every part is sane; a description may be empty. -/
structure ObjectTemplate.Sane (t : ObjectTemplate) : Prop where
  id : IsClean t.id
  name : IsClean t.name
  description : t.description = "" ∨ IsClean t.description
  interaction : ∀ i ∈ t.interaction, i.Sane
  behaviour : ∀ s ∈ t.behaviour, s.Sane
  appearance : ∀ a ∈ t.appearance, a.Sane
  metadata : (object t.metadata).Proper

namespace ObjectTemplate

variable {t : ObjectTemplate} {source : Option String}

theorem sane_of_ofJson {j : Json} (hj : j.Proper) (h : ofJson j source = .ok t) : t.Sane := by
  rw [ofJson] at h
  split at h
  · cases h
  · rename_i b hb
    obtain rfl := object?_eq_some.mp hb
    split at h
    · cases h
    · rename_i id hid
      cases h
      have hget (key : String) : ∀ v ∈ b.get? key, v.Proper := fun v => proper_of_get? hj
      refine
        { id := isClean_of_cleanText? hid
          name := ?name
          description := ?description
          interaction := ?interaction
          behaviour := ?behaviour
          appearance := ?appearance
          metadata := ?metadata }
      case name =>
        cases hname : cleanText? (b.get? "name") with
        | none => exact isClean_of_cleanText? hid
        | some name => exact isClean_of_cleanText? hname
      case description =>
        cases hdescription : cleanText? (b.get? "description") with
        | none => exact .inl rfl
        | some description => exact .inr (isClean_of_cleanText? hdescription)
      case interaction =>
        intro i hi
        obtain ⟨v, hv, hi⟩ := Option.bind_eq_some_iff.mp hi
        exact InteractionSpec.sane_of_ofJson? (forall_mem_or (hget _) (hget _) v hv) hi
      case behaviour =>
        intro s hs
        obtain ⟨v, hv, hs⟩ := Option.bind_eq_some_iff.mp hs
        have hproper := forall_mem_or (hget _) (forall_mem_or (hget _) (hget _)) v hv
        exact BehaviourSpec.sane_of_ofJson? hproper hs
      case appearance =>
        intro a ha
        obtain ⟨v, hv, ha⟩ := Option.bind_eq_some_iff.mp ha
        exact Appearance.sane_of_ofJson? (forall_mem_or (hget _) (hget _) v hv) ha
      case metadata =>
        cases hmetadata : (b.get? "metadata").bind object? with
        | none => simp [Json.Proper, ProperEntries]
        | some m => exact proper_of_object? hj hmetadata

namespace Sane

theorem widen_toJson (h : t.Sane) : t.toJson.widen = t.toJson := by
  have hinteraction := widen_orNull fun i hi => (h.interaction i hi).widen_toJson
  have hbehaviour := widen_orNull fun s hs => (h.behaviour s hs).widen_toJson
  have happearance := widen_orNull fun a ha => (h.appearance a ha).widen_toJson
  have hmetadata : widenEntries t.metadata = t.metadata := widenEntries_of_proper _ h.metadata.2
  simp only [toJson, widen, widenEntries, hinteraction, hbehaviour, happearance, hmetadata]

/-- A part that was left out is written as `null`, which is no part, and nothing else is looked
for. -/
theorem ofJson_toJson (h : t.Sane) (source : Option String) :
    ofJson t.toJson source = .ok { t with source } := by
  have hname : (cleanText? (some (.string t.name))).getD t.id = t.name := by
    rw [cleanText?_string h.name, Option.getD_some]
  have hdescription : (cleanText? (some (.string t.description))).getD "" = t.description := by
    rcases h.description with hempty | hclean
    · rw [hempty]
      rfl
    · rw [cleanText?_string hclean, Option.getD_some]
  have hinteraction :
      InteractionSpec.ofJson? (Json.orNull InteractionSpec.toJson t.interaction) =
        t.interaction := by
    cases hpart : t.interaction with
    | none => rfl
    | some i => exact (h.interaction i hpart).ofJson?_toJson
  have hbehaviour :
      BehaviourSpec.ofJson? (Json.orNull BehaviourSpec.toJson t.behaviour) = t.behaviour := by
    cases hpart : t.behaviour with
    | none => rfl
    | some s => exact (h.behaviour s hpart).ofJson?_toJson
  have happearance :
      Appearance.ofJson? (Json.orNull Appearance.toJson t.appearance) = t.appearance := by
    cases hpart : t.appearance with
    | none => rfl
    | some a => exact (h.appearance a hpart).ofJson?_toJson
  simp [ofJson, toJson, object?, Bag.get?, cleanText?_string h.id, hname, hdescription,
    hinteraction, hbehaviour, happearance]

end Sane

end ObjectTemplate

/-! ### Main result -/

/-- What was read of a template, an appearance, an interaction or a behaviour is read as it is once
it was written, whatever it was read from. -/
theorem templates_retract {j : Json} (hj : j.Proper) :
    (∀ t source source', ObjectTemplate.ofJson j source = .ok t →
      ObjectTemplate.ofJson t.toJson.widen source' = .ok { t with source := source' }) ∧
    (∀ a, Appearance.ofJson? j = some a → Appearance.ofJson? a.toJson.widen = some a) ∧
    (∀ i, InteractionSpec.ofJson? j = some i →
      InteractionSpec.ofJson? i.toJson.widen = some i) ∧
    ∀ s, BehaviourSpec.ofJson? j = some s → BehaviourSpec.ofJson? s.toJson.widen = some s := by
  refine ⟨fun t source source' ht => ?_, fun a ha => ?_, fun i hi => ?_, fun s hs => ?_⟩
  · have hsane := ObjectTemplate.sane_of_ofJson hj ht
    rw [hsane.widen_toJson, hsane.ofJson_toJson]
  · have hsane := Appearance.sane_of_ofJson? hj ha
    rw [hsane.widen_toJson, hsane.ofJson?_toJson]
  · have hsane := InteractionSpec.sane_of_ofJson? hj hi
    rw [hsane.widen_toJson, hsane.ofJson?_toJson]
  · have hsane := BehaviourSpec.sane_of_ofJson? hj hs
    rw [hsane.widen_toJson, hsane.ofJson?_toJson]

/-- A template that is written with the other keys and with numbers beyond their ranges. -/
def lampJson : Json :=
  .object
    [("id", .string " lamp "), ("name", .number (.int 7)), ("description", .string " "),
      ("behavior", .object
        [("text", .string "It glows "), ("broadcast", .number (.int 1)),
          ("effects", .array [.string "light", .null])]),
      ("sprite", .object
        [("draw", .string "lamp"), ("columns", .number (.int 0)), ("tile_size", .number (.int 2)),
          ("anchor", .object [("x", .number (.int 3))]), ("scale", .number (.int 12))])]

theorem proper_lampJson : lampJson.Proper := by
  have hfits (n : Int) (h : n ∈ [0, 1, 2, 3, 7, 12]) : Fits64 n := by
    simp only [List.mem_cons, List.not_mem_nil, or_false] at h
    rcases h with rfl | rfl | rfl | rfl | rfl | rfl <;>
      exact fits64_of_bounds (by decide) (by decide)
  simp [lampJson, Json.Proper, ProperEntries, ProperItems, Number.Proper, hfits]

/-- Some texts of a template and the sizes of its appearance. -/
def ObjectTemplate.summary (t : ObjectTemplate) :
    List (Option String) × Option (UInt32 × UInt32) :=
  ([t.id, t.name, t.description, t.interaction.bind (·.message), t.appearance.map (·.generator)],
    t.appearance.map fun a => (a.width, a.tileSize))

/-- A lamp is read, written and read again, under another source. -/
theorem templates_retract_lamp :
    lampJson.Proper ∧ ∃ t, ObjectTemplate.ofJson lampJson none = .ok t ∧
      ObjectTemplate.ofJson t.toJson.widen (some "lamp.obj") =
        .ok { t with source := some "lamp.obj" } ∧
      t.summary = ([some "lamp", some "lamp", some "", some "It glows", some "lamp"],
        some (1, 4)) := by
  have hsummary : (ObjectTemplate.ofJson lampJson none).toOption.map (·.summary) =
      some ([some "lamp", some "lamp", some "", some "It glows", some "lamp"], some (1, 4)) := by
    decide +kernel
  obtain ⟨t, ht, hsummary⟩ := exists_ok_of_toOption_map hsummary
  exact ⟨proper_lampJson, t, ht,
    (templates_retract proper_lampJson).1 t none (some "lamp.obj") ht, hsummary⟩

end Tilemap
