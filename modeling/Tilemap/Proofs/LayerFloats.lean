import Tilemap.Proofs.MapJson
import Tilemap.Proofs.TileReferences
import Tilemap.Proofs.UnitInterval

/-!
# Floats of layers

A layer has an elevation and an opacity, either of which may be absent. A source can spell infinity
and what is no number, or give opacities without a finite product, and no front end looks for that:
such a float ends up in the layer, is written as `null` and is absent when the layer is read again.
`layers_read_back` says that nothing else is lost, and `layers_hold_numbers` that nothing at all is
lost from a source that spells numbers: there every float of a layer is finite and every opacity
lies between zero and one.

The floats of both front ends are followed with one pair of predicates, `P` for elevations and `Q`
for opacities.
-/

namespace Tilemap

/-! ### Statement -/

/-- The key, in its compact form, and the float of a line that sets a property of a layer to one. -/
def Line.floatProperty? (line : Line) : Option (String × Float32) := do
  let code ← line.code
  let (key, value) ← layerProperty? code
  return (Key.compact key, ← Decimal.toFloat32? value.toList)

/-- A line that sets neither an elevation to what is not finite nor an opacity to what is no
number. -/
def Line.SpellsNumbers (line : Line) : Prop :=
  ∀ p ∈ line.floatProperty?,
    (p.1 = "elevation" → p.2.isFinite) ∧ (p.1 = "opacity" → ¬ p.2.isNaN)

/-- A map text whose layers have such lines only. -/
def SpellsNumbers (text : String) : Prop :=
  ∀ s ∈ sectionsStarting (splitSections text) "layer", ∀ line ∈ s.lines, line.SpellsNumbers

instance (line : Line) : Decidable line.SpellsNumbers :=
  inferInstanceAs (Decidable (∀ p ∈ line.floatProperty?,
    (p.1 = "elevation" → p.2.isFinite) ∧ (p.1 = "opacity" → ¬ p.2.isNaN)))

instance (text : String) : Decidable (SpellsNumbers text) :=
  inferInstanceAs (Decidable (∀ s ∈ sectionsStarting (splitSections text) "layer",
    ∀ line ∈ s.lines, line.SpellsNumbers))

/-- A Tiled map in which the elevation of every layer is finite as a 32-bit float, and the opacity
that a layer has inside its groups is a number. -/
def Tiled.Document.GivesNumbers (d : Document) : Prop :=
  ∀ l ∈ d.flatLayers, (∀ x ∈ l.elevation?, x.isFinite) ∧ ∀ o ∈ l.opacity, ¬ o.isNaN

/-- What is known of the floats of a layer. -/
structure TileLayer.FloatsSatisfy (l : TileLayer) (P Q : Float32 → Prop) : Prop where
  elevation : ∀ x ∈ l.elevation, P x
  opacity : ∀ x ∈ l.opacity, Q x

variable {P Q : Float32 → Prop}

/-! ### Drawn layers -/

/-- What a line sets a float of a layer to is known as well. -/
def Line.GivesFloats (line : Line) (P Q : Float32 → Prop) : Prop :=
  ∀ p ∈ line.floatProperty?,
    (p.1 = "elevation" → P p.2) ∧ (p.1 = "opacity" → Q (clampUnit p.2))

namespace TileLayer

variable {l l' : TileLayer}

/-- A property keeps what holds of the floats if its value satisfies it. -/
theorem FloatsSatisfy.set (h : l.FloatsSatisfy P Q) {key value : String}
    (hvalue : ∀ x ∈ Decimal.toFloat32? value.toList,
      (Key.compact key = "elevation" → P x) ∧ (Key.compact key = "opacity" → Q (clampUnit x))) :
    (l.set key value).FloatsSatisfy P Q := by
  rw [TileLayer.set]
  split
  · split
    · exact h
    · exact ⟨h.elevation, h.opacity⟩
  · split
    · exact h
    · exact ⟨h.elevation, h.opacity⟩
  · exact ⟨h.elevation, h.opacity⟩
  · exact ⟨h.elevation, h.opacity⟩
  · exact ⟨h.elevation, h.opacity⟩
  · rename_i hkey
    exact ⟨forall_mem_or (fun x hx => (hvalue x hx).1 hkey) h.elevation, h.opacity⟩
  · rename_i hkey
    refine ⟨h.elevation, forall_mem_or (fun y hy => ?_) h.opacity⟩
    obtain ⟨x, hx, rfl⟩ := Option.map_eq_some_iff.mp hy
    exact (hvalue x hx).2 hkey
  · exact h

/-- The floats of a layer that nothing set, or that no source draws. -/
theorem floatsSatisfy_of_plain (hzero : P 0) (helevation : l.elevation = some 0)
    (hopacity : l.opacity = none) : l.FloatsSatisfy P Q := by
  refine ⟨fun x hx => ?_, fun x hx => ?_⟩
  · obtain rfl : 0 = x := Option.some.inj (helevation ▸ hx)
    exact hzero
  · rw [hopacity] at hx
    cases hx

theorem FloatsSatisfy.addRow (h : l.FloatsSatisfy P Q) {row : List Cell}
    (hadd : l.addRow row = .ok l') : l'.FloatsSatisfy P Q := by
  obtain ⟨-, rfl⟩ := addRow_eq_ok.mp hadd
  exact ⟨h.elevation, h.opacity⟩

/-- A line keeps what holds of the floats if it gives only floats that satisfy it. -/
theorem FloatsSatisfy.addLine (h : l.FloatsSatisfy P Q) {tiles : TileTable} {line : Line}
    (hline : line.GivesFloats P Q) (hadd : l.addLine tiles line = .ok l') :
    l'.FloatsSatisfy P Q := by
  rcases addLine_eq_ok hadd with ⟨-, row, -, -, hadd⟩ | ⟨code, key, value, hcode, hproperty, rfl⟩ |
    rfl
  · exact h.addRow hadd
  · refine h.set fun x hx => hline (Key.compact key, x) ?_
    simp [Line.floatProperty?, hcode, hproperty, Option.mem_def.mp hx]
  · exact h

end TileLayer

/-- What holds of every float in the lines holds of the floats of the layers that they draw. -/
theorem floatsSatisfy_compileLayers {tiles : TileTable} {sections : List Section}
    {layers : List TileLayer} (hzero : P 0)
    (hlines : ∀ s ∈ sections, ∀ line ∈ s.lines, line.GivesFloats P Q)
    (h : compileLayers tiles sections = .ok layers) : ∀ l ∈ layers, l.FloatsSatisfy P Q := by
  intro l hl
  obtain ⟨s, hs, index, hfold, -⟩ := exists_foldlM_of_mem_compileLayers h hl
  exact foldlM_preserves (P := fun l => l.FloatsSatisfy P Q)
    (fun line hline _ _ hb hadd => hb.addLine (hlines s hs line hline) hadd)
    (TileLayer.floatsSatisfy_of_plain hzero rfl rfl) hfold

/-- What holds of zero and of the floats of the layers holds in the map. -/
theorem MapParts.floatsSatisfy_completed {p : MapParts} (hzero : P 0)
    (h : ∀ l ∈ p.layers, l.FloatsSatisfy P Q) : ∀ l ∈ p.completed.layers, l.FloatsSatisfy P Q := by
  intro l hl
  have hl := (p.mem_finalLayers l).mp hl
  split at hl
  · subst hl
    exact TileLayer.floatsSatisfy_of_plain hzero rfl rfl
  · exact h l hl

/-- What holds of zero and of every float in the lines of layers holds in the map that is
compiled. -/
theorem compile_floatsSatisfy {text : String} {options : CompileOptions} {m : MapModel}
    (hzero : P 0)
    (hlines : ∀ s ∈ sectionsStarting (splitSections text) "layer",
      ∀ line ∈ s.lines, line.GivesFloats P Q)
    (h : compile text options = .ok m) : ∀ l ∈ m.layers, l.FloatsSatisfy P Q := by
  obtain ⟨tiles, layers, doors, doorObjects, ids, objectLayers, ids', -, hlayers, -, -, hm⟩ :=
    compile_eq_ok h
  obtain ⟨-, rfl⟩ := MapParts.assemble_eq_ok_iff.mp hm
  exact MapParts.floatsSatisfy_completed hzero (floatsSatisfy_compileLayers hzero hlines hlayers)

/-! ### Layers of a Tiled map -/

namespace Tiled

/-- An imported layer has its own elevation, and its own opacity put between zero and one. -/
theorem floatsSatisfy_toTileLayer {l : Layer} {d : Document} {index : TileIndex} {place : Nat}
    {layer : TileLayer} (helevation : ∀ x ∈ l.elevation?, P x)
    (hopacity : ∀ o ∈ l.opacity, Q (Binary.narrow (clamp o 0 1)))
    (hlayer : l.toTileLayer d index place = .ok layer) : layer.FloatsSatisfy P Q := by
  simp only [Layer.toTileLayer, bind_eq_ok, pure_eq_ok] at hlayer
  obtain ⟨-, -, items, -, rfl⟩ := hlayer
  refine ⟨helevation, fun x hx => ?_⟩
  obtain ⟨o, ho, rfl⟩ := Option.map_eq_some_iff.mp hx
  exact hopacity o ho

theorem floatsSatisfy_splitLayers {d : Document} {index : TileIndex} {a b : IdAllocator}
    {numbered : List (Layer × Nat)} {tiles : List TileLayer} {groups : List ObjectLayer}
    (hlayers : ∀ e ∈ numbered, (∀ x ∈ e.1.elevation?, P x) ∧
      ∀ o ∈ e.1.opacity, Q (Binary.narrow (clamp o 0 1)))
    (h : splitLayers d index a numbered = .ok (tiles, groups, b)) :
    ∀ l ∈ tiles, l.FloatsSatisfy P Q := by
  intro layer hlayer
  obtain ⟨l, place, hmem, hl⟩ := exists_toTileLayer_of_mem_splitLayers h hlayer
  obtain ⟨helevation, hopacity⟩ := hlayers _ hmem
  exact floatsSatisfy_toTileLayer helevation hopacity hl

/-- What holds of zero and of the floats of all layers holds in the map that is imported. -/
theorem toMap_floatsSatisfy {d : Document} {options : CompileOptions} {m : MapModel} (hzero : P 0)
    (hlayers : ∀ l ∈ d.flatLayers, (∀ x ∈ l.elevation?, P x) ∧
      ∀ o ∈ l.opacity, Q (Binary.narrow (clamp o 0 1)))
    (h : d.toMap options = .ok m) : ∀ l ∈ m.layers, l.FloatsSatisfy P Q := by
  obtain ⟨index, layers, objectLayers, ids, doors, doorObjects, ids', -, hsplit, -, hm⟩ :=
    toMap_eq_ok h
  obtain ⟨-, rfl⟩ := MapParts.assemble_eq_ok_iff.mp hm
  refine MapParts.floatsSatisfy_completed hzero (floatsSatisfy_splitLayers ?_ hsplit)
  exact fun e he => hlayers e.1 (List.fst_mem_of_mem_zipIdx he)

/-! ### Opacities inside groups -/

mutual

/-- The opacities of a layer and of the layers in it lie between zero and one. -/
def Layer.Translucent : Layer → Prop
  | ⟨_, _, _, _, opacity, _, _, _, _, _, layers, _⟩ =>
    (∀ o ∈ opacity, 0 ≤ o ∧ o ≤ 1) ∧ AllTranslucent layers

/-- The opacities of several layers and of the layers in them lie between zero and one. -/
def AllTranslucent : List Layer → Prop
  | [] => True
  | l :: rest => l.Translucent ∧ AllTranslucent rest

end

mutual

/-- Opacities between zero and one stay there when they are multiplied through groups. -/
theorem Layer.opacity_flatten (l : Layer) (hl : l.Translucent) {visible : Bool} {opacity : Float}
    (hopacity : 0 ≤ opacity ∧ opacity ≤ 1) :
    ∀ l' ∈ l.flatten visible opacity, ∀ o ∈ l'.opacity, 0 ≤ o ∧ o ≤ 1 := by
  match l, hl with
  | ⟨_, _, kind, _, ownOpacity, _, _, _, _, _, layers, _⟩, hl =>
    obtain ⟨hown, hlayers⟩ := hl
    have hproduct : ∀ o ∈ ownOpacity.map (· * opacity), 0 ≤ o ∧ o ≤ 1 := by
      intro o ho
      obtain ⟨own, hmem, rfl⟩ := Option.map_eq_some_iff.mp ho
      exact Binary.mul_mem (hown own hmem) hopacity
    rw [Layer.flatten]
    dsimp only
    split
    · refine opacity_flattenAll layers hlayers ?_
      cases hown : ownOpacity with
      | none => exact hopacity
      | some own => exact hproduct _ (by rw [hown]; rfl)
    · intro l' hl' o ho
      obtain rfl := List.mem_singleton.mp hl'
      refine forall_mem_or hproduct (fun o ho => ?_) o ho
      split at ho
      · obtain rfl := Option.some.inj ho
        exact hopacity
      · cases ho

theorem opacity_flattenAll (layers : List Layer) (h : AllTranslucent layers) {visible : Bool}
    {opacity : Float} (hopacity : 0 ≤ opacity ∧ opacity ≤ 1) :
    ∀ l ∈ flattenAll visible opacity layers, ∀ o ∈ l.opacity, 0 ≤ o ∧ o ≤ 1 := by
  match layers, h with
  | [], _ => simp [flattenAll]
  | l :: rest, h =>
    rw [flattenAll]
    refine List.forall_mem_append.mpr ⟨?_, ?_⟩
    · exact Layer.opacity_flatten l h.1 hopacity
    · exact opacity_flattenAll rest h.2 hopacity

end

/-- Opacities between zero and one have products that are numbers. -/
theorem Document.givesNumbers_of_translucent {d : Document} (h : AllTranslucent d.layers)
    (helevation : ∀ l ∈ d.flatLayers, ∀ x ∈ l.elevation?, x.isFinite) : d.GivesNumbers :=
  fun l hl => ⟨helevation l hl, fun o ho =>
    Binary.not_isNaN_of_mem (opacity_flattenAll d.layers h (by decide +kernel) l hl o ho)⟩

end Tiled

/-! ### Main results -/

/-- A layer is read from its text without the floats that are not finite. -/
theorem TileLayer.parse?_document {l : TileLayer} (hfloats : FloatsReadBack l.toJson.numbers) :
    TileLayer.decode.parse? l.toJson.document = some l.finitePart := by
  have hdepth : l.toJson.depth < Json.depthLimit := Nat.lt_of_le_of_lt l.depth_toJson (by decide)
  rw [Json.Decoder.parse?, Json.Raw.parse?_document, Option.bind_some,
    decode_toJson ⟨hdepth, hfloats⟩]

/-- Whatever the source of an accepted map spells, an opacity lies between zero and one or is no
number, and a layer that is read again has lost the floats that are not finite and nothing else. -/
theorem layers_read_back {text : String} {options : CompileOptions} {m : MapModel}
    (h : compile text options = .ok m ∨ Tiled.importText text options = .ok m) :
    ∀ l ∈ m.layers, (∀ x ∈ l.opacity, x.isNaN ∨ 0 ≤ x ∧ x ≤ 1) ∧
      (FloatsReadBack l.toJson.numbers →
        TileLayer.decode.parse? l.toJson.document = some l.finitePart) := by
  have hfloats : ∀ l ∈ m.layers,
      l.FloatsSatisfy (fun _ => True) fun x => x.isNaN ∨ 0 ≤ x ∧ x ≤ 1 := by
    rcases h with h | h
    · refine compile_floatsSatisfy trivial (fun s _ line _ p _ => ⟨fun _ => trivial, fun _ => ?_⟩) h
      exact (Binary.clampUnit_mem p.2).imp_left And.right
    · obtain ⟨d, -, h⟩ := Tiled.importText_eq_ok h
      refine Tiled.toMap_floatsSatisfy trivial (fun l _ => ⟨fun _ _ => trivial, fun o _ => ?_⟩) h
      exact (Binary.narrow_clamp_mem o).imp_left And.right
  exact fun l hl => ⟨(hfloats l hl).opacity, TileLayer.parse?_document⟩

/-- The floats of a layer are numbers, its opacity lies between zero and one, and it is read from
its text as it was written. -/
structure TileLayer.HoldsNumbers (l : TileLayer) : Prop where
  elevation : ∀ x ∈ l.elevation, x.isFinite
  opacity : ∀ x ∈ l.opacity, x.isFinite ∧ 0 ≤ x ∧ x ≤ 1
  reads_back : FloatsReadBack l.toJson.numbers →
    TileLayer.decode.parse? l.toJson.document = some l

/-- The layers of every accepted map hold numbers, provided that its source spells numbers. -/
theorem layers_hold_numbers {text : String} {options : CompileOptions} {m : MapModel}
    (h : (compile text options = .ok m ∧ SpellsNumbers text) ∨
      (Tiled.importText text options = .ok m ∧
        ∀ d, Tiled.Document.parse? text = some d → d.GivesNumbers)) :
    ∀ l ∈ m.layers, l.HoldsNumbers := by
  have hfloats : ∀ l ∈ m.layers, l.FloatsSatisfy (·.isFinite) fun x => 0 ≤ x ∧ x ≤ 1 := by
    have hzero : (0 : Float32).isFinite := by decide +kernel
    rcases h with ⟨h, hnumbers⟩ | ⟨h, hnumbers⟩
    · refine compile_floatsSatisfy hzero (fun s hs line hline p hp => ?_) h
      obtain ⟨helevation, hopacity⟩ := hnumbers s hs line hline p hp
      exact ⟨helevation, fun hkey =>
        (Binary.clampUnit_mem p.2).resolve_left fun hnan => hopacity hkey hnan.1⟩
    · obtain ⟨d, hd, h⟩ := Tiled.importText_eq_ok h
      refine Tiled.toMap_floatsSatisfy hzero (fun l hl => ?_) h
      obtain ⟨helevation, hopacity⟩ := hnumbers d hd l hl
      exact ⟨helevation, fun o ho =>
        (Binary.narrow_clamp_mem o).resolve_left fun hnan => hopacity o ho hnan.1⟩
  intro l hl
  obtain ⟨helevation, hopacity⟩ := hfloats l hl
  have hfinite : l.IsFinite := ⟨helevation, fun x hx => Binary.isFinite_of_mem (hopacity x hx)⟩
  refine ⟨helevation, fun x hx => ⟨hfinite.opacity x hx, hopacity x hx⟩, fun hread => ?_⟩
  rw [TileLayer.parse?_document hread, hfinite.finitePart_eq]

deriving instance DecidableEq for TileLayer

def mistText : String := "[Layer mist]\nopacity: -3\nelevation: 0.5\n. none"

def mistLayer : TileLayer :=
  ⟨"layer_mist", "Layer mist", 0, true, some .ground, some 0.5, some 0, [[some "floor", none]]⟩

theorem floatsReadBack_mistLayer : FloatsReadBack mistLayer.toJson.numbers := by
  have hnumbers : mistLayer.toJson.numbers = [.int 0, .single 0.5, .single 0] := rfl
  rw [hnumbers]
  refine ⟨fun x hx _ => by simp at hx, fun x hx _ => ?_⟩
  rcases (by simpa using hx : x = 0.5 ∨ x = 0) with rfl | rfl
  · exact Json.single_parse?_ofFloat32 (BoundMap.wellFormed_tenths (by decide) (by decide))
      (by decide +kernel) BoundMap.number?_half (by decide +kernel)
  · exact Json.single_parse?_ofFloat32 (BoundMap.wellFormed_tenths (by decide) (by decide))
      (by decide +kernel) BoundMap.number?_nought (by decide +kernel)

theorem layers_hold_numbers_mist :
    ∃ m, compile mistText .default = .ok m ∧ SpellsNumbers mistText ∧ m.layers = [mistLayer] ∧
      mistLayer.HoldsNumbers ∧
      TileLayer.decode.parse? mistLayer.toJson.document = some mistLayer := by
  have hlayers : (compile mistText .default).toOption.map (·.layers) = some [mistLayer] := by
    decide +kernel
  obtain ⟨m, hm, hlayers⟩ := exists_ok_of_toOption_map hlayers
  have hnumbers : SpellsNumbers mistText := by decide +kernel
  have hmist : mistLayer.HoldsNumbers :=
    layers_hold_numbers (.inl ⟨hm, hnumbers⟩) mistLayer (by simp [hlayers])
  exact ⟨m, hm, hnumbers, hlayers, hmist, hmist.reads_back floatsReadBack_mistLayer⟩

/-- A layer with floats that are not finite, which are absent when it is read from its text. -/
structure TileLayer.LosesFloats (l : TileLayer) : Prop where
  elevation : ∃ x ∈ l.elevation, ¬ x.isFinite
  opacity : ∃ x ∈ l.opacity, x.isNaN
  reads_back : TileLayer.decode.parse? l.toJson.document =
    some { l with elevation := none, opacity := none }

def murkText : String := "[Layer]\nopacity: nan\nelevation: inf\n. ."

/-- A map with an elevation that is too large for 32 bits and with groups whose opacities have no
finite product. -/
def Tiled.murkDocument : Document where
  width := 1
  height := 1
  tileWidth := none
  tileHeight := none
  layers :=
    [group 1e300 [group 1e300
      [⟨none, none, "tilelayer", none, some 0, none, none, none, none, [], [],
        [("phase3:elevation", .ofFloat 1e300)]⟩]]]
  tilesets := []
  properties := []
where
  group (opacity : Float) (layers : List Layer) : Layer :=
    ⟨none, none, groupKind, none, some opacity, none, none, none, none, [], layers, []⟩

/-- What the map text draws: an infinity and what is no number. -/
def murkLayer : TileLayer :=
  ⟨"layer", "Layer", 0, true, some .ground, some (1 / 0), some (0 / 0),
    [[some "floor", some "floor"]]⟩

def Tiled.murkLayer : TileLayer :=
  ⟨"layer-1", "layer-1", 0, true, none, some (1 / 0), some (0 / 0), [[none]]⟩

/-- An infinite elevation and an opacity that is no number are not in the text that is written. -/
theorem losesFloats_of_numbers {l : TileLayer}
    (hnumbers : l.toJson.numbers = [.int 0, .single (1 / 0), .single (0 / 0)])
    (helevation : l.elevation = some (1 / 0)) (hopacity : l.opacity = some (0 / 0)) :
    l.LosesFloats := by
  have hinfinite : (1 / 0 : Float32).isFinite = false := by decide +kernel
  have hnan : (0 / 0 : Float32).isFinite = false := by decide +kernel
  refine ⟨⟨_, helevation, by simp [hinfinite]⟩, ⟨_, hopacity, by decide +kernel⟩, ?_⟩
  -- None of the floats is finite, so nothing is asked of the reader of floats.
  have hfloats : FloatsReadBack l.toJson.numbers := by
    rw [hnumbers]
    refine ⟨fun x hx _ => by simp at hx, fun x hx hfinite => ?_⟩
    rcases (by simpa using hx : x = 1 / 0 ∨ x = 0 / 0) with rfl | rfl
    · exact absurd hfinite (by simp [hinfinite])
    · exact absurd hfinite (by simp [hnan])
  rw [TileLayer.parse?_document hfloats, TileLayer.finitePart, helevation, hopacity,
    Option.filter_some_neg hinfinite, Option.filter_some_neg hnan]

/-- Floats that are not finite come in through both front ends, and they are lost. -/
theorem exists_layer_losing_floats :
    (∃ m, compile murkText .default = .ok m ∧ ∃ l ∈ m.layers, l.LosesFloats) ∧
    ∃ m, Tiled.murkDocument.toMap .default = .ok m ∧ ∃ l ∈ m.layers, l.LosesFloats := by
  constructor
  · have hlayers : (compile murkText .default).toOption.map (·.layers) = some [murkLayer] := by
      decide +kernel
    obtain ⟨m, hm, hlayers⟩ := exists_ok_of_toOption_map hlayers
    exact ⟨m, hm, murkLayer, by simp [hlayers], losesFloats_of_numbers rfl rfl rfl⟩
  · have hlayers : (Tiled.murkDocument.toMap .default).toOption.map (·.layers) =
        some [Tiled.murkLayer] := by
      decide +kernel
    obtain ⟨m, hm, hlayers⟩ := exists_ok_of_toOption_map hlayers
    exact ⟨m, hm, Tiled.murkLayer, by simp [hlayers], losesFloats_of_numbers rfl rfl rfl⟩

end Tilemap
