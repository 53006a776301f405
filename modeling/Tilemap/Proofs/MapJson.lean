import Tilemap.File.Tree
import Tilemap.Proofs.Json.MapParts

/-!
# Maps that are written and read

A map is written to a file as one JSON object. `emitModel_reads_back` says that reading the file as
a map gives the same map: no field is lost, whether it is present, absent or empty. What is asked of
the map is what no JSON text could do without: its floats are finite, its bags hold JSON values, and
it is not nested deeper than a reader goes. What is asked of the reader is that it reads the floats
of the map right.
-/

namespace Tilemap

open Json

/-! ### Statement -/

namespace MapModel

/-- The objects of a map, those of its layers included. -/
def placements (m : MapModel) : List ObjectPlacement :=
  m.objects ++ m.objectLayers.flatMap (·.objects)

/-- The floats of all layers and appearances are finite. -/
structure IsFinite (m : MapModel) : Prop where
  layers : ∀ l ∈ m.layers, l.IsFinite
  appearances : ∀ p ∈ m.placements, ∀ a ∈ p.appearance, a.IsFinite

/-- The bags of a map hold what a JSON text can hold. -/
structure Proper (m : MapModel) : Prop where
  placements : ∀ p ∈ m.placements, p.Proper
  extra : (object m.extra).Proper

end MapModel

/-! ### The bag of unknown entries -/

namespace Bag

/-- The bag, unless it is empty and left out. -/
def written (b : Bag) : Option Bag := if b.isEmpty then none else some b

theorem optional_eq (key : String) (b : Bag) :
    Bag.optional key b = Json.optional key .object (Bag.written b) := by
  rw [Bag.optional, written]
  split <;> rfl

@[simp] theorem getD_written (b : Bag) : (Bag.written b).getD [] = b := by
  rw [written]
  split
  · rename_i hempty
    exact (List.isEmpty_iff.mp hempty).symm
  · rfl

theorem eq_of_mem_written {b b' : Bag} (h : b' ∈ Bag.written b) : b' = b := by
  rw [written] at h
  split at h
  · cases h
  · exact (Option.some.inj h).symm

end Bag

/-! ### Main result -/

namespace MapModel

/-- The entries of a map as JSON. -/
def entries (m : MapModel) : Bag := m.toJson.object?.getD []

theorem toJson_eq (m : MapModel) : m.toJson = .object m.entries := rfl

/-- A map is written with its fields in their order; two of them may be left out. -/
theorem keys_entries (m : MapModel) : (m.entries.map (·.1)).Sublist
    ["id", "name", "biome", "description", "size", "spawn", "spawnPoints", "blockedAreas",
      "tileTypes", "layers", "objectLayers", "objects", "doors", "theme", "collidableTiles",
      "sourcePath", "extra"] := by
  have hkeys :=
    (List.Sublist.refl ["id", "name", "biome", "description", "size", "spawn"]).append <|
    (keys_optional_sublist "spawnPoints" (SortedMap.toJson Position.toJson)
      m.spawnPoints.written).append <|
      (List.Sublist.refl ["blockedAreas", "tileTypes", "layers", "objectLayers", "objects", "doors",
        "theme", "collidableTiles", "sourcePath"]).append
          (keys_optional_sublist "extra" .object (Bag.written m.extra))
  rw [entries, toJson, SortedMap.optional_eq, Bag.optional_eq]
  simpa [Json.object?] using hkeys

theorem decodes {m : MapModel} (hm : m.Proper) (hfinite : m.IsFinite) :
    Decodes MapModel.decode MapModel.toJson m := by
  intro limit h
  have hkeys := m.keys_entries
  rw [entries, toJson, SortedMap.optional_eq, Bag.optional_eq] at hkeys
  rw [toJson, SortedMap.optional_eq, Bag.optional_eq] at h ⊢
  rw [decode]
  refine Fields.of?_bind_eq_some (by decide) hkeys h fun f hfields => ?_
  have hplacement {p : ObjectPlacement} (hp : p ∈ m.placements) :
      Decodes ObjectPlacement.decode ObjectPlacement.toJson p :=
    ObjectPlacement.decodes (hm.placements p hp) (hfinite.appearances p hp)
  have hinLayer {l : ObjectLayer} (hl : l ∈ m.objectLayers) {p : ObjectPlacement}
      (hp : p ∈ l.objects) : p ∈ m.placements :=
    List.mem_append_right _ (List.mem_flatMap.mpr ⟨l, hl, hp⟩)
  have hid : f.required "id" .string = some m.id :=
    hfields.required (decodes_string m.id) (by simp)
  have hname : f.required "name" .string = some m.name :=
    hfields.required (decodes_string m.name) (by simp)
  have hbiome : f.required "biome" .string = some m.biome :=
    hfields.required (decodes_string m.biome) (by simp)
  have hdescription : f.required "description" .string = some m.description :=
    hfields.required (decodes_string m.description) (by simp)
  have hsize : f.required "size" Size.decode = some m.size :=
    hfields.required m.size.decodes (by simp)
  have hspawn : f.required "spawn" Position.decode = some m.spawn :=
    hfields.required m.spawn.decodes (by simp)
  have hspawnPoints : f.withDefault "spawnPoints" .empty (.sortedMap Position.decode) =
      some (m.spawnPoints.written.getD .empty) :=
    hfields.withDefault_getD (fun m _ => SortedMap.decodes fun e _ => e.2.decodes)
      (by simp [List.lookup_append])
  have hblockedAreas : f.required "blockedAreas" (.list Area.decode) = some m.blockedAreas :=
    hfields.required (decodes_list fun a _ => a.decodes) (by simp [List.lookup_append])
  have htileTypes : f.required "tileTypes" (.sortedMap TileType.decode) = some m.tileTypes :=
    hfields.required (SortedMap.decodes fun e _ => e.2.decodes) (by simp [List.lookup_append])
  have hlayers : f.required "layers" (.list TileLayer.decode) = some m.layers :=
    hfields.required (decodes_list fun l hl => TileLayer.decodes (hfinite.layers l hl))
      (by simp [List.lookup_append])
  have hobjectLayers : f.required "objectLayers" (.list ObjectLayer.decode) =
      some m.objectLayers :=
    hfields.required
      (decodes_list fun l hl => ObjectLayer.decodes (fun p hp => hm.placements p (hinLayer hl hp))
        fun p hp => hfinite.appearances p (hinLayer hl hp))
      (by simp [List.lookup_append])
  have hobjects : f.required "objects" (.list ObjectPlacement.decode) = some m.objects :=
    hfields.required (decodes_list fun p hp => hplacement (List.mem_append_left _ hp))
      (by simp [List.lookup_append])
  have hdoors : f.required "doors" (.list Door.decode) = some m.doors :=
    hfields.required (decodes_list fun d _ => d.decodes) (by simp [List.lookup_append])
  have htheme : f.required "theme" Theme.decode = some m.theme :=
    hfields.required m.theme.decodes (by simp [List.lookup_append])
  have hcollidableTiles : f.required "collidableTiles" (.list Position.decode) =
      some m.collidableTiles :=
    hfields.required (decodes_list fun p _ => p.decodes) (by simp [List.lookup_append])
  have hsourcePath : f.optionalNamed "sourcePath" .string = some m.sourcePath :=
    hfields.optionalNamed (fun s _ => DecodesPresent.string s) (by simp [List.lookup_append])
  have hextra : f.withDefault "extra" [] .bag = some ((Bag.written m.extra).getD []) :=
    hfields.withDefault_getD (fun b hb => decodes_bag (Bag.eq_of_mem_written hb ▸ hm.extra))
      (by simp [List.lookup_append])
  simp [hid, hname, hbiome, hdescription, hsize, hspawn, hspawnPoints, hblockedAreas, htileTypes,
    hlayers, hobjectLayers, hobjects, hdoors, htheme, hcollidableTiles, hsourcePath, hextra]

end MapModel

namespace BoundMap

/-- The file that a map is written to is read as the same map, whatever the store is. -/
theorem emitModel_reads_back {M : Type → Type} [Monad M] [FileStore M] (b : BoundMap)
    (directory : String) (hproper : b.map.Proper) (hfinite : b.map.IsFinite)
    (hdepth : b.map.toJson.depth ≤ 127) (hfloats : FloatsReadBack b.map.toJson.numbers) :
    ∃ text, (b.emitModel directory : M (Except FileError Unit)) =
      FileStore.write (b.modelPath directory) text ∧ MapModel.parse? text = some b.map := by
  refine ⟨b.map.toJson.document, rfl, ?_⟩
  rw [MapModel.parse?, Decoder.parse?, Raw.parse?_document, Option.bind_some]
  exact MapModel.decodes hproper hfinite depthLimit ⟨Nat.lt_succ_of_le hdepth, hfloats⟩

/-- An object with an appearance, a part that is empty and a bag with values of several types. -/
def fountain : ObjectPlacement where
  id := "fountain"
  name := "Fountain \"Vieja\""
  position := ⟨-1, 0⟩
  size := .unit
  solid := true
  objectId := none
  metadata := [("tags", .array [.string "new\n", .number (.int (-3)), .null])]
  appearance := some ⟨"fountain", 1, 1, 16, [], ⟨0.5, 0.5⟩, ⟨0.5, 0.5⟩, ⟨0.5, 0.5⟩, none⟩
  interaction := some { InteractionSpec.empty with metadata := some [] }

/-- A map with the object and a layer with a tile and an empty cell. -/
def plaza : BoundMap where
  map :=
    { id := "plaza"
      name := "Plaza"
      biome := defaultBiome
      description := ""
      size := ⟨2, 1⟩
      spawn := ⟨0, 0⟩
      spawnPoints := .empty
      blockedAreas := []
      tileTypes := ⟨[("floor", TileType.fresh "floor" ".")], List.pairwise_singleton _ _⟩
      layers := [⟨"base", "Base", 0, true, some .ground, some 0, none, [[some "floor", none]]⟩]
      objectLayers := []
      objects := [fountain]
      doors := []
      theme := ⟨none, none⟩
      collidableTiles := []
      sourcePath := none
      extra := [] }
  objects := []

def tenths (whole tenth : Char) : NumberLiteral := ⟨false, [whole], some [tenth], none⟩

theorem wellFormed_tenths {whole tenth : Char} (hwhole : whole.isDigit) (htenth : tenth.isDigit) :
    (tenths whole tenth).WellFormed := by
  refine ⟨⟨⟨List.cons_ne_nil _ _, by simpa [tenths] using hwhole⟩, by simp [tenths]⟩, ?_,
    by simp [tenths]⟩
  rintro f ⟨⟩
  exact ⟨List.cons_ne_nil _ _, by simpa using htenth⟩

theorem number?_half : (tenths '0' '5').number? = some (.double 0.5) := by
  have hscale : NumberLiteral.scale (Binary.ofInt64 5) (-1) = some 0.5 := by
    rw [scale_of_neg (by decide) (by decide)]
    rfl
  change ((NumberLiteral.scale (Binary.ofInt64 5) (-1)).map fun x => x).map Number.double = _
  rw [hscale]
  rfl

theorem number?_nought : (tenths '0' '0').number? = some (.double 0) := by
  have hscale : NumberLiteral.scale (Binary.ofInt64 0) (-1) = some 0 := by
    rw [scale_of_neg (by decide) (by decide)]
    rfl
  change ((NumberLiteral.scale (Binary.ofInt64 0) (-1)).map fun x => x).map Number.double = _
  rw [hscale]
  rfl

theorem floatsReadBack_plaza : FloatsReadBack plaza.map.toJson.numbers := by
  have hnumbers : plaza.map.toJson.numbers =
      [.int 2, .int 1, .int 0, .int 0, .int 0, .single 0, .int (-1), .int 0, .int 1, .int 1,
        .int (-3), .int 1, .int 1, .int 16, .double 0.5, .double 0.5, .double 0.5, .double 0.5,
        .double 0.5, .double 0.5] := rfl
  rw [hnumbers]
  refine ⟨fun x hx _ => ?_, fun x hx _ => ?_⟩
  · obtain rfl : x = 0.5 := by simpa using hx
    exact parse?_ofFloat (wellFormed_tenths (by decide) (by decide)) (by decide +kernel)
      number?_half
  · obtain rfl : x = 0 := by simpa using hx
    exact single_parse?_ofFloat32 (wellFormed_tenths (by decide) (by decide)) (by decide +kernel)
      number?_nought (by decide +kernel)

theorem proper_plaza : plaza.map.Proper := by
  have hplacements : plaza.map.placements = [fountain] := rfl
  refine ⟨fun p hp => ?_, by simp [plaza, Json.Proper, ProperEntries]⟩
  rw [hplacements] at hp
  obtain rfl := List.mem_singleton.mp hp
  refine ⟨?_, ?_, ?_⟩
  · simp only [fountain, Json.Proper, ProperEntries, ProperItems, Number.Proper, and_true, true_and]
    exact ⟨by simp, fits64_of_bounds (by decide) (by decide)⟩
  · rintro a ⟨⟩
    simp [Json.Proper, ProperEntries]
  · rintro i ⟨⟩ b ⟨⟩
    simp [Json.Proper, ProperEntries]

theorem isFinite_plaza : plaza.map.IsFinite := by
  have hplacements : plaza.map.placements = [fountain] := rfl
  refine ⟨fun l hl => ?_, fun p hp a ha => ?_⟩
  · obtain rfl := List.mem_singleton.mp hl
    refine ⟨?_, by simp⟩
    rintro x ⟨⟩
    decide +kernel
  · rw [hplacements] at hp
    obtain rfl := List.mem_singleton.mp hp
    obtain rfl := Option.some.inj ha
    have hhalf : (0.5 : Float).isFinite := by decide +kernel
    exact ⟨⟨hhalf, hhalf⟩, ⟨hhalf, hhalf⟩, ⟨hhalf, hhalf⟩⟩

theorem emitModel_reads_back_plaza :
    ∃ text, (plaza.emitModel "out" : StateM FileTree (Except FileError Unit)) =
      FileStore.write "out/plaza.json" text ∧ MapModel.parse? text = some plaza.map :=
  emitModel_reads_back plaza "out" proper_plaza isFinite_plaza (by decide) floatsReadBack_plaza

end BoundMap

end Tilemap
