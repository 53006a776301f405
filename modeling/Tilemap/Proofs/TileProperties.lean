import Tilemap.Proofs.Bags
import Tilemap.Proofs.Json.Text
import Tilemap.Proofs.UnnamedTiles

/-!
# Properties of tiles

The properties of a tile are kept as metadata of its type, under their names without the mark
`phase3:`. Of two properties whose names differ in the mark alone the later one counts, and some
properties are parts of the type instead. `tile_properties_kept` says of every property what becomes
of it.

The parts are read under the names with the mark, but neither these names nor the same ones without
it are kept as metadata. So a property with the name of a part and without the mark is lost, as
`exists_lost_color` shows.
-/

namespace Tilemap

open Json (Decoder Fields)
open Text

/-- A decoder gives only values with a property. -/
def Json.Decoder.Ensures {α : Type} (d : Decoder α) (P : α → Prop) : Prop :=
  ∀ depth r a, d depth r = some a → P a

namespace Tiled

/-! ### Statement -/

/-- A tile lists its properties, of which the last one of a name is read. -/
def Tile.Lists (tile : Tile) (listed : List (String × Json)) : Prop :=
  tile.properties = Bag.ofEntries listed

/-- A value says nothing. -/
inductive IsSilent : Json → Prop where
  | null : IsSilent .null
  | blank {s : String} (h : ∀ c ∈ s.toList, isBlank c) : IsSilent (.string s)

/-- The last property of a name has a value. -/
def Gives (listed : List (String × Json)) (name : String) (value : Json) : Prop :=
  IsLastWith Prod.fst name listed (name, value)

/-- The last property of a name has a text. -/
def Tells (listed : List (String × Json)) (name text : String) : Prop :=
  ∃ value, Gives listed name value ∧ valueText? value = some text

/-- The last property of a name switches something on or off. -/
def Switches (listed : List (String × Json)) (name : String) (on : Bool) : Prop :=
  ∃ value, Gives listed name value ∧ value.flag? = some on

/-- A property has a text, and none with a later name does that differs in the mark alone. -/
structure Counts (listed : List (String × Json)) (name text : String) : Prop where
  tells : Tells listed name text
  latest : ∀ name' text', Tells listed name' text' → unmarked name' = unmarked name →
    Bag.placeIn listed name' ≤ Bag.placeIn listed name

/-- The names under which the parts of a type are read. -/
def partNames : List String := tileFields.map ("phase3:" ++ ·)

/-- What a tile type has of the properties that its tile lists. -/
structure HoldsProperties (t : TileType) (listed : List (String × Json)) : Prop where
  /-- A property that says something is a part, or has the name of one, or else it is metadata or
  gives way to a later one. -/
  kept : ∀ name value, Gives listed name value → ¬ IsSilent value →
    name ∈ partNames ∨ name ∈ tileFields ∨ ∃ name' text, unmarked name' = unmarked name ∧
      Counts listed name' text ∧ t.metadata.get? (unmarked name) = some text
  /-- There is no other metadata. -/
  metadata_iff : ∀ key text, t.metadata.get? key = some text ↔
    key ∉ tileFields ∧ ∃ name, unmarked name = key ∧ Counts listed name text
  collides_iff : t.collides ↔ Switches listed "phase3:collides" true
  transparent_iff : t.transparent ↔ ¬ Switches listed "phase3:transparent" false
  color_iff : ∀ text, t.color = some text ↔ Tells listed "phase3:color" text
  name_eq : ∀ text, Tells listed "phase3:name" text → t.name = text
  plainName_eq : (∀ text, ¬ Tells listed "phase3:name" text) →
    ∀ text, Tells listed "name" text → t.name = text

/-- A name of a part without the mark, under which nothing is read. -/
def IsLost (listed : List (String × Json)) (name : String) : Prop :=
  name ∈ ["id", "collides", "transparent", "color"] ∨
    name = "name" ∧ ∃ text, Tells listed "phase3:name" text

/-! ### Names and texts -/

/-- A name differs from what it is without the mark at most in the mark. -/
theorem eq_append_unmarked_or_eq (name : String) :
    name = "phase3:" ++ unmarked name ∨ name = unmarked name := by
  rw [unmarked]
  split
  · rename_i hmark
    obtain ⟨rest, hrest⟩ := List.isPrefixOf_iff_prefix.mp hmark
    left
    rw [← hrest, List.drop_left, ← String.toList_inj, ← hrest]
    simp
  · exact .inr rfl

theorem mem_partNames_or_mem {name : String} (h : unmarked name ∈ tileFields) :
    name ∈ partNames ∨ name ∈ tileFields := by
  rcases eq_append_unmarked_or_eq name with hname | hname
  · exact .inl (hname ▸ List.mem_map_of_mem h)
  · exact .inr (hname ▸ h)

theorem valueText?_eq_none_iff {j : Json} : valueText? j = none ↔ IsSilent j := by
  constructor
  · intro h
    cases j with
    | null => exact .null
    | string s => exact .blank (nonBlank?_eq_none_iff.mp h)
    | _ => cases h
  · intro h
    cases h with
    | null => rfl
    | blank h => exact nonBlank?_eq_none_iff.mpr h

/-! ### Listed properties -/

section

variable {listed : List (String × Json)} {name text : String} {value : Json}

theorem get?_ofEntries_eq_some :
    (Bag.ofEntries listed).get? name = some value ↔ Gives listed name value := by
  have hlast := @TileIndex.lookup_reverse_map (String × Json) String Json _ _ id listed name value
  rw [List.map_id] at hlast
  rw [Bag.get?_ofEntries, hlast, Gives, IsLastWith]
  constructor
  · rintro ⟨before, e, after, hsplit, rfl, hafter⟩
    exact ⟨before, after, hsplit, rfl, hafter⟩
  · rintro ⟨before, after, hsplit, -, hafter⟩
    exact ⟨before, _, after, hsplit, rfl, hafter⟩

theorem mem_ofEntries : (name, value) ∈ Bag.ofEntries listed ↔ Gives listed name value := by
  rw [Bag.mem_iff_get? (Bag.nodup_ofEntries listed), get?_ofEntries_eq_some]

/-- What is made of a property is made of the value that the list gives. -/
theorem bind_get?_ofEntries_eq_some {α : Type} {f : Json → Option α} {a : α} :
    ((Bag.ofEntries listed).get? name).bind f = some a ↔
      ∃ value, Gives listed name value ∧ f value = some a := by
  rw [Option.bind_eq_some_iff]
  simp only [get?_ofEntries_eq_some]

/-- Of entries that stand in a bag one after the other the keys first come in that order. -/
theorem placeIn_lt {before after : Bag} {e e' : String × Json}
    (hsplit : Bag.ofEntries listed = before ++ e :: after) (he' : e' ∈ after) :
    Bag.placeIn listed e.1 < Bag.placeIn listed e'.1 := by
  have hpairwise := Bag.pairwise_place_ofEntries listed
  rw [List.pairwise_map, hsplit, List.pairwise_append] at hpairwise
  exact List.rel_of_pairwise_cons hpairwise.2.1 he'

/-! ### Metadata -/

/-- The entry that a property makes in the metadata, if it makes one. -/
theorem metadataEntry_eq_some {key : String} :
    (if tileFields.contains (unmarked name) then none
      else (valueText? value).map (unmarked name, ·)) = some (key, text) ↔
        key ∉ tileFields ∧ unmarked name = key ∧ valueText? value = some text := by
  rw [Option.ite_none_left_eq_some, Option.map_eq_some_iff]
  simp only [Prod.mk.injEq, List.contains_iff_mem]
  constructor
  · rintro ⟨hnot, _, htext, rfl, rfl⟩
    exact ⟨hnot, rfl, htext⟩
  · rintro ⟨hnot, rfl, htext⟩
    exact ⟨hnot, text, htext, rfl, rfl⟩

/-- Metadata are the properties that count. -/
theorem get?_tileMetadata_eq_some {key : String} :
    (tileMetadata (Bag.ofEntries listed)).get? key = some text ↔
      key ∉ tileFields ∧ ∃ name, unmarked name = key ∧ Counts listed name text := by
  rw [tileMetadata, SortedMap.get?_ofList_filterMap_eq_some]
  constructor
  · rintro ⟨before, ⟨name, value⟩, after, hsplit, hentry, hafter⟩
    obtain ⟨hkey, hname, htext⟩ := metadataEntry_eq_some.mp hentry
    have hmem {e : String × Json} : e ∈ Bag.ofEntries listed ↔
        e ∈ before ∨ e = (name, value) ∨ e ∈ after := by
      rw [hsplit, List.mem_append, List.mem_cons]
    refine ⟨hkey, name, hname, ⟨value, mem_ofEntries.mp (hmem.mpr (.inr (.inl rfl))), htext⟩, ?_⟩
    rintro name' text' ⟨value', hvalue', htext'⟩ hsame
    rcases hmem.mp (mem_ofEntries.mpr hvalue') with hbefore | heq | hlater
    · obtain ⟨first, last, rfl⟩ := List.append_of_mem hbefore
      rw [List.append_assoc, List.cons_append] at hsplit
      have hlt := placeIn_lt hsplit (List.mem_append_right last List.mem_cons_self)
      exact Nat.le_of_lt hlt
    · rw [(Prod.mk.inj heq).1]
    · have hentry' := metadataEntry_eq_some.mpr ⟨hkey, hsame.trans hname, htext'⟩
      exact absurd hentry' (hafter _ hlater _)
  · rintro ⟨hkey, name, hname, ⟨value, hvalue, htext⟩, hlatest⟩
    obtain ⟨before, after, hsplit⟩ := List.append_of_mem (mem_ofEntries.mpr hvalue)
    refine ⟨before, (name, value), after, hsplit,
      metadataEntry_eq_some.mpr ⟨hkey, hname, htext⟩, ?_⟩
    rintro ⟨name', value'⟩ hlater text' hentry'
    obtain ⟨-, hname', htext'⟩ := metadataEntry_eq_some.mp hentry'
    have hmem : (name', value') ∈ Bag.ofEntries listed := by
      rw [hsplit]
      exact List.mem_append_right _ (List.mem_cons_of_mem _ hlater)
    have hle := hlatest name' text' ⟨value', mem_ofEntries.mp hmem, htext'⟩
      (hname'.trans hname.symm)
    exact absurd (placeIn_lt hsplit hlater) (Nat.not_lt.mpr hle)

/-- A property that is no part and has a text is metadata, or another with its name is. -/
theorem exists_get?_tileMetadata (h : Tells listed name text) (hpart : unmarked name ∉ tileFields) :
    ∃ text', (tileMetadata (Bag.ofEntries listed)).get? (unmarked name) = some text' := by
  obtain ⟨value, hvalue, htext⟩ := h
  apply Option.isSome_iff_exists.mp
  apply (SortedMap.contains_ofList _ _).mpr
  refine List.mem_map.mpr ⟨(unmarked name, text), ?_, rfl⟩
  exact List.mem_filterMap.mpr ⟨(name, value), mem_ofEntries.mpr hvalue,
    metadataEntry_eq_some.mpr ⟨hpart, rfl, htext⟩⟩

/-! ### Types -/

theorem text?_ofEntries_eq_some :
    text? (Bag.ofEntries listed) name = some text ↔ Tells listed name text :=
  bind_get?_ofEntries_eq_some

theorem holdsProperties_typeOf {e : Tileset × Tile} (h : e.2.Lists listed) :
    HoldsProperties (typeOf e) listed := by
  have htext {name text : String} :
      text? e.2.properties name = some text ↔ Tells listed name text := by
    rw [h, text?_ofEntries_eq_some]
  have hflag {name : String} {on : Bool} :
      (e.2.properties.get? name).bind Json.flag? = some on ↔ Switches listed name on := by
    rw [h, bind_get?_ofEntries_eq_some, Switches]
  have hmetadata (key text : String) : (typeOf e).metadata.get? key = some text ↔
      key ∉ tileFields ∧ ∃ name, unmarked name = key ∧ Counts listed name text := by
    change (tileMetadata e.2.properties).get? key = some text ↔ _
    rw [h, get?_tileMetadata_eq_some]
  constructor
  case metadata_iff => exact hmetadata
  case kept =>
    intro name value hvalue hspeaks
    by_cases hpart : unmarked name ∈ tileFields
    · exact (mem_partNames_or_mem hpart).imp id .inl
    · rw [← valueText?_eq_none_iff, ← ne_eq, Option.ne_none_iff_exists'] at hspeaks
      obtain ⟨text, htext⟩ := hspeaks
      obtain ⟨text', htext'⟩ := exists_get?_tileMetadata ⟨value, hvalue, htext⟩ hpart
      obtain ⟨-, name', hname, hcounts⟩ := get?_tileMetadata_eq_some.mp htext'
      exact .inr (.inr ⟨name', text', hname, hcounts,
        (hmetadata _ _).mpr ⟨hpart, name', hname, hcounts⟩⟩)
  case collides_iff =>
    rw [← hflag]
    change Option.getD _ false = true ↔ _
    cases (e.2.properties.get? "phase3:collides").bind Json.flag? <;> simp
  case transparent_iff =>
    rw [← hflag]
    change Option.getD _ true = true ↔ _
    cases (e.2.properties.get? "phase3:transparent").bind Json.flag? <;> simp
  case color_iff =>
    intro text
    exact htext
  case name_eq =>
    intro text hname
    change Option.getD (Option.or _ _) _ = text
    rw [htext.mpr hname, Option.some_or, Option.getD_some]
  case plainName_eq =>
    intro hnone text hname
    have hmarked : text? e.2.properties "phase3:name" = none := by
      rw [Option.eq_none_iff_forall_ne_some]
      intro text' htext'
      exact hnone text' (htext.mp htext')
    change Option.getD (Option.or _ _) _ = text
    rw [hmarked, htext.mpr hname, Option.none_or, Option.getD_some]

end

/-! ### Properties that are lost -/

/-- A property that is no metadata does not matter to it. -/
theorem tileMetadata_put {name : String} (h : unmarked name ∈ tileFields) (properties : Bag)
    (value : Json) : tileMetadata (properties.put name value) = tileMetadata properties := by
  have hdropped (b : Bag) : tileMetadata b =
      tileMetadata (b.filter fun e => !tileFields.contains (unmarked e.1)) := by
    rw [tileMetadata, tileMetadata, List.filterMap_filter]
    congr 1
    apply List.filterMap_congr
    rintro ⟨name', value'⟩ -
    by_cases hpart : unmarked name' ∈ tileFields <;> simp [hpart]
  rw [hdropped, hdropped properties,
    @Bag.filter_put (fun name => !tileFields.contains (unmarked name)) _ _ value (by simpa using h)]

theorem text?_put_of_ne {properties : Bag} {name name' : String} (h : name ≠ name')
    (value : Json) : text? (properties.put name' value) name = text? properties name := by
  rw [text?, Bag.get?_put, if_neg h, text?]

theorem IsLost.mem_tileFields {listed : List (String × Json)} {name : String}
    (h : IsLost listed name) : name ∈ tileFields := by
  rcases h with h | ⟨rfl, -⟩
  · exact List.mem_append_left ["name"] h
  · decide

theorem unmarked_of_mem_tileFields : ∀ name ∈ tileFields, unmarked name = name := by decide

theorem ne_of_mem_tileFields : ∀ name ∈ tileFields, ∀ part ∈ partNames, part ≠ name := by decide

/-- No part of a type is read under a name that is lost. -/
theorem tileType_put_of_isLost {tileset : Tileset} {tile : Tile} {listed : List (String × Json)}
    {name : String} (hlisted : tile.Lists listed) (h : IsLost listed name) (value : Json) :
    tileType tileset { tile with properties := tile.properties.put name value } =
      tileType tileset tile := by
  have hfield := h.mem_tileFields
  have hne := ne_of_mem_tileFields name hfield
  have htext (part : String) (hpart : part ∈ partNames) :
      text? (tile.properties.put name value) part = text? tile.properties part :=
    text?_put_of_ne (hne part hpart) value
  have hget (part : String) (hpart : part ∈ partNames) :
      (tile.properties.put name value).get? part = tile.properties.get? part := by
    rw [Bag.get?_put, if_neg (hne part hpart)]
  have hmetadata : tileMetadata (tile.properties.put name value) = tileMetadata tile.properties :=
    tileMetadata_put (by rwa [unmarked_of_mem_tileFields name hfield]) _ value
  have hname : (text? (tile.properties.put name value) "phase3:name").or
      (text? (tile.properties.put name value) "name") =
        (text? tile.properties "phase3:name").or (text? tile.properties "name") := by
    rw [htext _ (by decide)]
    rcases h with h | ⟨rfl, text, htold⟩
    · rw [text?_put_of_ne]
      rintro rfl
      exact absurd h (by decide)
    · rw [hlisted, text?_ofEntries_eq_some.mpr htold, Option.some_or, Option.some_or]
  simp only [tileType, tileId, hmetadata, hname, htext "phase3:id" (by decide),
    htext "phase3:color" (by decide), hget "phase3:collides" (by decide),
    hget "phase3:transparent" (by decide)]

end Tiled

/-! ### Tiles that are read -/

namespace Json.Decoder.Ensures

variable {α : Type} {d : Decoder α} {P : α → Prop}

theorem list (h : d.Ensures P) : d.list.Ensures fun l => ∀ a ∈ l, P a := by
  intro depth r l hl
  cases r with
  | array items =>
    obtain ⟨inner, -, hitems⟩ := Option.bind_eq_some_iff.mp hl
    clear hl
    induction items generalizing l with
    | nil =>
      obtain rfl := Option.some.inj hitems
      simp
    | cons item rest ih =>
      rw [List.mapM_cons] at hitems
      obtain ⟨a, ha, hitems⟩ := Option.bind_eq_some_iff.mp hitems
      obtain ⟨as, has, hl⟩ := Option.bind_eq_some_iff.mp hitems
      obtain rfl := Option.some.inj hl
      exact List.forall_mem_cons.mpr ⟨h inner item a ha, ih as has⟩
  | _ => cases hl

/-- A field with a default ensures what holds of the default and of all that is decoded. -/
theorem withDefault (h : d.Ensures P) {f : Fields} {name : String} {default a : α}
    (hdefault : P default) (ha : f.withDefault name default d = some a) : P a := by
  rw [Fields.withDefault] at ha
  split at ha
  · exact h _ _ _ ha
  · obtain rfl := Option.some.inj ha
    exact hdefault

end Json.Decoder.Ensures

namespace Tiled

theorem ensures_decodeProperties :
    decodeProperties.Ensures fun b => ∃ listed, b = Bag.ofEntries listed := by
  intro depth r b hb
  obtain ⟨listed, -, rfl⟩ := Option.map_eq_some_iff.mp hb
  exact ⟨listed, rfl⟩

theorem Tile.ensures_decode : Tile.decode.Ensures fun tile => ∃ listed, tile.Lists listed := by
  intro depth r tile htile
  simp only [decode, Option.bind_eq_bind, Option.bind_eq_some_iff] at htile
  obtain ⟨f, -, id, -, typeName, -, className, -, properties, hproperties, htile⟩ := htile
  obtain rfl := Option.some.inj htile
  exact ensures_decodeProperties.withDefault ⟨[], rfl⟩ hproperties

theorem Tileset.ensures_decode :
    Tileset.decode.Ensures fun tileset => ∀ tile ∈ tileset.tiles, ∃ listed, tile.Lists listed := by
  intro depth r tileset htileset
  simp only [decode, Option.bind_eq_bind, Option.bind_eq_some_iff] at htileset
  obtain ⟨f, -, firstGid, -, source, -, name, -, tiles, htiles, htileset⟩ := htileset
  obtain rfl := Option.some.inj htileset
  exact Tile.ensures_decode.list.withDefault (by simp) htiles

/-- Every tile of a document that is read lists its properties. -/
theorem exists_lists_of_parse? {text : String} {d : Document} (h : Document.parse? text = some d)
    {e : Tileset × Tile} (he : e ∈ tilesOf d.tilesets) : ∃ listed, e.2.Lists listed := by
  obtain ⟨r, -, hd⟩ := Option.bind_eq_some_iff.mp h
  simp only [Document.decode, Option.bind_eq_bind, Option.bind_eq_some_iff] at hd
  obtain ⟨f, -, width, -, height, -, tileWidth, -, tileHeight, -, layers, -, tilesets, htilesets,
    properties, -, hd⟩ := hd
  obtain rfl := Option.some.inj hd
  have htiles := Tileset.ensures_decode.list.withDefault (by simp) htilesets
  obtain ⟨tileset, htileset, he⟩ := List.mem_flatMap.mp he
  obtain ⟨tile, htile, rfl⟩ := List.mem_map.mp he
  exact htiles tileset htileset tile htile

/-! ### Main result -/

/-- The tiles of a document that is read list their properties. Under the id of the last tile with
it an accepted document has the type that holds the properties of the tile. What is listed under the
name of a part without the mark does not matter to the type, but that the text under `name` is its
name when there is no other one. -/
theorem tile_properties_kept (d : Document) :
    (∀ text, Document.parse? text = some d → ∀ e ∈ tilesOf d.tilesets,
      ∃ listed, e.2.Lists listed) ∧
    ∀ options m id e listed, d.toMap options = .ok m →
      IsLastWith idOf id (tilesOf d.tilesets) e → e.2.Lists listed →
      ∃ t, m.tileTypes.get? id = some t ∧ HoldsProperties t listed ∧
        ∀ name value, IsLost listed name →
          tileType e.1 { e.2 with properties := e.2.properties.put name value } = t := by
  constructor
  · intro text hd e he
    exact exists_lists_of_parse? hd he
  · intro options m id e listed hm he hlisted
    obtain ⟨index, layers, objectLayers, ids, doors, doorObjects, ids', hindex, -, -, hm⟩ :=
      toMap_eq_ok hm
    obtain ⟨-, rfl⟩ := MapParts.assemble_eq_ok_iff.mp hm
    refine ⟨typeOf e, get?_tileTypes_parts hindex he, holdsProperties_typeOf hlisted, ?_⟩
    intro name value hlost
    exact tileType_put_of_isLost hlisted hlost value

/-- The only tile of a tileset of basins, with the properties that it lists. -/
def basinTile (listed : List (String × Json)) : Tileset × Tile :=
  onlyTile 1 (some "basin") (Bag.ofEntries listed)

def basinDocument (listed : List (String × Json)) : Document where
  width := 1
  height := 1
  tileWidth := none
  tileHeight := none
  layers := []
  tilesets := [(basinTile listed).1]
  properties := []

theorem isLastWith_basinTile (listed : List (String × Json))
    (hid : idOf (basinTile listed) = "basin-0") :
    IsLastWith idOf "basin-0" (tilesOf (basinDocument listed).tilesets) (basinTile listed) :=
  ⟨[], [], rfl, hid, by simp⟩

/-- A basin whose sound is listed with and without the mark, and whose colour without. -/
def fountainProperties : List (String × Json) :=
  [("phase3:sound", .string "spray"), ("color", .string "red"), ("depth", .number (.int 3)),
    ("sound", .string " drip "), ("phase3:name", .string "Fountain"), ("note", .null),
    ("phase3:sound", .string "splash"), ("name", .string "Basin")]

/-- A document with a tile that has a colour, as JSON. -/
def redJson : Json :=
  .object
    [("tilesets", .array
      [.object [("tiles", .array
        [.object [("id", .number (.int 0)), ("properties", .array
          [.object [("name", .string "color"), ("value", .string "red")]])]])]])]

/-- A fountain with properties of all kinds. -/
theorem tile_properties_kept_fountain :
    (∃ d, Document.parse? redJson.document = some d ∧ (tilesOf d.tilesets).length = 1 ∧
      ∀ e ∈ tilesOf d.tilesets, ∃ listed, e.2.Lists listed) ∧
    ∃ m t, (basinDocument fountainProperties).toMap .default = .ok m ∧
      IsLastWith idOf "basin-0" (tilesOf (basinDocument fountainProperties).tilesets)
        (basinTile fountainProperties) ∧
      (basinTile fountainProperties).2.Lists fountainProperties ∧
      m.tileTypes.get? "basin-0" = some t ∧ HoldsProperties t fountainProperties ∧
      (t.name, t.color, t.metadata.get? "sound", t.metadata.get? "depth") =
        ("Fountain", none, some "drip", some "3") ∧
      IsLost fountainProperties "color" ∧
      ∀ value, tileType (basinTile fountainProperties).1
        { (basinTile fountainProperties).2 with
          properties := (basinTile fountainProperties).2.properties.put "color" value } = t := by
  have hread : (Document.parse? redJson.document).map (fun d => (tilesOf d.tilesets).length) =
      some 1 := by
    rw [Document.parse?, Decoder.parse?, Json.Raw.parse?_document]
    decide +kernel
  obtain ⟨d, hd, htiles⟩ := Option.map_eq_some_iff.mp hread
  refine ⟨⟨d, hd, htiles, (tile_properties_kept d).1 _ hd⟩, ?_⟩
  have hparts : ((basinDocument fountainProperties).toMap .default).toOption.map (fun m =>
      (m.tileTypes.get? "basin-0").map fun t =>
        (t.name, t.color, t.metadata.get? "sound", t.metadata.get? "depth")) =
          some (some ("Fountain", none, some "drip", some "3")) := by
    decide +kernel
  obtain ⟨m, hm, hparts⟩ := exists_ok_of_toOption_map hparts
  have hlast := isLastWith_basinTile fountainProperties (by decide +kernel)
  have hlists : (basinTile fountainProperties).2.Lists fountainProperties := rfl
  obtain ⟨t, ht, hholds, hlost⟩ := (tile_properties_kept _).2 _ m _ _ _ hm hlast hlists
  have hcolor : IsLost fountainProperties "color" := .inl (by decide)
  rw [ht] at hparts
  exact ⟨m, t, hm, hlast, hlists, ht, hholds, Option.some.inj hparts, hcolor,
    fun value => hlost "color" value hcolor⟩

/-- The colour of a basin is listed without the mark, and its type has it nowhere. -/
theorem exists_lost_color :
    ∃ listed m t, (basinDocument listed).toMap .default = .ok m ∧
      IsLastWith idOf "basin-0" (tilesOf (basinDocument listed).tilesets) (basinTile listed) ∧
      (basinTile listed).2.Lists listed ∧ Gives listed "color" (.string "red") ∧
      ¬ IsSilent (.string "red") ∧ "color" ∉ partNames ∧ "color" ≠ "name" ∧
      m.tileTypes.get? "basin-0" = some t ∧ t.metadata.get? (unmarked "color") = none ∧
      t.color = none := by
  have hparts : ((basinDocument [("color", .string "red")]).toMap .default).toOption.map (fun m =>
      (m.tileTypes.get? "basin-0").map fun t => (t.metadata.get? (unmarked "color"), t.color)) =
        some (some (none, none)) := by
    decide +kernel
  obtain ⟨m, hm, hparts⟩ := exists_ok_of_toOption_map hparts
  obtain ⟨t, ht, hparts⟩ := Option.map_eq_some_iff.mp hparts
  obtain ⟨hmetadata, hcolor⟩ := Prod.mk.inj hparts
  refine ⟨_, m, t, hm, isLastWith_basinTile _ (by decide +kernel), rfl, ⟨[], [], rfl, rfl, by simp⟩,
    ?_, by decide, by decide, ht, hmetadata, hcolor⟩
  rw [← valueText?_eq_none_iff]
  decide

end Tiled

end Tilemap
