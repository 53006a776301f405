import Tilemap.MapModel.Json
import Tilemap.Proofs.Json.Records
import Tilemap.Proofs.SortedMaps

/-!
# Parts of a map that are written and read

Every record of a map comes back from its JSON form. What the floats and bags in a record must be
like for this is said beside the record.
-/

namespace Tilemap

open Json

/-! ### Geometry -/

theorem Position.decodes (p : Position) : Decodes Position.decode Position.toJson p := by
  intro limit h
  rw [decode, toJson]
  refine Fields.of?_bind_eq_some (by decide) (.refl _) h fun f hfields => ?_
  have hx : f.required "x" .int32 = some p.x := hfields.required (decodes_int32 p.x) (by simp)
  have hy : f.required "y" .int32 = some p.y := hfields.required (decodes_int32 p.y) (by simp)
  simp [hx, hy]

theorem Size.decodes (s : Size) : Decodes Size.decode Size.toJson s := by
  intro limit h
  rw [decode, toJson]
  refine Fields.of?_bind_eq_some (by decide) (.refl _) h fun f hfields => ?_
  have hwidth : f.required "width" .uint32 = some s.width :=
    hfields.required (decodes_uint32 s.width) (by simp)
  have hheight : f.required "height" .uint32 = some s.height :=
    hfields.required (decodes_uint32 s.height) (by simp)
  simp [hwidth, hheight]

theorem Area.decodes (a : Area) : Decodes Area.decode Area.toJson a := by
  intro limit h
  rw [decode, toJson]
  refine Fields.of?_bind_eq_some (by decide) (.refl _) h fun f hfields => ?_
  have hx : f.required "x" .uint32 = some a.x := hfields.required (decodes_uint32 a.x) (by simp)
  have hy : f.required "y" .uint32 = some a.y := hfields.required (decodes_uint32 a.y) (by simp)
  have hwidth : f.required "width" .uint32 = some a.width :=
    hfields.required (decodes_uint32 a.width) (by simp)
  have hheight : f.required "height" .uint32 = some a.height :=
    hfields.required (decodes_uint32 a.height) (by simp)
  simp [hx, hy, hwidth, hheight]

/-! ### Sorted maps -/

namespace SortedMap

variable {α : Type} {d : Decoder α} {encode : α → Json} {m : SortedMap α}

theorem decodes (h : ∀ e ∈ m.entries, Decodes d encode e.2) :
    Decodes (.sortedMap d) (SortedMap.toJson encode) m := by
  intro limit hreadable
  obtain ⟨inner, henter, hentries⟩ := hreadable.entries
  rw [SortedMap.toJson, raw, rawEntries_eq_map, List.map_map, Decoder.sortedMap, henter,
    Option.bind_eq_bind, Option.bind_some]
  refine Option.bind_eq_some_iff.mpr ⟨m.entries, mapM_eq_some fun e he => ?_, ?_⟩
  · have hvalue := h e he inner (hentries _ (List.mem_map_of_mem he))
    simp [hvalue]
  · rw [SortedMap.ofList_entries]
    rfl

/-- The map, unless it is empty and left out. -/
def written (m : SortedMap α) : Option (SortedMap α) := if m.isEmpty then none else some m

theorem optional_eq (key : String) (encode : α → Json) (m : SortedMap α) :
    m.optional key encode = Json.optional key (SortedMap.toJson encode) m.written := by
  rw [SortedMap.optional, written]
  split <;> rfl

@[simp] theorem getD_written (m : SortedMap α) : m.written.getD .empty = m := by
  rw [written]
  split
  · rename_i hempty
    exact ext (List.isEmpty_iff.mp hempty).symm
  · rfl

end SortedMap

/-! ### Tiles and layers -/

theorem TileType.decodes (t : TileType) : Decodes TileType.decode TileType.toJson t := by
  intro limit h
  rw [toJson, SortedMap.optional_eq] at h ⊢
  rw [decode]
  have hkeys := (List.Sublist.refl ["id", "symbol", "name", "collides", "transparent"]).append <|
    (keys_optional_sublist "color" .string t.color).append
      (keys_optional_sublist "metadata" (SortedMap.toJson .string) t.metadata.written)
  refine Fields.of?_bind_eq_some (by decide) (by simpa using hkeys) h fun f hfields => ?_
  have hid : f.required "id" .string = some t.id :=
    hfields.required (decodes_string t.id) (by simp)
  have hsymbol : f.required "symbol" .string = some t.symbol :=
    hfields.required (decodes_string t.symbol) (by simp)
  have hname : f.required "name" .string = some t.name :=
    hfields.required (decodes_string t.name) (by simp)
  have hcollides : f.required "collides" .bool = some t.collides :=
    hfields.required (decodes_bool t.collides) (by simp)
  have htransparent : f.required "transparent" .bool = some t.transparent :=
    hfields.required (decodes_bool t.transparent) (by simp)
  have hcolor : f.optional "color" .string = some t.color :=
    hfields.optional (fun s _ => DecodesPresent.string s) (by simp [List.lookup_append])
  have hmetadata : f.withDefault "metadata" .empty (.sortedMap .string) =
      some (t.metadata.written.getD .empty) :=
    hfields.withDefault_getD (fun m _ => SortedMap.decodes fun e _ => decodes_string e.2)
      (by simp [List.lookup_append])
  simp [hid, hsymbol, hname, hcollides, htransparent, hcolor, hmetadata]

theorem LayerPlacement.decodes (p : LayerPlacement) :
    Decodes (.choice LayerPlacement.ofName?) LayerPlacement.toJson p :=
  decodes_choice (LayerPlacement.ofName?_name p)

/-- The floats of a layer are finite. -/
structure TileLayer.IsFinite (l : TileLayer) : Prop where
  elevation : ∀ x ∈ l.elevation, x.isFinite
  opacity : ∀ x ∈ l.opacity, x.isFinite

/-- The layer without the floats that are not finite. -/
def TileLayer.finitePart (l : TileLayer) : TileLayer :=
  { l with
    elevation := l.elevation.filter (·.isFinite)
    opacity := l.opacity.filter (·.isFinite) }

theorem TileLayer.IsFinite.finitePart_eq {l : TileLayer} (hl : l.IsFinite) : l.finitePart = l := by
  have hfilter {o : Option Float32} (ho : ∀ x ∈ o, x.isFinite) : o.filter (·.isFinite) = o := by
    cases o with
    | none => rfl
    | some x => exact Option.filter_some_pos (ho x rfl)
  rw [finitePart, hfilter hl.elevation, hfilter hl.opacity]

/-- Of a layer everything is read but the floats that are not finite, which are absent. -/
theorem TileLayer.decode_toJson {l : TileLayer} {limit : Nat} (h : l.toJson.Readable limit) :
    TileLayer.decode limit l.toJson.raw = some l.finitePart := by
  rw [toJson] at h ⊢
  rw [decode]
  have hkeys := (List.Sublist.refl ["id", "name", "order", "visible"]).append <|
    (keys_optional_sublist "placement" LayerPlacement.toJson l.placement).append <|
      (keys_optional_sublist "elevation" .ofFloat32 l.elevation).append <|
        (keys_optional_sublist "opacity" .ofFloat32 l.opacity).append (.refl ["tiles"])
  refine Fields.of?_bind_eq_some (by decide) (by simpa using hkeys) h fun f hfields => ?_
  have hid : f.required "id" .string = some l.id :=
    hfields.required (decodes_string l.id) (by simp)
  have hname : f.required "name" .string = some l.name :=
    hfields.required (decodes_string l.name) (by simp)
  have horder : f.required "order" .int32 = some l.order :=
    hfields.required (decodes_int32 l.order) (by simp)
  have hvisible : f.required "visible" .bool = some l.visible :=
    hfields.required (decodes_bool l.visible) (by simp)
  have hplacement : f.optional "placement" (.choice LayerPlacement.ofName?) = some l.placement :=
    hfields.optional (fun p _ => ⟨p.decodes, by simp [LayerPlacement.toJson, raw]⟩)
      (by simp [List.lookup_append])
  have helevation : f.optional "elevation" .single = some (l.elevation.filter (·.isFinite)) :=
    hfields.optional_single (by simp [List.lookup_append])
  have hopacity : f.optional "opacity" .single = some (l.opacity.filter (·.isFinite)) :=
    hfields.optional_single (by simp [List.lookup_append])
  have hcells : ∀ row ∈ l.tiles, Decodes (.list (.nullable .string))
      (fun row => .array (row.map (orNull .string))) row := fun row _ =>
    decodes_list fun c _ => decodes_orNull fun s _ => DecodesPresent.string s
  have htiles : f.required "tiles" (.list (.list (.nullable .string))) = some l.tiles :=
    hfields.required (decodes_list hcells) (by simp [List.lookup_append])
  simp [hid, hname, horder, hvisible, hplacement, helevation, hopacity, htiles, finitePart]

theorem TileLayer.depth_toJson (l : TileLayer) : l.toJson.depth ≤ 3 := by
  have hrow : ∀ row : List Cell, (array (row.map (Json.orNull .string))).depth ≤ 1 := by
    intro row
    refine Nat.succ_le_succ (depthItems_le fun j hj => ?_)
    obtain ⟨c, -, rfl⟩ := List.mem_map.mp hj
    cases c <;> simp [Json.orNull, depth]
  have htiles :
      (array (l.tiles.map fun row => .array (row.map (Json.orNull .string)))).depth ≤ 2 := by
    refine Nat.succ_le_succ (depthItems_le fun j hj => ?_)
    obtain ⟨row, -, rfl⟩ := List.mem_map.mp hj
    exact hrow row
  have hplacement : ∀ p : LayerPlacement, p.toJson.depth = 0 := fun _ => rfl
  have hfloat : ∀ x : Float32, (ofFloat32 x).depth = 0 := fun _ => rfl
  rw [toJson, depth]
  refine Nat.succ_le_succ ?_
  simp only [depthEntries_append, depthEntries_optional hplacement, depthEntries_optional hfloat,
    depthEntries, ofInt32, Nat.max_zero]
  simpa [depth] using htiles

theorem TileLayer.decodes {l : TileLayer} (hl : l.IsFinite) :
    Decodes TileLayer.decode TileLayer.toJson l := by
  intro limit h
  rw [decode_toJson h, hl.finitePart_eq]

/-! ### Objects -/

/-- Both floats of a pair are finite. -/
structure Vec.IsFinite (v : Vec) : Prop where
  x : v.x.isFinite
  y : v.y.isFinite

theorem Vec.decodes {v : Vec} (hv : v.IsFinite) : Decodes Vec.decode Vec.toJson v := by
  intro limit h
  rw [decode, toJson]
  refine Fields.of?_bind_eq_some (by decide) (.refl _) h fun f hfields => ?_
  have hx : f.required "x" .double = some v.x := hfields.required (decodes_double hv.x) (by simp)
  have hy : f.required "y" .double = some v.y := hfields.required (decodes_double hv.y) (by simp)
  simp [hx, hy]

/-- The floats of an appearance are finite. -/
structure Appearance.IsFinite (a : Appearance) : Prop where
  anchor : a.anchor.IsFinite
  offset : a.offset.IsFinite
  scale : a.scale.IsFinite

theorem Appearance.decodes {a : Appearance} (ha : a.IsFinite)
    (hoptions : (object a.options).Proper) :
    Decodes Appearance.decode Appearance.toJson a := by
  intro limit h
  rw [decode, toJson]
  have hkeys := (List.Sublist.refl ["generator", "width", "height", "tileSize", "options", "anchor",
    "offset", "scale"]).append (keys_optional_sublist "variant" .string a.variant)
  refine Fields.of?_bind_eq_some (by decide) (by simpa using hkeys) h fun f hfields => ?_
  have hgenerator : f.required "generator" .string = some a.generator :=
    hfields.required (decodes_string a.generator) (by simp)
  have hwidth : f.required "width" .uint32 = some a.width :=
    hfields.required (decodes_uint32 a.width) (by simp)
  have hheight : f.required "height" .uint32 = some a.height :=
    hfields.required (decodes_uint32 a.height) (by simp)
  have htileSize : f.required "tileSize" .uint32 = some a.tileSize :=
    hfields.required (decodes_uint32 a.tileSize) (by simp)
  have hbag : f.withDefault "options" [] .bag = some a.options :=
    hfields.withDefault (decodes_bag hoptions) (by simp)
  have hanchor : f.required "anchor" Vec.decode = some a.anchor :=
    hfields.required (Vec.decodes ha.anchor) (by simp)
  have hoffset : f.required "offset" Vec.decode = some a.offset :=
    hfields.required (Vec.decodes ha.offset) (by simp)
  have hscale : f.required "scale" Vec.decode = some a.scale :=
    hfields.required (Vec.decodes ha.scale) (by simp)
  have hvariant : f.optional "variant" .string = some a.variant :=
    hfields.optional (fun s _ => DecodesPresent.string s) (by simp)
  simp [hgenerator, hwidth, hheight, htileSize, hbag, hanchor, hoffset, hscale, hvariant]

theorem InteractionSpec.decodes {i : InteractionSpec}
    (hmetadata : ∀ b ∈ i.metadata, (object b).Proper) :
    Decodes InteractionSpec.decode InteractionSpec.toJson i := by
  intro limit h
  rw [decode, toJson]
  have hkeys := (keys_optional_sublist "type" .string i.kind).append <|
    (keys_optional_sublist "title" .string i.title).append <|
      (keys_optional_sublist "description" .string i.description).append <|
        (keys_optional_sublist "message" .string i.message).append <|
          (keys_optional_sublist "icon" .string i.icon).append <|
            (keys_optional_sublist "animation" .string i.animation).append
              (keys_optional_sublist "metadata" .object i.metadata)
  refine Fields.of?_bind_eq_some (by decide) (by simpa [entries] using hkeys) h fun f hfields => ?_
  have htext {name : String} {o : Option String}
      (hentry : i.entries.lookup name = o.map .string) : f.optional name .string = some o :=
    hfields.optional (fun s _ => DecodesPresent.string s) hentry
  have hkind : f.optional "type" .string = some i.kind :=
    htext (by simp [entries, List.lookup_append])
  have htitle : f.optional "title" .string = some i.title :=
    htext (by simp [entries, List.lookup_append])
  have hdescription : f.optional "description" .string = some i.description :=
    htext (by simp [entries, List.lookup_append])
  have hmessage : f.optional "message" .string = some i.message :=
    htext (by simp [entries, List.lookup_append])
  have hicon : f.optional "icon" .string = some i.icon :=
    htext (by simp [entries, List.lookup_append])
  have hanimation : f.optional "animation" .string = some i.animation :=
    htext (by simp [entries, List.lookup_append])
  have hbag : f.optional "metadata" .bag = some i.metadata :=
    hfields.optional (fun b hb => DecodesPresent.bag (hmetadata b hb))
      (by simp [entries, List.lookup_append])
  simp [hkind, htitle, hdescription, hmessage, hicon, hanimation, hbag]

/-- The bags of a placed object hold what a JSON text can hold. -/
structure ObjectPlacement.Proper (p : ObjectPlacement) : Prop where
  metadata : (object p.metadata).Proper
  options : ∀ a ∈ p.appearance, (object a.options).Proper
  interaction : ∀ i ∈ p.interaction, ∀ b ∈ i.metadata, (object b).Proper

/-- An object is read back if its bags are what a text can hold and its floats are finite. -/
theorem ObjectPlacement.decodes {p : ObjectPlacement} (hp : p.Proper)
    (hfinite : ∀ a ∈ p.appearance, a.IsFinite) :
    Decodes ObjectPlacement.decode ObjectPlacement.toJson p := by
  intro limit h
  rw [decode, toJson]
  have hkeys := (List.Sublist.refl ["id", "name", "position", "size", "solid"]).append <|
    (keys_optional_sublist "objectId" .string p.objectId).append <|
      (List.Sublist.refl ["metadata"]).append <|
        (keys_optional_sublist "appearance" Appearance.toJson p.appearance).append
          (keys_optional_sublist "interaction" InteractionSpec.toJson p.interaction)
  refine Fields.of?_bind_eq_some (by decide) (by simpa using hkeys) h fun f hfields => ?_
  have hid : f.required "id" .string = some p.id :=
    hfields.required (decodes_string p.id) (by simp)
  have hname : f.required "name" .string = some p.name :=
    hfields.required (decodes_string p.name) (by simp)
  have hposition : f.required "position" Position.decode = some p.position :=
    hfields.required p.position.decodes (by simp)
  have hsize : f.required "size" Size.decode = some p.size :=
    hfields.required p.size.decodes (by simp)
  have hsolid : f.required "solid" .bool = some p.solid :=
    hfields.required (decodes_bool p.solid) (by simp)
  have hobjectId : f.optional "objectId" .string = some p.objectId :=
    hfields.optional (fun s _ => DecodesPresent.string s) (by simp [List.lookup_append])
  have hmetadata : f.withDefault "metadata" [] .bag = some p.metadata :=
    hfields.withDefault (decodes_bag hp.metadata) (by simp [List.lookup_append])
  have happearance : f.optional "appearance" Appearance.decode = some p.appearance :=
    hfields.optional
      (fun a ha => ⟨Appearance.decodes (hfinite a ha) (hp.options a ha),
        by simp [Appearance.toJson, raw]⟩)
      (by simp [List.lookup_append])
  have hinteraction : f.optional "interaction" InteractionSpec.decode = some p.interaction :=
    hfields.optional
      (fun i hi => ⟨InteractionSpec.decodes (hp.interaction i hi),
        by simp [InteractionSpec.toJson, raw]⟩)
      (by simp [List.lookup_append])
  simp [hid, hname, hposition, hsize, hsolid, hobjectId, hmetadata, happearance, hinteraction]

theorem ObjectLayer.decodes {l : ObjectLayer} (hl : ∀ p ∈ l.objects, p.Proper)
    (hfinite : ∀ p ∈ l.objects, ∀ a ∈ p.appearance, a.IsFinite) :
    Decodes ObjectLayer.decode ObjectLayer.toJson l := by
  intro limit h
  rw [decode, toJson]
  refine Fields.of?_bind_eq_some (by decide) (.refl _) h fun f hfields => ?_
  have hid : f.required "id" .string = some l.id :=
    hfields.required (decodes_string l.id) (by simp)
  have hname : f.required "name" .string = some l.name :=
    hfields.required (decodes_string l.name) (by simp)
  have horder : f.required "order" .int32 = some l.order :=
    hfields.required (decodes_int32 l.order) (by simp)
  have hvisible : f.required "visible" .bool = some l.visible :=
    hfields.required (decodes_bool l.visible) (by simp)
  have hobjects : f.required "objects" (.list ObjectPlacement.decode) = some l.objects :=
    hfields.required
      (decodes_list fun p hp => ObjectPlacement.decodes (hl p hp) (hfinite p hp)) (by simp)
  simp [hid, hname, horder, hvisible, hobjects]

/-! ### Doors and themes -/

theorem DoorKind.decodes (k : DoorKind) :
    Decodes (.choice DoorKind.ofName?) (fun k => .string k.name) k :=
  decodes_choice (by cases k <;> rfl)

theorem Door.decodes (d : Door) : Decodes Door.decode Door.toJson d := by
  intro limit h
  rw [decode, toJson]
  have hkeys := (List.Sublist.refl ["id", "kind", "position"]).append <|
    (keys_optional_sublist "targetMap" .string d.targetMap).append
      (keys_optional_sublist "targetPosition" Position.toJson d.targetPosition)
  refine Fields.of?_bind_eq_some (by decide) (by simpa using hkeys) h fun f hfields => ?_
  have hid : f.required "id" .string = some d.id :=
    hfields.required (decodes_string d.id) (by simp)
  have hkind : f.required "kind" (.choice DoorKind.ofName?) = some d.kind :=
    hfields.required d.kind.decodes (by simp)
  have hposition : f.required "position" Position.decode = some d.position :=
    hfields.required d.position.decodes (by simp)
  have hmap : f.optional "targetMap" .string = some d.targetMap :=
    hfields.optional (fun s _ => DecodesPresent.string s) (by simp [List.lookup_append])
  have htarget : f.optional "targetPosition" Position.decode = some d.targetPosition :=
    hfields.optional (fun p _ => ⟨p.decodes, by simp [Position.toJson, raw]⟩)
      (by simp [List.lookup_append])
  simp [hid, hkind, hposition, hmap, htarget]

theorem Theme.decodes (t : Theme) : Decodes Theme.decode Theme.toJson t := by
  intro limit h
  rw [decode, toJson]
  have hkeys := (List.Sublist.refl ["borderColour"]).append
    (keys_optional_sublist "soundscape" .string t.soundscape)
  refine Fields.of?_bind_eq_some (by decide) (by simpa using hkeys) h fun f hfields => ?_
  have hborder : f.optionalNamed "borderColour" .string = some t.borderColour :=
    hfields.optionalNamed (fun s _ => DecodesPresent.string s) (by simp)
  have hsoundscape : f.optional "soundscape" .string = some t.soundscape :=
    hfields.optional (fun s _ => DecodesPresent.string s) (by simp)
  simp [hborder, hsoundscape]

end Tilemap
