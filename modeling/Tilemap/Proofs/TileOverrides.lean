import Tilemap.Proofs.LegendLines

/-!
# What a legend makes of the catalog

A legend puts its tiles behind those of the catalog, in the order in which they are first defined,
and changes a tile of the catalog in its place. A tile starts as it is in the catalog, or fresh, and
every line that names its id goes over it in turn: of several settings for one field the last one
that can be read counts, a field without one stays as it was (`TileType.Inherits`), and no other
tile changes. At last the floor colour of the map goes over the floors (`Painted`).

One line replaces the first type with its id (`overrideType`). What this does to the ids and to the
type under an id is read once, for any list of types, and goes on to all lines by induction.
-/

namespace Tilemap

open Text

/-! ### Statement -/

/-- The keys of the settings that are not metadata, in their compact form. -/
def nameKeys : List String := ["name", "label"]

@[inherit_doc nameKeys]
def collidesKeys : List String := ["collides", "solid", "collision"]

@[inherit_doc nameKeys]
def transparentKeys : List String := ["transparent"]

@[inherit_doc nameKeys]
def colorKeys : List String := ["color", "colour"]

/-- What a setting says under some keys, if its value can be read. -/
def valueUnder {β : Type} (keys : List String) (read : String → Option β) (key value : String) :
    Option β :=
  if Key.compact key ∈ keys then read value else none

/-- What a setting says of a key of the metadata. -/
def metadataUnder (k key value : String) : Option String :=
  if key = k ∧ Key.compact key ∉ nameKeys ++ collidesKeys ++ transparentKeys ++ colorKeys then
    some value
  else none

/-- What the last of the settings says that says anything. -/
def lastValue? {β : Type} (read : String → String → Option β) (settings : List (String × String)) :
    Option β :=
  (settings.filterMap fun (key, value) => read key value).getLast?

/-- The type is what definitions make of another one, one after the other. -/
structure TileType.Inherits (t start : TileType) (ds : List TileDefinition) : Prop where
  id : t.id = start.id
  symbol : t.symbol = (ds.getLast?.map (·.symbol)).getD start.symbol
  name : t.name = (lastValue? (valueUnder nameKeys some) (ds.flatMap (·.settings))).getD start.name
  collides : t.collides =
    (lastValue? (valueUnder collidesKeys flag?) (ds.flatMap (·.settings))).getD start.collides
  transparent : t.transparent =
    (lastValue? (valueUnder transparentKeys flag?) (ds.flatMap (·.settings))).getD start.transparent
  color : t.color =
    (lastValue? (valueUnder colorKeys some) (ds.flatMap (·.settings))).or start.color
  metadata (key : String) : t.metadata.get? key =
    (lastValue? (metadataUnder key) (ds.flatMap (·.settings))).or (start.metadata.get? key)

/-- What a tile is before the first line that names it. -/
inductive StartsFrom (catalog : Catalog) : String → TileType → Prop where
  | catalog {t : TileType} (ht : t ∈ catalog) : StartsFrom catalog t.id t
  | fresh {id symbol : String} (hid : id ∉ typeIds catalog) :
    StartsFrom catalog id (.fresh id symbol)

/-- A tile that takes the floor colour of a map. -/
def TileType.IsDefaultFloor (t : TileType) : Prop :=
  t.id = "floor" ∨ t.symbol = "." ∨
    ∃ value, t.metadata.get? "default" = some value ∧ flag? value = some true

/-- What the floor colour makes of a type. -/
inductive Painted (colour : Option String) (t : TileType) : TileType → Prop where
  | floor {c : String} (hcolour : colour = some c) (hfloor : t.IsDefaultFloor) :
    Painted colour t { t with color := some c }
  | other (hnot : colour = none ∨ ¬ t.IsDefaultFloor) : Painted colour t t

/-- The ids that definitions add to a catalog, in the order of their first definitions. -/
def newIds (catalog : Catalog) (ds : List TileDefinition) : List String :=
  ((ds.map (·.id)).filter (· ∉ typeIds catalog)).eraseDups

/-- The types are what definitions and the floor colour make of a catalog. -/
structure Overrides (catalog : Catalog) (ds : List TileDefinition) (colour : Option String)
    (types : List TileType) : Prop where
  ids : typeIds types = typeIds catalog ++ newIds catalog ds
  named : ∀ t ∈ types, ∃ start u, StartsFrom catalog t.id start ∧
    u.Inherits start (ds.filter (·.id = t.id)) ∧ Painted colour u t
  unnamed : ∀ t ∈ types, (∀ d ∈ ds, d.id ≠ t.id) → ∃ u ∈ catalog, Painted colour u t

/-! ### Settings -/

section Settings

variable {β : Type} {read : String → String → Option β}

/-- Later settings win over those before them. -/
theorem lastValue?_append (s s' : List (String × String)) :
    lastValue? read (s ++ s') = (lastValue? read s').or (lastValue? read s) := by
  rw [lastValue?, List.filterMap_append, List.getLast?_append]
  rfl

theorem lastValue?_cons (key value : String) (s : List (String × String)) :
    lastValue? read ((key, value) :: s) = (lastValue? read s).or (read key value) := by
  have hone : lastValue? read [(key, value)] = read key value := by
    rw [lastValue?]
    cases h : read key value <;> simp [h]
  rw [← hone, ← lastValue?_append]
  rfl

theorem lastValue?_map {γ : Type} (f : β → γ) (s : List (String × String)) :
    lastValue? (fun key value => (read key value).map f) s = (lastValue? read s).map f := by
  rw [lastValue?, lastValue?, ← List.getLast?_map, List.map_filterMap]

/-- A field that a setting sets to what it says is set to what the last setting says. -/
theorem foldl_set (get : TileType → β)
    (hset : ∀ t key value, get (t.set key value) = (read key value).getD (get t))
    (settings : List (String × String)) (t : TileType) :
    get (settings.foldl (fun t (key, value) => t.set key value) t) =
      (lastValue? read settings).getD (get t) := by
  induction settings generalizing t with
  | nil => rfl
  | cons setting rest ih =>
    obtain ⟨key, value⟩ := setting
    rw [List.foldl_cons, ih, hset, lastValue?_cons, Option.getD_or]

/-- So it is by definitions one after the other, if the symbol does not matter to it. -/
theorem foldl_apply (get : TileType → β)
    (hset : ∀ t key value, get (t.set key value) = (read key value).getD (get t))
    (hsymbol : ∀ (t : TileType) symbol, get { t with symbol } = get t) (ds : List TileDefinition)
    (start : TileType) :
    get (ds.foldl (fun t d => d.apply (some t)) start) =
      (lastValue? read (ds.flatMap (·.settings))).getD (get start) := by
  induction ds generalizing start with
  | nil => rfl
  | cons d rest ih =>
    rw [List.foldl_cons, ih, TileDefinition.apply, foldl_set get hset, hsymbol, List.flatMap_cons,
      lastValue?_append, Option.getD_or]
    rfl

/-- The same for a field without a value of its own to fall back on. -/
theorem foldl_apply_or (get : TileType → Option β)
    (hset : ∀ t key value, get (t.set key value) = (read key value).or (get t))
    (hsymbol : ∀ (t : TileType) symbol, get { t with symbol } = get t) (ds : List TileDefinition)
    (start : TileType) :
    get (ds.foldl (fun t d => d.apply (some t)) start) =
      (lastValue? read (ds.flatMap (·.settings))).or (get start) := by
  have hset' (t : TileType) (key value : String) :
      get (t.set key value) = ((read key value).map some).getD (get t) := by
    rw [hset]
    cases read key value <;> rfl
  rw [foldl_apply get hset' hsymbol, lastValue?_map]
  cases lastValue? read (ds.flatMap (·.settings)) <;> rfl

end Settings

namespace TileType

variable (t : TileType) (key value : String)

@[simp] theorem symbol_set : (t.set key value).symbol = t.symbol := by
  rw [set]
  split <;> rfl

theorem name_set : (t.set key value).name = (valueUnder nameKeys some key value).getD t.name := by
  rw [set]
  split <;> simp_all [valueUnder, nameKeys]

theorem collides_set :
    (t.set key value).collides = (valueUnder collidesKeys flag? key value).getD t.collides := by
  rw [set]
  split <;> simp_all [valueUnder, collidesKeys]

theorem transparent_set : (t.set key value).transparent =
    (valueUnder transparentKeys flag? key value).getD t.transparent := by
  rw [set]
  split <;> simp_all [valueUnder, transparentKeys]

theorem color_set : (t.set key value).color = (valueUnder colorKeys some key value).or t.color := by
  rw [set]
  split <;> simp_all [valueUnder, colorKeys]

theorem metadata_set (k : String) : (t.set key value).metadata.get? k =
    (metadataUnder k key value).or (t.metadata.get? k) := by
  rw [set]
  split <;> simp_all [metadataUnder, nameKeys, collidesKeys, transparentKeys, colorKeys]
  by_cases h : key = k
  · simp [h]
  · simp [h, Ne.symm h]

end TileType

namespace TileDefinition

theorem id_apply_some (d : TileDefinition) (t : TileType) : (d.apply (some t)).id = t.id :=
  foldl_set_of_set (·.id) TileType.id_set d.settings _

theorem symbol_apply (d : TileDefinition) (known : Option TileType) :
    (d.apply known).symbol = d.symbol :=
  foldl_set_of_set (·.symbol) TileType.symbol_set d.settings _

end TileDefinition

/-- Definitions one after the other make of a type what their settings and the last symbol say. -/
theorem TileType.inherits_foldl_apply (start : TileType) (ds : List TileDefinition) :
    (ds.foldl (fun t d => d.apply (some t)) start).Inherits start ds where
  id := by
    induction ds generalizing start with
    | nil => rfl
    | cons d rest ih => rw [List.foldl_cons, ih, d.id_apply_some]
  symbol := by
    cases ds using List.reverseRecOn with
    | nil => rfl
    | append_singleton before d => simp [d.symbol_apply]
  name := foldl_apply (·.name) name_set (fun _ _ => rfl) ds start
  collides := foldl_apply (·.collides) collides_set (fun _ _ => rfl) ds start
  transparent := foldl_apply (·.transparent) transparent_set (fun _ _ => rfl) ds start
  color := foldl_apply_or (·.color) color_set (fun _ _ => rfl) ds start
  metadata key := foldl_apply_or (·.metadata.get? key) (fun t k value => t.metadata_set k value key)
    (fun _ _ => rfl) ds start

/-! ### One line after the other -/

/-- Puts what a definition makes of the type with its id in place of it. -/
def overrideType (types : List TileType) (d : TileDefinition) : List TileType :=
  upsertType types (d.apply (types.find? (·.id = d.id)))

/-- A type is put under its id and changes no other. -/
theorem find?_upsertType (types : List TileType) (t : TileType) (id : String) :
    (upsertType types t).find? (·.id = id) =
      if t.id = id then some t else types.find? (·.id = id) := by
  induction types with
  | nil =>
    by_cases h : t.id = id <;> simp [upsertType, h]
  | cons u rest ih =>
    rw [upsertType]
    by_cases hu : u.id = t.id
    · by_cases h : t.id = id <;> simp [hu, h]
    · rw [if_neg hu, List.find?_cons, List.find?_cons, ih]
      by_cases h : t.id = id
      · have hne : u.id ≠ id := h ▸ hu
        simp [h, hne]
      · simp [h]

/-- What a definition makes of a type with its id has its id. -/
theorem id_apply_find? (types : List TileType) (d : TileDefinition) :
    (d.apply (types.find? (·.id = d.id))).id = d.id :=
  TileTable.id_apply ⟨types, .empty⟩ d

/-- An override of an id that is new adds it at the end. -/
theorem typeIds_overrideType (types : List TileType) (d : TileDefinition) :
    typeIds (overrideType types d) =
      if d.id ∈ typeIds types then typeIds types else typeIds types ++ [d.id] := by
  rw [overrideType, typeIds_upsertType, id_apply_find?]

/-- An override changes the type with its id, or makes one, and changes no other. -/
theorem find?_overrideType (types : List TileType) (d : TileDefinition) (id : String) :
    (overrideType types d).find? (·.id = id) =
      if d.id = id then some (d.apply (types.find? (·.id = id))) else types.find? (·.id = id) := by
  rw [overrideType, find?_upsertType, id_apply_find?]
  split
  · rename_i h
    rw [h]
  · rfl

theorem eraseDups_append_singleton (ids : List String) (id : String) :
    (ids ++ [id]).eraseDups = if id ∈ ids then ids.eraseDups else ids.eraseDups ++ [id] := by
  rw [List.eraseDups_append]
  by_cases h : id ∈ ids <;> simp [List.removeAll, h, List.eraseDups_cons]

/-- An id is new the first time that it comes, unless the catalog has it. -/
theorem newIds_append_singleton (catalog : Catalog) (ds : List TileDefinition)
    (d : TileDefinition) : newIds catalog (ds ++ [d]) =
      if d.id ∈ typeIds catalog ++ newIds catalog ds then newIds catalog ds
      else newIds catalog ds ++ [d.id] := by
  simp only [List.mem_append, newIds, List.mem_eraseDups]
  rw [List.map_append, List.filter_append]
  by_cases hcatalog : d.id ∈ typeIds catalog
  · have hnone : ([d].map (·.id)).filter (· ∉ typeIds catalog) = [] := by simp [hcatalog]
    rw [hnone, List.append_nil, if_pos (.inl hcatalog)]
  · have hone : ([d].map (·.id)).filter (· ∉ typeIds catalog) = [d.id] := by simp [hcatalog]
    rw [hone, eraseDups_append_singleton]
    simp only [hcatalog, false_or]

/-- Definitions keep the ids that are there, and add theirs in the order in which they come. -/
theorem typeIds_foldl_overrideType (catalog : Catalog) (ds : List TileDefinition) :
    typeIds (ds.foldl overrideType catalog) = typeIds catalog ++ newIds catalog ds := by
  induction ds using List.reverseRecOn with
  | nil => simp [newIds]
  | append_singleton before d ih =>
    rw [List.foldl_append, List.foldl_cons, List.foldl_nil, typeIds_overrideType, ih,
      newIds_append_singleton]
    split
    · rfl
    · rw [List.append_assoc]

/-- The type under an id is what the definitions with this id make of it. -/
theorem find?_foldl_overrideType (types : List TileType) (ds : List TileDefinition) (id : String) :
    (ds.foldl overrideType types).find? (·.id = id) =
      (ds.filter (·.id = id)).foldl (fun known d => some (d.apply known))
        (types.find? (·.id = id)) := by
  induction ds generalizing types with
  | nil => rfl
  | cons d rest ih =>
    rw [List.foldl_cons, ih, find?_overrideType, List.filter_cons]
    by_cases h : d.id = id
    · simp [h]
    · simp [h]

/-- There are no types only if there were none and nothing was defined. -/
theorem foldl_overrideType_eq_nil {types : List TileType} {ds : List TileDefinition} :
    ds.foldl overrideType types = [] ↔ types = [] ∧ ds = [] := by
  cases ds using List.reverseRecOn with
  | nil => simp
  | append_singleton before d => simp [overrideType, upsertType_ne_nil]

/-- No id comes up a second time. -/
theorem count_typeIds_foldl_overrideType_le {types : List TileType} {id : String}
    (h : (typeIds types).count id ≤ 1) (ds : List TileDefinition) :
    (typeIds (ds.foldl overrideType types)).count id ≤ 1 := by
  induction ds generalizing types with
  | nil => exact h
  | cons d rest ih =>
    refine ih ?_
    rw [typeIds_overrideType]
    split
    · exact h
    · rename_i hnew
      rw [List.count_append]
      by_cases hid : d.id = id
      · rw [← hid, List.count_eq_zero_of_not_mem hnew]
        simp
      · simpa [hid] using h

theorem nodup_foldl_overrideType {types : List TileType} (h : (typeIds types).Nodup)
    (ds : List TileDefinition) : (typeIds (ds.foldl overrideType types)).Nodup :=
  List.nodup_iff_count.mpr fun _ =>
    count_typeIds_foldl_overrideType_le (List.nodup_iff_count.mp h _) ds

/-- Overrides of one type that is there are applied one after the other. -/
theorem foldl_apply_some (ds : List TileDefinition) (start : TileType) :
    ds.foldl (fun known d => some (d.apply known)) (some start) =
      some (ds.foldl (fun t d => d.apply (some t)) start) := by
  induction ds generalizing start with
  | nil => rfl
  | cons d rest ih => exact ih _

section Known

variable {catalog : Catalog} {ds : List TileDefinition} {t : TileType}
  (h : (ds.foldl overrideType catalog).find? (·.id = t.id) = some t)
include h

/-- A type is what the definitions that name it make of its start. -/
theorem exists_inherits :
    ∃ start, StartsFrom catalog t.id start ∧ t.Inherits start (ds.filter (·.id = t.id)) := by
  rw [find?_foldl_overrideType] at h
  cases hknown : catalog.find? (·.id = t.id) with
  | some start =>
    rw [hknown, foldl_apply_some] at h
    have hid : start.id = t.id := by simpa using List.find?_some hknown
    have hstart : StartsFrom catalog start.id start := .catalog (List.mem_of_find?_eq_some hknown)
    have hinherits := start.inherits_foldl_apply (ds.filter (·.id = t.id))
    rw [Option.some.inj h] at hinherits
    exact ⟨start, hid ▸ hstart, hinherits⟩
  | none =>
    have hnew : t.id ∉ typeIds catalog := by
      rw [List.find?_eq_none] at hknown
      rintro hmem
      obtain ⟨u, hu, hid⟩ := List.mem_map.mp hmem
      exact hknown u hu (decide_eq_true hid)
    -- the first definition that names the type starts it
    cases hnamed : ds.filter (·.id = t.id) with
    | nil =>
      rw [hnamed, hknown] at h
      cases h
    | cons d rest =>
      have hd : d.id = t.id := by
        have hmem : d ∈ ds.filter (·.id = t.id) := hnamed ▸ List.mem_cons_self
        exact of_decide_eq_true (List.mem_filter.mp hmem).2
      have hfirst : d.apply none = d.apply (some (.fresh t.id d.symbol)) := by rw [← hd]; rfl
      rw [hnamed, hknown, List.foldl_cons, hfirst, foldl_apply_some] at h
      have hinherits := (TileType.fresh t.id d.symbol).inherits_foldl_apply (d :: rest)
      rw [List.foldl_cons, Option.some.inj h] at hinherits
      exact ⟨.fresh t.id d.symbol, .fresh hnew, hinherits⟩

/-- A type that no definition names is one of the catalog's. -/
theorem mem_of_unnamed (hds : ∀ d ∈ ds, d.id ≠ t.id) : t ∈ catalog := by
  have hnil : ds.filter (·.id = t.id) = [] := by simpa [List.filter_eq_nil_iff] using hds
  rw [find?_foldl_overrideType, hnil] at h
  exact List.mem_of_find?_eq_some h

end Known

/-! ### The floor colour -/

theorem TileType.isFloor_iff (t : TileType) : t.isFloor ↔ t.IsDefaultFloor := by
  rw [isFloor, IsDefaultFloor]
  cases t.metadata.get? "default" with
  | none => simp
  | some value =>
    have hflag : (flag? value).getD false = true ↔ flag? value = some true := by
      cases flag? value <;> simp
    simp [or_assoc, hflag]

theorem painted_none_iff {u t : TileType} : Painted none u t ↔ t = u := by
  constructor
  · intro h
    cases h with
    | floor hcolour _ => cases hcolour
    | other _ => rfl
  · rintro rfl
    exact .other (.inl rfl)

theorem painted_some_iff {c : String} {u t : TileType} :
    Painted (some c) u t ↔ t = if u.isFloor then { u with color := some c } else u := by
  constructor
  · intro h
    cases h with
    | floor hcolour hfloor =>
      rw [if_pos (u.isFloor_iff.mpr hfloor), Option.some.inj hcolour]
    | other hnot =>
      rw [if_neg]
      exact fun hfloor => (hnot.resolve_left nofun) (u.isFloor_iff.mp hfloor)
  · rintro rfl
    split
    · rename_i hfloor
      exact .floor rfl (u.isFloor_iff.mp hfloor)
    · rename_i hfloor
      exact .other (.inr fun h => hfloor (u.isFloor_iff.mpr h))

theorem Painted.id_eq {colour : Option String} {u t : TileType} (h : Painted colour u t) :
    t.id = u.id := by
  cases h <;> rfl

/-- The types of a painted table are those of the table, painted. -/
theorem mem_types_painted {tiles : TileTable} {colour : Option String} {t : TileType} :
    t ∈ (tiles.painted colour).types ↔ ∃ u ∈ tiles.types, Painted colour u t := by
  cases colour with
  | none => simp [TileTable.painted, painted_none_iff]
  | some c =>
    simp only [TileTable.painted, TileTable.paintFloors, List.mem_map, painted_some_iff, eq_comm]

theorem typeIds_painted (tiles : TileTable) (colour : Option String) :
    typeIds (tiles.painted colour).types = typeIds tiles.types := by
  cases colour with
  | none => rfl
  | some c => exact tiles.typeIds_paintFloors c

/-! ### Main result -/

/-- The lines of an accepted legend put their definitions over the catalog. -/
theorem exists_isLegend_of_foldlM {legend legend' : Legend} {lines : List Line}
    (h : lines.foldlM Legend.add legend = .ok legend') :
    ∃ ds, IsLegend lines ds ∧ legend'.table.types = ds.foldl overrideType legend.table.types := by
  induction lines generalizing legend with
  | nil =>
    obtain rfl := Except.ok.inj h
    exact ⟨[], .nil, rfl⟩
  | cons l lines ih =>
    rw [List.foldlM_cons, bind_eq_ok] at h
    obtain ⟨next, hadd, h⟩ := h
    obtain ⟨ds, hlines, htypes⟩ := ih h
    rcases Legend.of_add hadd with ⟨hl, rfl⟩ | ⟨d, hl, hnext⟩
    · exact ⟨ds, .comment hl hlines, htypes⟩
    · refine ⟨d :: ds, .definition hl hlines, ?_⟩
      rw [htypes, hnext]
      rfl

/-- The types of an accepted legend are those of its definitions with the floor colour, or the floor
alone. -/
theorem exists_types_of_resolveTiles {catalog : Catalog} {lines : List Line}
    {colour : Option String} {tiles : TileTable}
    (h : resolveTiles catalog lines colour = .ok tiles) :
    ∃ ds, IsLegend lines ds ∧ ∃ table : TileTable, table.types = ds.foldl overrideType catalog ∧
      tiles.types = if catalog = [] ∧ ds = [] then [.defaultFloor]
        else (table.painted colour).types := by
  rw [resolveTiles_eq] at h
  cases hlegend : lines.foldlM Legend.add (.start catalog) with
  | error e => simp [hlegend, Except.map] at h
  | ok legend =>
    rw [hlegend] at h
    obtain rfl := Except.ok.inj h
    obtain ⟨ds, hlines, htypes⟩ := exists_isLegend_of_foldlM hlegend
    have htypes : legend.table.types = ds.foldl overrideType catalog := htypes
    have hnil : (legend.table.painted colour).types.isEmpty ↔ catalog = [] ∧ ds = [] := by
      rw [List.isEmpty_iff, TileTable.types_painted, htypes, foldl_overrideType_eq_nil]
    refine ⟨ds, hlines, legend.table, htypes, ?_⟩
    dsimp only [TileTable.orDefaultFloor]
    by_cases hnone : catalog = [] ∧ ds = []
    · have hempty := hnil.mpr hnone
      rw [if_pos hnone, if_pos hempty, TileTable.bind, List.isEmpty_iff.mp hempty]
      rfl
    · rw [if_neg hnone, if_neg fun hempty => hnone (hnil.mp hempty)]

/-- Painting comes after the overrides, and leaves the rest of what they say. -/
theorem overrides_painted {catalog : Catalog} (hids : (typeIds catalog).Nodup)
    {ds : List TileDefinition} {table : TileTable}
    (htypes : table.types = ds.foldl overrideType catalog) (colour : Option String) :
    Overrides catalog ds colour (table.painted colour).types := by
  have hfind : ∀ u ∈ table.types, (ds.foldl overrideType catalog).find? (·.id = u.id) = some u := by
    rw [htypes]
    exact fun u => find?_eq_some_of_nodup (nodup_foldl_overrideType hids ds)
  refine ⟨?_, fun t ht => ?_, fun t ht hds => ?_⟩
  · rw [typeIds_painted, htypes, typeIds_foldl_overrideType]
  · obtain ⟨u, hu, hpainted⟩ := mem_types_painted.mp ht
    obtain ⟨start, hstart, hinherits⟩ := exists_inherits (hfind u hu)
    rw [hpainted.id_eq]
    exact ⟨start, u, hstart, hinherits, hpainted⟩
  · obtain ⟨u, hu, hpainted⟩ := mem_types_painted.mp ht
    rw [hpainted.id_eq] at hds
    exact ⟨u, mem_of_unnamed (hfind u hu) hds, hpainted⟩

/-- The types of an accepted legend are what its definitions make of the catalog, or the floor alone
if there is neither a tile nor a definition. -/
theorem overrides_inherit {catalog : Catalog} {lines : List Line} {colour : Option String}
    {tiles : TileTable} (hids : (typeIds catalog).Nodup)
    (h : resolveTiles catalog lines colour = .ok tiles) :
    ∃ ds, IsLegend lines ds ∧
      if catalog = [] ∧ ds = [] then tiles.types = [.defaultFloor]
      else Overrides catalog ds colour tiles.types := by
  obtain ⟨ds, hlines, table, htable, htypes⟩ := exists_types_of_resolveTiles h
  refine ⟨ds, hlines, ?_⟩
  by_cases hnone : catalog = [] ∧ ds = []
  · rw [if_pos hnone] at htypes ⊢
    exact htypes
  · rw [if_neg hnone] at htypes ⊢
    rw [htypes]
    exact overrides_painted hids htable colour

/-- A legend with a pond, and with two lines for the water of the catalog; a flag of the first of
them cannot be read. -/
def brookLegend : List Line :=
  legendLines (textOf ["[Tiles]", "~ = water;collides=maybe;depth=3;name=Lake", "o = pond;solid",
    "b = water;solid=no;Label = Brook"])

/-- A brook overrides the water of the catalog, and a pond is new. -/
theorem overrides_inherit_brook :
    (typeIds Catalog.builtin).Nodup ∧
    ∃ tiles, resolveTiles .builtin brookLegend (some "#112233") = .ok tiles ∧
      typeIds tiles.types = ["floor", "wall", "water", "grass", "pond"] ∧
      tiles.types.map (·.collides) = [false, true, false, false, true] ∧
      (tiles.get? "water").map (·.name) = some "Brook" ∧
      ∃ ds, IsLegend brookLegend ds ∧ Overrides .builtin ds (some "#112233") tiles.types := by
  have hids : (typeIds Catalog.builtin).Nodup := by decide +kernel
  have hbrook : (resolveTiles .builtin brookLegend (some "#112233")).toOption.map
      (fun tiles => (typeIds tiles.types, tiles.types.map (·.collides),
        (tiles.get? "water").map (·.name))) =
      some (["floor", "wall", "water", "grass", "pond"], [false, true, false, false, true],
        some "Brook") := by
    decide +kernel
  obtain ⟨tiles, htiles, hvalues⟩ := exists_ok_of_toOption_map hbrook
  obtain ⟨htypeIds, hcollides, hname⟩ := by simpa only [Prod.mk.injEq] using hvalues
  obtain ⟨ds, hlines, htypes⟩ := overrides_inherit hids htiles
  rw [if_neg (by simp [Catalog.builtin])] at htypes
  exact ⟨hids, tiles, htiles, htypeIds, hcollides, hname, ds, hlines, htypes⟩

end Tilemap
