import Mathlib.Data.List.Forall2
import Tilemap.Tiled.Import

/-!
# What an accepted map went through

A map is compiled or imported in stages, and the first stage that fails ends the work. So a map
that is handed out went through all of them: `compile_eq_ok`, `toMap_eq_ok` and
`MapParts.assemble_eq_ok_iff` say which results they had, and every fact about accepted maps starts
from these.
-/

namespace Tilemap

/-- Two stages succeed exactly if the first one does and the second one does with its result. -/
theorem bind_eq_ok {ε α β : Type} {x : Except ε α} {f : α → Except ε β} {b : β} :
    (x >>= f) = .ok b ↔ ∃ a, x = .ok a ∧ f a = .ok b := by
  cases x <;> simp [bind, Except.bind]

theorem pure_eq_ok {ε α : Type} {a b : α} : (pure a : Except ε α) = .ok b ↔ a = b := by
  simp [pure, Except.pure]

/-- Two stages fail exactly if the first one does or the second one does with its result. -/
theorem bind_eq_error {ε α β : Type} {x : Except ε α} {f : α → Except ε β} {e : ε} :
    (x >>= f) = .error e ↔ x = .error e ∨ ∃ a, x = .ok a ∧ f a = .error e := by
  cases x <;> simp [bind, Except.bind]

theorem pure_ne_error {ε α : Type} {a : α} {e : ε} : (pure a : Except ε α) ≠ .error e := nofun

/-- What only goes on with a result is refused where the result is. -/
theorem bind_pure_eq_error {ε α β : Type} {x : Except ε α} {f : α → β} {e : ε} :
    (x >>= fun a => pure (f a)) = .error e ↔ x = .error e := by
  cases x <;> simp [bind, Except.bind, pure_ne_error]

/-- What follows a refusal is reached exactly when nothing is refused. -/
theorem guard_eq_ok {ε α β : Type} {c : Prop} [Decidable c] {e : ε} {f : α → Except ε β}
    {x : Except ε β} {b : β} :
    (if c then (throw e : Except ε α) >>= f else x) = .ok b ↔ ¬ c ∧ x = .ok b := by
  split
  · rename_i hc
    simp [hc, throw, throwThe, MonadExceptOf.throw, bind, Except.bind]
  · rename_i hc
    simp [hc]

theorem exists_ok_of_toOption_map {ε α β : Type} {x : Except ε α} {f : α → β} {b : β}
    (h : x.toOption.map f = some b) : ∃ a, x = .ok a ∧ f a = b := by
  cases x with
  | error e => cases h
  | ok a => exact ⟨a, rfl, Option.some.inj h⟩

theorem eq_error_of_map {ε α β : Type} {x : Except ε α} {f : α → β} {e : ε}
    (h : x.map f = .error e) : x = .error e := by
  cases x with
  | error e' => rw [Except.error.inj h]
  | ok a => cases h

/-- What every step keeps holds after all of them. -/
theorem foldlM_preserves {ε α β : Type} {P : β → Prop} {f : β → α → Except ε β} {l : List α}
    {b b' : β} (hstep : ∀ a ∈ l, ∀ b b', P b → f b a = .ok b' → P b') (hb : P b)
    (h : l.foldlM f b = .ok b') : P b' := by
  induction l generalizing b with
  | nil =>
    obtain rfl := pure_eq_ok.mp h
    exact hb
  | cons a rest ih =>
    rw [List.foldlM_cons] at h
    obtain ⟨c, hc, hrest⟩ := bind_eq_ok.mp h
    exact ih (fun a' ha' => hstep a' (List.mem_cons_of_mem _ ha'))
      (hstep a List.mem_cons_self b c hb hc) hrest

/-! ### Traversals -/

/-- What is made of a list member by member is made of each member. -/
theorem exists_of_mem_forall₂ {α β : Type} {R : α → β → Prop} {l : List α} {bs : List β}
    (h : List.Forall₂ R l bs) {a : α} (ha : a ∈ l) : ∃ b ∈ bs, R a b := by
  obtain ⟨i, hi, rfl⟩ := List.getElem_of_mem ha
  have hi' := h.length_eq ▸ hi
  exact ⟨_, List.getElem_mem hi', h.get hi hi'⟩

section Traversals

variable {ε α β : Type} {f : α → Except ε β} {l : List α}

theorem mapM_eq_ok_iff {bs : List β} :
    l.mapM f = .ok bs ↔ List.Forall₂ (fun a b => f a = .ok b) l bs := by
  induction l generalizing bs with
  | nil => rw [List.mapM_nil, pure_eq_ok, List.forall₂_nil_left_iff, eq_comm]
  | cons a rest ih =>
    simp only [List.mapM_cons, bind_eq_ok, pure_eq_ok, ih, List.forall₂_cons_left_iff]
    constructor
    · rintro ⟨b, hb, bs', hbs, rfl⟩
      exact ⟨b, bs', hb, hbs, rfl⟩
    · rintro ⟨b, bs', hb, hbs, rfl⟩
      exact ⟨b, hb, bs', hbs, rfl⟩

/-- A traversal is refused where the first step is. -/
theorem mapM_eq_error_iff {e : ε} :
    l.mapM f = .error e ↔ ∃ before a after, l = before ++ a :: after ∧
      (∀ a' ∈ before, ∃ b, f a' = .ok b) ∧ f a = .error e := by
  constructor
  · induction l with
    | nil => exact fun h => absurd h pure_ne_error
    | cons a rest ih =>
      intro h
      rw [List.mapM_cons, bind_eq_error] at h
      rcases h with ha | ⟨b, hb, h⟩
      · exact ⟨[], a, rest, rfl, by simp, ha⟩
      · obtain ⟨before, a', after, rfl, hbefore, ha'⟩ := ih (bind_pure_eq_error.mp h)
        refine ⟨a :: before, a', after, rfl, fun c hc => ?_, ha'⟩
        rcases List.mem_cons.mp hc with rfl | hc
        · exact ⟨b, hb⟩
        · exact hbefore c hc
  · rintro ⟨before, a, after, rfl, hbefore, ha⟩
    induction before with
    | nil =>
      rw [List.nil_append, List.mapM_cons, ha]
      rfl
    | cons c rest ih =>
      obtain ⟨b, hb⟩ := hbefore c List.mem_cons_self
      rw [List.cons_append, List.mapM_cons, hb,
        ih fun c' hc' => hbefore c' (List.mem_cons_of_mem _ hc')]
      rfl

theorem mapM_eq_ok {bs : List β} (h : l.mapM f = .ok bs) :
    bs.length = l.length ∧ ∀ b ∈ bs, ∃ a ∈ l, f a = .ok b := by
  have hall := mapM_eq_ok_iff.mp h
  exact ⟨hall.length_eq.symm, fun b hb => exists_of_mem_forall₂ hall.flip hb⟩

theorem exists_ok_of_mapM {bs : List β} (h : l.mapM f = .ok bs) {a : α} (ha : a ∈ l) :
    ∃ b, f a = .ok b := by
  obtain ⟨b, -, hb⟩ := exists_of_mem_forall₂ (mapM_eq_ok_iff.mp h) ha
  exact ⟨b, hb⟩

theorem exists_of_mapM_eq_error {e : ε} (h : l.mapM f = .error e) : ∃ a ∈ l, f a = .error e := by
  obtain ⟨before, a, after, rfl, -, ha⟩ := mapM_eq_error_iff.mp h
  exact ⟨a, List.mem_append_right _ List.mem_cons_self, ha⟩

theorem exists_mapM_eq_ok_iff : (∃ bs, l.mapM f = .ok bs) ↔ ∀ a ∈ l, ∃ b, f a = .ok b := by
  constructor
  · rintro ⟨bs, hbs⟩ a ha
    exact exists_ok_of_mapM hbs ha
  · intro h
    cases hl : l.mapM f with
    | ok bs => exact ⟨bs, rfl⟩
    | error e =>
      obtain ⟨a, ha, hfa⟩ := exists_of_mapM_eq_error hl
      obtain ⟨b, hb⟩ := h a ha
      cases hb.symm.trans hfa

/-- Steps are refused where the first of them is. -/
theorem foldlM_eq_error_iff {step : β → α → Except ε β} {b : β} {e : ε} :
    l.foldlM step b = .error e ↔ ∃ before a after b', l = before ++ a :: after ∧
      before.foldlM step b = .ok b' ∧ step b' a = .error e := by
  constructor
  · induction l generalizing b with
    | nil => exact fun h => absurd h pure_ne_error
    | cons a rest ih =>
      intro h
      rw [List.foldlM_cons, bind_eq_error] at h
      rcases h with ha | ⟨c, hc, h⟩
      · exact ⟨[], a, rest, b, rfl, rfl, ha⟩
      · obtain ⟨before, a', after, b', rfl, hbefore, ha'⟩ := ih h
        refine ⟨a :: before, a', after, b', rfl, ?_, ha'⟩
        rw [List.foldlM_cons, hc]
        exact hbefore
  · rintro ⟨before, a, after, b', rfl, hbefore, ha⟩
    rw [List.foldlM_append, hbefore]
    show (a :: after).foldlM step b' = .error e
    rw [List.foldlM_cons, ha]
    rfl

end Traversals

/-! ### Lists with distinct keys -/

theorem filter_eq_singleton {α β : Type} [DecidableEq β] {f : α → β} {l : List α} {a : α}
    (hnodup : (l.map f).Nodup) (ha : a ∈ l) : l.filter (f · = f a) = [a] := by
  induction l with
  | nil => simp at ha
  | cons b rest ih =>
    obtain ⟨hb, hrest⟩ := List.nodup_cons.mp hnodup
    rcases List.mem_cons.mp ha with rfl | ha
    · have hnone : rest.filter (f · = f a) = [] := by
        refine List.filter_eq_nil_iff.mpr fun c hc heq => hb ?_
        exact (of_decide_eq_true heq) ▸ List.mem_map_of_mem hc
      rw [List.filter_cons_of_pos (by simp), hnone]
    · have hne : f b ≠ f a := fun heq => hb (heq ▸ List.mem_map_of_mem ha)
      rw [List.filter_cons_of_neg (by simpa using hne), ih hrest ha]

/-- Where the values under a function are distinct, an item is found by its own. -/
theorem find?_eq_some_of_nodup {α β : Type} [DecidableEq β] {f : α → β} {l : List α} {a : α}
    (hnodup : (l.map f).Nodup) (ha : a ∈ l) : l.find? (f · = f a) = some a := by
  rw [← List.head?_filter, filter_eq_singleton hnodup ha]
  rfl

/-! ### Sorted lists -/

/-- What is sorted by an order of its members is sorted in one way only. -/
theorem mergeSort_congr_perm {α : Type} {le : α → α → Bool} {l l' : List α}
    (htrans : ∀ a b c, le a b → le b c → le a c) (htotal : ∀ a b, le a b || le b a)
    (hantisymm : ∀ a ∈ l, ∀ b ∈ l, le a b → le b a → a = b) (h : l'.Perm l) :
    l'.mergeSort le = l.mergeSort le := by
  refine List.Perm.eq_of_pairwise ?_ (List.pairwise_mergeSort htrans htotal l')
    (List.pairwise_mergeSort htrans htotal l) ?_
  · intro a b ha hb hab hba
    have ha : a ∈ l := h.mem_iff.mp (List.mem_mergeSort.mp ha)
    exact hantisymm a ha b (List.mem_mergeSort.mp hb) hab hba
  · exact (List.mergeSort_perm l' le).trans (h.trans (List.mergeSort_perm l le).symm)

/-! ### Assembling -/

namespace MapParts

/-- The size of the map: the one given, or else that of the layers, or else a single tile. -/
def finalSize (p : MapParts) : Size := (p.size.or (layerBounds? p.layers)).getD .unit

/-- The tile types of the map, of which there is at least the floor. -/
def finalTypes (p : MapParts) : List TileType :=
  if p.tileTypes.isEmpty then [TileType.defaultFloor] else p.tileTypes

/-- The layers of the map in their order, of which there is at least the ground. -/
def finalLayers (p : MapParts) : List TileLayer :=
  sortTileLayers <|
    if p.layers.isEmpty then [groundLayer p.finalSize (p.finalTypes.head?.map (·.id))]
    else p.layers

def typeMap (p : MapParts) : SortedMap TileType :=
  SortedMap.ofList (p.finalTypes.map fun t => (t.id, t))

/-- The map that the parts make, unless it is too large. -/
def completed (p : MapParts) : MapModel where
  id := p.id
  name := p.name.getD p.id
  biome := p.biome.getD defaultBiome
  description := p.description.getD ""
  size := p.finalSize
  spawn := p.spawn.getD p.finalSize.centre
  spawnPoints := p.spawnPoints
  blockedAreas := p.finalSize.border
  tileTypes := p.typeMap
  layers := p.finalLayers
  objectLayers := sortObjectLayers p.objectLayers
  objects := p.objects
  doors := p.doors
  theme := p.theme
  collidableTiles := collidableTiles p.typeMap p.finalLayers
  sourcePath := p.sourcePath
  extra := p.extra

@[simp] theorem completed_id (p : MapParts) : p.completed.id = p.id := rfl

@[simp] theorem completed_objects (p : MapParts) : p.completed.objects = p.objects := rfl

@[simp] theorem completed_size (p : MapParts) : p.completed.size = p.finalSize := rfl

@[simp] theorem completed_doors (p : MapParts) : p.completed.doors = p.doors := rfl

theorem assemble_eq_ok_iff {p : MapParts} {m : MapModel} :
    p.assemble = .ok m ↔ p.finalSize.check = .ok () ∧ p.completed = m := by
  rw [assemble]
  simp only [bind_eq_ok, pure_eq_ok]
  exact ⟨fun ⟨_, hsize, hm⟩ => ⟨hsize, hm⟩, fun ⟨hsize, hm⟩ => ⟨(), hsize, hm⟩⟩

end MapParts

/-! ### Map texts -/

/-- The head of a map text. -/
def headOf (text : String) : MetaTable :=
  ((findSection? (splitSections text) metaKey).map MetaTable.ofSection).getD ⟨[]⟩

def legendLines (text : String) : List Line :=
  ((findSection? (splitSections text) "tiles").map Section.lines).getD []

/-- The parts that a map text gives, with the results of the stages. -/
def textParts (text : String) (options : CompileOptions) (tiles : TileTable)
    (layers : List TileLayer) (doors : List Door) (doorObjects : List ObjectPlacement)
    (objectLayers : List ObjectLayer) : MapParts where
  id := resolveMapId ((headOf text).get? ["id"]) options.sourcePath
  name := (headOf text).get? ["title", "name"]
  biome := (headOf text).get? ["biome"]
  description := (headOf text).get? ["description"]
  size := ((headOf text).get? ["dimensions", "size"]).bind Size.parse?
  spawn := ["startingPoint", "spawnPoint", "spawn"].findSome? fun key =>
    ((headOf text).get? [key]).bind Position.parse?
  spawnPoints := .empty
  tileTypes := tiles.types
  layers
  objectLayers
  objects := doorObjects ++ objectLayers.flatMap (·.objects)
  doors
  theme := ⟨(headOf text).get? ["borderColour", "borderColor"], (headOf text).get? ["soundscape"]⟩
  sourcePath := options.sourcePath
  extra := (headOf text).extra knownKeys

/-- The stages of a map text that is accepted. -/
theorem compile_eq_ok {text : String} {options : CompileOptions} {m : MapModel}
    (h : compile text options = .ok m) :
    ∃ tiles layers doors doorObjects ids objectLayers ids',
      resolveTiles options.catalog (legendLines text)
        ((headOf text).get? ["floorColour", "floorColor"]) = .ok tiles ∧
      compileLayers tiles (sectionsStarting (splitSections text) "layer") = .ok layers ∧
      buildDoors (outboundEntries ((headOf text).get? ["doorOut"])
          ((headOf text).get? ["doorPosition"]))
        ((((headOf text).get? ["doorIn"]).map splitDoorEntries).getD [])
        (resolveMapId ((headOf text).get? ["id"]) options.sourcePath) .empty =
          .ok ((doors, doorObjects), ids) ∧
      compileObjectLayers ids (sectionsStarting (splitSections text) "objects") =
        .ok (objectLayers, ids') ∧
      (textParts text options tiles layers doors doorObjects objectLayers).assemble = .ok m := by
  rw [compile] at h
  simp only [bind_eq_ok] at h
  obtain ⟨tiles, htiles, layers, hlayers, ⟨⟨doors, doorObjects⟩, ids⟩, hdoors,
    ⟨objectLayers, ids'⟩, hobjects, hm⟩ := h
  exact ⟨tiles, layers, doors, doorObjects, ids, objectLayers, ids', htiles, hlayers, hdoors,
    hobjects, hm⟩

/-- The id of an accepted map text. -/
theorem id_of_compile {text : String} {options : CompileOptions} {m : MapModel}
    (h : compile text options = .ok m) :
    m.id = resolveMapId ((headOf text).get? ["id"]) options.sourcePath := by
  obtain ⟨_, _, _, _, _, _, _, -, -, -, -, hm⟩ := compile_eq_ok h
  obtain ⟨-, rfl⟩ := MapParts.assemble_eq_ok_iff.mp hm
  simp only [MapParts.completed_id, textParts]

/-- A section is a layer exactly if its lines can be read and leave a row. -/
theorem compileLayer_eq_some {tiles : TileTable} {s : Section} {index : Nat} {l : TileLayer} :
    compileLayer tiles s index = .ok (some l) ↔
      s.lines.foldlM (TileLayer.addLine tiles) (TileLayer.start s index) = .ok l ∧
        l.tiles ≠ [] := by
  simp only [compileLayer, bind_eq_ok, pure_eq_ok]
  constructor
  · rintro ⟨final, hfinal, hsome⟩
    split at hsome
    · cases hsome
    · rename_i hne
      obtain rfl := Option.some.inj hsome
      exact ⟨hfinal, by simpa using hne⟩
  · rintro ⟨hfold, hne⟩
    exact ⟨l, hfold, if_neg (by simpa using hne)⟩

/-- Every layer of a map text comes from the lines of a section, and some of them are rows. -/
theorem exists_foldlM_of_mem_compileLayers {tiles : TileTable} {sections : List Section}
    {layers : List TileLayer} (h : compileLayers tiles sections = .ok layers) {l : TileLayer}
    (hl : l ∈ layers) :
    ∃ s ∈ sections, ∃ index,
      s.lines.foldlM (TileLayer.addLine tiles) (TileLayer.start s index) = .ok l ∧
        l.tiles ≠ [] := by
  simp only [compileLayers, bind_eq_ok, pure_eq_ok] at h
  obtain ⟨drawn, hdrawn, rfl⟩ := h
  rw [sortTileLayers, (List.mergeSort_perm ..).mem_iff] at hl
  obtain ⟨l', hl', rfl⟩ : ∃ l' ∈ drawn, l' = some l := by simpa using hl
  obtain ⟨⟨s, index⟩, hs, hlayer⟩ := (mapM_eq_ok hdrawn).2 _ hl'
  exact ⟨s, List.fst_mem_of_mem_zipIdx hs, index, compileLayer_eq_some.mp hlayer⟩

namespace TileLayer

variable {tiles : TileTable} {l l' : TileLayer} {row : List Cell} {line : Line}

theorem addRow_eq_ok :
    l.addRow row = .ok l' ↔ l.fits row ∧ { l with tiles := l.tiles ++ [row] } = l' := by
  rw [addRow]
  split <;> simp_all

theorem row_of_uncutRow? (h : l.uncutRow? tiles line = some row) :
    tiles.row line.raw = .ok row := by
  rw [uncutRow?] at h
  split at h
  · split at h
    · rename_i r hr
      split at h
      · rw [hr, Option.some.inj h]
      · cases h
    · cases h
  · cases h

/-- A line that is accepted is a row, as a whole or without its comment, or sets a property, or is
nothing. -/
theorem addLine_eq_ok (h : l.addLine tiles line = .ok l') :
    (∃ text row, (text = line.raw ∨ line.code = some text) ∧ tiles.row text = .ok row ∧
      l.addRow row = .ok l') ∨
    (∃ code key value, line.code = some code ∧ layerProperty? code = some (key, value) ∧
      l.set key value = l') ∨
    l = l' := by
  rw [addLine] at h
  split at h
  · rename_i row hrow
    exact .inl ⟨line.raw, row, .inl rfl, row_of_uncutRow? hrow, h⟩
  · split at h
    · cases h
      exact .inr (.inr rfl)
    · rename_i code hcode
      split at h
      · rename_i key value hproperty
        cases h
        have hproperty : layerProperty? code = some (key, value) := by
          split at hproperty
          · exact hproperty
          · cases hproperty
        exact .inr (.inl ⟨code, key, value, hcode, hproperty, rfl⟩)
      · split at h
        · rename_i row hrow
          exact .inl ⟨code, row, .inr hcode, hrow, h⟩
        · cases h

end TileLayer

/-! ### Tiled maps -/

namespace Tiled

/-- The parts that a document gives, with the results of the stages. -/
def Document.parts (d : Document) (options : CompileOptions) (index : TileIndex)
    (layers : List TileLayer) (objectLayers : List ObjectLayer) (doors : List Door)
    (doorObjects : List ObjectPlacement) : MapParts where
  id := resolveMapId (text? d.properties "id") options.sourcePath
  name := text? d.properties "name"
  biome := text? d.properties "biome"
  description := text? d.properties "description"
  size := if 0 < d.width && 0 < d.height then some ⟨d.width, d.height⟩ else none
  spawn := (text? d.properties "spawn").bind Position.parse?
  spawnPoints := d.spawnPoints
  tileTypes := index.types
  layers
  objectLayers
  objects := objectLayers.flatMap (·.objects) ++ doorObjects
  doors
  theme := ⟨text? d.properties "theme.borderColour", text? d.properties "theme.soundscape"⟩
  sourcePath := options.sourcePath
  extra := d.properties.filter fun (name, _) => !mapFields.contains name

/-- The object layer that a layer is with its objects placed, `place` being its place. -/
def Layer.toObjectLayer (l : Layer) (place : Nat) (objects : List ObjectPlacement) :
    ObjectLayer where
  id := l.idAt place
  name := l.givenName?.getD (l.idAt place)
  order := l.orderAt place
  visible := l.visible.getD true
  objects

/-- The first of several layers becomes a tile layer or an object layer, or is passed over. -/
theorem splitLayers_cons_eq_ok {d : Document} {index : TileIndex} {a b : IdAllocator} {l : Layer}
    {place : Nat} {rest : List (Layer × Nat)} {tiles : List TileLayer} {groups : List ObjectLayer}
    (h : splitLayers d index a ((l, place) :: rest) = .ok (tiles, groups, b)) :
    (l.kind = "tilelayer" ∧ ∃ layer tiles', l.toTileLayer d index place = .ok layer ∧
      splitLayers d index a rest = .ok (tiles', groups, b) ∧ tiles = layer :: tiles') ∨
    (l.kind = "objectgroup" ∧ ∃ groups',
      splitLayers d index (placeAll d a l.objects).2 rest = .ok (tiles, groups', b) ∧
        groups = l.toObjectLayer place (placeAll d a l.objects).1 :: groups') ∨
    (l.kind ≠ "tilelayer" ∧ l.kind ≠ "objectgroup" ∧
      splitLayers d index a rest = .ok (tiles, groups, b)) := by
  unfold splitLayers at h
  split at h
  · rename_i htile
    simp only [bind_eq_ok, pure_eq_ok, Prod.mk.injEq] at h
    obtain ⟨layer, hlayer, ⟨tiles', groups', c⟩, hrest, rfl, rfl, rfl⟩ := h
    exact .inl ⟨htile, layer, tiles', hlayer, hrest, rfl⟩
  · rename_i htile
    split at h
    · rename_i hgroup
      simp only [bind_eq_ok, pure_eq_ok, Prod.mk.injEq] at h
      obtain ⟨⟨tiles', groups', c⟩, hrest, rfl, rfl, rfl⟩ := h
      exact .inr (.inl ⟨hgroup, groups', hrest, rfl⟩)
    · rename_i hgroup
      exact .inr (.inr ⟨htile, hgroup, h⟩)

/-- The tile layers and the object layers of a document come from its layers, in their order. -/
theorem forall₂_splitLayers {d : Document} {index : TileIndex} {a b : IdAllocator}
    {numbered : List (Layer × Nat)} {tiles : List TileLayer} {groups : List ObjectLayer}
    (h : splitLayers d index a numbered = .ok (tiles, groups, b)) :
    List.Forall₂ (fun e layer => e.1.toTileLayer d index e.2 = .ok layer)
        (numbered.filter (·.1.kind = "tilelayer")) tiles ∧
      List.Forall₂
        (fun e layer => ∃ ids, e.1.toObjectLayer e.2 (placeAll d ids e.1.objects).1 = layer)
        (numbered.filter (·.1.kind = "objectgroup")) groups := by
  induction numbered generalizing a tiles groups with
  | nil =>
    obtain ⟨rfl, rfl, -⟩ : [] = tiles ∧ [] = groups ∧ a = b := by simpa [splitLayers] using h
    exact ⟨.nil, .nil⟩
  | cons head rest ih =>
    obtain ⟨l, place⟩ := head
    rcases splitLayers_cons_eq_ok h with ⟨hkind, layer, tiles', hlayer, hrest, rfl⟩ |
      ⟨hkind, groups', hrest, rfl⟩ | ⟨htile, hgroup, hrest⟩
    · obtain ⟨htiles, hgroups⟩ := ih hrest
      simpa [hkind] using ⟨⟨hlayer, htiles⟩, hgroups⟩
    · obtain ⟨htiles, hgroups⟩ := ih hrest
      refine ⟨by simpa [hkind] using htiles, ?_⟩
      rw [List.filter_cons_of_pos (by simp [hkind])]
      exact .cons ⟨a, rfl⟩ hgroups
    · simpa [htile, hgroup] using ih hrest

/-- Every tile layer of a document comes from one of its layers. -/
theorem exists_toTileLayer_of_mem_splitLayers {d : Document} {index : TileIndex}
    {a b : IdAllocator} {numbered : List (Layer × Nat)} {tiles : List TileLayer}
    {groups : List ObjectLayer} (h : splitLayers d index a numbered = .ok (tiles, groups, b))
    {layer : TileLayer} (hlayer : layer ∈ tiles) :
    ∃ l place, (l, place) ∈ numbered ∧ l.toTileLayer d index place = .ok layer := by
  obtain ⟨e, he, hdrawn⟩ := exists_of_mem_forall₂ (forall₂_splitLayers h).1.flip hlayer
  exact ⟨e.1, e.2, List.mem_of_mem_filter he, hdrawn⟩

/-- The stages of a document that is accepted. -/
theorem toMap_eq_ok {d : Document} {options : CompileOptions} {m : MapModel}
    (h : d.toMap options = .ok m) :
    ∃ index layers objectLayers ids doors doorObjects ids',
      TileIndex.build d.tilesets = .ok index ∧
      splitLayers d index .empty d.flatLayers.zipIdx = .ok (layers, objectLayers, ids) ∧
      buildDoors (doorList (json? d.properties "doors") "out")
        (doorList (json? d.properties "doors") "in")
        (resolveMapId (text? d.properties "id") options.sourcePath) ids =
          .ok ((doors, doorObjects), ids') ∧
      (d.parts options index layers objectLayers doors doorObjects).assemble = .ok m := by
  rw [Document.toMap] at h
  simp only [bind_eq_ok] at h
  obtain ⟨index, hindex, ⟨layers, objectLayers, ids⟩, hlayers, ⟨⟨doors, doorObjects⟩, ids'⟩, hdoors,
    hm⟩ := h
  exact ⟨index, layers, objectLayers, ids, doors, doorObjects, ids', hindex, hlayers, hdoors, hm⟩

/-- Once a document went through its stages its parts are put together. -/
theorem toMap_of_stages {d : Document} {options : CompileOptions} {index : TileIndex}
    {layers : List TileLayer} {objectLayers : List ObjectLayer} {ids ids' : IdAllocator}
    {doors : List Door} {doorObjects : List ObjectPlacement}
    (hindex : TileIndex.build d.tilesets = .ok index)
    (hlayers : splitLayers d index .empty d.flatLayers.zipIdx = .ok (layers, objectLayers, ids))
    (hdoors : buildDoors (doorList (json? d.properties "doors") "out")
      (doorList (json? d.properties "doors") "in")
      (resolveMapId (text? d.properties "id") options.sourcePath) ids =
        .ok ((doors, doorObjects), ids')) :
    d.toMap options = (d.parts options index layers objectLayers doors doorObjects).assemble := by
  rw [Document.toMap, hindex]
  change (splitLayers d index .empty d.flatLayers.zipIdx >>= _) = _
  rw [hlayers]
  change (buildDoors _ _ _ ids >>= _) = _
  rw [hdoors]
  rfl

/-- The id of an accepted document. -/
theorem id_of_toMap {d : Document} {options : CompileOptions} {m : MapModel}
    (h : d.toMap options = .ok m) :
    m.id = resolveMapId (text? d.properties "id") options.sourcePath := by
  obtain ⟨_, _, _, _, _, _, _, -, -, -, hm⟩ := toMap_eq_ok h
  obtain ⟨-, rfl⟩ := MapParts.assemble_eq_ok_iff.mp hm
  simp only [MapParts.completed_id, Document.parts]

/-- An import succeeds only if its text is a document that makes a map. -/
theorem importText_eq_ok {text : String} {options : CompileOptions} {m : MapModel}
    (h : importText text options = .ok m) :
    ∃ d, Document.parse? text = some d ∧ d.toMap options = .ok m := by
  rw [importText] at h
  split at h
  · rename_i d hd
    exact ⟨d, hd, h⟩
  · cases h

end Tiled

end Tilemap
