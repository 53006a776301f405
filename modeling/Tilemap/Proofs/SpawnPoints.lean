import Tilemap.Proofs.DoorsAndObjects
import Tilemap.Proofs.SpawnSpellings
import Tilemap.Proofs.UnnamedTiles

/-!
# Spawn points of Tiled maps

A Tiled map lists spawn points in a property, and an object can name the spawn point that it is.
`spawn_points_of_document` says which names a map has in the end, and where. What is listed counts
before what objects name, but only if its position can be read. Of several objects with one name the
last one counts, at whatever depth of the groups it stands.
-/

namespace Tilemap.Tiled

open Text

/-! ### Statement -/

/-- A value of the listed spawn points gives a position: an object with two integers of which the
lower 32 bits count, or a text. -/
inductive GivesPosition : Json → Position → Prop where
  | object {b : Bag} {x y : Int} (h : HasCoordinates b x y) (hx : x < 2 ^ 63) (hy : y < 2 ^ 63) :
    GivesPosition (.object b) ⟨Int32.ofInt x, Int32.ofInt y⟩
  | text {s : String} {p : Position} (h : Position.parse? s = some p) : GivesPosition (.string s) p

/-- The last value under a name that gives a position gives this one. -/
def Places (entries : Bag) (name : String) (p : Position) : Prop :=
  ∃ before j after, entries = before ++ (name, j) :: after ∧ GivesPosition j p ∧
    ∀ j', (name, j') ∈ after → ∀ q, ¬ GivesPosition j' q

namespace Document

variable (d : Document)

/-- The property of a document lists a spawn point, with a position that can be read. -/
def ListsSpawn (name : String) (p : Position) : Prop :=
  ∃ spawns entries, d.properties.get? "spawnPoints" = some spawns ∧ ListsSpawns entries spawns ∧
    Places entries name p

def objects : List Object := d.objectGroups.flatMap (·.objects)

end Document

namespace Object

variable (o : Object) (d : Document)

/-- The spawn point that an object names. -/
def spawnName? : Option String := text? o.properties "spawnId"

/-- The tile nearest to the pixel of an object. -/
def pixelTile : Position :=
  ⟨Binary.roundToInt32 (o.x / tileSize d.tileWidth),
    Binary.roundToInt32 (o.y / tileSize d.tileHeight)⟩

/-- An object stands on the tile that it names, or on the one nearest to its pixel if it names none
that can be read. -/
inductive StandsOn : Position → Prop where
  | named {s : String} {p : Position} (h : text? o.properties "tile" = some s)
    (hp : Position.parse? s = some p) : StandsOn p
  | pixel (h : ∀ s, text? o.properties "tile" = some s → Position.parse? s = none) :
    StandsOn (o.pixelTile d)

end Object

/-! ### Positions -/

/-- Only an integer of 64 bits is read as one. -/
theorem eq_int_of_toInt64? {number : Number} {n : Int} (h : number.toInt64? = some n) :
    number = .int n ∧ n < 2 ^ 63 := by
  cases number with
  | int m =>
    obtain ⟨hle, heq⟩ : m ≤ Int64.maxValue.toInt ∧ m = n := by simpa [Number.toInt64?] using h
    have hmax : Int64.maxValue.toInt = 2 ^ 63 - 1 := rfl
    exact ⟨by rw [heq], by omega⟩
  | double | single => cases h

section

variable {d : Document} {o : Object} {p : Position}

/-- A coordinate of a listed spawn is an integer below `2 ^ 63`, cut to 32 bits. -/
theorem exists_get?_of_spawnCoordinate? {b : Bag} {key : String} {i : Int32}
    (h : spawnCoordinate? b key = some i) :
    ∃ n < 2 ^ 63, b.get? key = some (.number (.int n)) ∧ Int32.ofInt n = i := by
  rw [spawnCoordinate?, Option.bind_eq_some_iff] at h
  obtain ⟨number, hnumber, hi⟩ := h
  obtain ⟨j, hj, hnumber⟩ := Option.bind_eq_some_iff.mp hnumber
  obtain ⟨n, hn, rfl⟩ := Option.map_eq_some_iff.mp hi
  obtain ⟨rfl, hlt⟩ := eq_int_of_toInt64? hn
  cases j <;> cases hnumber
  exact ⟨n, hlt, hj, rfl⟩

theorem givesPosition_iff {j : Json} : GivesPosition j p ↔ spawnPosition? j = some p := by
  constructor
  · rintro (⟨h, hx, hy⟩ | h)
    · exact h.spawnPosition?_eq hx hy
    · exact h
  · intro h
    cases j with
    | string s => exact .text h
    | object b =>
      simp only [spawnPosition?, Option.bind_eq_bind, Option.bind_eq_some_iff, Option.pure_def,
        Option.some.injEq] at h
      obtain ⟨x, hx, y, hy, rfl⟩ := h
      obtain ⟨m, hm, hgetx, rfl⟩ := exists_get?_of_spawnCoordinate? hx
      obtain ⟨n, hn, hgety, rfl⟩ := exists_get?_of_spawnCoordinate? hy
      exact .object ⟨hgetx, hgety⟩ hm hn
    | null | bool _ | number _ | array _ => cases h

theorem Object.standsOn_iff : o.StandsOn d p ↔ o.tile d = p := by
  have htile : o.tile d =
      ((text? o.properties "tile").bind Position.parse?).getD (o.pixelTile d) := rfl
  cases htext : (text? o.properties "tile").bind Position.parse? with
  | none =>
    rw [htile, htext, Option.getD_none]
    have hunread := Option.bind_eq_none_iff.mp htext
    constructor
    · rintro (⟨h, hp⟩ | -)
      · exact absurd hp (by simp [hunread _ h])
      · rfl
    · rintro rfl
      exact .pixel hunread
  | some q =>
    rw [htile, htext, Option.getD_some]
    obtain ⟨s, hs, hq⟩ := Option.bind_eq_some_iff.mp htext
    constructor
    · rintro (⟨h, hp⟩ | h)
      · cases hs.symm.trans h
        exact Option.some.inj (hq.symm.trans hp)
      · exact absurd (h s hs) (by simp [hq])
    · rintro rfl
      exact .named hs hq

end

/-! ### Listed spawn points -/

section

variable {entries : Bag} {name : String} {p : Position}

theorem listedSpawn_eq_some {e : String × Json} :
    (spawnPosition? e.2).map (e.1, ·) = some (name, p) ↔ e.1 = name ∧ GivesPosition e.2 p := by
  rw [givesPosition_iff]
  simp [Option.map_eq_some_iff, and_comm]

/-- The spawn points that entries list are the positions that they place last. -/
theorem get?_listedSpawns :
    (SortedMap.ofList (listedSpawns entries)).get? name = some p ↔ Places entries name p := by
  rw [listedSpawns, SortedMap.get?_ofList_filterMap_eq_some]
  simp only [listedSpawn_eq_some, ne_eq]
  constructor
  · rintro ⟨before, ⟨key, j⟩, after, rfl, ⟨rfl, hj⟩, hafter⟩
    exact ⟨before, j, after, rfl, hj, fun j' hj' q hq => hafter _ hj' q ⟨rfl, hq⟩⟩
  · rintro ⟨before, j, after, rfl, hj, hafter⟩
    refine ⟨before, _, after, rfl, ⟨rfl, hj⟩, ?_⟩
    rintro ⟨key, j'⟩ hj' q ⟨rfl, hq⟩
    exact hafter j' hj' q hq

end

namespace Document

variable (d : Document)

/-- The spawn points in the property of a document. -/
def listed : List (String × Position) :=
  match json? d.properties "spawnPoints" with
  | some (.object entries) => listedSpawns entries
  | _ => []

/-- A property is an object if it is one, or the text of one. -/
theorem json?_eq_object_iff {properties entries : Bag} {name : String} :
    json? properties name = some (.object entries) ↔
      ∃ j, properties.get? name = some j ∧ ListsSpawns entries j := by
  constructor
  · intro h
    rw [json?] at h
    split at h
    · rename_i s hs
      exact ⟨_, hs, .text h⟩
    · exact ⟨_, h, .object⟩
  · rintro ⟨j, hj, h | h⟩ <;> rw [json?, hj]
    exact h

/-- Under a name the list has what the document lists for it. -/
theorem get?_listed {name : String} {p : Position} :
    (SortedMap.ofList d.listed).get? name = some p ↔ d.ListsSpawn name p := by
  constructor
  · intro h
    rw [listed] at h
    split at h
    · rename_i entries hentries
      obtain ⟨spawns, hget, hlists⟩ := json?_eq_object_iff.mp hentries
      exact ⟨spawns, entries, hget, hlists, get?_listedSpawns.mp h⟩
    · cases h
  · rintro ⟨spawns, entries, hget, hlists, hplaces⟩
    rw [listed, json?_eq_object_iff.mpr ⟨spawns, hget, hlists⟩]
    exact get?_listedSpawns.mpr hplaces

/-- The objects that name a spawn point are those of the object groups, at whatever depth. -/
theorem spawnPoints_eq :
    d.spawnPoints = SortedMap.ofList (spawnEntries d d.objects ++ d.listed) := by
  have hnamed : (d.flatLayers.filter (·.kind = "objectgroup")).flatMap
      (fun l => spawnEntries d l.objects) = spawnEntries d d.objects := by
    have hobjects : d.objects = (d.objectGroups.map (·.objects)).flatten := List.flatMap_def
    rw [hobjects, ← map_objects_flatLayers, spawnEntries, List.filterMap_flatten, List.map_map,
      List.flatMap_def]
    rfl
  rw [← hnamed]
  rfl

/-- Of the objects that name a spawn point the last one counts. -/
theorem get?_spawnEntries {objects : List Object} {name : String} {p : Position} :
    (SortedMap.ofList (spawnEntries d objects)).get? name = some p ↔
      ∃ o, IsLastWith Object.spawnName? (some name) objects o ∧ o.StandsOn d p := by
  have hentry (o : Object) (q : Position) :
      (text? o.properties "spawnId").map (·, o.tile d) = some (name, q) ↔
        o.spawnName? = some name ∧ o.tile d = q := by
    rw [Object.spawnName?]
    simp [Option.map_eq_some_iff]
  rw [spawnEntries, SortedMap.get?_ofList_filterMap_eq_some]
  simp only [hentry, ne_eq, not_and, Object.standsOn_iff]
  constructor
  · rintro ⟨before, o, after, hsplit, ⟨hname, hp⟩, hafter⟩
    exact ⟨o, ⟨before, after, hsplit, hname, fun o' ho' h => hafter o' ho' _ h rfl⟩, hp⟩
  · rintro ⟨o, ⟨before, after, hsplit, hname, hafter⟩, hp⟩
    exact ⟨before, o, after, hsplit, ⟨hname, hp⟩, fun o' ho' _ h _ => hafter o' ho' h⟩

/-- A listed spawn wins over objects, and among these the last one wins. -/
theorem get?_spawnPoints {name : String} {p : Position} :
    d.spawnPoints.get? name = some p ↔
      d.ListsSpawn name p ∨ (∀ q, ¬ d.ListsSpawn name q) ∧
        ∃ o, IsLastWith Object.spawnName? (some name) d.objects o ∧ o.StandsOn d p := by
  have hunlisted : (SortedMap.ofList d.listed).get? name = none ↔ ∀ q, ¬ d.ListsSpawn name q := by
    simp only [← get?_listed, ← Option.eq_none_iff_forall_ne_some]
  rw [spawnPoints_eq, SortedMap.get?_ofList_append, Option.or_eq_some_iff, hunlisted, get?_listed,
    get?_spawnEntries]

/-- The names are those that are listed and those that objects give. -/
theorem contains_spawnPoints {name : String} :
    d.spawnPoints.contains name ↔
      (∃ p, d.ListsSpawn name p) ∨ ∃ o ∈ d.objects, o.spawnName? = some name := by
  rw [SortedMap.contains, Option.isSome_iff_exists]
  simp only [get?_spawnPoints]
  constructor
  · rintro ⟨p, h | ⟨-, o, ho, -⟩⟩
    · exact .inl ⟨p, h⟩
    · exact .inr ⟨o, ho.mem, ho.key_eq⟩
  · intro h
    by_cases hlisted : ∃ p, d.ListsSpawn name p
    · exact hlisted.imp fun p => .inl
    · obtain ⟨o, ho, hname⟩ := h.resolve_left hlisted
      obtain ⟨last, hlast⟩ := exists_isLastWith Object.spawnName? ho
      exact ⟨_, .inr ⟨not_exists.mp hlisted, last, hname ▸ hlast, Object.standsOn_iff.mpr rfl⟩⟩

end Document

/-! ### Main result -/

/-- The spawn points of an accepted document: a name is one exactly when the property lists a
position for it that can be read, or when an object names it. The spawn point is where the property
says, and otherwise where the last such object stands. -/
theorem spawn_points_of_document {d : Document} {options : CompileOptions} {m : MapModel}
    (h : d.toMap options = .ok m) (name : String) :
    (m.spawnPoints.contains name ↔
      (∃ p, d.ListsSpawn name p) ∨ ∃ o ∈ d.objects, o.spawnName? = some name) ∧
    ∀ p, m.spawnPoints.get? name = some p ↔
      d.ListsSpawn name p ∨ (∀ q, ¬ d.ListsSpawn name q) ∧
        ∃ o, IsLastWith Object.spawnName? (some name) d.objects o ∧ o.StandsOn d p := by
  obtain ⟨index, layers, objectLayers, ids, doors, doorObjects, ids', -, -, -, hm⟩ := toMap_eq_ok h
  obtain ⟨-, rfl⟩ := MapParts.assemble_eq_ok_iff.mp hm
  exact ⟨d.contains_spawnPoints, fun p => d.get?_spawnPoints⟩

def harbourObject (x y : Float) (properties : Bag) : Object :=
  ⟨none, none, none, none, x, y, properties⟩

/-- Two barges tie up at one quay, of which one lies deeper in the groups. -/
def harbourBarges : List Object :=
  [harbourObject 0 0 [("spawnId", .string "quay"), ("tile", .string "1,2")],
    harbourObject 0 0 [("spawnId", .string " quay "), ("tile", .string "3,4")]]

/-- A buoy whose place is listed too, and a lamp on the mole that does not tell its tile. -/
def harbourLights : List Object :=
  [harbourObject 96 32 [("spawnId", .string "gate")],
    harbourObject 96 32 [("spawnId", .string "mole"), ("tile", .string "far out")]]

def harbourLayer (kind : String) (objects : List Object) (layers : List Layer) : Layer :=
  ⟨none, none, kind, none, none, none, none, none, none, objects, layers, []⟩

def harbourDocument : Document where
  width := 9
  height := 9
  tileWidth := some 32
  tileHeight := some 32
  layers :=
    [harbourLayer "group" [] [harbourLayer "objectgroup" (harbourBarges.take 1) [],
        harbourLayer "group" [] [harbourLayer "objectgroup" (harbourBarges.drop 1) []]],
      harbourLayer "objectgroup" harbourLights []]
  tilesets := []
  properties :=
    [("spawnPoints", .object [("gate", .string "5x6"), ("quay", .string "at the market"),
      ("pier", .object (coordinates 7 8))])]

/-- The harbour lists two spawns, and has objects for others. -/
theorem spawn_points_of_document_harbour :
    ∃ m, harbourDocument.toMap .default = .ok m ∧
      m.spawnPoints.get? "gate" = some ⟨5, 6⟩ ∧ m.spawnPoints.get? "pier" = some ⟨7, 8⟩ ∧
      m.spawnPoints.get? "quay" = some ⟨3, 4⟩ ∧
      m.spawnPoints.get? "mole" =
        some ⟨Binary.roundToInt32 (96 / tileSize (some 32)),
          Binary.roundToInt32 (32 / tileSize (some 32))⟩ ∧
      ¬ m.spawnPoints.contains "reef" := by
  have hid : (harbourDocument.toMap .default).toOption.map (·.id) = some "map" := by
    decide +kernel
  obtain ⟨m, hm, -⟩ := exists_ok_of_toOption_map hid
  have hspawns := spawn_points_of_document hm
  have hunlisted {name : String}
      (h : (SortedMap.ofList harbourDocument.listed).get? name = none) (p : Position) :
      ¬ harbourDocument.ListsSpawn name p := by
    rw [← Document.get?_listed, h]
    exact nofun
  refine ⟨m, hm, ?_, ?_, ?_, ?_, ?_⟩
  · exact ((hspawns "gate").2 _).mpr (.inl ⟨_, _, rfl, .object, [], _, _, rfl,
      .text (by decide +kernel), by simp⟩)
  · exact ((hspawns "pier").2 _).mpr (.inl ⟨_, _, rfl, .object, [_, _], _, [], rfl,
      .object (hasCoordinates_coordinates 7 8) (by decide) (by decide), by simp⟩)
  · exact ((hspawns "quay").2 _).mpr (.inr ⟨hunlisted (by decide +kernel), _,
      ⟨harbourBarges.take 1, harbourLights, rfl, by decide +kernel, by decide +kernel⟩,
      @Object.StandsOn.named _ _ "3,4" _ (by decide +kernel) (by decide +kernel)⟩)
  · have htile : ∀ s, text? (harbourLights.getLast (by decide)).properties "tile" = some s →
        Position.parse? s = none := by
      have htext : text? (harbourLights.getLast (by decide)).properties "tile" =
          some "far out" := by
        decide +kernel
      rintro s hs
      cases htext.symm.trans hs
      decide +kernel
    exact ((hspawns "mole").2 _).mpr (.inr ⟨hunlisted (by decide +kernel), _,
      ⟨harbourBarges ++ harbourLights.take 1, [], rfl, by decide +kernel, by simp⟩, .pixel htile⟩)
  · rw [(hspawns "reef").1]
    rintro (⟨p, hp⟩ | hnamed)
    · exact hunlisted (by decide +kernel) p hp
    · revert hnamed
      decide +kernel

end Tilemap.Tiled
