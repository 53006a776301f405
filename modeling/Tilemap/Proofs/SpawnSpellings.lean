import Tilemap.Proofs.Coordinates
import Tilemap.Proofs.SortedMaps
import Tilemap.Proofs.Stages

/-!
# Spellings of spawn points

A spawn point of a Tiled map is an object with two integers, or a text with both. As long as they
fit 32 bits the map does not depend on which of the two it is (`spawn_spellings_agree`).

An integer that does not fit is refused in a text, but in an object only its lower bits are kept. So
an object can give a spawn point, far from where it says, for which a text gives none
(`exists_moved_spawn`).
-/

namespace Tilemap.Tiled

open Text

/-! ### Statement -/

/-- An object has two coordinates, and perhaps more. -/
structure HasCoordinates (b : Bag) (x y : Int) : Prop where
  x : b.get? "x" = some (.number (.int x))
  y : b.get? "y" = some (.number (.int y))

/-- A value spells a spawn point, as an object or as a text. -/
inductive SpellsSpawn (x y : Int) : Json → Prop where
  | object {b : Bag} (h : HasCoordinates b x y) : SpellsSpawn x y (.object b)
  | text : SpellsSpawn x y (.string (pairText x y))

/-- A value lists spawn points, as an object or as the text of one. -/
inductive ListsSpawns (entries : Bag) : Json → Prop where
  | object : ListsSpawns entries (.object entries)
  | text {s : String} (h : Json.parse? s = some (.object entries)) : ListsSpawns entries (.string s)

/-- The document with other spawn points in its properties. -/
def Document.withSpawns (d : Document) (spawns : Json) : Document :=
  { d with properties := d.properties.put "spawnPoints" spawns }

/-! ### Positions of spawn points -/

section

variable {b : Bag} {x y : Int}

/-- An object gives a spawn point whether or not its integers fit. -/
theorem HasCoordinates.spawnPosition?_eq (h : HasCoordinates b x y) (hx : x < 2 ^ 63)
    (hy : y < 2 ^ 63) :
    spawnPosition? (.object b) = some ⟨Int32.ofInt x, Int32.ofInt y⟩ := by
  have hread {key : String} {n : Int} (hkey : b.get? key = some (.number (.int n)))
      (hn : n < 2 ^ 63) : spawnCoordinate? b key = some (Int32.ofInt n) := by
    rw [spawnCoordinate?, hkey, Option.bind_some, Json.number?, Option.bind_some,
      Number.toInt64?_int (le_maxValue_of_lt hn), Option.map_some]
  rw [spawnPosition?, hread h.x hx, hread h.y hy]
  rfl

/-- A text of two integers gives a position if both fit into 32 bits. -/
theorem spawnPosition?_pairText (x y : Int) : spawnPosition? (.string (pairText x y)) =
    if FitsInt32 x ∧ FitsInt32 y then some ⟨Int32.ofInt x, Int32.ofInt y⟩ else none :=
  Position.parse?_pairText x y

/-- Integers that fit are read in the same way from both spellings. -/
theorem SpellsSpawn.spawnPosition?_eq {j : Json} (h : SpellsSpawn x y j) (hx : FitsInt32 x)
    (hy : FitsInt32 y) : spawnPosition? j = some ⟨Int32.ofInt x, Int32.ofInt y⟩ := by
  cases h with
  | object h => exact h.spawnPosition?_eq (by have := hx.2; omega) (by have := hy.2; omega)
  | text => rw [spawnPosition?_pairText, if_pos ⟨hx, hy⟩]

end

/-! ### Documents with other spawn points -/

def listedSpawns (entries : Bag) : List (String × Position) :=
  entries.filterMap fun (name, value) => (spawnPosition? value).map (name, ·)

namespace Document

variable (d : Document) {spawns spawns' : Json}

/-- Other properties of the document stay when its spawns are spelled anew. -/
theorem get?_withSpawns (spawns : Json) (key : String) :
    (d.withSpawns spawns).properties.get? key =
      if key = "spawnPoints" then some spawns else d.properties.get? key :=
  Bag.get?_put _ _ _ _

theorem text?_withSpawns (spawns : Json) {key : String} (h : key ≠ "spawnPoints") :
    text? (d.withSpawns spawns).properties key = text? d.properties key := by
  rw [text?, get?_withSpawns, if_neg h, text?]

theorem json?_withSpawns (spawns : Json) {key : String} (h : key ≠ "spawnPoints") :
    json? (d.withSpawns spawns).properties key = json? d.properties key := by
  rw [json?, get?_withSpawns, if_neg h, json?]

/-- Objects are placed alike, however the spawns are spelled. -/
theorem placeAll_withSpawns (spawns : Json) (a : IdAllocator) (objects : List Object) :
    placeAll (d.withSpawns spawns) a objects = placeAll d a objects := by
  induction objects generalizing a with
  | nil => rfl
  | cons o rest ih =>
    have hplace : o.place (d.withSpawns spawns) a = o.place d a := rfl
    simp only [placeAll, hplace, ih]

/-- Layers are read alike, however the spawns are spelled. -/
theorem splitLayers_withSpawns (spawns : Json) (index : TileIndex) (a : IdAllocator)
    (numbered : List (Layer × Nat)) :
    splitLayers (d.withSpawns spawns) index a numbered = splitLayers d index a numbered := by
  induction numbered generalizing a with
  | nil => rfl
  | cons head rest ih =>
    obtain ⟨l, place⟩ := head
    have hlayer : l.toTileLayer (d.withSpawns spawns) index place = l.toTileLayer d index place :=
      rfl
    simp only [splitLayers, hlayer, d.placeAll_withSpawns, ih]

/-- Spawns are no metadata of the map, however they are spelled. -/
theorem extra_withSpawns (spawns : Json) :
    (d.withSpawns spawns).properties.filter (fun (name, _) => !mapFields.contains name) =
      d.properties.filter fun (name, _) => !mapFields.contains name :=
  @Bag.filter_put (fun name => !mapFields.contains name) _ _ spawns (by decide)

/-- What a map takes from the property for spawn points is the spawn points. -/
theorem toMap_withSpawns
    (h : (d.withSpawns spawns).spawnPoints = (d.withSpawns spawns').spawnPoints)
    (options : CompileOptions) :
    (d.withSpawns spawns).toMap options = (d.withSpawns spawns').toMap options := by
  have hlayers (spawns : Json) : (d.withSpawns spawns).flatLayers = d.flatLayers := rfl
  rw [toMap, toMap]
  dsimp only
  simp only [h, hlayers, splitLayers_withSpawns, extra_withSpawns, ne_eq, String.reduceEq,
    not_false_eq_true, text?_withSpawns, json?_withSpawns]
  rfl

/-- The spawn points are those of the objects, and over them those that are listed. -/
theorem spawnPoints_withSpawns {entries : Bag} (h : ListsSpawns entries spawns) :
    (d.withSpawns spawns).spawnPoints = SortedMap.ofList
      (((d.flatLayers.filter (·.kind = "objectgroup")).flatMap fun l => spawnEntries d l.objects) ++
        listedSpawns entries) := by
  have hlisted : json? (d.withSpawns spawns).properties "spawnPoints" = some (.object entries) := by
    rw [json?, get?_withSpawns, if_pos rfl]
    cases h with
    | object => rfl
    | text h => exact h
  rw [spawnPoints, hlisted]
  rfl

end Document

section

variable {before after : Bag} {name : String} {j : Json} {p : Position}

/-- An entry that gives a position is listed with it, in its place. -/
theorem listedSpawns_of_spelled (h : spawnPosition? j = some p) :
    listedSpawns (before ++ (name, j) :: after) =
      listedSpawns before ++ (name, p) :: listedSpawns after := by
  rw [listedSpawns, List.filterMap_append, List.filterMap_cons_some]
  · rfl
  · exact congrArg (Option.map (name, ·)) h

theorem notMem_listedSpawns (h : ∀ e ∈ after, e.1 ≠ name) :
    ∀ e ∈ listedSpawns after, e.1 ≠ name := by
  intro e he
  obtain ⟨e', he', hp⟩ := List.mem_filterMap.mp he
  obtain ⟨p, -, rfl⟩ := Option.map_eq_some_iff.mp hp
  exact h e' he'

end

/-! ### Main result -/

/-- An object gives a spawn point whatever its integers are, and a text only if both fit 32 bits. If
they do, the map does not depend on how the spawn point is spelled, and has it where it says. -/
theorem spawn_spellings_agree {x y : Int} (hx : FitsInt64 x) (hy : FitsInt64 y) :
    (∀ b, HasCoordinates b x y →
      spawnPosition? (.object b) = some ⟨Int32.ofInt x, Int32.ofInt y⟩) ∧
    (spawnPosition? (.string (pairText x y)) =
      if FitsInt32 x ∧ FitsInt32 y then some ⟨Int32.ofInt x, Int32.ofInt y⟩ else none) ∧
    ∀ (d : Document) options before name j j' after spawns spawns', FitsInt32 x → FitsInt32 y →
      SpellsSpawn x y j → SpellsSpawn x y j' →
      ListsSpawns (before ++ (name, j) :: after) spawns →
      ListsSpawns (before ++ (name, j') :: after) spawns' →
      (d.withSpawns spawns).toMap options = (d.withSpawns spawns').toMap options ∧
      ∀ m, (d.withSpawns spawns).toMap options = .ok m → (∀ e ∈ after, e.1 ≠ name) →
        ∃ p, m.spawnPoints.get? name = some p ∧ p.x.toInt = x ∧ p.y.toInt = y := by
  refine ⟨fun b h => h.spawnPosition?_eq hx.2 hy.2, spawnPosition?_pairText x y, ?_⟩
  intro d options before name j j' after spawns spawns' hx hy hj hj' hspawns hspawns'
  have hlisted : listedSpawns (before ++ (name, j) :: after) =
      listedSpawns before ++ (name, ⟨Int32.ofInt x, Int32.ofInt y⟩) :: listedSpawns after :=
    listedSpawns_of_spelled (hj.spawnPosition?_eq hx hy)
  constructor
  · apply d.toMap_withSpawns
    rw [d.spawnPoints_withSpawns hspawns, d.spawnPoints_withSpawns hspawns', hlisted,
      listedSpawns_of_spelled (hj'.spawnPosition?_eq hx hy)]
  · intro m hm hafter
    obtain ⟨index, layers, objectLayers, ids, doors, doorObjects, ids', -, -, -, hm⟩ :=
      toMap_eq_ok hm
    obtain ⟨-, rfl⟩ := MapParts.assemble_eq_ok_iff.mp hm
    refine ⟨⟨Int32.ofInt x, Int32.ofInt y⟩, ?_, toInt_ofInt_of_fits hx, toInt_ofInt_of_fits hy⟩
    change (d.withSpawns spawns).spawnPoints.get? name = _
    rw [d.spawnPoints_withSpawns hspawns, hlisted, ← List.append_assoc]
    exact SortedMap.get?_ofList_append_cons (notMem_listedSpawns hafter)

/-- The landings of a ferry, of which one can be spelled in either way. -/
def ferrySpawns (harbour : Json) : Bag :=
  [("island", .string "4,5"), ("harbour", harbour)]

/-- A document of a ferry whose landings are not listed yet. -/
def ferryDocument : Document where
  width := 1
  height := 1
  tileWidth := none
  tileHeight := none
  layers := []
  tilesets := []
  properties := []

def coordinates (x y : Int) : Bag := [("x", .number (.int x)), ("y", .number (.int y))]

theorem hasCoordinates_coordinates (x y : Int) : HasCoordinates (coordinates x y) x y := ⟨rfl, rfl⟩

theorem spawn_spellings_agree_ferry :
    ∃ m, (ferryDocument.withSpawns (.object
        (ferrySpawns (.object (coordinates (-2147483648) 2147483647))))).toMap .default = .ok m ∧
      (ferryDocument.withSpawns (.object
        (ferrySpawns (.string "-2147483648x2147483647")))).toMap .default = .ok m ∧
      FitsInt64 (-2147483648) ∧ FitsInt64 2147483647 ∧
      (∃ p, m.spawnPoints.get? "harbour" = some p ∧ p.x.toInt = -2147483648 ∧
        p.y.toInt = 2147483647) ∧
      FitsInt64 2147483648 ∧
      spawnPosition? (.object (coordinates 2147483648 0)) = some ⟨-2147483648, 0⟩ ∧
      spawnPosition? (.string "2147483648x0") = none := by
  have hid : ((ferryDocument.withSpawns (.object
      (ferrySpawns (.object (coordinates (-2147483648) 2147483647))))).toMap .default).toOption.map
        (·.id) = some "map" := by
    decide +kernel
  obtain ⟨m, hm, -⟩ := exists_ok_of_toOption_map hid
  have hx : FitsInt64 (-2147483648) := by decide
  have hy : FitsInt64 2147483647 := by decide
  obtain ⟨-, -, hagree⟩ := spawn_spellings_agree hx hy
  obtain ⟨hsame, hplaced⟩ := hagree ferryDocument .default [("island", .string "4,5")] "harbour"
    _ _ [] _ _ (by decide) (by decide) (.object (hasCoordinates_coordinates _ _)) .text .object
    .object
  have hfar : FitsInt64 2147483648 := by decide
  obtain ⟨hobject, htext, -⟩ := spawn_spellings_agree hfar (y := 0) (by decide)
  exact ⟨m, hm, hsame ▸ hm, hx, hy, hplaced m hm (by simp), hfar,
    hobject _ (hasCoordinates_coordinates _ _), htext⟩

/-- A gate to the east of all integers of 32 bits is a spawn point in the far west as an object, and
as a text it is none. -/
theorem exists_moved_spawn :
    ∃ x y m m', FitsInt64 x ∧ FitsInt64 y ∧
      (ferryDocument.withSpawns (.object [("gate", .object (coordinates x y))])).toMap .default =
        .ok m ∧
      (ferryDocument.withSpawns (.object [("gate", .string (pairText x y))])).toMap .default =
        .ok m' ∧
      m.spawnPoints.get? "gate" = some ⟨-2147483648, 0⟩ ∧ m'.spawnPoints.get? "gate" = none := by
  have hobject : ((ferryDocument.withSpawns (.object
      [("gate", .object (coordinates 2147483648 0))])).toMap .default).toOption.map
        (·.spawnPoints.get? "gate") = some (some ⟨-2147483648, 0⟩) := by
    decide +kernel
  have htext : ((ferryDocument.withSpawns (.object
      [("gate", .string (pairText 2147483648 0))])).toMap .default).toOption.map
        (·.spawnPoints.get? "gate") = some none := by
    decide +kernel
  obtain ⟨m, hm, hgate⟩ := exists_ok_of_toOption_map hobject
  obtain ⟨m', hm', hgate'⟩ := exists_ok_of_toOption_map htext
  exact ⟨2147483648, 0, m, m', by decide, by decide, hm, hm', hgate, hgate'⟩

end Tilemap.Tiled
