import Tilemap.SortedMap
import Tilemap.Spelling

/-!
# Tile types

What a tile is: its name, how it is drawn, and whether it can be walked on or seen through. A table
has the tile types of one map in the order of their declaration, and the symbols that stand for
them.
-/

namespace Tilemap

/-- A type of tile. -/
structure TileType where
  id : String
  /-- What stands for it in a drawn grid. -/
  symbol : String
  name : String
  collides : Bool
  transparent : Bool
  color : Option String
  metadata : SortedMap String

namespace TileType

def defaultFloor : TileType where
  id := "floor"
  symbol := "."
  name := "Suelo"
  collides := false
  transparent := true
  color := some "#8eb5ff"
  metadata := SortedMap.ofList [("default", "true")]

/-- A type that a map names for the first time. -/
def fresh (id symbol : String) : TileType where
  id := id
  symbol := symbol
  name := id
  collides := false
  transparent := true
  color := none
  metadata := SortedMap.empty

/-- Whether the type takes the floor colour of a map: by its id, its symbol or its metadata. -/
def isFloor (t : TileType) : Bool :=
  t.id = "floor" || t.symbol = "." || ((t.metadata.get? "default").bind flag?).getD false

end TileType

/-- The tile types that a map can use without declaring them. -/
abbrev Catalog := List TileType

def Catalog.builtin : Catalog :=
  [TileType.defaultFloor,
    { TileType.fresh "wall" "#" with
      name := "Muro", collides := true, transparent := false, color := some "#4b4f5c" },
    { TileType.fresh "water" "~" with name := "Agua", collides := true, color := some "#3d7fd9" },
    { TileType.fresh "grass" "," with name := "Césped", color := some "#5fa35a" }]

/-! ### Tables -/

/-- Puts a type in place of the first one with the same id, or else at the end. -/
def upsertType (types : List TileType) (t : TileType) : List TileType :=
  match types with
  | [] => [t]
  | u :: rest => if u.id = t.id then t :: rest else u :: upsertType rest t

/-- The tile types of a map and the ids that its symbols stand for. -/
structure TileTable where
  types : List TileType
  symbols : SortedMap String

namespace TileTable

/-- The table of a catalog; of two types with the same symbol the later one has it. -/
def ofCatalog (c : Catalog) : TileTable := ⟨c, SortedMap.ofList (c.map fun t => (t.symbol, t.id))⟩

/-- The id that a symbol stands for. -/
def symbol? (t : TileTable) (symbol : String) : Option String := t.symbols.get? symbol

def get? (t : TileTable) (id : String) : Option TileType := t.types.find? (·.id = id)

/-- Whether a text is a symbol or an id. -/
def isBound (t : TileTable) (token : String) : Bool :=
  (t.symbol? token).isSome || (t.get? token).isSome

/-- The id of the type declared first. -/
def firstId? (t : TileTable) : Option String := t.types.head?.map (·.id)

/-- Binds a symbol to a type, which replaces the one with the same id. -/
def bind (t : TileTable) (symbol : String) (type : TileType) : TileTable :=
  ⟨upsertType t.types type, t.symbols.insert symbol type.id⟩

def paintFloors (t : TileTable) (colour : String) : TileTable :=
  { t with types := t.types.map fun u => if u.isFloor then { u with color := some colour } else u }

/-- A table without types gets the default floor. -/
def orDefaultFloor (t : TileTable) : TileTable :=
  if t.types.isEmpty then t.bind TileType.defaultFloor.symbol TileType.defaultFloor else t

end TileTable

end Tilemap
