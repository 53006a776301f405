import Tilemap.Binding
import Tilemap.File.Basic
import Tilemap.Json.Printer
import Tilemap.Tiled.Import

/-!
# Maps in files

A file with the extension `json` holds a Tiled map, whose tilesets may stand in other files, and any
other file holds a map text. The maps of a directory are loaded in the order of their names, but
`init.map` comes first.

A map is written to two files that are named after its id: the whole map, and what players may know
of it.
-/

namespace Tilemap

variable {m : Type → Type} [Monad m] [FileStore m]

/-! ### Loading -/

def readText (path : String) : ExceptT MapError m String := do
  match ← (FileStore.read path : m _) with
  | .ok text => return text
  | .error reason => throw (.file path reason)

namespace Tiled

/-- The tileset with the tiles of the file that it names, if it names one. Its first gid stays as
the map has it. -/
def Tileset.resolve (directory : String) (t : Tileset) : ExceptT MapError m Tileset := do
  match t.source with
  | none => return t
  | some source =>
    let text ← readText (Path.join directory source)
    match Tileset.parse? text with
    | none => throw (.invalidTiledMap (.notTileset source))
    | some other =>
      return { t with source := none, name := other.name.or t.name, tiles := other.tiles }

/-- Loads a Tiled map; the files of its tilesets are found from its directory. -/
def loadMap (path : String) (options : CompileOptions) : ExceptT MapError m MapModel := do
  let text ← readText path
  match Document.parse? text with
  | none => throw .json
  | some d =>
    let directory := (Path.parent? path).getD "."
    let tilesets ← d.tilesets.mapM (Tileset.resolve directory)
    let options := { options with sourcePath := some (options.sourcePath.getD path) }
    ({ d with tilesets }).toMap options

end Tiled

def loadMapFile (path : String) (options : CompileOptions) : ExceptT MapError m MapModel := do
  let options := { options with sourcePath := some (options.sourcePath.getD path) }
  if Path.hasExtension path "json" then Tiled.loadMap path options
  else
    let text ← readText path
    compile text options

def entryName : String := "init.map"

/-- Whether a file name comes no later than another. -/
def nameComesFirst (a b : String) : Bool :=
  if a = entryName then true else if b = entryName then false else a ≤ b

/-- The names of the map files in a directory, in the order in which they are loaded. -/
def mapNames (directory : String) (names : List String) : m (List String) := do
  let maps ← names.filterM fun name => do
    let path := Path.join directory name
    return Path.hasExtension path "map" && (← FileStore.isFile path)
  return maps.mergeSort nameComesFirst

/-- Loads the maps of a directory; one that cannot be listed has none. -/
def loadMapDirectory (directory : String) (options : CompileOptions) :
    ExceptT MapError m (List MapModel) := do
  match ← (FileStore.list directory : m _) with
  | .error _ => return []
  | .ok names =>
    let names ← (mapNames directory names : m _)
    names.mapM fun name =>
      let path := Path.join directory name
      loadMapFile path { options with sourcePath := some path }

/-! ### Writing -/

/-- A value as the content of a file. -/
def Json.document (j : Json) : String := j.pretty ++ "\n"

namespace BoundMap

def modelPath (b : BoundMap) (directory : String) : String :=
  Path.join directory (b.map.id ++ ".json")

def publicPath (b : BoundMap) (directory : String) : String :=
  Path.join directory (b.map.id ++ ".public.json")

def emitModel (b : BoundMap) (directory : String) : m (Except FileError Unit) :=
  FileStore.write (b.modelPath directory) b.map.toJson.document

def emitPublic (b : BoundMap) (directory : String) : m (Except FileError Unit) :=
  FileStore.write (b.publicPath directory) b.publicView.document

end BoundMap

end Tilemap
