import Tilemap.File.Basic
import Tilemap.Json.Reader
import Tilemap.Template.Basic
import Tilemap.Text.Lowercase

/-!
# Template registry

Templates stand one per file in the first directory of a search path that can be listed. A registry
loads them when they are first asked for and keeps them until it is told to load them again.
-/

namespace Tilemap

open Text

/-! ### Search paths -/

/-- The variables of the environment that can name directories; the first that does counts. -/
def directoryVariables : List String :=
  ["APP_OBJECT_DIRECTORIES", "APP_OBJECT_DIRECTORY", "OBJECTS_DIRECTORY"]

/-- The directories that are searched after all others. -/
def defaultDirectories : List String := ["/app/objects", "./app/objects", "./objects"]

/-- The directories of a list, which are separated by commas or colons. -/
def parseDirectories (text : String) : List String :=
  (pieces (fun c => c = ',' || c = ':') text.toList).filterMap fun s =>
    nonBlank? (String.ofList s)

/-- The directories to search: those given, those of the environment, and the default ones. -/
def searchPath (explicit : List String) (variable_ : String → Option String) : List String :=
  let listed := directoryVariables.findSome? fun name =>
    (variable_ name).filter fun value => (nonBlank? value).isSome
  explicit ++ (listed.map parseDirectories).getD [] ++ defaultDirectories

/-- The directories without those that differ from an earlier one in case alone. -/
def distinctDirectories (directories : List String) : List String :=
  (directories.foldl (fun (kept, seen) d =>
    let key := lower d.toList
    if seen.contains key then (kept, seen) else (kept ++ [d], key :: seen))
    (([], []) : List String × List (List Char))).1

/-! ### Loading -/

section Loading

variable {m : Type → Type} [Monad m] [FileStore m]

/-- Loads the template of one file. -/
def loadTemplate (path : String) : m (Except TemplateError ObjectTemplate) := do
  match ← FileStore.read path with
  | .error _ => return .error (.unreadable path)
  | .ok text =>
    match Json.parse? text with
    | none => return .error (.notJson path)
    | some j => return ObjectTemplate.ofJson j (some path)

def isTemplatePath (path : String) : Bool :=
  Path.extension? path = some "obj" || Path.extension? path = some "json"

/-- Loads the templates of a directory in the order of the file names. A file that holds no template
is passed over; only a directory that cannot be listed is an error. -/
def loadTemplates (directory : String) : m (Except FileError TemplateSet) := do
  match ← FileStore.list directory with
  | .error e => return .error e
  | .ok names =>
    let paths := (names.mergeSort (· ≤ ·)).map (Path.join directory)
    let files ← (paths.filter isTemplatePath).filterM FileStore.isFile
    let templates ← files.filterMapM fun path => do
      match ← loadTemplate path with
      | .ok t => return some t
      | .error _ => return none
    return .ok (TemplateSet.ofList (some directory) templates)

/-- The templates of the first directory that can be listed. -/
def scanDirectories : List String → m TemplateSet
  | [] => return .empty
  | d :: rest => do
    match ← loadTemplates d with
    | .ok set => return set
    | .error _ => scanDirectories rest

/-- The directories to search and the templates loaded last. -/
structure Registry where
  directories : List String
  snapshot : Option TemplateSet

namespace Registry

def ofDirectories (directories : List String) : Registry := ⟨distinctDirectories directories, none⟩

/-- Loads the templates again. Snapshots handed out before stay as they are. -/
def reload (r : Registry) : m (TemplateSet × Registry) := do
  let set ← scanDirectories r.directories
  return (set, { r with snapshot := some set })

/-- The templates loaded last; they are loaded now if they never were. -/
def load (r : Registry) : m (TemplateSet × Registry) :=
  match r.snapshot with
  | some set => return (set, r)
  | none => r.reload

end Registry

end Loading

end Tilemap
