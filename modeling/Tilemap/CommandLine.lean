import Tilemap.MapFiles
import Tilemap.Outcome
import Tilemap.Registry

/-!
# Command line

A run with the arguments `INPUT OUTPUT` compiles a map file or the maps of a directory and writes
them to another directory. With `--interact` it also tells what comes of turning to an object.
-/

namespace Tilemap

/-! ### Arguments -/

/-- What a run is asked to do. -/
structure Invocation where
  input : String
  output : String
  /-- Directories of templates, searched before all others. -/
  objects : List String
  /-- Whether maps can use the tiles of the catalog. -/
  baseTiles : Bool
  interact : Option String
  player : Option String
  action : Option String
  deriving Repr, DecidableEq

/-- What the arguments ask for. -/
inductive Request where
  | run (invocation : Invocation)
  | version
  | help
  /-- The arguments cannot be understood. -/
  | misuse
  deriving Repr, DecidableEq

/-- The arguments read so far. -/
structure Arguments where
  positional : List String
  /-- The directories given, if any were. -/
  objects : Option (List String)
  noBaseTiles : Bool
  interact : Option String
  player : Option String
  action : Option String
  deriving Repr, DecidableEq

namespace Arguments

def empty : Arguments := ⟨[], none, false, none, none, none⟩

/-- Adds an argument that is no option: a path, which must not be empty. -/
def addPath? (a : Arguments) (path : String) : Option Arguments :=
  if path = "" || 2 ≤ a.positional.length then none
  else some { a with positional := a.positional ++ [path] }

/-- The directories of one list, none of which may be empty. -/
def directories? (value : String) : Option (List String) :=
  let parts := (Text.pieces (· = ',') value.toList).map String.ofList
  if parts.contains "" then none else some parts

/-- Sets an option that takes a value. Only `objects` may be repeated. -/
def setOption? (a : Arguments) (name value : String) : Option Arguments :=
  match name with
  | "objects" =>
    (directories? value).map fun ds => { a with objects := some (a.objects.getD [] ++ ds) }
  | "interact" => if a.interact.isSome then none else some { a with interact := some value }
  | "player" => if a.player.isSome then none else some { a with player := some value }
  | "action" => if a.action.isSome then none else some { a with action := some value }
  | _ => none

/-- What the arguments ask for once all are read. Without directories among them those of the
environment count. Player and action need an object to turn to. -/
def finish (a : Arguments) (variable_ : String → Option String) : Request :=
  let objects := match a.objects with
    | some ds => some ds
    | none => match variable_ "APP_OBJECT_DIRECTORIES" with
      | some value => directories? value
      | none => some []
  match a.positional, objects with
  | [input, output], some objects =>
    if a.interact.isNone && (a.player.isSome || a.action.isSome) then .misuse
    else .run ⟨input, output, objects, !a.noBaseTiles, a.interact, a.player, a.action⟩
  | _, _ => .misuse

end Arguments

def valueOptions : List String := ["objects", "interact", "player", "action"]

/-- Whether an argument can be the value of the option before it: it does not start with a dash, or
is nothing but one. -/
def isPlainArgument (argument : String) : Bool :=
  argument = "-" || argument.toList.head? ≠ some '-'

/-- What a group of short options asks for. -/
def shortOptions (letters : List Char) : Request :=
  match letters with
  | 'V' :: _ => .version
  | 'h' :: _ => .help
  | _ => .misuse

/-- Reads arguments of which none is an option. -/
def readPaths (variable_ : String → Option String) (a : Arguments) : List String → Request
  | [] => a.finish variable_
  | path :: rest =>
    match a.addPath? path with
    | some a => readPaths variable_ a rest
    | none => .misuse

/-- Reads arguments one after the other; the first that cannot be understood ends it, and so does a
question for the version or for help. -/
def readArguments (variable_ : String → Option String) (a : Arguments) : List String → Request
  | [] => a.finish variable_
  | argument :: rest =>
    match argument.toList with
    | ['-', '-'] => readPaths variable_ a rest
    | '-' :: '-' :: long =>
      match Text.cut? ['='] long with
      | some (name, value) =>
        match a.setOption? (String.ofList name) (String.ofList value) with
        | some a => readArguments variable_ a rest
        | none => .misuse
      | none =>
        match String.ofList long with
        | "version" => .version
        | "help" => .help
        | "no-base-tiles" =>
          if a.noBaseTiles then .misuse
          else readArguments variable_ { a with noBaseTiles := true } rest
        | name =>
          match rest with
          | value :: rest =>
            if valueOptions.contains name && isPlainArgument value then
              match a.setOption? name value with
              | some a => readArguments variable_ a rest
              | none => .misuse
            else .misuse
          | [] => .misuse
    | '-' :: c :: letters => shortOptions (c :: letters)
    | _ =>
      match a.addPath? argument with
      | some a => readArguments variable_ a rest
      | none => .misuse

def Request.of (arguments : List String) (variable_ : String → Option String) : Request :=
  readArguments variable_ .empty arguments

/-! ### Runs -/

/-- What a run leaves besides the files that it writes. -/
structure RunResult where
  code : Nat
  output : String
  /-- What failed, if the run failed. -/
  failure : Option String
  deriving Repr, DecidableEq

def versionText : String := "mdl-compiler 0.1.0\n"

def helpText : String :=
  "Usage: mdl-compiler [OPTIONS] <INPUT> <OUTPUT>\n\nArguments:\n" ++
    "  <INPUT>   Input .map / Tiled .json file, or a directory of .map files\n" ++
    "  <OUTPUT>  Output directory\n\nOptions:\n" ++
    "      --objects <DIR>         Object template directory; searched before the defaults\n" ++
    "      --no-base-tiles         Only tiles declared by the map itself are available\n" ++
    "      --interact <OBJECT_ID>  Run an interaction on this object and print the outcome\n" ++
    "      --player <PLAYER>       Player name used by --interact\n" ++
    "      --action <ACTION>       Action name used by --interact\n" ++
    "  -h, --help                  Print help\n  -V, --version               Print version\n"

section Running

variable {m : Type → Type} [Monad m] [FileStore m]

/-- Fails with a text when a step fails. -/
def orFail {ε α : Type} (failure : String) (step : m (Except ε α)) : ExceptT String m α := do
  match ← step with
  | .ok a => return a
  | .error _ => throw failure

def Invocation.compileMaps (i : Invocation) : ExceptT String m (List MapModel) := do
  let options : CompileOptions := ⟨if i.baseTiles then Catalog.builtin else [], none⟩
  if ← (FileStore.isDirectory i.input : m Bool) then
    orFail ("Compiling maps in " ++ i.input) (loadMapDirectory i.input options : ExceptT _ m _).run
  else
    let map ← orFail ("Compiling " ++ i.input) (loadMapFile i.input options : ExceptT _ m _).run
    return [map]

def BoundMap.emit (b : BoundMap) (directory : String) : ExceptT String m Unit := do
  orFail ("Writing map " ++ quoted b.map.id) (b.emitModel directory)
  orFail ("Writing public view of " ++ quoted b.map.id) (b.emitPublic directory)

/-- What comes of the interaction asked for, on the first map that has the object. -/
def Invocation.outcome? (i : Invocation) (objectId : String) (maps : List BoundMap) :
    Option Outcome :=
  (maps.find? fun b => (b.object? objectId).isSome).map fun b =>
    b.interact objectId ((i.player.map Player.named).getD .unknown) (i.action.getD defaultAction)

/-- Compiles the maps, binds and writes them, and runs the interaction. The text is what the run
prints. -/
def Invocation.run (i : Invocation) (variable_ : String → Option String) :
    ExceptT String m String := do
  let maps ← i.compileMaps
  let (templates, _) ←
    ((Registry.ofDirectories (searchPath i.objects variable_)).load : m (TemplateSet × Registry))
  let bound := maps.map (·.bindTo templates)
  orFail ("Creating " ++ i.output) (makeDirectories i.output)
  for b in bound do
    b.emit i.output
  match i.interact with
  | none => return ""
  | some objectId =>
    match i.outcome? objectId bound with
    | some outcome => return outcome.toJson.document
    | none => throw ("No map has an object " ++ quoted objectId)

def runCommand (arguments : List String) (variable_ : String → Option String) : m RunResult := do
  match Request.of arguments variable_ with
  | .misuse => return ⟨2, "", none⟩
  | .version => return ⟨0, versionText, none⟩
  | .help => return ⟨0, helpText, none⟩
  | .run invocation =>
    match ← (invocation.run variable_ : ExceptT String m String).run with
    | .ok output => return ⟨0, output, none⟩
    | .error failure => return ⟨1, "", some failure⟩

end Running

end Tilemap
