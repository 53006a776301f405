import Tilemap.MapError
import Tilemap.Text.Basic

/-!
# Paths and file stores

A path is a text whose parts stand between slashes. Empty parts and single dots say nothing, except
that a dot may start a relative path.

A file store is what the program asks of a file system. The programs that read and write files are
written against this interface, so that they run on a file tree held in memory as well as on the
files of a computer.
-/

namespace Tilemap

/-! ### Paths -/

namespace Path

open Text

def isAbsolute (path : List Char) : Bool := path.head? = some '/'

/-- Whether a part says nothing after the parts before it. -/
def isIdle (absolute : Bool) (before : List (List Char)) (part : List Char) : Bool :=
  part = [] || part = ['.'] && (absolute || before ≠ [])

/-- The beginnings of a path that end with a part that says something, longest first. Parts stand
with the last one first. -/
def levels (absolute : Bool) : List (List Char) → List (List (List Char))
  | [] => []
  | part :: before =>
    if isIdle absolute before part then levels absolute before
    else (part :: before) :: levels absolute before

/-- The beginnings of a path, the whole path first. -/
def levelsOf (path : List Char) : List (List (List Char)) :=
  let absolute := isAbsolute path
  levels absolute (pieces (· = '/') (if absolute then path.tail else path)).reverse

/-- The name that a path ends with; there is none after dots alone. -/
def fileName? (path : String) : Option (List Char) :=
  match levelsOf path.toList with
  | (part :: _) :: _ => if part = ['.'] || part = ['.', '.'] then none else some part
  | _ => none

/-- Cuts a name at its last dot, unless nothing else stands before it. -/
def cutName (name : List Char) : List Char × Option (List Char) :=
  let after := name.reverse.takeWhile (· ≠ '.')
  match name.reverse.dropWhile (· ≠ '.') with
  | '.' :: before => if before = [] then (name, none) else (before.reverse, some after.reverse)
  | _ => (name, none)

/-- The name that a path ends with, without what follows its last dot. -/
def stem? (path : String) : Option String :=
  (fileName? path).map fun name => String.ofList (cutName name).1

/-- What follows the last dot of the name that a path ends with. -/
def extension? (path : String) : Option String :=
  (fileName? path).bind fun name => (cutName name).2.map String.ofList

def hasExtension (path extension : String) : Bool :=
  (extension? path).any fun e => asciiLower e.toList = asciiLower extension.toList

/-- The path of parts, the last one first. -/
def ofParts (absolute : Bool) (parts : List (List Char)) : String :=
  String.ofList ((if absolute then ['/'] else []) ++ ['/'].intercalate parts.reverse)

/-- The path without its last part, then without the last two, and so on. The last of them is the
root or empty. -/
def parents (path : String) : List String :=
  match levelsOf path.toList with
  | [] => []
  | _ :: above => (above ++ [[]]).map (ofParts (isAbsolute path.toList))

def parent? (path : String) : Option String := (parents path).head?

/-- A path taken from a directory; an absolute path stays as it is. -/
def join (directory path : String) : String :=
  if isAbsolute path.toList || directory = "" then path
  else if directory.toList.getLast? = some '/' then directory ++ path
  else directory ++ "/" ++ path

end Path

/-! ### Stores -/

/-- A place that holds files. -/
class FileStore (m : Type → Type) where
  /-- The text of a file. -/
  read : String → m (Except FileError String)
  /-- The names in a directory, in any order. -/
  list : String → m (Except FileError (List String))
  isFile : String → m Bool
  isDirectory : String → m Bool
  /-- Writes a file in place of the one that was there. -/
  write : String → String → m (Except FileError Unit)
  /-- Makes a directory in one that is there. -/
  makeDirectory : String → m (Except FileError Unit)

variable {m : Type → Type} [Monad m] [FileStore m]

/-- Makes a directory, unless there is one. -/
def ensureDirectory (path : String) : m (Except FileError Unit) := do
  match ← (FileStore.makeDirectory path : m _) with
  | .ok () => return .ok ()
  | .error e => if ← (FileStore.isDirectory path : m _) then return .ok () else return .error e

/-- Makes a directory, unless there is one, and before it those of its parents that are missing. The
parents are given nearest first. The empty path is the working directory, which is there. A final
dot is no part of a path and yet makes the system look for what stands before it, so `a/.` cannot be
made where there is no `a`. -/
def ensureDirectories (path : String) (parents : List String) : m (Except FileError Unit) := do
  if path = "" then return .ok ()
  match parents with
  | [] => ensureDirectory path
  | parent :: above =>
    match ← (ensureDirectory path : m _) with
    | .error .notFound =>
      match ← (ensureDirectories parent above : m _) with
      | .ok () => ensureDirectory path
      | .error e => return .error e
    | result => return result

/-- Makes a directory and those above it, as far as they are missing. -/
def makeDirectories (path : String) : m (Except FileError Unit) :=
  ensureDirectories path (Path.parents path)

end Tilemap
