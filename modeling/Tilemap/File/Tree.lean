import Tilemap.File.Basic

/-!
# File trees

A file tree in memory: directories with named entries, in the order in which they were made, and
files of bytes. A relative path is followed from the working directory, which lies two levels below
the root.
-/

namespace Tilemap

open Text

/-- A file or a directory. -/
inductive FileTree where
  | file (content : ByteArray)
  | directory (entries : List (String × FileTree))

namespace FileTree

/-- A directory without entries. -/
def bare : FileTree := .directory []

def entries? : FileTree → Option (List (String × FileTree))
  | .directory entries => some entries
  | .file _ => none

def home : List String := ["tmp", "work"]

/-! ### Paths -/

/-- One step along a path. -/
inductive Step where
  /-- Stays, which only a directory allows. -/
  | here
  /-- Goes to the directory above; the root is above itself. -/
  | up
  | down (name : String)
  deriving Repr, DecidableEq

/-- The step of one part of a path. -/
def Step.of (part : List Char) : Step :=
  if part = [] || part = ['.'] then .here
  else if part = ['.', '.'] then .up
  else .down (String.ofList part)

def maxNameSize : Nat := 255

def maxPathSize : Nat := 4095

/-- The parts of a path that can be followed at all. -/
def parts (path : String) : Except FileError (List (List Char)) :=
  if path.toList.contains '\x00' then .error .invalidName
  else if maxPathSize < path.utf8ByteSize then .error .nameTooLong
  else if path = "" then .error .notFound
  else .ok (pieces (· = '/') path.toList)

def entry? (entries : List (String × FileTree)) (name : String) :
    Except FileError (Option FileTree) :=
  if maxNameSize < name.utf8ByteSize then .error .nameTooLong else .ok (entries.lookup name)

/-- Follows steps down to their end, given the directories above and the steps below them. The names
of the way come back without detours, last name first. -/
def walk (above : List (String × FileTree)) (here : FileTree) :
    List Step → Except FileError (List String × FileTree)
  | [] => .ok (above.map (·.1), here)
  | step :: rest =>
    match here with
    | .file _ => .error .notDirectory
    | .directory entries =>
      match step with
      | .here => walk above here rest
      | .up =>
        match above with
        | [] => walk [] here rest
        | (_, parent) :: above => walk above parent rest
      | .down name =>
        match entry? entries name with
        | .ok (some next) => walk ((name, here) :: above) next rest
        | .ok none => .error .notFound
        | .error e => .error e

/-- Where the parts of a path lead, which is absolute or not. -/
def follow (t : FileTree) (absolute : Bool) (parts : List (List Char)) :
    Except FileError (List String × FileTree) :=
  walk [] t ((if absolute then [] else home.map Step.down) ++ parts.map Step.of)

/-- Where a path leads, with the names of the way, last name first. -/
def locate (t : FileTree) (path : String) : Except FileError (List String × FileTree) := do
  t.follow (Path.isAbsolute path.toList) (← parts path)

/-- What a path leads to. -/
def find (t : FileTree) (path : String) : Except FileError FileTree := do
  return (← t.locate path).2

def read (t : FileTree) (path : String) : Except FileError String := do
  match ← t.find path with
  | .directory _ => throw .isDirectory
  | .file content =>
    match String.fromUTF8? content with
    | some text => return text
    | none => throw .invalidData

def list (t : FileTree) (path : String) : Except FileError (List String) := do
  match ← t.find path with
  | .directory entries => return entries.map (·.1)
  | .file _ => throw .notDirectory

def isFile (t : FileTree) (path : String) : Bool :=
  match t.find path with
  | .ok (.file _) => true
  | _ => false

def isDirectory (t : FileTree) (path : String) : Bool :=
  match t.find path with
  | .ok (.directory _) => true
  | _ => false

/-! ### Changes -/

/-- Puts an entry in place of the one with the same name, or else at the end. -/
def putEntry (name : String) (node : FileTree) :
    List (String × FileTree) → List (String × FileTree)
  | [] => [(name, node)]
  | (n, t) :: rest => if n = name then (n, node) :: rest else (n, t) :: putEntry name node rest

/-- Puts a node at names below a tree, making the directories on the way. -/
def put (node : FileTree) : List String → FileTree → FileTree
  | [], _ => node
  | name :: rest, t =>
    let entries := t.entries?.getD []
    .directory (putEntry name (put node rest ((entries.lookup name).getD bare)) entries)

def empty : FileTree := put bare home bare

/-- Takes away what names lead to. -/
def removeAt : List String → FileTree → FileTree
  | [], t => t
  | [name], t => .directory ((t.entries?.getD []).filter (·.1 ≠ name))
  | name :: rest, t =>
    .directory ((t.entries?.getD []).map fun (n, s) =>
      if n = name then (n, removeAt rest s) else (n, s))

/-- Takes away the file or the whole directory that a path leads to. -/
def remove (t : FileTree) (path : String) : Except FileError FileTree := do
  return removeAt (← t.locate path).1.reverse t

/-- The place for a new entry: the names that lead to it, and what is there already. The last part
of the path, given first, names it, and the directory that the other parts lead to must be there. -/
def place (t : FileTree) (absolute : Bool) (name : String) (before : List (List Char)) :
    Except FileError (List String × Option FileTree) := do
  match ← t.follow absolute before.reverse with
  | (_, .file _) => throw .notDirectory
  | (way, .directory entries) => return ((name :: way).reverse, ← entry? entries name)

def write (t : FileTree) (path : String) (content : ByteArray) : Except FileError FileTree := do
  match (← parts path).reverse with
  | [] => throw .notFound
  | part :: before =>
    match Step.of part with
    | .here | .up => throw .isDirectory
    | .down name =>
      match ← t.place (Path.isAbsolute path.toList) name before with
      | (_, some (.directory _)) => throw .isDirectory
      | (way, _) => return put (.file content) way t

/-- Makes a directory in one that is there. Slashes at the end of its path say nothing. -/
def makeDirectory (t : FileTree) (path : String) : Except FileError FileTree := do
  let absolute := Path.isAbsolute path.toList
  match (← parts path).reverse.dropWhile (· = []) with
  | [] => throw .alreadyExists
  | part :: before =>
    match Step.of part with
    | .here | .up =>
      match ← t.follow absolute before.reverse with
      | (_, .file _) => throw .notDirectory
      | (_, .directory _) => throw .alreadyExists
    | .down name =>
      match ← t.place absolute name before with
      | (_, some _) => throw .alreadyExists
      | (way, none) => return put bare way t

mutual

/-- The files of a tree with their paths below a path. -/
def files (path : String) : FileTree → List (String × ByteArray)
  | .file content => [(path, content)]
  | .directory entries => filesOf path entries

def filesOf (path : String) : List (String × FileTree) → List (String × ByteArray)
  | [] => []
  | (name, t) :: rest => files (Path.join path name) t ++ filesOf path rest

end

end FileTree

/-- Applies a change to the tree, which stays as it is when the change fails. -/
def changeTree (change : FileTree → Except FileError FileTree) :
    StateM FileTree (Except FileError Unit) := fun t =>
  match change t with
  | .ok t' => (.ok (), t')
  | .error e => (.error e, t)

instance : FileStore (StateM FileTree) where
  read path := return (← get).read path
  list path := return (← get).list path
  isFile path := return (← get).isFile path
  isDirectory path := return (← get).isDirectory path
  write path text := changeTree (·.write path text.toUTF8)
  makeDirectory path := changeTree (·.makeDirectory path)

end Tilemap
