import Tilemap.CommandLine

/-!
# Program

The command line on the files of the computer. This is the only module that touches them.
-/

namespace Tilemap

def FileError.ofIO : IO.Error → FileError
  | .noFileOrDirectory .. | .noSuchThing .. => .notFound
  | .inappropriateType .. => .isDirectory
  | .alreadyExists .. => .alreadyExists
  | _ => .other

def attempt {α : Type} (action : IO α) : IO (Except FileError α) := do
  try return .ok (← action) catch e => return .error (FileError.ofIO e)

instance : FileStore IO where
  read path := do
    match ← attempt (IO.FS.readBinFile path) with
    | .error e => return .error e
    | .ok bytes => match String.fromUTF8? bytes with
      | some text => return .ok text
      | none => return .error .invalidData
  list path := attempt do
    return (← (← IO.FS.realPath path).readDir).toList.map (·.fileName)
  isFile path := do
    match ← attempt (do return (← (← IO.FS.realPath path).metadata).type) with
    | .ok .file => return true
    | _ => return false
  isDirectory path := do
    match ← attempt (do return (← (← IO.FS.realPath path).metadata).type) with
    | .ok .dir => return true
    | _ => return false
  write path text := attempt (IO.FS.writeFile path text)
  makeDirectory path := attempt (IO.FS.createDir path)

end Tilemap

/-- Runs the command line: prints what it says and tells on the error channel what failed. -/
def main (arguments : List String) : IO UInt32 := do
  let values ← Tilemap.directoryVariables.mapM fun name => return (name, ← IO.getEnv name)
  let result ← Tilemap.runCommand arguments fun name => (values.lookup name).join
  IO.print result.output
  match result.failure with
  | some text => IO.eprintln ("Error: " ++ text)
  | none => if result.code = 2 then IO.eprintln "error: invalid arguments; see --help"
  return UInt32.ofNat result.code
