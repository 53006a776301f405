import Tilemap.Json.Basic
import Tilemap.Section
import Tilemap.Spelling

/-!
# Head of a map

The lines `key: value` of the section `meta`. A key is looked up by its compact form, and the last
value that is not blank counts.
-/

namespace Tilemap

open Text

/-- One line of the head. -/
structure MetaEntry where
  /-- The key as written. -/
  key : String
  value : String
  deriving Repr, DecidableEq

/-- The lines of the head, in their order. -/
structure MetaTable where
  entries : List MetaEntry
  deriving Repr, DecidableEq

/-- Reads a line; without a colon, or without a key before it, the line says nothing. -/
def MetaEntry.parse? (code : String) : Option MetaEntry :=
  match cut? [':'] code.toList with
  | some (key, value) =>
    match trim key with
    | [] => none
    | key => some ⟨String.ofList key, String.ofList (trim value)⟩
  | none => none

namespace MetaTable

def ofSection (s : Section) : MetaTable := ⟨s.codeLines.filterMap fun (_, code) =>
  MetaEntry.parse? code⟩

/-- The last value under a key that is not blank. -/
def value? (t : MetaTable) (key : String) : Option String :=
  (t.entries.reverse.find? fun e => Key.compact e.key = Key.compact key && e.value ≠ "").map
    (·.value)

/-- The value under the first of several keys that has one. -/
def get? (t : MetaTable) (keys : List String) : Option String := keys.findSome? t.value?

/-- The entries under other keys than the known ones, their keys in camel case. -/
def extra (t : MetaTable) (known : List String) : Bag :=
  let known := known.map Key.compact
  Bag.ofEntries <| (t.entries.filter fun e => !known.contains (Key.compact e.key)).map fun e =>
    (Key.camel e.key, .string e.value)

end MetaTable

end Tilemap
