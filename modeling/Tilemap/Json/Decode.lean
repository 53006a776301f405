import Tilemap.Json.Reader
import Tilemap.SortedMap
import Tilemap.Text.Basic

/-!
# Typed reading of JSON

A `Decoder` reads a value of a type from the tree of a text. A record is read from an object whose
unknown fields need not be readable, or from an array of its fields in their order. A field that is
repeated, even under another spelling, is refused.
-/

namespace Tilemap.Json

/-- Reads a value from a tree; the first argument is the depth that is left. -/
abbrev Decoder (α : Type) := Nat → Raw → Option α

namespace Decoder

variable {α : Type}

def bool : Decoder Bool
  | _, .bool b => some b
  | _, _ => none

def string : Decoder String
  | _, .string s => text? s
  | _, _ => none

def number : Decoder Number
  | _, .number n => n.number?
  | _, _ => none

/-- A number written as an integer from `low` to `high`. -/
def int (low high : Int) : Decoder Int := fun depth r =>
  match number depth r with
  | some (.int n) => if low ≤ n && n ≤ high then some n else none
  | _ => none

def int32 : Decoder Int32 := fun depth r =>
  (int Int32.minValue.toInt Int32.maxValue.toInt depth r).map Int32.ofInt

/-- A natural number of 32 bits. -/
def uint32 : Decoder UInt32 := fun depth r =>
  (int 0 (UInt32.size - 1 : Nat) depth r).map fun n => UInt32.ofNat n.toNat

/-- A natural number of 64 bits. -/
def nat64 : Decoder Nat := fun depth r => (int 0 (UInt64.size - 1 : Nat) depth r).map Int.toNat

/-- A 64-bit float, which may be written as an integer. -/
def double : Decoder Float := fun depth r => (number depth r).map Number.toFloat

/-- A 32-bit float; an integer is rounded once, another number through 64 bits. -/
def single : Decoder Float32 := fun depth r =>
  (number depth r).map fun
    | .int n => Binary.ofInt32 n
    | .double x => Binary.narrow x
    | .single x => x

def nullable (d : Decoder α) : Decoder (Option α)
  | _, .null => some none
  | depth, r => (d depth r).map some

def list (d : Decoder α) : Decoder (List α)
  | depth, .array items => do
    let inner ← enter? depth
    items.mapM (d inner)
  | _, _ => none

def json : Decoder Json := Raw.json?

def bag : Decoder Bag := fun depth r => (json depth r).bind object?

/-- An object whose values are all of one type, sorted by key. -/
def sortedMap (d : Decoder α) : Decoder (SortedMap α)
  | depth, .object entries => do
    let inner ← enter? depth
    let pairs ← entries.mapM fun (k, r) => return (← text? k, ← d inner r)
    return SortedMap.ofList pairs
  | _, _ => none

/-- One of several names, as a string or as the only key of an object with the value `null`. -/
def choice (names : String → Option α) : Decoder α
  | _, .string s => (text? s).bind names
  | depth, .object [(k, .null)] => do
    let _ ← enter? depth
    names (← text? k)
  | _, _ => none

end Decoder

/-! ### Records -/

/-- The fields found for a record. -/
structure Fields where
  /-- The depth left inside the record. -/
  depth : Nat
  /-- Whether the fields stood in an array instead of an object. -/
  positional : Bool
  found : List (String × Raw)

namespace Fields

/-- Adds an entry of an object to the fields found. An unknown key is passed over; a field that was
found before is an error. `spellings` lists for each field its name and then its other spellings. -/
def add? (spellings : List (List String)) (found : List (String × Raw))
    (entry : List Glyph × Raw) : Option (List (String × Raw)) := do
  let key ← text? entry.1
  match spellings.find? (·.contains key) with
  | some (name :: _) =>
    if (found.lookup name).isSome then none else some (found ++ [(name, entry.2)])
  | _ => some found

/-- Finds the fields of a record in a tree. -/
def of? (spellings : List (List String)) (depth : Nat) : Raw → Option Fields
  | .object entries => do
    let inner ← enter? depth
    return ⟨inner, false, ← entries.foldlM (add? spellings) []⟩
  | .array items => do
    let inner ← enter? depth
    if items.length ≤ spellings.length then
      return ⟨inner, true, (spellings.map (·.headD "")).zip items⟩
    else none
  | _ => none

variable {α : Type}

/-- A field that must be there. -/
def required (f : Fields) (name : String) (d : Decoder α) : Option α :=
  (f.found.lookup name).bind (d f.depth)

def withDefault (f : Fields) (name : String) (default : α) (d : Decoder α) : Option α :=
  match f.found.lookup name with
  | some r => d f.depth r
  | none => some default

/-- An optional field, absent when it is missing. -/
def optional (f : Fields) (name : String) (d : Decoder α) : Option (Option α) :=
  f.withDefault name none d.nullable

/-- An optional field that has to have its place in an array. -/
def optionalNamed (f : Fields) (name : String) (d : Decoder α) : Option (Option α) :=
  if f.positional then f.required name d.nullable else f.optional name d

end Fields

def Decoder.parse? {α : Type} (d : Decoder α) (text : String) : Option α :=
  (Raw.parse? text).bind (d depthLimit)

end Tilemap.Json
