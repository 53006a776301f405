import Tilemap.Json.Basic
import Tilemap.Text.Basic

/-!
# Spellings of keys and flags

The words of a key are its runs of ASCII letters and digits. Two spellings name the same key when
their compact forms agree; a key nobody knows is kept in camel case.

A flag is a word that switches something on or off, or a JSON value that does.
-/

namespace Tilemap

open Text

/-! ### Keys -/

namespace Key

/-- The letters and digits of a spelling, in small letters. -/
def compact (key : String) : String :=
  String.ofList (asciiLower (key.toList.filter Char.isAlphanum))

/-- The runs of ASCII letters and digits. -/
def keyWords (s : List Char) : List (List Char) :=
  (pieces (fun c => !c.isAlphanum) s).filter (· ≠ [])

/-- A word without small letters is put into small letters; any other stays as it is. -/
def calm (word : List Char) : List Char :=
  if word.all (fun c => !c.isLower) then asciiLower word else word

/-- Applies `f` to the first letter. -/
def mapHead (f : Char → Char) : List Char → List Char
  | [] => []
  | c :: rest => f c :: rest

/-- The words of a key run together, each but the first with a capital. -/
def camel (key : String) : String :=
  String.ofList <| match (keyWords key.toList).map calm with
    | [] => []
    | first :: rest => mapHead Char.toLower first ++ rest.flatMap (mapHead Char.toUpper)

end Key

/-! ### Flags -/

/-- Reads a flag from a word in any case. -/
def flag? (text : String) : Option Bool :=
  match String.ofList (asciiLower (trim text.toList)) with
  | "true" | "1" | "yes" | "on" | "solid" => some true
  | "false" | "0" | "no" | "off" | "transparent" | "none" => some false
  | _ => none

/-- Reads a flag from a value: a truth value, a word, or a number, which is on unless zero. -/
def Json.flag? : Json → Option Bool
  | .bool b => some b
  | .string s => Tilemap.flag? s
  | .number n => some n.isNonzero
  | _ => none

/-- Whether a value counts as true: not `null`, `false`, zero or the empty text. -/
def Json.isTruthy : Json → Bool
  | .bool b => b
  | .number n => n.isNonzero
  | .string s => s ≠ ""
  | .null => false
  | .array _ | .object _ => true

end Tilemap
