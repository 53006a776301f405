import Tilemap.Decimal.Writing
import Tilemap.Json.Basic
import Tilemap.Text.Basic

/-!
# JSON text

A value is written either compactly or on lines indented by two blanks. In strings only the quote,
the backslash and the characters below the blank are escaped; everything else stands for itself.
Floats have their fewest digits, and one that is not finite is written as `null`.
-/

namespace Tilemap

def Number.chars : Number → List Char
  | .int n => (Text.ofInteger n).toList
  | .double x => (Decimal.ofFloat? x).getD ['n', 'u', 'l', 'l']
  | .single x => (Decimal.ofFloat32? x).getD ['n', 'u', 'l', 'l']

namespace Json

def hexDigit (n : Nat) : Char := (Nat.digitChar n)

/-- A character as it stands in a string. -/
def escape (c : Char) : List Char :=
  if c = '"' then ['\\', '"']
  else if c = '\\' then ['\\', '\\']
  else if c = '\n' then ['\\', 'n']
  else if c = '\r' then ['\\', 'r']
  else if c = '\t' then ['\\', 't']
  else if c = '\x08' then ['\\', 'b']
  else if c = '\x0c' then ['\\', 'f']
  else if c.toNat < 0x20 then
    ['\\', 'u', '0', '0', hexDigit (c.toNat / 16), hexDigit (c.toNat % 16)]
  else [c]

def quote (s : String) : List Char := '"' :: (s.toList.flatMap escape ++ ['"'])

def boolChars (b : Bool) : List Char := if b then "true".toList else "false".toList

mutual

def compactChars : Json → List Char
  | .null => "null".toList
  | .bool b => boolChars b
  | .number n => n.chars
  | .string s => quote s
  | .array items => '[' :: compactItems items
  | .object entries => '\x7b' :: compactEntries entries

def compactItems : List Json → List Char
  | [] => [']']
  | [j] => compactChars j ++ [']']
  | j :: rest => compactChars j ++ ',' :: compactItems rest

def compactEntries : List (String × Json) → List Char
  | [] => ['\x7d']
  | [(k, j)] => quote k ++ ':' :: (compactChars j ++ ['\x7d'])
  | (k, j) :: rest => quote k ++ ':' :: (compactChars j ++ ',' :: compactEntries rest)

end

def newline (depth : Nat) : List Char := '\n' :: List.replicate (2 * depth) ' '

mutual

/-- A value whose items and entries stand on lines of their own; `depth` is the number of open
brackets around it. -/
def prettyChars (depth : Nat) : Json → List Char
  | .null => "null".toList
  | .bool b => boolChars b
  | .number n => n.chars
  | .string s => quote s
  | .array [] => ['[', ']']
  | .array (j :: rest) =>
    '[' :: (newline (depth + 1) ++ prettyChars (depth + 1) j ++ prettyItems depth rest)
  | .object [] => ['\x7b', '\x7d']
  | .object ((k, j) :: rest) =>
    '\x7b' :: (newline (depth + 1) ++ quote k ++ ':' :: ' ' :: prettyChars (depth + 1) j ++
      prettyEntries depth rest)

def prettyItems (depth : Nat) : List Json → List Char
  | [] => newline depth ++ [']']
  | j :: rest =>
    ',' :: (newline (depth + 1) ++ prettyChars (depth + 1) j ++ prettyItems depth rest)

def prettyEntries (depth : Nat) : List (String × Json) → List Char
  | [] => newline depth ++ ['\x7d']
  | (k, j) :: rest =>
    ',' :: (newline (depth + 1) ++ quote k ++ ':' :: ' ' :: prettyChars (depth + 1) j ++
      prettyEntries depth rest)

end

def compact (j : Json) : String := String.ofList j.compactChars

def pretty (j : Json) : String := String.ofList (j.prettyChars 0)

end Json

end Tilemap
