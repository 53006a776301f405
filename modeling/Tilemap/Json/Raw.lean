import Tilemap.Json.Basic

/-!
# Trees of JSON texts

A `Raw` tree is what the grammar of JSON makes of a text: strings keep their escapes, numbers their
digits and objects every entry. A part that nobody reads needs no more than this. To be read, a
string must not escape half of a surrogate pair, a number must not exceed the floats, and arrays and
objects must not be nested too deep.
-/

namespace Tilemap.Json

/-- One element of a string as it is written. -/
inductive Glyph where
  /-- A character, written as itself or by a short escape. -/
  | char (c : Char)
  /-- An escaped code unit of 16 bits. -/
  | unit (code : Nat)
  deriving Repr, DecidableEq

/-- A number as it is written. -/
structure NumberLiteral where
  negative : Bool
  whole : List Char
  /-- The digits after the point, of which there is at least one. -/
  fraction : Option (List Char)
  /-- Whether the exponent has a minus sign, and its digits. -/
  exponent : Option (Bool × List Char)
  deriving Repr, DecidableEq

/-- A JSON text by its grammar alone. -/
inductive Raw where
  | null
  | bool (b : Bool)
  | number (n : NumberLiteral)
  | string (s : List Glyph)
  | array (items : List Raw)
  | object (entries : List (List Glyph × Raw))

/-! ### Strings -/

def isHighSurrogate (code : Nat) : Bool := 0xd800 ≤ code && code < 0xdc00

def isLowSurrogate (code : Nat) : Bool := 0xdc00 ≤ code && code < 0xe000

/-- The characters that a string stands for; `none` when half of a surrogate pair stands alone. -/
def glyphs? : List Glyph → Option (List Char)
  | [] => some []
  | .char c :: rest => (glyphs? rest).map (c :: ·)
  | .unit high :: .unit low :: rest =>
    if isHighSurrogate high then
      if isLowSurrogate low then
        (glyphs? rest).map
          (Char.ofNat (0x10000 + (high - 0xd800) * 0x400 + (low - 0xdc00)) :: ·)
      else none
    else if isLowSurrogate high then none
    else (glyphs? (.unit low :: rest)).map (Char.ofNat high :: ·)
  | .unit code :: rest =>
    if isHighSurrogate code || isLowSurrogate code then none
    else (glyphs? rest).map (Char.ofNat code :: ·)

def text? (s : List Glyph) : Option String := (glyphs? s).map String.ofList

/-! ### Numbers -/

namespace NumberLiteral

/-- Appends digits to a number while it fits into 64 bits; the digits that are left come back. -/
def accumulate (n : Nat) : List Char → Nat × List Char
  | [] => (n, [])
  | c :: rest =>
    let next := 10 * n + (c.toNat - '0'.toNat)
    if next < UInt64.size then accumulate next rest else (n, c :: rest)

/-- A power of ten up to the largest one that is finite. -/
def powerOfTen (n : Nat) : Float := Float.ofScientific 1 false n

/-- Multiplies by a power of ten, dividing for a negative exponent; an exponent beyond the powers
that are finite is worked off in steps. `none` when the product exceeds the floats. -/
def scale (x : Float) (exponent : Int) : Option Float :=
  if exponent.natAbs ≤ 308 then
    if 0 ≤ exponent then
      let product := x * powerOfTen exponent.natAbs
      if product.isInf then none else some product
    else some (x / powerOfTen exponent.natAbs)
  else if x == 0 then some x
  else if 0 ≤ exponent then none
  else scale (x / powerOfTen 308) (exponent + 308)
termination_by exponent.natAbs
decreasing_by omega

/-- The exponent as an integer. -/
def power (n : NumberLiteral) : Int :=
  match n.exponent with
  | none => 0
  | some (negative, digits) =>
    let e : Int := digits.foldl (fun e c => 10 * e + (c.toNat - '0'.toNat)) (0 : Nat)
    if negative then -e else e

/-- The float of a literal: the leading digits that fit into 64 bits, scaled by the power of ten
that the other digits and the exponent leave. -/
def float? (n : NumberLiteral) : Option Float :=
  let (whole, dropped) := accumulate 0 n.whole
  let fraction := n.fraction.getD []
  let (digits, unread) := accumulate whole fraction
  let shift : Int := dropped.length - (fraction.length - unread.length : Nat)
  (scale (Binary.ofInt64 digits) (shift + n.power)).map fun x => if n.negative then -x else x

/-- The number of a literal. Digits alone are an integer if they fit into 64 bits, with a sign bit
when negative; everything else is a float, and so is `-0`. `none` when it exceeds the floats. -/
def number? (n : NumberLiteral) : Option Number :=
  let (whole, dropped) := accumulate 0 n.whole
  let isInteger := n.fraction.isNone && n.exponent.isNone && dropped.isEmpty
  if isInteger && !n.negative then some (.int whole)
  else if isInteger && whole != 0 && Int64.minValue.toInt ≤ -whole then some (.int (-whole))
  else n.float?.map .double

end NumberLiteral

/-! ### Values -/

/-- How deep arrays and objects may be nested, plus one. -/
def depthLimit : Nat := 128

/-- The depth left inside one more bracket. -/
def enter? (depth : Nat) : Option Nat := if depth ≤ 1 then none else some (depth - 1)

mutual

/-- The value of a tree, in which every string, number and depth is read. -/
def Raw.json? (depth : Nat) : Raw → Option Json
  | .null => some .null
  | .bool b => some (.bool b)
  | .number n => n.number?.map .number
  | .string s => (text? s).map .string
  | .array items => do
    let inner ← enter? depth
    return .array (← Raw.items? inner items)
  | .object entries => do
    let inner ← enter? depth
    return .object (Bag.ofEntries (← Raw.entries? inner entries))

def Raw.items? (depth : Nat) : List Raw → Option (List Json)
  | [] => some []
  | r :: rest => do
    let j ← Raw.json? depth r
    return j :: (← Raw.items? depth rest)

/-- The keys and values of all entries, repeated keys included. -/
def Raw.entries? (depth : Nat) : List (List Glyph × Raw) → Option (List (String × Json))
  | [] => some []
  | (k, r) :: rest => do
    let key ← text? k
    let j ← Raw.json? depth r
    return (key, j) :: (← Raw.entries? depth rest)

end

end Tilemap.Json
