import Tilemap.Binary
import Tilemap.Text.Basic

/-!
# Read floats

The text of a float is an optional sign before `inf`, `infinity` or `nan` in any case, or before
digits with at most one point among them, of which there is at least one, and an optional exponent.
The decimal read is rounded once to the format asked for.
-/

namespace Tilemap.Decimal

open Float.Model (Format UnpackedFloat)
open Text (natural? digitsValue asciiLower)

/-- The unsigned values that a text can stand for. -/
inductive Magnitude where
  | infinite
  | notANumber
  | decimal (digits : Nat) (exponent : Int)
  deriving Repr, DecidableEq

/-- Splits off a sign; `true` stands for a minus. -/
def splitSign : List Char → Bool × List Char
  | '-' :: r => (true, r)
  | '+' :: r => (false, r)
  | s => (false, s)

/-- Reads an exponent, its letter included; no text stands for zero. -/
def exponent? : List Char → Option Int
  | [] => some 0
  | c :: r =>
    if c = 'e' || c = 'E' then
      let (negative, digits) := splitSign r
      (natural? digits).map fun n => if negative then -(n : Int) else n
    else none

/-- Reads digits with at most one point among them and an optional exponent. -/
def decimal? (s : List Char) : Option Magnitude :=
  let whole := s.takeWhile Char.isDigit
  let afterWhole := s.dropWhile Char.isDigit
  let (fraction, rest) := match afterWhole with
    | '.' :: r => (r.takeWhile Char.isDigit, r.dropWhile Char.isDigit)
    | r => ([], r)
  if whole ++ fraction = [] then none
  else (exponent? rest).map fun e =>
    .decimal (digitsValue (whole ++ fraction)) (e - fraction.length)

/-- Reads a text without a sign. -/
def magnitude? (s : List Char) : Option Magnitude :=
  match String.ofList (asciiLower s) with
  | "inf" | "infinity" => some .infinite
  | "nan" => some .notANumber
  | _ => decimal? s

def Magnitude.round (format : Format) : Magnitude → UnpackedFloat
  | .infinite => .infinity .positive
  | .notANumber => .notANumber
  | .decimal digits exponent => .ofScientific format digits exponent

/-- Reads the value of a format that is nearest to what a text says. -/
def read? (format : Format) (s : List Char) : Option UnpackedFloat :=
  let (negative, r) := splitSign s
  (magnitude? r).map fun m =>
    if negative then (m.round format).neg else m.round format

def toFloat? (s : List Char) : Option Float := (read? .binary64 s).map Binary.pack64

def toFloat32? (s : List Char) : Option Float32 := (read? .binary32 s).map Binary.pack32

end Tilemap.Decimal
