import Tilemap.Binary

/-!
# Written floats

A float is written with its fewest digits. A positive float stands for every rational that rounds to
it: an interval around its value. The decimal chosen for it is the point of the coarsest decimal
grid that meets this interval, and of two such points the nearer one, so no decimal with fewer
digits reads back as the same float. Of two points equally near the even one is taken.

A `Layout` says for which decimal exponents of the first digit the positional notation is used; it
always has a point. Every other float is written with an exponent, its sign included, and without a
needless point.
-/

namespace Tilemap.Decimal

open Float.Model (Format UnpackedFloat)

/-! ### Fewest digits -/

/-- The decimal `digits * 10 ^ exponent`. -/
structure Scaled where
  digits : Nat
  exponent : Int
  deriving Repr, DecidableEq

/-- The rationals that round to one value, as numerators over a common denominator. -/
structure Neighbourhood where
  value : Nat
  low : Nat
  high : Nat
  denominator : Nat
  /-- Whether the ends belong to it. -/
  closed : Bool

/-- The rationals that round to `mantissa * 2 ^ exponent`. Below a power of two the floats lie twice
as close, and the ends round to an even mantissa. -/
def Neighbourhood.of (format : Format) (mantissa : Nat) (exponent : Int) : Neighbourhood :=
  let tight := mantissa = 1 <<< format.mantissaBitsWithoutImplicit && format.minExponent < exponent
  let unit := 1 <<< (exponent - 2).toNat
  { value := 4 * mantissa * unit
    low := (4 * mantissa - if tight then 1 else 2) * unit
    high := (4 * mantissa + 2) * unit
    denominator := 1 <<< (2 - exponent).toNat
    closed := mantissa % 2 = 0 }

namespace Neighbourhood

def scale (n : Neighbourhood) (power : Nat) : Neighbourhood :=
  { n with value := n.value * power, low := n.low * power, high := n.high * power }

def shrink (n : Neighbourhood) (power : Nat) : Neighbourhood :=
  { n with denominator := n.denominator * power }

def holds (n : Neighbourhood) (k : Nat) : Bool :=
  let p := k * n.denominator
  if n.closed then n.low ≤ p && p ≤ n.high else n.low < p && p < n.high

/-- The natural number in it that is nearest to the value, if the two around the value are tried. -/
def nearest? (n : Neighbourhood) : Option Nat :=
  let k := n.value / n.denominator
  match n.holds k, n.holds (k + 1) with
  | true, true =>
    let below := n.value - k * n.denominator
    let above := (k + 1) * n.denominator - n.value
    if below < above || below = above && k % 2 = 0 then some k else some (k + 1)
  | true, false => some k
  | false, true => some (k + 1)
  | false, false => none

/-- The chosen point of the grid of the multiples of `10 ^ exponent`. -/
def onGrid? (n : Neighbourhood) (exponent : Int) : Option Scaled :=
  let m := if 0 ≤ exponent then n.shrink (Nat.pow 10 exponent.toNat)
    else n.scale (Nat.pow 10 (-exponent).toNat)
  m.nearest?.map fun k => ⟨k, exponent⟩

/-- An exponent of a grid too coarse to meet it. -/
def coarsest (n : Neighbourhood) : Nat := (n.high / n.denominator).log2 / 3 + 1

/-- The point of the coarsest grid that meets it. The denominator is a power of two, so the value
itself lies on the last grid tried. -/
def shortest (n : Neighbourhood) : Scaled :=
  let grids := List.range (n.coarsest + n.denominator.log2 + 1)
  (grids.findSome? fun (i : Nat) => n.onGrid? ((n.coarsest : Int) - i)).getD ⟨0, 0⟩

end Neighbourhood

def shortest (format : Format) (mantissa : Nat) (exponent : Int) : Scaled :=
  (Neighbourhood.of format mantissa exponent).shortest

/-! ### Notations -/

/-- The exponents of the first digit that are written positionally. -/
structure Layout where
  least : Int
  greatest : Int

/-- 64-bit floats are written positionally from `0.00001` up to sixteen digits before the point. -/
def Layout.double : Layout := ⟨-5, 15⟩

/-- 32-bit floats are written positionally from `0.000001` up to thirteen digits before the
point. -/
def Layout.single : Layout := ⟨-6, 12⟩

def digitChars (n : Nat) : List Char := Nat.toDigits 10 n

def Scaled.positional (d : Scaled) : List Char :=
  let digits := digitChars d.digits
  let whole := digits.length + d.exponent
  if 0 ≤ d.exponent then digits ++ List.replicate d.exponent.toNat '0' ++ ['.', '0']
  else if 0 < whole then digits.take whole.toNat ++ '.' :: digits.drop whole.toNat
  else '0' :: '.' :: (List.replicate (-whole).toNat '0' ++ digits)

/-- Writes a positive decimal with the exponent of its first digit. -/
def Scaled.scientific (d : Scaled) : List Char :=
  let digits := digitChars d.digits
  let exponent := d.exponent + (digits.length - 1 : Nat)
  let fraction := digits.drop 1
  digits.take 1 ++ (if fraction = [] then [] else '.' :: fraction) ++
    'e' :: (if 0 ≤ exponent then '+' else '-') :: digitChars exponent.natAbs

def Layout.render (l : Layout) (d : Scaled) : List Char :=
  let exponent := d.exponent + ((digitChars d.digits).length - 1 : Nat)
  if l.least ≤ exponent && exponent ≤ l.greatest then d.positional else d.scientific

def signChars : UnpackedFloat.Sign → List Char
  | .positive => []
  | .negative => ['-']

/-- Writes a value of a format; infinities and what is no number have no digits. -/
def render? (format : Format) (l : Layout) : UnpackedFloat → Option (List Char)
  | .zero sign => some (signChars sign ++ ['0', '.', '0'])
  | .finite sign mantissa exponent _ =>
    some (signChars sign ++ l.render (shortest format mantissa exponent))
  | .infinity _ | .notANumber => none

def ofFloat? (x : Float) : Option (List Char) := render? .binary64 .double (Binary.unpack64 x)

def ofFloat32? (x : Float32) : Option (List Char) := render? .binary32 .single (Binary.unpack32 x)

end Tilemap.Decimal
