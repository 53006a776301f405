/-!
# Binary floating point

Conversions between 64-bit floats, 32-bit floats and integers, each defined on the value
`± mantissa * 2 ^ exponent` that the bits stand for and rounded once, to the nearest value and on a
tie to the even mantissa.
-/

namespace Tilemap.Binary

open Float.Model (Format UnpackedFloat)

/-- The value that the bits of a 64-bit float stand for. -/
def unpack64 (x : Float) : UnpackedFloat := .unpack .binary64 x.toBits.toBitVec

def unpack32 (x : Float32) : UnpackedFloat := .unpack .binary32 x.toBits.toBitVec

/-- The 64-bit float of a value that such a float can hold. -/
def pack64 (v : UnpackedFloat) : Float := Float.ofBits ⟨UnpackedFloat.pack .binary64 v⟩

/-- The 32-bit float of a value that such a float can hold. -/
def pack32 (v : UnpackedFloat) : Float32 := Float32.ofBits ⟨UnpackedFloat.pack .binary32 v⟩

/-- Rounds a value to a format. -/
def convert (format : Format) : UnpackedFloat → UnpackedFloat
  | .finite sign mantissa exponent _ => .round format sign mantissa exponent
  | v => v

/-- A 32-bit float as a 64-bit one, which holds the same value. -/
def widen (x : Float32) : Float := pack64 (convert .binary64 (unpack32 x))

def narrow (x : Float) : Float32 := pack32 (convert .binary32 (unpack64 x))

def ofInt64 (n : Int) : Float := pack64 (.ofInt .binary64 n)

def ofInt32 (n : Int) : Float32 := pack32 (.ofInt .binary32 n)

/-- The largest natural number not above `mantissa * 2 ^ exponent`. -/
def floorScaled (mantissa : Nat) (exponent : Int) : Nat :=
  if 0 ≤ exponent then mantissa <<< exponent.toNat else mantissa >>> (-exponent).toNat

/-- The natural number nearest to `mantissa * 2 ^ exponent`; a half goes up. -/
def roundScaled (mantissa : Nat) (exponent : Int) : Nat :=
  if 0 ≤ exponent then mantissa <<< exponent.toNat
  else (2 * mantissa + 1 <<< (-exponent).toNat) >>> ((-exponent).toNat + 1)

/-- The finite values as integers by `f` on the magnitude, infinities as the given bounds, and no
number as zero. -/
def toIntBy (f : Nat → Int → Nat) (low high : Int) : UnpackedFloat → Int
  | .finite sign mantissa exponent _ => sign.apply (f mantissa exponent)
  | .infinity .positive => high
  | .infinity .negative => low
  | .zero _ | .notANumber => 0

/-- The integer next to zero of the two around `x`, kept between `low` and `high`. -/
def truncate (low high : Int) (x : Float) : Int :=
  max low (min high (toIntBy floorScaled low high (unpack64 x)))

/-- The nearest integer of 32 bits; a half goes away from zero and what is beyond the range to its
end. -/
def roundToInt32 (x : Float) : Int32 :=
  Int32.ofIntClamp
    (toIntBy roundScaled Int32.minValue.toInt Int32.maxValue.toInt (unpack64 x))

end Tilemap.Binary
