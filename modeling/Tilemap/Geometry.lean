import Tilemap.Text.Basic

/-!
# Positions, sizes and areas

Tiles are counted from the upper left corner of a map. Positions may lie outside of it.

In text a position is two integers with an `x`, a comma or blanks between them; a size is two
positive integers with an `x` between them. Empty pieces between separators do not count.
-/

namespace Tilemap

open Text

/-- A tile, by its column and row. -/
structure Position where
  x : Int32
  y : Int32
  deriving Repr, DecidableEq

/-- A number of columns and rows. -/
structure Size where
  width : UInt32
  height : UInt32
  deriving Repr, DecidableEq

/-- A rectangle of tiles. -/
structure Area where
  x : UInt32
  y : UInt32
  width : UInt32
  height : UInt32
  deriving Repr, DecidableEq

namespace Size

def unit : Size := ⟨1, 1⟩

def cells (s : Size) : Nat := s.width.toNat * s.height.toNat

/-- The most tiles that a map or a layer may have. -/
def maxCells : Nat := 4096 * 4096

/-- The tile in the middle; of two middle ones the right or lower one. -/
def centre (s : Size) : Position :=
  ⟨Int32.ofNat (s.width / 2).toNat, Int32.ofNat (s.height / 2).toNat⟩

/-- Bands of one tile along the upper, lower, left and right edge. -/
def border (s : Size) : List Area :=
  if s.width = 0 || s.height = 0 then []
  else
    [⟨0, 0, s.width, 1⟩, ⟨0, s.height - 1, s.width, 1⟩,
      ⟨0, 0, 1, s.height⟩, ⟨s.width - 1, 0, 1, s.height⟩]

end Size

/-! ### Positions and sizes in text -/

/-- Two integers, when exactly two pieces are not blank. -/
def twoIntegers? (parts : List (List Char)) : Option (Int32 × Int32) :=
  match (parts.map trim).filter (· ≠ []) with
  | [a, b] => do
    let x ← int32? a
    let y ← int32? b
    return (x, y)
  | _ => none

/-- The letter between width and height. -/
def isTimes (c : Char) : Bool := c = 'x' || c = 'X'

/-- Reads a position such as `3x4`, `3,4` or `3 4`. -/
def Position.parse? (text : String) : Option Position :=
  let s := trim text.toList
  if s = [] then none
  else
    ((twoIntegers? (pieces (fun c => isTimes c || c = ',') s)).or (twoIntegers? (words s))).map
      fun (x, y) => ⟨x, y⟩

/-- Reads a size such as `3x4`. -/
def Size.parse? (text : String) : Option Size :=
  match twoIntegers? (pieces isTimes text.toList) with
  | some (w, h) =>
    if w ≤ 0 || h ≤ 0 then none
    else some ⟨UInt32.ofNat w.toInt.toNat, UInt32.ofNat h.toInt.toNat⟩
  | none => none

def Position.text (p : Position) : String := ofInteger p.x.toInt ++ "x" ++ ofInteger p.y.toInt

end Tilemap
