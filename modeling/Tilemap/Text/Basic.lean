/-!
# Blanks, pieces and integers in text

`isBlank` is the Unicode property `White_Space`; `isAsciiBlank` is the smaller class that may stand
before a trailing comment. Texts are trimmed and split into words by the first.

An integer is written as ASCII digits after an optional sign. The readers for fixed widths refuse
what does not fit instead of wrapping it.
-/

namespace Tilemap.Text

/-! ### Blanks -/

/-- Whether the code point of `c` lies in one of the closed ranges. -/
def inRanges (ranges : List (Nat × Nat)) (c : Char) : Bool :=
  ranges.any fun r => r.1 ≤ c.toNat && c.toNat ≤ r.2

def blankRanges : List (Nat × Nat) :=
  [
    (0x9, 0xd), (0x20, 0x20), (0x85, 0x85), (0xa0, 0xa0), (0x1680, 0x1680), (0x2000, 0x200a),
    (0x2028, 0x2029), (0x202f, 0x202f), (0x205f, 0x205f), (0x3000, 0x3000)]

/-- A character of the Unicode property `White_Space`. -/
def isBlank (c : Char) : Bool := inRanges blankRanges c

/-- Space, tab, line feed, form feed or carriage return; a vertical tab is not among them. -/
def isAsciiBlank (c : Char) : Bool :=
  c = ' ' || c = '\t' || c = '\n' || c = '\x0c' || c = '\r'

def trimStart (s : List Char) : List Char := s.dropWhile isBlank

def trimEnd : List Char → List Char
  | [] => []
  | c :: r => match trimEnd r with
    | [] => if isBlank c then [] else [c]
    | d :: t => c :: d :: t

def trim (s : List Char) : List Char := trimEnd (trimStart s)

/-- The pieces of a text between the characters of a class; a text without any is one piece. -/
def pieces (p : Char → Bool) : List Char → List (List Char)
  | [] => [[]]
  | c :: r =>
    if p c then [] :: pieces p r
    else match pieces p r with
      | [] => [[c]]
      | w :: ws => (c :: w) :: ws

/-- The maximal runs of characters that are not blank. -/
def words (s : List Char) : List (List Char) :=
  (pieces isBlank s).filter (· ≠ [])

/-- Cuts at the first occurrence of `sep`, which belongs to neither part. -/
def cut? (sep : List Char) : List Char → Option (List Char × List Char)
  | [] => if sep = [] then some ([], []) else none
  | c :: r =>
    if sep.isPrefixOf (c :: r) then some ([], (c :: r).drop sep.length)
    else (cut? sep r).map fun (a, b) => (c :: a, b)

/-- Replaces every occurrence of the text `p :: ps`, from left to right and without overlaps. -/
def replaceAll (p : Char) (ps new : List Char) : List Char → List Char
  | [] => []
  | c :: r =>
    if (p :: ps).isPrefixOf (c :: r) then new ++ replaceAll p ps new (r.drop ps.length)
    else c :: replaceAll p ps new r
termination_by s => s.length

def trimmed (s : String) : String := String.ofList (trim s.toList)

/-- A text without the blanks at its ends, unless nothing is left. -/
def nonBlank? (s : String) : Option String :=
  match trim s.toList with
  | [] => none
  | cs => some (String.ofList cs)

/-- The ASCII capitals of a text made small. -/
def asciiLower (s : List Char) : List Char := s.map Char.toLower

/-! ### Integers -/

def digitValue (c : Char) : Nat := c.toNat - '0'.toNat

def digitsValue (s : List Char) : Nat := s.foldl (fun n c => 10 * n + digitValue c) 0

/-- Reads a row of at least one digit. -/
def natural? (s : List Char) : Option Nat :=
  if s ≠ [] && s.all Char.isDigit then some (digitsValue s) else none

/-- Reads digits after an optional sign. -/
def integer? : List Char → Option Int
  | '-' :: r => (natural? r).map fun n => -(n : Int)
  | '+' :: r => (natural? r).map Int.ofNat
  | s => (natural? s).map Int.ofNat

/-- The integer as a word of 32 bits, if it fits. -/
def fit32? (n : Int) : Option Int32 :=
  if Int32.minValue.toInt ≤ n && n ≤ Int32.maxValue.toInt then some (Int32.ofInt n) else none

def int32? (s : List Char) : Option Int32 := (integer? s).bind fit32?

/-- Reads an integer that fits into 64 bits. -/
def int64? (s : List Char) : Option Int :=
  (integer? s).filter fun n => Int64.minValue.toInt ≤ n && n ≤ Int64.maxValue.toInt

def ofNatural (n : Nat) : String := Nat.repr n

/-- The digits of an integer, after a minus sign when it is negative. -/
def ofInteger : Int → String
  | .ofNat n => ofNatural n
  | .negSucc n => "-" ++ ofNatural (n + 1)

/-! ### Small laws -/

@[simp] theorem trimEnd_nil : trimEnd [] = [] := rfl

@[simp] theorem trim_nil : trim [] = [] := rfl

theorem pieces_ne_nil (p : Char → Bool) (s : List Char) : pieces p s ≠ [] := by
  cases s with
  | nil => simp [pieces]
  | cons c r =>
    unfold pieces
    split
    · simp
    · split <;> simp

end Tilemap.Text
