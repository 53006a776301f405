import Tilemap.Text.Basic
import Tilemap.Text.Letter

/-!
# Scanner

A cursor over the characters of a line. Every operation says what it took and leaves a scanner for
the rest.
-/

namespace Tilemap

/-- The characters that are still to be read. -/
structure Scanner where
  rest : List Char
  deriving Repr, DecidableEq

namespace Scanner

def ofText (text : String) : Scanner := ⟨text.toList⟩

def peek? (s : Scanner) : Option Char := s.rest.head?

def next (s : Scanner) : Option Char × Scanner := (s.rest.head?, ⟨s.rest.tail⟩)

def eat (s : Scanner) (c : Char) : Bool × Scanner :=
  match s.rest with
  | d :: rest => if d = c then (true, ⟨rest⟩) else (false, s)
  | [] => (false, s)

def takeWhile (s : Scanner) (p : Char → Bool) : List Char × Scanner :=
  (s.rest.takeWhile p, ⟨s.rest.dropWhile p⟩)

/-- Takes a run of blanks and says whether there were any. -/
def skipBlanks (s : Scanner) : Bool × Scanner :=
  ((s.takeWhile Text.isBlank).1 ≠ [], (s.takeWhile Text.isBlank).2)

/-- Takes a run of ASCII digits. -/
def digits (s : Scanner) : List Char × Scanner := s.takeWhile Char.isDigit

/-- Takes a run of letters of any script. -/
def letters (s : Scanner) : List Char × Scanner := s.takeWhile Text.isLetter

def atEnd (s : Scanner) : Bool := s.rest.isEmpty

/-- Takes everything that is left. -/
def remaining (s : Scanner) : List Char × Scanner := (s.rest, ⟨[]⟩)

theorem takeWhile_append (s : Scanner) (p : Char → Bool) :
    (s.takeWhile p).1 ++ (s.takeWhile p).2.rest = s.rest :=
  List.takeWhile_append_dropWhile

end Scanner

end Tilemap
