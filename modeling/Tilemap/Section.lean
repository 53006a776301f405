import Tilemap.Text.Basic
import Tilemap.Text.Lowercase

/-!
# Sections of a map text

A map text is split into sections by header lines such as `[Layer Ground]`. A section is named by
the key of its header, and sections with the same key are one. What stands before the first header
belongs to the section `meta`. Nothing is interpreted here: a line keeps its text as written and the
text that is left without its comment.
-/

namespace Tilemap

open Text

/-! ### Comments -/

def isHexDigit (c : Char) : Bool :=
  c.isDigit || ('a' ≤ c && c ≤ 'f') || ('A' ≤ c && c ≤ 'F')

/-- A `#` opens a comment unless a digit of base sixteen follows, as in a colour. -/
def opensComment : List Char → Bool
  | '#' :: c :: _ => !isHexDigit c
  | ['#'] => true
  | _ => false

/-- What stands before the first comment that follows an ASCII blank, if there is one. -/
def beforeComment? : List Char → Option (List Char)
  | [] => none
  | c :: rest =>
    if isAsciiBlank c && opensComment rest then some [c]
    else (beforeComment? rest).map (c :: ·)

/-- The text without a trailing comment and the blanks before it. -/
def stripCommentChars (s : List Char) : List Char :=
  match beforeComment? s with
  | some before => trimEnd before
  | none => s

def stripComment (text : String) : String := String.ofList (stripCommentChars text.toList)

/-! ### Lines -/

/-- A line of a section. -/
structure Line where
  /-- The place of the line in the text, counted from one. -/
  number : Nat
  /-- The trimmed text. -/
  raw : String
  /-- The text without its comment, unless the whole line is one. -/
  code : Option String
  deriving Repr, DecidableEq

/-- The text without a trailing comment, even if it starts like a comment. -/
def Line.uncommented (l : Line) : String := stripComment l.raw

/-- A line of a text that is not blank. -/
inductive Item where
  | header (name : String)
  | line (l : Line)
  deriving Repr, DecidableEq

/-- The name in a header: one pair of brackets around the whole text with something else inside. -/
def headerName? (s : List Char) : Option (List Char) :=
  match s with
  | '[' :: rest =>
    match rest.getLast? with
    | some ']' =>
      let name := rest.dropLast
      if name = [] || name.contains ']' then none else some name
    | _ => none
  | _ => none

/-- The code of a trimmed text: nothing if it starts with `#`, and else what its comment leaves. -/
def codeOf? (s : List Char) : Option (List Char) :=
  match s with
  | '#' :: _ => none
  | _ =>
    match stripCommentChars s with
    | [] => none
    | code => some code

/-- Classifies the line with a number, unless it is blank. -/
def Item.of? (number : Nat) (text : List Char) : Option Item :=
  match trim text with
  | [] => none
  | raw =>
    let code := codeOf? raw
    match code.bind headerName? with
    | some name => some (.header (String.ofList (trim name)))
    | none => some (.line ⟨number, String.ofList raw, code.map String.ofList⟩)

/-- The lines of a text that are not blank, numbered from one. -/
def itemsOf (text : String) : List Item :=
  ((pieces (· = '\n') text.toList).zipIdx 1).filterMap fun (s, n) => Item.of? n s

/-! ### Sections -/

/-- The key of the section before the first header. -/
def metaKey : String := "meta"

/-- The key of a header: its runs of Latin letters and digits in small letters, joined by `_`. -/
def sectionKey (name : String) : String :=
  let isKeyChar := fun (c : Char) => c.isLower || c.isDigit
  match (pieces (fun c => !isKeyChar c) (name.toList.flatMap lowerChar)).filter (· ≠ []) with
  | [] => metaKey
  | ws => String.ofList (['_'].intercalate ws)

/-- The lines under one key. -/
structure Section where
  key : String
  /-- The name in the first header. -/
  title : String
  lines : List Line
  deriving Repr, DecidableEq

/-- The lines that are not comments, with their code. -/
def Section.codeLines (s : Section) : List (Line × String) :=
  s.lines.filterMap fun l => l.code.map (l, ·)

/-- The lines of a text, each with the key of its section. -/
def keyedLines (current : String) : List Item → List (String × Line)
  | [] => []
  | .header name :: rest => keyedLines (sectionKey name) rest
  | .line l :: rest => (current, l) :: keyedLines current rest

/-- The keys and titles of the sections: `meta` first, then each key at its first header. -/
def titles (items : List Item) : List (String × String) :=
  items.foldl (fun found item => match item with
    | .header name =>
      let key := sectionKey name
      if (found.lookup key).isSome then found else found ++ [(key, name)]
    | .line _ => found) [(metaKey, "Meta")]

/-- The sections of a text. -/
def splitSections (text : String) : List Section :=
  let items := itemsOf text
  let lines := keyedLines metaKey items
  (titles items).map fun (key, title) =>
    ⟨key, title, (lines.filter (·.1 = key)).map (·.2)⟩

def findSection? (sections : List Section) (key : String) : Option Section :=
  sections.find? (·.key = key)

/-- The sections whose key starts with a text. -/
def sectionsStarting (sections : List Section) (start : String) : List Section :=
  sections.filter fun s => start.toList.isPrefixOf s.key.toList

end Tilemap
