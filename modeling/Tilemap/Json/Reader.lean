import Tilemap.Json.Raw

/-!
# Reading JSON text

The strict grammar of JSON: no byte order mark, no trailing comma, no leading zero, no control
character inside a string, and nothing after the value but blanks. Every reader returns what is left
of the text together with the fact that it is shorter, which bounds the recursion.
-/

namespace Tilemap.Json

/-- What a reader leaves of `s` after it has taken something. -/
abbrev Rest (s : List Char) := { r : List Char // r.length < s.length }

/-- The characters allowed between the elements of a text. -/
def isSpace (c : Char) : Bool := c = ' ' || c = '\n' || c = '\t' || c = '\r'

def skipSpace (s : List Char) : List Char := s.dropWhile isSpace

theorem length_skipSpace_le (s : List Char) : (skipSpace s).length ≤ s.length :=
  (List.dropWhile_sublist isSpace).length_le

/-! ### Strings -/

/-- The value of a digit of base sixteen, of either case. -/
def hexValue? (c : Char) : Option Nat :=
  if c.isDigit then some (c.toNat - '0'.toNat)
  else if 'a' ≤ c && c ≤ 'f' then some (c.toNat - 'a'.toNat + 10)
  else if 'A' ≤ c && c ≤ 'F' then some (c.toNat - 'A'.toNat + 10)
  else none

def codeUnit? (a b c d : Char) : Option Nat := do
  let a ← hexValue? a
  let b ← hexValue? b
  let c ← hexValue? c
  let d ← hexValue? d
  return ((a * 16 + b) * 16 + c) * 16 + d

/-- The character that a letter stands for after a backslash. -/
def shortEscape? (c : Char) : Option Char :=
  if c = '"' || c = '\\' || c = '/' then some c
  else if c = 'b' then some '\x08'
  else if c = 'f' then some '\x0c'
  else if c = 'n' then some '\n'
  else if c = 'r' then some '\r'
  else if c = 't' then some '\t'
  else none

/-- Reads a string after its opening quote, with its closing quote. -/
def readGlyphs? : List Char → Option (List Glyph × List Char)
  | [] => none
  | '"' :: rest => some ([], rest)
  | '\\' :: 'u' :: a :: b :: c :: d :: rest =>
    match codeUnit? a b c d, readGlyphs? rest with
    | some code, some (glyphs, tail) => some (.unit code :: glyphs, tail)
    | _, _ => none
  | '\\' :: c :: rest =>
    match shortEscape? c, readGlyphs? rest with
    | some e, some (glyphs, tail) => some (.char e :: glyphs, tail)
    | _, _ => none
  | c :: rest =>
    if c.toNat < 0x20 then none
    else match readGlyphs? rest with
      | some (glyphs, tail) => some (.char c :: glyphs, tail)
      | none => none

/-- A string takes at least its closing quote, so reading goes on with a shorter text. -/
theorem length_readGlyphs? {s : List Char} {glyphs : List Glyph} {tail : List Char}
    (h : readGlyphs? s = some (glyphs, tail)) : tail.length < s.length := by
  fun_induction readGlyphs? s generalizing glyphs tail <;> simp_all <;> omega

/-! ### Numbers -/

def readDigits? (s : List Char) : Option (List Char × List Char) :=
  match s.takeWhile Char.isDigit with
  | [] => none
  | digits => some (digits, s.dropWhile Char.isDigit)

/-- Reads a fraction; a point needs a digit behind it. -/
def readFraction? (s : List Char) : Option (Option (List Char) × List Char) :=
  match s with
  | '.' :: rest => (readDigits? rest).map fun (digits, tail) => (some digits, tail)
  | _ => some (none, s)

/-- Reads an exponent; its letter needs a digit behind it. -/
def readExponent? (s : List Char) : Option (Option (Bool × List Char) × List Char) :=
  match s with
  | c :: rest =>
    if c = 'e' || c = 'E' then
      let (negative, unsigned) := match rest with
        | '-' :: r => (true, r)
        | '+' :: r => (false, r)
        | r => (false, r)
      (readDigits? unsigned).map fun (digits, tail) => (some (negative, digits), tail)
    else some (none, s)
  | [] => some (none, s)

/-- Reads the digits before a point; a zero stands alone. -/
def readWhole? (s : List Char) : Option (List Char × List Char) :=
  match readDigits? s with
  | some ('0' :: _ :: _, _) => none
  | other => other

/-- Reads a number. -/
def readNumber? (s : List Char) : Option (NumberLiteral × List Char) := do
  let (negative, unsigned) := match s with
    | '-' :: rest => (true, rest)
    | _ => (false, s)
  let (whole, afterWhole) ← readWhole? unsigned
  let (fraction, afterFraction) ← readFraction? afterWhole
  let (exponent, tail) ← readExponent? afterFraction
  return (⟨negative, whole, fraction, exponent⟩, tail)

theorem length_readDigits? {s digits tail : List Char} (h : readDigits? s = some (digits, tail)) :
    tail.length < s.length := by
  unfold readDigits? at h
  cases s with
  | nil => simp at h
  | cons c rest =>
    by_cases hc : c.isDigit
    · have := (List.dropWhile_sublist Char.isDigit (l := rest)).length_le
      simp [List.takeWhile, List.dropWhile, hc] at h
      obtain ⟨_, rfl⟩ := h
      simpa using Nat.lt_succ_of_le this
    · simp [List.takeWhile, hc] at h

theorem length_readFraction? {s tail : List Char} {fraction : Option (List Char)}
    (h : readFraction? s = some (fraction, tail)) : tail.length ≤ s.length := by
  unfold readFraction? at h
  split at h
  · obtain ⟨⟨digits, t⟩, hd, heq⟩ := Option.map_eq_some_iff.mp h
    have := length_readDigits? hd
    grind
  · grind

theorem length_readExponent? {s tail : List Char} {exponent : Option (Bool × List Char)}
    (h : readExponent? s = some (exponent, tail)) : tail.length ≤ s.length := by
  unfold readExponent? at h
  split at h
  · split at h
    · obtain ⟨⟨digits, t⟩, hd, heq⟩ := Option.map_eq_some_iff.mp h
      have := length_readDigits? hd
      grind
    · grind
  · grind

theorem length_readWhole? {s whole tail : List Char} (h : readWhole? s = some (whole, tail)) :
    tail.length < s.length := by
  unfold readWhole? at h
  split at h
  · simp at h
  · exact length_readDigits? h

theorem length_readNumber? {s tail : List Char} {n : NumberLiteral}
    (h : readNumber? s = some (n, tail)) : tail.length < s.length := by
  unfold readNumber? at h
  simp only [Option.bind_eq_bind, Option.bind_eq_some_iff, Option.pure_def, Option.some.injEq,
    Prod.mk.injEq, Prod.exists] at h
  obtain ⟨whole, r, hw, fraction, r', hf, exponent, r'', he, _, rfl⟩ := h
  have h1 := length_readWhole? hw
  have h2 := length_readFraction? hf
  have h3 := length_readExponent? he
  grind

/-! ### Values -/

mutual

/-- Reads a value and the blanks before it. -/
def readValue? (s : List Char) : Option (Raw × Rest s) :=
  match hs : skipSpace s with
  | 'n' :: 'u' :: 'l' :: 'l' :: rest => some (.null, ⟨rest, by grind [length_skipSpace_le s]⟩)
  | 't' :: 'r' :: 'u' :: 'e' :: rest =>
    some (.bool true, ⟨rest, by grind [length_skipSpace_le s]⟩)
  | 'f' :: 'a' :: 'l' :: 's' :: 'e' :: rest =>
    some (.bool false, ⟨rest, by grind [length_skipSpace_le s]⟩)
  | '"' :: rest =>
    match hg : readGlyphs? rest with
    | some (glyphs, tail) =>
      some (.string glyphs, ⟨tail, by grind [length_skipSpace_le s, length_readGlyphs? hg]⟩)
    | none => none
  | '[' :: rest =>
    match ht : skipSpace rest with
    | ']' :: tail =>
      some (.array [], ⟨tail, by grind [length_skipSpace_le s, length_skipSpace_le rest]⟩)
    | _ =>
      have : rest.length < s.length := by grind [length_skipSpace_le s]
      match readItems? rest with
      | some (items, ⟨tail, h⟩) => some (.array items, ⟨tail, by grind⟩)
      | none => none
  | '\x7b' :: rest =>
    match ht : skipSpace rest with
    | '\x7d' :: tail =>
      some (.object [], ⟨tail, by grind [length_skipSpace_le s, length_skipSpace_le rest]⟩)
    | _ =>
      have : rest.length < s.length := by grind [length_skipSpace_le s]
      match readEntries? rest with
      | some (entries, ⟨tail, h⟩) => some (.object entries, ⟨tail, by grind⟩)
      | none => none
  | other =>
    match hn : readNumber? other with
    | some (n, tail) =>
      some (.number n, ⟨tail, by grind [length_skipSpace_le s, length_readNumber? hn]⟩)
    | none => none
termination_by (s.length, 0)

/-- Reads one item or more with commas between them, and the closing bracket. -/
def readItems? (s : List Char) : Option (List Raw × Rest s) :=
  match readValue? s with
  | none => none
  | some (item, ⟨rest, h⟩) =>
    match ht : skipSpace rest with
    | ',' :: tail =>
      have : tail.length < s.length := by grind [length_skipSpace_le rest]
      match readItems? tail with
      | some (items, ⟨r, h'⟩) => some (item :: items, ⟨r, by grind⟩)
      | none => none
    | ']' :: tail => some ([item], ⟨tail, by grind [length_skipSpace_le rest]⟩)
    | _ => none
termination_by (s.length, 1)

/-- Reads one entry or more with commas between them, and the closing bracket. -/
def readEntries? (s : List Char) : Option (List (List Glyph × Raw) × Rest s) :=
  match hs : skipSpace s with
  | '"' :: rest =>
    match hg : readGlyphs? rest with
    | none => none
    | some (key, afterKey) =>
      match hc : skipSpace afterKey with
      | ':' :: rest' =>
        have : rest'.length < s.length := by
          grind [length_skipSpace_le s, length_readGlyphs? hg, length_skipSpace_le afterKey]
        match readValue? rest' with
        | none => none
        | some (value, ⟨rest'', h⟩) =>
          match ht : skipSpace rest'' with
          | ',' :: tail =>
            have : tail.length < s.length := by grind [length_skipSpace_le rest'']
            match readEntries? tail with
            | some (entries, ⟨r, h'⟩) => some ((key, value) :: entries, ⟨r, by grind⟩)
            | none => none
          | '\x7d' :: tail =>
            some ([(key, value)], ⟨tail, by grind [length_skipSpace_le rest'']⟩)
          | _ => none
      | _ => none
  | _ => none
termination_by (s.length, 1)

end

def Raw.parse? (text : String) : Option Raw :=
  match readValue? text.toList with
  | some (r, ⟨rest, _⟩) => if skipSpace rest = [] then some r else none
  | none => none

def parse? (text : String) : Option Json := (Raw.parse? text).bind (Raw.json? depthLimit)

end Tilemap.Json
