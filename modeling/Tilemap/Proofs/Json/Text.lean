import Tilemap.MapFiles
import Tilemap.Proofs.Json.Numbers
import Tilemap.Proofs.Json.Strings

/-!
# Texts of values

The tree of a value has its strings, its numbers and its entries as they are written. Whatever the
value, its text is read as its tree: `Raw.parse?_document`.

`Reads`, `ReadsItems` and `ReadsEntries` say what the readers take and leave. Their rules follow the
grammar, so the induction over a value never looks into a reader.
-/

namespace Tilemap

/-- The tree of a number; one that is not finite is written as `null`. -/
def Number.raw (n : Number) : Json.Raw :=
  match Json.readNumber? n.chars with
  | some (literal, _) => .number literal
  | none => .null

namespace Json

mutual

def raw : Json → Raw
  | .null => .null
  | .bool b => .bool b
  | .number n => n.raw
  | .string s => .string (glyphsOf s)
  | .array items => .array (rawItems items)
  | .object entries => .object (rawEntries entries)

def rawItems : List Json → List Raw
  | [] => []
  | j :: rest => j.raw :: rawItems rest

def rawEntries : List (String × Json) → List (List Glyph × Raw)
  | [] => []
  | (k, j) :: rest => (glyphsOf k, j.raw) :: rawEntries rest

end

/-! ### Readers -/

/-- What a reader takes and what it leaves. -/
def forget {α : Type} {s : List Char} (read : Option (α × Rest s)) : Option (α × List Char) :=
  read.map fun p => (p.1, p.2.1)

/-- What is left after a value is shorter than the text. -/
theorem forget_eq_some {α : Type} {s : List Char} {read : Option (α × Rest s)} {a : α}
    {rest : List Char} (h : forget read = some (a, rest)) :
    ∃ hlt, read = some (a, ⟨rest, hlt⟩) := by
  obtain ⟨⟨a', ⟨rest', hlt⟩⟩, hread, heq⟩ := Option.map_eq_some_iff.mp h
  obtain ⟨rfl, rfl⟩ := Prod.mk.injEq .. ▸ heq
  exact ⟨hlt, hread⟩

/-- A value is read from a text. -/
def Reads (s : List Char) (r : Raw) (rest : List Char) : Prop :=
  forget (readValue? s) = some (r, rest)

/-- Items are read from a text, with the closing bracket. -/
def ReadsItems (s : List Char) (items : List Raw) (rest : List Char) : Prop :=
  forget (readItems? s) = some (items, rest)

/-- Entries are read from a text, with the closing bracket. -/
def ReadsEntries (s : List Char) (entries : List (List Glyph × Raw)) (rest : List Char) : Prop :=
  forget (readEntries? s) = some (entries, rest)

/-- A key, a colon and a value are read from a text. -/
def ReadsEntry (s : List Char) (key : List Glyph) (r : Raw) (rest : List Char) : Prop :=
  ∃ afterQuote afterKey afterColon, skipSpace s = '"' :: afterQuote ∧
    readGlyphs? afterQuote = some (key, afterKey) ∧ skipSpace afterKey = ':' :: afterColon ∧
      Reads afterColon r rest

section Rules

variable {s tail mid rest : List Char}

theorem reads_null (h : skipSpace s = "null".toList ++ rest) : Reads s .null rest := by
  rw [Reads, readValue?]
  split <;> simp_all [forget]

theorem reads_bool {b : Bool} (h : skipSpace s = boolChars b ++ rest) : Reads s (.bool b) rest := by
  rw [Reads, readValue?]
  cases b <;> split <;> simp_all [forget, boolChars]

theorem reads_number {c : Char} {literal : NumberLiteral} (h : skipSpace s = c :: tail)
    (hc : c = '-' ∨ c.isDigit) (hn : readNumber? (c :: tail) = some (literal, rest)) :
    Reads s (.number literal) rest := by
  have hstart : ∀ d ∈ ['n', 't', 'f', '"', '[', '\x7b'], d ≠ c := by
    rintro d hd rfl
    simp only [List.mem_cons, List.not_mem_nil, or_false] at hd
    rcases hd with rfl | rfl | rfl | rfl | rfl | rfl <;> exact absurd hc (by decide)
  rw [Reads, readValue?]
  split <;> simp_all
  split <;> rename_i hread <;> rw [h, hn] at hread <;> simp_all [forget]

theorem reads_string {glyphs : List Glyph} (h : skipSpace s = '"' :: tail)
    (hg : readGlyphs? tail = some (glyphs, rest)) : Reads s (.string glyphs) rest := by
  rw [Reads, readValue?]
  split <;> simp_all
  subst h
  split <;> simp_all [forget]

theorem reads_array_nil (h : skipSpace s = '[' :: tail) (ht : skipSpace tail = ']' :: rest) :
    Reads s (.array []) rest := by
  rw [Reads, readValue?]
  split <;> simp_all
  subst h
  split <;> simp_all [forget]

/-- An array with items is read if its items are. -/
theorem reads_array {items : List Raw} (h : skipSpace s = '[' :: tail)
    (ht : ∀ r, skipSpace tail ≠ ']' :: r) (hi : ReadsItems tail items rest) :
    Reads s (.array items) rest := by
  obtain ⟨hlt, hitems⟩ := forget_eq_some hi
  rw [Reads, readValue?]
  split <;> simp_all
  subst h
  rw [hitems]
  rfl

theorem reads_object_nil (h : skipSpace s = '\x7b' :: tail)
    (ht : skipSpace tail = '\x7d' :: rest) : Reads s (.object []) rest := by
  rw [Reads, readValue?]
  split <;> simp_all
  subst h
  split <;> simp_all [forget]

/-- An object with entries is read if its entries are. -/
theorem reads_object {entries : List (List Glyph × Raw)} (h : skipSpace s = '\x7b' :: tail)
    (ht : ∀ r, skipSpace tail ≠ '\x7d' :: r) (he : ReadsEntries tail entries rest) :
    Reads s (.object entries) rest := by
  obtain ⟨hlt, hentries⟩ := forget_eq_some he
  rw [Reads, readValue?]
  split <;> simp_all
  subst h
  rw [hentries]
  rfl

theorem readsItems_last {r : Raw} (h : Reads s r tail) (ht : skipSpace tail = ']' :: rest) :
    ReadsItems s [r] rest := by
  obtain ⟨hlt, hvalue⟩ := forget_eq_some h
  rw [ReadsItems, readItems?, hvalue]
  dsimp only
  split <;> simp_all [forget]

/-- An item with a comma behind it is read before the others. -/
theorem readsItems_cons {r : Raw} {items : List Raw} (h : Reads s r tail)
    (ht : skipSpace tail = ',' :: mid) (hi : ReadsItems mid items rest) :
    ReadsItems s (r :: items) rest := by
  obtain ⟨hlt, hvalue⟩ := forget_eq_some h
  obtain ⟨hlt', hitems⟩ := forget_eq_some hi
  rw [ReadsItems, readItems?, hvalue]
  dsimp only
  split <;> simp_all
  subst ht
  rw [hitems]
  rfl

theorem readsEntries_last {key : List Glyph} {r : Raw} (h : ReadsEntry s key r tail)
    (ht : skipSpace tail = '\x7d' :: rest) : ReadsEntries s [(key, r)] rest := by
  obtain ⟨afterQuote, afterKey, afterColon, hs, hk, hc, hv⟩ := h
  obtain ⟨hlt, hvalue⟩ := forget_eq_some hv
  rw [ReadsEntries, readEntries?]
  split <;> simp_all
  subst hs
  split <;> simp_all
  obtain ⟨rfl, rfl⟩ := hk
  split <;> simp_all
  subst hc
  rw [hvalue]
  dsimp only
  split <;> simp_all [forget]

theorem readsEntries_cons {key : List Glyph} {r : Raw} {entries : List (List Glyph × Raw)}
    (h : ReadsEntry s key r tail) (ht : skipSpace tail = ',' :: mid)
    (he : ReadsEntries mid entries rest) : ReadsEntries s ((key, r) :: entries) rest := by
  obtain ⟨afterQuote, afterKey, afterColon, hs, hk, hc, hv⟩ := h
  obtain ⟨hlt, hvalue⟩ := forget_eq_some hv
  obtain ⟨hlt', hentries⟩ := forget_eq_some he
  rw [ReadsEntries, readEntries?]
  split <;> simp_all
  subst hs
  split <;> simp_all
  obtain ⟨rfl, rfl⟩ := hk
  split <;> simp_all
  subst hc
  rw [hvalue]
  dsimp only
  split <;> simp_all
  subst ht
  rw [hentries]
  rfl

end Rules

/-! ### Blanks between the elements -/

theorem skipSpace_newline_append (depth : Nat) (s : List Char) :
    skipSpace (newline depth ++ s) = skipSpace s := by
  have hspace : ∀ c ∈ newline depth, isSpace c = true := by
    intro c hc
    rcases List.mem_cons.mp hc with rfl | hc
    · rfl
    · rw [List.eq_of_mem_replicate hc]
      rfl
  rw [skipSpace, List.dropWhile_append_of_pos hspace, skipSpace]

theorem skipSpace_cons {c : Char} (h : isSpace c = false) (s : List Char) :
    skipSpace (c :: s) = c :: s := by
  rw [skipSpace, List.dropWhile_cons_of_neg (by simp [h])]

theorem endsNumber_newline_append (depth : Nat) (s : List Char) :
    EndsNumber (newline depth ++ s) := by
  intro c hc
  obtain rfl : '\n' = c := by simpa [newline] using hc
  decide

theorem endsNumber_cons {c : Char} (h : c.isDigit = false ∧ c ≠ '.' ∧ c ≠ 'e' ∧ c ≠ 'E')
    (s : List Char) : EndsNumber (c :: s) := by
  rintro d ⟨⟩
  exact h

/-! ### Numbers -/

/-- The first character of a number tells that it is one. -/
theorem exists_chars_eq_cons {literal : NumberLiteral} (h : literal.WellFormed) :
    ∃ c cs, literal.chars = c :: cs ∧ (c = '-' ∨ c.isDigit) := by
  obtain ⟨negative, whole, fraction, exponent⟩ := literal
  obtain ⟨hne, hall⟩ := h.whole.digits
  obtain ⟨c, cs, rfl⟩ := List.exists_cons_of_ne_nil hne
  cases negative with
  | true => exact ⟨'-', _, rfl, .inl rfl⟩
  | false => exact ⟨c, _, rfl, .inr (hall c List.mem_cons_self)⟩

theorem raw_of_literal {n : Number} {literal : NumberLiteral} (h : literal.WellFormed)
    (htext : literal.chars = n.chars) : n.raw = .number literal := by
  have hend : EndsNumber [] := by simp [EndsNumber]
  have hread := readNumber?_append h hend
  rw [List.append_nil, htext] at hread
  rw [Number.raw, hread]

theorem raw_of_not_finite {n : Number} (h : n.isFinite = false) : n.raw = .null := by
  rw [Number.raw, Number.chars_of_not_finite h]
  rfl

/-- A number is read back up to what ends it. -/
theorem reads_numberChars {n : Number} {s rest : List Char} (hs : skipSpace s = n.chars ++ rest)
    (hrest : EndsNumber rest) : Reads s n.raw rest := by
  cases hfinite : n.isFinite with
  | true =>
    obtain ⟨literal, hliteral, htext⟩ := Number.exists_literal hfinite
    obtain ⟨c, cs, hcons, hc⟩ := exists_chars_eq_cons hliteral
    have hread := readNumber?_append hliteral hrest
    rw [raw_of_literal hliteral htext]
    rw [hcons, List.cons_append] at hread
    rw [← htext, hcons, List.cons_append] at hs
    exact reads_number hs hc hread
  | false =>
    rw [raw_of_not_finite hfinite]
    rw [Number.chars_of_not_finite hfinite] at hs
    exact reads_null hs

/-! ### Values -/

theorem isSpace_of_isDigit {c : Char} (h : c.isDigit) : isSpace c = false := by
  simp only [isSpace, Bool.or_eq_false_iff, decide_eq_false_iff_not]
  refine ⟨⟨⟨?_, ?_⟩, ?_⟩, ?_⟩ <;>
  · rintro rfl
    exact absurd h (by decide)

/-- A value starts with a character that is no blank and closes no bracket. -/
theorem exists_prettyChars_eq_cons (depth : Nat) (j : Json) :
    ∃ c cs, j.prettyChars depth = c :: cs ∧ isSpace c = false ∧ c ≠ ']' := by
  cases j with
  | null => exact ⟨'n', _, rfl, by decide⟩
  | bool b => cases b with
    | true => exact ⟨'t', _, rfl, by decide⟩
    | false => exact ⟨'f', _, rfl, by decide⟩
  | number n =>
    rw [prettyChars]
    cases hfinite : n.isFinite with
    | true =>
      obtain ⟨literal, hliteral, htext⟩ := Number.exists_literal hfinite
      obtain ⟨c, cs, hcons, hc⟩ := exists_chars_eq_cons hliteral
      refine ⟨c, cs, htext ▸ hcons, ?_⟩
      rcases hc with rfl | hc
      · decide
      · refine ⟨isSpace_of_isDigit hc, ?_⟩
        rintro rfl
        exact absurd hc (by decide)
    | false => exact ⟨'n', _, Number.chars_of_not_finite hfinite, by decide⟩
  | string s => exact ⟨'"', _, rfl, by decide⟩
  | array items => cases items with
    | nil => exact ⟨'[', _, rfl, by decide⟩
    | cons j rest => exact ⟨'[', _, rfl, by decide⟩
  | object entries => cases entries with
    | nil => exact ⟨'\x7b', _, rfl, by decide⟩
    | cons e rest => exact ⟨'\x7b', _, rfl, by decide⟩

/-- A value starts with no blank. -/
theorem skipSpace_prettyChars_append (depth : Nat) (j : Json) (rest : List Char) :
    skipSpace (j.prettyChars depth ++ rest) = j.prettyChars depth ++ rest := by
  obtain ⟨c, cs, hcons, hc, -⟩ := exists_prettyChars_eq_cons depth j
  rw [hcons, List.cons_append, skipSpace_cons hc]

theorem endsNumber_prettyItems_append (depth : Nat) (items : List Json) (rest : List Char) :
    EndsNumber (prettyItems depth items ++ rest) := by
  cases items with
  | nil =>
    rw [prettyItems, List.append_assoc]
    exact endsNumber_newline_append depth _
  | cons j items => exact endsNumber_cons (by decide) _

theorem endsNumber_prettyEntries_append (depth : Nat) (entries : List (String × Json))
    (rest : List Char) : EndsNumber (prettyEntries depth entries ++ rest) := by
  cases entries with
  | nil =>
    rw [prettyEntries, List.append_assoc]
    exact endsNumber_newline_append depth _
  | cons e entries => exact endsNumber_cons (by decide) _

/-- A key is read back up to its closing quote. -/
theorem readGlyphs?_quote (k : String) (rest : List Char) :
    ∃ afterQuote, quote k ++ rest = '"' :: afterQuote ∧
      readGlyphs? afterQuote = some (glyphsOf k, rest) := by
  refine ⟨k.toList.flatMap escape ++ '"' :: rest, by simp [quote], ?_⟩
  exact readGlyphs?_flatMap_escape k.toList rest

/-- A value on a line of its own. -/
theorem skipSpace_line (depth : Nat) (j : Json) (after rest : List Char) :
    skipSpace (newline depth ++ j.prettyChars depth ++ after ++ rest) =
      j.prettyChars depth ++ (after ++ rest) := by
  rw [List.append_assoc, List.append_assoc, skipSpace_newline_append,
    skipSpace_prettyChars_append]

/-- An entry on a line of its own. -/
theorem readsEntry_line (depth : Nat) (k : String) {j : Json} {after rest : List Char}
    (h : ∀ s, skipSpace s = j.prettyChars depth ++ (after ++ rest) →
      Reads s j.raw (after ++ rest)) :
    ReadsEntry (newline depth ++ quote k ++ ':' :: ' ' :: j.prettyChars depth ++ after ++ rest)
      (glyphsOf k) j.raw (after ++ rest) := by
  obtain ⟨afterQuote, hquote, hread⟩ :=
    readGlyphs?_quote k (':' :: ' ' :: (j.prettyChars depth ++ (after ++ rest)))
  have hstart : skipSpace
      (newline depth ++ quote k ++ ':' :: ' ' :: j.prettyChars depth ++ after ++ rest) =
        '"' :: afterQuote := by
    simp only [List.append_assoc, List.cons_append, skipSpace_newline_append]
    rw [hquote]
    exact skipSpace_cons (by decide) afterQuote
  refine ⟨afterQuote, _, _, hstart, hread, skipSpace_cons (by decide) _, h _ ?_⟩
  exact skipSpace_prettyChars_append depth j (after ++ rest)

mutual

/-- Every value is read back as its tree, whatever it is indented by. -/
theorem reads_prettyChars (j : Json) (depth : Nat) {s rest : List Char}
    (hs : skipSpace s = j.prettyChars depth ++ rest) (hrest : EndsNumber rest) :
    Reads s j.raw rest := by
  match j with
  | .null => exact reads_null hs
  | .bool b => exact reads_bool hs
  | .number n => exact reads_numberChars hs hrest
  | .string text =>
    obtain ⟨afterQuote, hquote, hread⟩ := readGlyphs?_quote text rest
    exact reads_string (hs.trans hquote) hread
  | .array [] => exact reads_array_nil hs (skipSpace_cons (by decide) rest)
  | .array (j :: items) =>
    have hfirst := skipSpace_line (depth + 1) j (prettyItems depth items) rest
    refine reads_array hs (fun r hr => ?_) (readsItems_prettyItems items depth ?_)
    · obtain ⟨c, cs, hcons, -, hc⟩ := exists_prettyChars_eq_cons (depth + 1) j
      have hhead := hfirst.symm.trans hr
      rw [hcons, List.cons_append, List.cons.injEq] at hhead
      exact hc hhead.1
    · exact reads_prettyChars j (depth + 1) hfirst (endsNumber_prettyItems_append depth items rest)
  | .object [] => exact reads_object_nil hs (skipSpace_cons (by decide) rest)
  | .object ((k, j) :: entries) =>
    have hentry := readsEntry_line (depth + 1) k fun s hs =>
      reads_prettyChars j (depth + 1) hs (endsNumber_prettyEntries_append depth entries rest)
    refine reads_object hs (fun r hr => ?_) (readsEntries_prettyEntries entries depth hentry)
    obtain ⟨afterQuote, -, -, hquote, -⟩ := hentry
    have hhead := hquote.symm.trans hr
    simp at hhead

/-- The items after one that is read. -/
theorem readsItems_prettyItems (items : List Json) (depth : Nat) {s rest : List Char} {r : Raw}
    (h : Reads s r (prettyItems depth items ++ rest)) :
    ReadsItems s (r :: rawItems items) rest := by
  match items with
  | [] =>
    refine readsItems_last h ?_
    rw [prettyItems, List.append_assoc, skipSpace_newline_append]
    exact skipSpace_cons (by decide) rest
  | j :: items =>
    refine readsItems_cons h (skipSpace_cons (by decide) _) (readsItems_prettyItems items depth ?_)
    exact reads_prettyChars j (depth + 1) (skipSpace_line (depth + 1) j _ rest)
      (endsNumber_prettyItems_append depth items rest)

/-- The entries after one that is read. -/
theorem readsEntries_prettyEntries (entries : List (String × Json)) (depth : Nat)
    {s rest : List Char} {key : List Glyph} {r : Raw}
    (h : ReadsEntry s key r (prettyEntries depth entries ++ rest)) :
    ReadsEntries s ((key, r) :: rawEntries entries) rest := by
  match entries with
  | [] =>
    refine readsEntries_last h ?_
    rw [prettyEntries, List.append_assoc, skipSpace_newline_append]
    exact skipSpace_cons (by decide) rest
  | (k, j) :: entries =>
    refine readsEntries_cons h (skipSpace_cons (by decide) _)
      (readsEntries_prettyEntries entries depth ?_)
    exact readsEntry_line (depth + 1) k fun s hs =>
      reads_prettyChars j (depth + 1) hs (endsNumber_prettyEntries_append depth entries rest)

end

/-- The content of the file of a value is read as the tree of the value. -/
theorem Raw.parse?_document (j : Json) : Raw.parse? j.document = some j.raw := by
  have htext : j.document.toList = j.prettyChars 0 ++ ['\n'] := by
    simp [document, pretty, String.toList_append]
  have hstart : skipSpace j.document.toList = j.prettyChars 0 ++ ['\n'] := by
    rw [htext, skipSpace_prettyChars_append]
  obtain ⟨hlt, hvalue⟩ := forget_eq_some <|
    reads_prettyChars j 0 hstart (endsNumber_cons (by decide) [])
  rw [Raw.parse?, hvalue]
  rfl

end Json

end Tilemap
