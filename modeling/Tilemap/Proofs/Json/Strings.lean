import Tilemap.Json.Printer
import Tilemap.Json.Reader

/-!
# Strings that are written and read

A string is written character by character, each as one element of the string that is read. The
elements stand for the same characters, since only control characters become code units and these
are no halves of surrogate pairs.
-/

namespace Tilemap.Json

def Glyph.ofChar (c : Char) : Glyph :=
  if c.toNat < 0x20 && c ∉ ['\n', '\r', '\t', '\x08', '\x0c'] then .unit c.toNat else .char c

def glyphsOf (s : String) : List Glyph := s.toList.map Glyph.ofChar

/-! ### Reading what is written -/

/-- A backslash and a letter are read as one character. -/
theorem readGlyphs?_short {e c : Char} (h : shortEscape? e = some c) (s : List Char) :
    readGlyphs? ('\\' :: e :: s) =
      (readGlyphs? s).map fun read => (.char c :: read.1, read.2) := by
  have hu : e ≠ 'u' := by
    rintro rfl
    simp [shortEscape?] at h
  rw [readGlyphs?, h]
  · cases readGlyphs? s <;> rfl
  · exact fun _ _ _ _ _ heq => absurd heq hu

/-- A code unit below 256 is read from its two last digits. -/
theorem readGlyphs?_unit {a b : Char} {code : Nat} (h : codeUnit? '0' '0' a b = some code)
    (s : List Char) :
    readGlyphs? ('\\' :: 'u' :: '0' :: '0' :: a :: b :: s) =
      (readGlyphs? s).map fun read => (.unit code :: read.1, read.2) := by
  rw [readGlyphs?, h]
  cases readGlyphs? s <;> rfl

/-- Any character but quotes, backslashes and control characters stands for itself. -/
theorem readGlyphs?_self {c : Char} (hquote : c ≠ '"') (hslash : c ≠ '\\')
    (hlow : ¬ c.toNat < 0x20) (s : List Char) :
    readGlyphs? (c :: s) = (readGlyphs? s).map fun read => (.char c :: read.1, read.2) := by
  rw [readGlyphs?, if_neg hlow]
  · cases readGlyphs? s <;> rfl
  · exact hquote
  · exact fun _ _ _ _ _ heq => absurd heq hslash
  · exact fun _ _ heq => absurd heq hslash

theorem codeUnit?_hexDigit :
    ∀ n < 0x20, codeUnit? '0' '0' (hexDigit (n / 16)) (hexDigit (n % 16)) = some n := by
  decide

/-- A character that is written in a string is read back. -/
theorem readGlyphs?_escape (c : Char) (s : List Char) :
    readGlyphs? (escape c ++ s) =
      (readGlyphs? s).map fun read => (Glyph.ofChar c :: read.1, read.2) := by
  unfold escape
  -- the characters with a short escape
  iterate 7
    split
    · subst c
      exact readGlyphs?_short rfl s
  split
  · rename_i hlow
    have hc : Glyph.ofChar c = .unit c.toNat := by simp_all [Glyph.ofChar]
    rw [hc]
    exact readGlyphs?_unit (codeUnit?_hexDigit c.toNat hlow) s
  · rename_i hquote hslash _ _ _ _ _ hlow
    have hc : Glyph.ofChar c = .char c := by simp [Glyph.ofChar, hlow]
    rw [hc]
    exact readGlyphs?_self hquote hslash hlow s

/-- A text is read back up to its closing quote. -/
theorem readGlyphs?_flatMap_escape (cs rest : List Char) :
    readGlyphs? (cs.flatMap escape ++ '"' :: rest) = some (cs.map Glyph.ofChar, rest) := by
  induction cs with
  | nil => rw [List.flatMap_nil, List.nil_append, readGlyphs?, List.map_nil]
  | cons c cs ih =>
    rw [List.flatMap_cons, List.append_assoc, readGlyphs?_escape, ih]
    rfl

/-! ### What the elements stand for -/

theorem glyphs?_unit_cons {code : Nat} (h : code < 0x20) (rest : List Glyph) :
    glyphs? (.unit code :: rest) = (glyphs? rest).map (Char.ofNat code :: ·) := by
  have hhigh : isHighSurrogate code = false := by
    simp only [isHighSurrogate, Bool.and_eq_false_iff, decide_eq_false_iff_not]
    omega
  have hlow : isLowSurrogate code = false := by
    simp only [isLowSurrogate, Bool.and_eq_false_iff, decide_eq_false_iff_not]
    omega
  rw [glyphs?.eq_def]
  split <;> simp_all

theorem glyphs?_ofChar (cs : List Char) : glyphs? (cs.map Glyph.ofChar) = some cs := by
  induction cs with
  | nil => rfl
  | cons c cs ih =>
    rw [List.map_cons, Glyph.ofChar]
    split
    · rename_i h
      have hlow : c.toNat < 0x20 := by simpa using (Bool.and_eq_true_iff.mp h).1
      rw [glyphs?_unit_cons hlow, ih, Char.ofNat_toNat, Option.map_some]
    · rw [glyphs?, ih, Option.map_some]

/-- The elements that a text is written as stand for the text. -/
@[simp] theorem text?_glyphsOf (s : String) : text? (glyphsOf s) = some s := by
  rw [text?, glyphsOf, glyphs?_ofChar, Option.map_some, String.ofList_toList]

end Tilemap.Json
