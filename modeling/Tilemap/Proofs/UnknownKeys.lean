import Tilemap.Proofs.Bags
import Tilemap.Proofs.CamelCase
import Tilemap.Proofs.HeadSettings

/-!
# Unknown keys in the head of a map text

A line `key: value` of the head whose key has no meaning of its own is kept with the map, under the
key in camel case. Of the lines that are kept under one key the last one counts, and nothing else
is kept (`unknown_keys_kept`). As the camel case is a spelling of the key itself, no known key is
among those that are kept.

Two spellings of a key need not have the same camel case: `moodLevel` and `moodlevel` stay two keys.
A key is kept once, with the value of the last line that gives it one in any spelling, exactly if
its spellings agree in camel case (`spellings_kept_once`).
-/

namespace Tilemap

open Text

/-! ### Statements -/

/-- The line at a place gives a value to a key in the head: without its comment it is the key, a
colon and the value. -/
def EntryAt (lines : List (List Char)) (i : Nat) (key value : String) : Prop :=
  ∃ spelled rest, CodeAt lines i metaKey (String.ofList (spelled ++ ':' :: rest)) ∧
    ':' ∉ spelled ∧ trim spelled ≠ [] ∧ key = String.ofList (trim spelled) ∧
    value = String.ofList (trim rest)

/-- The line at a place gives a value to a key that has no meaning of its own. -/
def UnknownAt (lines : List (List Char)) (i : Nat) (key value : String) : Prop :=
  EntryAt lines i key value ∧ ¬ IsKnownKey key.toList

/-- The line at a place has a value to keep, and its key is this one in camel case. -/
def KeptAt (lines : List (List Char)) (i : Nat) (camel value : String) : Prop :=
  ∃ key, UnknownAt lines i key value ∧ Key.camel key = camel

/-- No line below has a value to keep under the key. -/
def LastKeptAt (lines : List (List Char)) (i : Nat) (camel value : String) : Prop :=
  KeptAt lines i camel value ∧ ∀ j value', i < j → ¬ KeptAt lines j camel value'

/-- A bag has what the lines of the head say under unknown keys, and nothing else. -/
structure KeepsUnknown (lines : List (List Char)) (extra : Bag) : Prop where
  nodup : (extra.map Prod.fst).Nodup
  mem_keys_iff : ∀ camel, camel ∈ extra.map Prod.fst ↔ ∃ i value, KeptAt lines i camel value
  get?_iff : ∀ camel kept, extra.get? camel = some kept ↔
    ∃ i value, LastKeptAt lines i camel value ∧ kept = .string value
  unknown : ∀ camel ∈ extra.map Prod.fst, ¬ IsKnownKey camel.toList

/-- The spellings in which lines give values to an unknown key have one camel case. -/
def SpelledAlike (lines : List (List Char)) (compact : String) : Prop :=
  ∀ i i' key key' value value', UnknownAt lines i key value → UnknownAt lines i' key' value' →
    Key.compact key = compact → Key.compact key' = compact → Key.camel key = Key.camel key'

/-- The line at a place gives a value to a key in any spelling, and no line below does. -/
def LastSpelledAt (lines : List (List Char)) (i : Nat) (compact value : String) : Prop :=
  (∃ key, EntryAt lines i key value ∧ Key.compact key = compact) ∧
    ∀ j key value', i < j → EntryAt lines j key value' → Key.compact key ≠ compact

/-- A bag has a key in one spelling at most, and under it the last value that any spelling has. -/
structure KeptOnce (lines : List (List Char)) (extra : Bag) (compact : String) : Prop where
  once : ∀ camel ∈ extra.map Prod.fst, ∀ camel' ∈ extra.map Prod.fst,
    Key.compact camel = compact → Key.compact camel' = compact → camel = camel'
  last : ∀ camel ∈ extra.map Prod.fst, Key.compact camel = compact →
    ∃ i value, LastSpelledAt lines i compact value ∧ extra.get? camel = some (.string value)

/-! ### Lines with a key -/

section Lines

variable {lines : List (List Char)} {i : Nat} {key value : String}

theorem entryAt_iff : EntryAt lines i key value ↔
    ∃ l, TextAt lines i metaKey l ∧ l.headEntry = some ⟨key, value⟩ := by
  simp only [EntryAt, CodeAt, Line.headEntry_eq_some_iff, MetaEntry.mk.injEq]
  constructor
  · rintro ⟨spelled, rest, ⟨l, hl, hcode⟩, hentry⟩
    exact ⟨l, hl, spelled, rest, hcode, hentry⟩
  · rintro ⟨l, hl, spelled, rest, hcode, hentry⟩
    exact ⟨spelled, rest, ⟨l, hl, hcode⟩, hentry⟩

theorem MetaEntry.isKnown_iff {e : MetaEntry} : e.isKnown ↔ IsKnownKey e.key.toList := by
  rw [isKnown, IsKnownKey, String.ofList_toList, List.contains_iff_mem]

/-- Whether a key is known depends only on its compact form. -/
theorem isKnownKey_congr {key' : String} (h : Key.compact key = Key.compact key') :
    IsKnownKey key.toList ↔ IsKnownKey key'.toList := by
  rw [IsKnownKey, IsKnownKey, String.ofList_toList, String.ofList_toList, h]

/-- What is kept of a line, with its key in camel case. -/
def Line.keptEntry? (l : Line) : Option (String × Json) :=
  (l.headEntry.filter (!·.isKnown)).map fun e => (Key.camel e.key, .string e.value)

/-- A line is kept if it is an entry whose key is not known. -/
theorem Line.keptEntry?_eq_some_iff {l : Line} {camel : String} {kept : Json} :
    l.keptEntry? = some (camel, kept) ↔ ∃ key value, l.headEntry = some ⟨key, value⟩ ∧
      ¬ IsKnownKey key.toList ∧ Key.camel key = camel ∧ kept = .string value := by
  rw [Line.keptEntry?, Option.map_eq_some_iff]
  simp only [Option.filter_eq_some_iff, Bool.not_eq_true', ← Bool.not_eq_true,
    MetaEntry.isKnown_iff, Prod.mk.injEq]
  constructor
  · rintro ⟨⟨key, value⟩, ⟨he, hunknown⟩, hcamel, rfl⟩
    exact ⟨key, value, he, hunknown, hcamel, rfl⟩
  · rintro ⟨key, value, he, hunknown, hcamel, rfl⟩
    exact ⟨⟨key, value⟩, ⟨he, hunknown⟩, hcamel, rfl⟩

theorem keptAt_iff {camel : String} : KeptAt lines i camel value ↔
    ∃ l, TextAt lines i metaKey l ∧ l.keptEntry? = some (camel, .string value) := by
  simp only [KeptAt, UnknownAt, entryAt_iff, Line.keptEntry?_eq_some_iff, Json.string.injEq]
  constructor
  · rintro ⟨key, ⟨⟨l, hl, he⟩, hunknown⟩, hcamel⟩
    exact ⟨l, hl, key, value, he, hunknown, hcamel, rfl⟩
  · rintro ⟨l, hl, key, _, he, hunknown, hcamel, rfl⟩
    exact ⟨key, ⟨⟨l, hl, he⟩, hunknown⟩, hcamel⟩

end Lines

/-! ### The bag -/

section Keeping

variable {text : String}

/-- What the head keeps is what its lines keep. -/
theorem extra_headOf (text : String) : (headOf text).extra knownKeys =
    Bag.ofEntries ((linesUnder metaKey (itemsOf text)).filterMap Line.keptEntry?) := by
  rw [headOf_eq_entries, MetaTable.extra, List.filter_filterMap, List.map_filterMap]
  rfl

/-- Of lines in the order of their numbers, the last one with a key is found from the end. -/
theorem lookup_reverse_filterMap_eq_some_iff {ls : List Line}
    (h : ls.Pairwise (·.number < ·.number)) {f : Line → Option (String × Json)} {key : String}
    {kept : Json} : (ls.filterMap f).reverse.lookup key = some kept ↔
      ∃ l ∈ ls, f l = some (key, kept) ∧
        ∀ l' ∈ ls, ∀ kept', f l' = some (key, kept') → l'.number ≤ l.number := by
  have hlookup (es : List (String × Json)) :
      es.lookup key = some kept ↔ (es.find? fun e => e.1 = key) = some (key, kept) := by
    rw [find?_key]
    simp
  have hany {l : Line} : ((f l).any fun e => e.1 = key) ↔ ∃ kept', f l = some (key, kept') := by
    simp [Option.any_eq_true]
  rw [← List.filterMap_reverse, hlookup, List.find?_filterMap, Option.bind_eq_some_iff]
  constructor
  · rintro ⟨l, hl, he⟩
    obtain ⟨hmem, -, hlast⟩ := (find?_reverse_eq_some_iff h).mp hl
    exact ⟨l, hmem, he, fun l' hl' kept' he' => hlast l' hl' (hany.mpr ⟨kept', he'⟩)⟩
  · rintro ⟨l, hl, he, hlast⟩
    refine ⟨l, (find?_reverse_eq_some_iff h).mpr ⟨hl, hany.mpr ⟨kept, he⟩, ?_⟩, he⟩
    intro l' hl' hq
    obtain ⟨kept', he'⟩ := hany.mp hq
    exact hlast l' hl' kept' he'

/-- The keys that are kept are those of the lines that are kept. -/
theorem mem_keys_extra_iff {camel : String} :
    camel ∈ ((headOf text).extra knownKeys).map Prod.fst ↔
      ∃ i value, KeptAt (linesOf text) i camel value := by
  rw [extra_headOf, Bag.mem_keys_ofEntries, List.mem_map]
  simp only [keptAt_iff]
  constructor
  · rintro ⟨⟨_, kept⟩, he, rfl⟩
    obtain ⟨l, hl, he⟩ := List.mem_filterMap.mp he
    obtain ⟨i, hi⟩ := mem_linesUnder_itemsOf.mp hl
    obtain ⟨-, value, -, -, -, rfl⟩ := Line.keptEntry?_eq_some_iff.mp he
    exact ⟨i, value, l, hi, he⟩
  · rintro ⟨i, value, l, hl, he⟩
    exact ⟨_, List.mem_filterMap.mpr ⟨l, mem_linesUnder_itemsOf.mpr ⟨i, hl⟩, he⟩, rfl⟩

/-- A key has the value of the last line that is kept under it. -/
theorem get?_extra_eq_some_iff {camel : String} {kept : Json} :
    ((headOf text).extra knownKeys).get? camel = some kept ↔
      ∃ i value, LastKeptAt (linesOf text) i camel value ∧ kept = .string value := by
  rw [extra_headOf, Bag.get?_ofEntries,
    lookup_reverse_filterMap_eq_some_iff (pairwise_linesUnder_itemsOf metaKey text)]
  constructor
  · rintro ⟨l, hl, he, hlast⟩
    obtain ⟨i, hi⟩ := mem_linesUnder_itemsOf.mp hl
    obtain ⟨-, value, -, -, -, rfl⟩ := Line.keptEntry?_eq_some_iff.mp he
    refine ⟨i, value, ⟨keptAt_iff.mpr ⟨l, hi, he⟩, ?_⟩, rfl⟩
    intro j value' hij hj
    obtain ⟨l', hl', he'⟩ := keptAt_iff.mp hj
    have hle := hlast l' (mem_linesUnder_itemsOf.mpr ⟨j, hl'⟩) _ he'
    rw [hi.number_eq, hl'.number_eq] at hle
    omega
  · rintro ⟨i, value, ⟨hi, hlast⟩, rfl⟩
    obtain ⟨l, hl, he⟩ := keptAt_iff.mp hi
    refine ⟨l, mem_linesUnder_itemsOf.mpr ⟨i, hl⟩, he, ?_⟩
    intro l' hl' kept' he'
    obtain ⟨j, hj⟩ := mem_linesUnder_itemsOf.mp hl'
    obtain ⟨-, value', -, -, -, rfl⟩ := Line.keptEntry?_eq_some_iff.mp he'
    by_contra hle
    rw [hl.number_eq, hj.number_eq] at hle
    exact hlast j value' (by omega) (keptAt_iff.mpr ⟨l', hj, he'⟩)

/-- The head keeps what its lines say under unknown keys. -/
theorem keepsUnknown_extra (text : String) :
    KeepsUnknown (linesOf text) ((headOf text).extra knownKeys) := by
  constructor
  case nodup =>
    rw [extra_headOf]
    exact Bag.nodup_ofEntries _
  case mem_keys_iff =>
    intro camel
    exact mem_keys_extra_iff
  case get?_iff =>
    intro camel kept
    exact get?_extra_eq_some_iff
  case unknown =>
    intro camel hcamel
    obtain ⟨i, value, key, ⟨-, hunknown⟩, rfl⟩ := mem_keys_extra_iff.mp hcamel
    rwa [isKnownKey_congr (Key.compact_camel key)]

/-- A compiled map keeps what its head keeps. -/
theorem extra_of_compile {options : CompileOptions} {m : MapModel}
    (h : compile text options = .ok m) : m.extra = (headOf text).extra knownKeys := by
  obtain ⟨_, _, _, _, _, _, _, -, -, -, -, hm⟩ := compile_eq_ok h
  obtain ⟨-, rfl⟩ := MapParts.assemble_eq_ok_iff.mp hm
  rfl

end Keeping

/-! ### Spellings -/

namespace KeepsUnknown

variable {lines : List (List Char)} {extra : Bag} {compact : String}

theorem exists_lastKeptAt (h : KeepsUnknown lines extra) {camel : String}
    (hcamel : camel ∈ extra.map Prod.fst) :
    ∃ i value, LastKeptAt lines i camel value ∧ extra.get? camel = some (.string value) := by
  obtain ⟨⟨_, kept⟩, he, rfl⟩ := List.mem_map.mp hcamel
  have hget := (Bag.mem_iff_get? h.nodup).mp he
  obtain ⟨i, value, hlast, rfl⟩ := (h.get?_iff _ _).mp hget
  exact ⟨i, value, hlast, hget⟩

theorem spelledAlike (h : KeepsUnknown lines extra) (honce : KeptOnce lines extra compact) :
    SpelledAlike lines compact := by
  intro i i' key key' value value' hkey hkey' hcompact hcompact'
  apply honce.once
  · exact (h.mem_keys_iff _).mpr ⟨i, value, key, hkey, rfl⟩
  · exact (h.mem_keys_iff _).mpr ⟨i', value', key', hkey', rfl⟩
  · rw [Key.compact_camel, hcompact]
  · rw [Key.compact_camel, hcompact']

theorem keptOnce (h : KeepsUnknown lines extra) (halike : SpelledAlike lines compact) :
    KeptOnce lines extra compact := by
  constructor
  case once =>
    intro camel hcamel camel' hcamel' hcompact hcompact'
    obtain ⟨i, value, key, hkey, rfl⟩ := (h.mem_keys_iff camel).mp hcamel
    obtain ⟨i', value', key', hkey', rfl⟩ := (h.mem_keys_iff camel').mp hcamel'
    rw [Key.compact_camel] at hcompact hcompact'
    exact halike i i' key key' value value' hkey hkey' hcompact hcompact'
  case last =>
    intro camel hcamel hcompact
    obtain ⟨i, value, ⟨⟨key, hkey, rfl⟩, hlast⟩, hget⟩ := h.exists_lastKeptAt hcamel
    rw [Key.compact_camel] at hcompact
    refine ⟨i, value, ⟨⟨key, hkey.1, hcompact⟩, ?_⟩, hget⟩
    -- A spelling below would be of an unknown key too, and so be kept under the same key.
    intro j key' value' hij hentry hcompact'
    have hkey' : UnknownAt lines j key' value' :=
      ⟨hentry, by rw [isKnownKey_congr (hcompact'.trans hcompact.symm)]; exact hkey.2⟩
    exact hlast j value' hij
      ⟨key', hkey', halike j i key' key value' value hkey' hkey hcompact' hcompact⟩

end KeepsUnknown

/-! ### Main results -/

/-- An accepted map keeps exactly what its head says under unknown keys. -/
theorem unknown_keys_kept {text : String} {options : CompileOptions} {m : MapModel}
    (h : compile text options = .ok m) : KeepsUnknown (linesOf text) m.extra := by
  rw [extra_of_compile h]
  exact keepsUnknown_extra text

/-- A head with an unknown key in two spellings, one without a letter or digit of ASCII, and a known
one. -/
def moodText : String :=
  "Title: Patio\nMood_Level: calm\nmood level: loud # at noon\nñ: 1\nBIO ME: Bosque\n"

/-- What is kept of the head, the last value of `moodLevel` among it. -/
def moodEntries : List (String × Option String) := [("moodLevel", some "loud"), ("", some "1")]

theorem Bag.keys_of_map_string? {b : Bag} {entries : List (String × Option String)}
    (h : (b.map fun e => (e.1, e.2.string?)) = entries) :
    b.map Prod.fst = entries.map Prod.fst := by
  rw [← h, List.map_map]
  rfl

theorem exists_compile_moodText : ∃ m, compile moodText .default = .ok m ∧
    (m.extra.map fun e => (e.1, e.2.string?)) = moodEntries :=
  exists_ok_of_toOption_map (by decide +kernel)

/-- A patio with two moods, of which the last is kept, and a key without ASCII letters. -/
theorem unknown_keys_kept_mood : ∃ m, compile moodText .default = .ok m ∧
    (m.extra.map fun e => (e.1, e.2.string?)) = moodEntries ∧
    KeepsUnknown (linesOf moodText) m.extra := by
  obtain ⟨m, hm, hentries⟩ := exists_compile_moodText
  exact ⟨m, hm, hentries, unknown_keys_kept hm⟩

/-- An accepted map keeps an unknown key once, with its last value in any spelling, exactly if the
spellings agree in camel case. -/
theorem spellings_kept_once {text : String} {options : CompileOptions} {m : MapModel}
    (h : compile text options = .ok m) (compact : String) :
    KeptOnce (linesOf text) m.extra compact ↔ SpelledAlike (linesOf text) compact := by
  rw [extra_of_compile h]
  have hkeeps := keepsUnknown_extra text
  exact ⟨hkeeps.spelledAlike, hkeeps.keptOnce⟩

theorem spelledAlike_moodText : SpelledAlike (linesOf moodText) "moodlevel" := by
  obtain ⟨m, hm, hentries⟩ := exists_compile_moodText
  have hkeys : m.extra.map Prod.fst = ["moodLevel", ""] := Bag.keys_of_map_string? hentries
  -- Of the two keys that are kept, only one has this compact form.
  have hcamel {i : Nat} {key value : String} (h : UnknownAt (linesOf moodText) i key value)
      (hcompact : Key.compact key = "moodlevel") : Key.camel key = "moodLevel" := by
    have hmem : Key.camel key ∈ m.extra.map Prod.fst := by
      rw [extra_of_compile hm, mem_keys_extra_iff]
      exact ⟨i, value, key, h, rfl⟩
    rw [hkeys, List.mem_cons, List.mem_singleton] at hmem
    refine hmem.resolve_right fun hnil => ?_
    rw [← Key.compact_camel, hnil] at hcompact
    exact absurd hcompact (by decide)
  intro i i' key key' value value' hkey hkey' hcompact hcompact'
  rw [hcamel hkey hcompact, hcamel hkey' hcompact']

theorem spellings_kept_once_mood : ∃ m, compile moodText .default = .ok m ∧
    SpelledAlike (linesOf moodText) "moodlevel" ∧
    KeptOnce (linesOf moodText) m.extra "moodlevel" := by
  obtain ⟨m, hm, -⟩ := exists_compile_moodText
  exact ⟨m, hm, spelledAlike_moodText,
    (spellings_kept_once hm "moodlevel").mpr spelledAlike_moodText⟩

/-- A head that writes an unknown key with a capital inside and without. -/
def twoMoodsText : String := "moodLevel: a\nmoodlevel: b\n"

/-- Both spellings are kept, and the second value does not replace the first. -/
theorem exists_key_kept_twice : ∃ m, compile twoMoodsText .default = .ok m ∧
    (m.extra.map fun e => (e.1, e.2.string?)) =
      [("moodLevel", some "a"), ("moodlevel", some "b")] ∧
    Key.compact "moodLevel" = Key.compact "moodlevel" ∧
    ¬ KeptOnce (linesOf twoMoodsText) m.extra "moodlevel" := by
  obtain ⟨m, hm, hentries⟩ : ∃ m, compile twoMoodsText .default = .ok m ∧
      (m.extra.map fun e => (e.1, e.2.string?)) =
        [("moodLevel", some "a"), ("moodlevel", some "b")] :=
    exists_ok_of_toOption_map (by decide +kernel)
  have hkeys : m.extra.map Prod.fst = ["moodLevel", "moodlevel"] :=
    Bag.keys_of_map_string? hentries
  refine ⟨m, hm, hentries, by decide, fun h => ?_⟩
  have hsame := h.once "moodLevel" (by simp [hkeys]) "moodlevel" (by simp [hkeys]) (by decide)
    (by decide)
  exact absurd hsame (by decide)

end Tilemap
