import Tilemap.Json.Decode
import Tilemap.Proofs.Json.Text

/-!
# Values that are written and read

A value that a JSON text can hold comes back from its text when it is not nested too deep and the
text of each of its floats is read as that float. The last is a matter of the reader of floats,
which takes digits one by one and can be wrong in the last bit, so it is asked of the floats that
are written and of no others.
-/

namespace Tilemap

theorem forall_mem_or {α : Type} {R : α → Prop} {o o' : Option α} (h : ∀ x ∈ o, R x)
    (h' : ∀ x ∈ o', R x) : ∀ x ∈ o.or o', R x := by
  cases o with
  | none => exact h'
  | some a => exact h

/-- The text of every finite float among some numbers is read as the float, by the reader for its
precision. -/
structure FloatsReadBack (numbers : List Number) : Prop where
  double : ∀ x, .double x ∈ numbers → x.isFinite →
    Json.parse? (Json.ofFloat x).document = some (.ofFloat x)
  single : ∀ x, .single x ∈ numbers → x.isFinite →
    Json.Decoder.single.parse? (Json.ofFloat32 x).document = some x

/-- Without numbers there is nothing to ask. -/
theorem FloatsReadBack.nil : FloatsReadBack [] := by
  constructor <;> simp

/-- Floats that are read back are so among fewer numbers. -/
theorem FloatsReadBack.mono {numbers numbers' : List Number} (h : FloatsReadBack numbers)
    (hsub : numbers' ⊆ numbers) : FloatsReadBack numbers' :=
  ⟨fun x hx => h.double x (hsub hx), fun x hx => h.single x (hsub hx)⟩

/-- A number that a JSON text can hold: an integer of 64 bits, with or without a sign, or a finite
float. -/
def Number.Proper : Number → Prop
  | .int n => Json.Fits64 n
  | .double x => x.isFinite
  | .single _ => False

namespace Json

mutual

/-- How deep the brackets of a value are nested. -/
def depth : Json → Nat
  | .array items => depthItems items + 1
  | .object entries => depthEntries entries + 1
  | _ => 0

def depthItems : List Json → Nat
  | [] => 0
  | j :: rest => max j.depth (depthItems rest)

/-- How deep the brackets of the values of several entries are nested. -/
def depthEntries : List (String × Json) → Nat
  | [] => 0
  | (_, j) :: rest => max j.depth (depthEntries rest)

end

mutual

def numbers : Json → List Number
  | .number n => [n]
  | .array items => numbersItems items
  | .object entries => numbersEntries entries
  | _ => []

def numbersItems : List Json → List Number
  | [] => []
  | j :: rest => j.numbers ++ numbersItems rest

def numbersEntries : List (String × Json) → List Number
  | [] => []
  | (_, j) :: rest => j.numbers ++ numbersEntries rest

end

mutual

/-- A value that a JSON text can hold: its numbers are proper and its objects have distinct keys. -/
def Proper : Json → Prop
  | .number n => n.Proper
  | .array items => ProperItems items
  | .object entries => (entries.map (·.1)).Nodup ∧ ProperEntries entries
  | _ => True

/-- Values that a JSON text can hold. -/
def ProperItems : List Json → Prop
  | [] => True
  | j :: rest => j.Proper ∧ ProperItems rest

/-- Entries whose values a JSON text can hold. -/
def ProperEntries : List (String × Json) → Prop
  | [] => True
  | (_, j) :: rest => j.Proper ∧ ProperEntries rest

end

/-- A value that can be read with a depth left: it is less deep, and its floats read back. -/
structure Readable (j : Json) (limit : Nat) : Prop where
  depth_lt : j.depth < limit
  floats : FloatsReadBack j.numbers

/-! ### Parts of a value -/

theorem depth_le_of_mem_items {j : Json} {items : List Json} (h : j ∈ items) :
    j.depth ≤ depthItems items := by
  induction items with
  | nil => cases h
  | cons j' rest ih =>
    rw [depthItems]
    rcases List.mem_cons.mp h with rfl | h
    · exact Nat.le_max_left _ _
    · exact Nat.le_trans (ih h) (Nat.le_max_right _ _)

theorem depth_le_of_mem_entries {e : String × Json} {entries : List (String × Json)}
    (h : e ∈ entries) : e.2.depth ≤ depthEntries entries := by
  induction entries with
  | nil => cases h
  | cons e' rest ih =>
    obtain ⟨k, j⟩ := e'
    rw [depthEntries]
    rcases List.mem_cons.mp h with rfl | h
    · exact Nat.le_max_left _ _
    · exact Nat.le_trans (ih h) (Nat.le_max_right _ _)

theorem depthItems_le {items : List Json} {n : Nat} (h : ∀ j ∈ items, j.depth ≤ n) :
    depthItems items ≤ n := by
  induction items with
  | nil => exact Nat.zero_le n
  | cons j rest ih =>
    rw [depthItems]
    have hrest : depthItems rest ≤ n := ih fun j' hj' => h j' (List.mem_cons_of_mem _ hj')
    exact Nat.max_le.mpr ⟨h j List.mem_cons_self, hrest⟩

theorem depthEntries_append (entries entries' : List (String × Json)) :
    depthEntries (entries ++ entries') = max (depthEntries entries) (depthEntries entries') := by
  induction entries with
  | nil => exact (Nat.zero_max _).symm
  | cons e rest ih =>
    obtain ⟨k, j⟩ := e
    rw [List.cons_append, depthEntries, depthEntries, ih, Nat.max_assoc]

theorem depthEntries_optional {α : Type} {key : String} {encode : α → Json} {o : Option α}
    (h : ∀ a, (encode a).depth = 0) : depthEntries (Json.optional key encode o) = 0 := by
  cases o with
  | none => rfl
  | some a => rw [Json.optional, depthEntries, h a, depthEntries, Nat.max_self]

theorem numbers_subset_of_mem_items {j : Json} {items : List Json} (h : j ∈ items) :
    j.numbers ⊆ numbersItems items := by
  induction items with
  | nil => cases h
  | cons j' rest ih =>
    rw [numbersItems]
    rcases List.mem_cons.mp h with rfl | h
    · exact List.subset_append_left _ _
    · exact List.subset_append_of_subset_right _ (ih h)

theorem numbers_subset_of_mem_entries {e : String × Json} {entries : List (String × Json)}
    (h : e ∈ entries) : e.2.numbers ⊆ numbersEntries entries := by
  induction entries with
  | nil => cases h
  | cons e' rest ih =>
    obtain ⟨k, j⟩ := e'
    rw [numbersEntries]
    rcases List.mem_cons.mp h with rfl | h
    · exact List.subset_append_left _ _
    · exact List.subset_append_of_subset_right _ (ih h)

/-- Inside the brackets of a readable array every item is readable. -/
theorem Readable.items {items : List Json} {limit : Nat} (h : (array items).Readable limit) :
    ∃ inner, enter? limit = some inner ∧ ∀ j ∈ items, j.Readable inner := by
  have hdepth := h.depth_lt
  rw [depth] at hdepth
  refine ⟨limit - 1, by rw [enter?, if_neg (by omega)], fun j hj => ⟨?_, ?_⟩⟩
  · have := depth_le_of_mem_items hj
    omega
  · exact h.floats.mono (numbers_subset_of_mem_items hj)

/-- Inside the brackets of a readable object the value of every entry is readable. -/
theorem Readable.entries {entries : List (String × Json)} {limit : Nat}
    (h : (object entries).Readable limit) :
    ∃ inner, enter? limit = some inner ∧ ∀ e ∈ entries, e.2.Readable inner := by
  have hdepth := h.depth_lt
  rw [depth] at hdepth
  refine ⟨limit - 1, by rw [enter?, if_neg (by omega)], fun e he => ⟨?_, ?_⟩⟩
  · have := depth_le_of_mem_entries he
    omega
  · exact h.floats.mono (numbers_subset_of_mem_entries he)

/-! ### Numbers -/

/-- A finite number is written as a literal that is well formed. -/
theorem exists_raw_eq_number {n : Number} (h : n.isFinite) :
    ∃ literal, n.raw = .number literal := by
  obtain ⟨literal, hliteral, htext⟩ := Number.exists_literal h
  exact ⟨literal, raw_of_literal hliteral htext⟩

/-- An integer that fits has a tree of the same value. -/
theorem json?_int {n : Int} (h : Fits64 n) (limit : Nat) :
    Raw.json? limit (Number.int n).raw = some (number (.int n)) := by
  rw [raw_of_literal (wellFormed_intLiteral n) (chars_intLiteral n), Raw.json?,
    number?_intLiteral h, Option.map_some]

/-- A finite 64-bit float has a tree of the same value, if floats are read back. -/
theorem json?_double {x : Float} {limit : Nat} (hfinite : x.isFinite)
    (h : (ofFloat x).Readable limit) :
    Raw.json? limit (Number.double x).raw = some (ofFloat x) := by
  have hread := h.floats.double x (by simp [ofFloat, numbers]) hfinite
  obtain ⟨literal, hliteral⟩ := exists_raw_eq_number (n := .double x) hfinite
  rw [parse?, Raw.parse?_document, Option.bind_some, ofFloat, raw, hliteral] at hread
  rw [hliteral]
  exact hread

/-- The float of a literal is the float whose text the literal is. -/
theorem parse?_ofFloat {x : Float} {literal : NumberLiteral} (hliteral : literal.WellFormed)
    (htext : literal.chars = (Number.double x).chars)
    (hvalue : literal.number? = some (.double x)) :
    parse? (ofFloat x).document = some (ofFloat x) := by
  rw [parse?, Raw.parse?_document, Option.bind_some, ofFloat, raw, raw_of_literal hliteral htext,
    Raw.json?, hvalue, Option.map_some]

/-- A 32-bit float is read back if its digits read as a 64-bit float that narrows to it. -/
theorem single_parse?_ofFloat32 {x : Float32} {y : Float} {literal : NumberLiteral}
    (hliteral : literal.WellFormed) (htext : literal.chars = (Number.single x).chars)
    (hvalue : literal.number? = some (.double y)) (hnarrow : Binary.narrow y = x) :
    Decoder.single.parse? (ofFloat32 x).document = some x := by
  rw [Decoder.parse?, Raw.parse?_document, Option.bind_some, ofFloat32, raw,
    raw_of_literal hliteral htext, Decoder.single, Decoder.number, hvalue, Option.map_some,
    ← hnarrow]

/-! ### Objects -/

/-- A new key comes last. -/
theorem put_of_not_mem {b : Bag} {key : String} {value : Json} (h : key ∉ b.map (·.1)) :
    b.put key value = b ++ [(key, value)] := by
  induction b with
  | nil => rfl
  | cons e rest ih =>
    obtain ⟨k, v⟩ := e
    rw [List.map_cons, List.mem_cons, not_or] at h
    rw [Bag.put, if_neg (Ne.symm h.1), ih h.2, List.cons_append]

theorem merge_of_nodup {base added : Bag} (h : ((base ++ added).map (·.1)).Nodup) :
    base.merge added = base ++ added := by
  induction added generalizing base with
  | nil => rw [Bag.merge, List.foldl_nil, List.append_nil]
  | cons e rest ih =>
    have hnot : e.1 ∉ base.map (·.1) := by
      rw [List.map_append, List.nodup_append] at h
      exact fun hmem => h.2.2 _ hmem _ List.mem_cons_self rfl
    have hput : base.put e.1 e.2 = base ++ [e] := put_of_not_mem hnot
    rw [Bag.merge, List.foldl_cons, hput]
    have hrest : (base ++ [e]).merge rest = base ++ [e] ++ rest :=
      ih (by rwa [List.append_assoc])
    rw [Bag.merge, List.append_assoc] at hrest
    exact hrest

/-- Entries with distinct keys stay as they are. -/
theorem ofEntries_of_nodup {entries : List (String × Json)} (h : (entries.map (·.1)).Nodup) :
    Bag.ofEntries entries = entries :=
  merge_of_nodup h

/-! ### Values -/

mutual

/-- A proper value comes back from its tree. -/
theorem json?_raw (j : Json) {limit : Nat} (hj : j.Proper) (h : j.Readable limit) :
    Raw.json? limit j.raw = some j := by
  match j with
  | .null => rfl
  | .bool b => rfl
  | .number (.int n) => exact json?_int hj limit
  | .number (.double x) => exact json?_double hj h
  | .number (.single x) => exact hj.elim
  | .string s => rw [raw, Raw.json?, text?_glyphsOf, Option.map_some]
  | .array items =>
    obtain ⟨inner, henter, hitems⟩ := h.items
    rw [raw, Raw.json?, henter]
    simp only [Option.bind_eq_bind, Option.bind_some]
    rw [items?_rawItems items hj hitems]
    rfl
  | .object entries =>
    obtain ⟨inner, henter, hentries⟩ := h.entries
    rw [raw, Raw.json?, henter]
    simp only [Option.bind_eq_bind, Option.bind_some]
    rw [entries?_rawEntries entries hj.2 hentries, Option.bind_some, ofEntries_of_nodup hj.1]
    rfl

/-- The items of an array are found again in its tree. -/
theorem items?_rawItems (items : List Json) {limit : Nat} (hp : ProperItems items)
    (h : ∀ j ∈ items, j.Readable limit) : Raw.items? limit (rawItems items) = some items := by
  match items with
  | [] => rfl
  | j :: rest =>
    have hj := json?_raw j hp.1 (h j List.mem_cons_self)
    have hrest := items?_rawItems rest hp.2 fun j' hj' => h j' (List.mem_cons_of_mem _ hj')
    rw [rawItems, Raw.items?, hj, hrest]
    rfl

/-- The entries of an object are found again in its tree. -/
theorem entries?_rawEntries (entries : List (String × Json)) {limit : Nat}
    (hp : ProperEntries entries) (h : ∀ e ∈ entries, e.2.Readable limit) :
    Raw.entries? limit (rawEntries entries) = some entries := by
  match entries with
  | [] => rfl
  | (k, j) :: rest =>
    have hj := json?_raw j hp.1 (h (k, j) List.mem_cons_self)
    have hrest := entries?_rawEntries rest hp.2 fun e he => h e (List.mem_cons_of_mem _ he)
    rw [rawEntries, Raw.entries?, text?_glyphsOf, hj, hrest]
    rfl

end

/-- A proper value comes back from the content of its file. -/
theorem parse?_document {j : Json} (hj : j.Proper) (h : j.Readable depthLimit) :
    parse? j.document = some j := by
  rw [parse?, Raw.parse?_document, Option.bind_some, json?_raw j hj h]

/-! ### Entries of a proper object -/

theorem object?_eq_some {j : Json} {b : Bag} : j.object? = some b ↔ j = .object b := by
  cases j <;> simp [object?]

theorem proper_of_mem_entries {entries : List (String × Json)} (h : ProperEntries entries)
    {e : String × Json} (he : e ∈ entries) : e.2.Proper := by
  induction entries with
  | nil => cases he
  | cons e' rest ih =>
    obtain ⟨k, j⟩ := e'
    rcases List.mem_cons.mp he with rfl | he
    · exact h.1
    · exact ih h.2 he

theorem proper_of_get? {b : Bag} (h : (object b).Proper) {key : String} {j : Json}
    (hj : b.get? key = some j) : j.Proper := by
  obtain ⟨before, after, hsplit, -⟩ := List.lookup_eq_some_iff.mp hj
  refine proper_of_mem_entries (e := (key, j)) h.2 ?_
  rw [hsplit]
  exact List.mem_append_right _ List.mem_cons_self

/-! ### Widening -/

mutual

/-- A proper value has no float that would be widened. -/
theorem widen_of_proper (j : Json) (hj : j.Proper) : j.widen = j := by
  match j with
  | .null => rfl
  | .bool b => rfl
  | .number (.int n) => rfl
  | .number (.double x) => exact if_pos hj
  | .number (.single x) => exact hj.elim
  | .string s => rfl
  | .array items => rw [widen, widenAll_of_proper items hj]
  | .object entries => rw [widen, widenEntries_of_proper entries hj.2]

theorem widenAll_of_proper (items : List Json) (h : ProperItems items) :
    widenAll items = items := by
  match items with
  | [] => rfl
  | j :: rest => rw [widenAll, widen_of_proper j h.1, widenAll_of_proper rest h.2]

theorem widenEntries_of_proper (entries : List (String × Json)) (h : ProperEntries entries) :
    widenEntries entries = entries := by
  match entries with
  | [] => rfl
  | (k, j) :: rest => rw [widenEntries, widen_of_proper j h.1, widenEntries_of_proper rest h.2]

end

theorem widenEntries_append (entries entries' : List (String × Json)) :
    widenEntries (entries ++ entries') = widenEntries entries ++ widenEntries entries' := by
  induction entries with
  | nil => rfl
  | cons e rest ih => rw [List.cons_append, widenEntries, ih, widenEntries, List.cons_append]

theorem widenEntries_optional {α : Type} {key : String} {encode : α → Json} {o : Option α}
    (h : ∀ a ∈ o, (encode a).widen = encode a) :
    widenEntries (Json.optional key encode o) = Json.optional key encode o := by
  cases o with
  | none => rfl
  | some a => rw [Json.optional, widenEntries, h a rfl, widenEntries]

theorem widen_orNull {α : Type} {encode : α → Json} {o : Option α}
    (h : ∀ a ∈ o, (encode a).widen = encode a) :
    (Json.orNull encode o).widen = Json.orNull encode o := by
  cases o with
  | none => rfl
  | some a => exact h a rfl

end Json

end Tilemap
