import Tilemap.Binary

/-!
# JSON values

A value of a JSON document. The entries of an object keep the order in which their keys first
appeared; a `Bag` is such a list of entries, and `Bag.put` keeps the place of a key that is there.
-/

namespace Tilemap

/-- A number: an integer as written, or a float of one of two precisions, which decides how many
digits are needed to write it. -/
inductive Number where
  | int (n : Int)
  | double (x : Float)
  | single (x : Float32)

/-- A JSON value. -/
inductive Json where
  | null
  | bool (b : Bool)
  | number (n : Number)
  | string (s : String)
  | array (items : List Json)
  | object (entries : List (String × Json))

instance : Inhabited Json := ⟨.null⟩

/-- Values under distinct keys, in the order in which the keys were first put. -/
abbrev Bag := List (String × Json)

namespace Bag

def get? (b : Bag) (key : String) : Option Json := b.lookup key

/-- Puts a value under a key; a key that is there keeps its place. -/
def put : Bag → String → Json → Bag
  | [], key, value => [(key, value)]
  | (k, v) :: rest, key, value =>
    if k = key then (k, value) :: rest else (k, v) :: put rest key value

/-- Puts all entries of `added` into `base`. -/
def merge (base added : Bag) : Bag := added.foldl (fun b e => b.put e.1 e.2) base

/-- The bag of a list of entries: each key at its first place with its last value. -/
def ofEntries (entries : List (String × Json)) : Bag := merge [] entries

theorem get?_put (b : Bag) (key : String) (value : Json) (k : String) :
    (b.put key value).get? k = if k = key then some value else b.get? k := by
  induction b with
  | nil =>
    by_cases h : k = key
    · simp [put, get?, h]
    · simp [put, get?, List.lookup_cons, beq_false_of_ne h, h]
  | cons head rest ih =>
    obtain ⟨k', v'⟩ := head
    unfold put
    split
    · rename_i heq
      subst heq
      by_cases h : k = k'
      · simp [get?, h]
      · simp [get?, List.lookup_cons, beq_false_of_ne h, h]
    · rename_i hne
      by_cases hk : k = k'
      · subst hk
        simp [get?, hne]
      · have : (k == k') = false := by simpa using hk
        simp only [get?, List.lookup_cons, this] at ih ⊢
        exact ih

/-- Putting a value under a key brings no key but this one. -/
theorem mem_keys_put {b : Bag} {key : String} {value : Json} {k : String}
    (h : k ∈ (b.put key value).map (·.1)) : k = key ∨ k ∈ b.map (·.1) := by
  induction b with
  | nil => simpa [put] using h
  | cons head rest ih =>
    obtain ⟨k', v'⟩ := head
    unfold put at h
    split at h
    · exact .inr (by simpa using h)
    · simp only [List.map_cons, List.mem_cons] at h ⊢
      rcases h with h | h
      · exact .inr (.inl h)
      · exact (ih h).imp id .inr

/-- Keys stay distinct when a value is put under one. -/
theorem nodup_put {b : Bag} (key : String) (value : Json) (h : (b.map (·.1)).Nodup) :
    ((b.put key value).map (·.1)).Nodup := by
  induction b with
  | nil => simp [put]
  | cons head rest ih =>
    obtain ⟨k', v'⟩ := head
    obtain ⟨hhead, hrest⟩ := List.nodup_cons.mp h
    unfold put
    split
    · exact List.nodup_cons.mpr ⟨hhead, hrest⟩
    · rename_i hne
      refine List.nodup_cons.mpr ⟨fun hmem => ?_, ih hrest⟩
      rcases mem_keys_put hmem with heq | hmem
      · exact hne heq
      · exact hhead hmem

/-- A key that is left out does not matter. -/
theorem filter_put {keep : String → Bool} (b : Bag) {key : String} (value : Json)
    (h : keep key = false) :
    (b.put key value).filter (fun e => keep e.1) = b.filter (fun e => keep e.1) := by
  induction b with
  | nil => simp [put, h]
  | cons head rest ih =>
    obtain ⟨k, v⟩ := head
    unfold put
    split
    · rename_i heq
      simp [heq, h]
    · rw [List.filter_cons, List.filter_cons, ih]

end Bag

namespace Number

def toFloat : Number → Float
  | .int n => Binary.ofInt64 n
  | .double x => x
  | .single x => Binary.widen x

/-- The integer, if it was written as one of 64 bits with a sign. -/
def toInt64? : Number → Option Int
  | .int n => if n ≤ Int64.maxValue.toInt then some n else none
  | .double _ | .single _ => none

theorem toInt64?_int {n : Int} (h : n ≤ Int64.maxValue.toInt) :
    (Number.int n).toInt64? = some n :=
  if_pos h

/-- The natural number, if it was written as an integer that is not negative. -/
def toNat? : Number → Option Nat
  | .int n => if 0 ≤ n then some n.toNat else none
  | .double _ | .single _ => none

/-- The integer next to zero of the two around the number, kept between `low` and `high`. -/
def truncate (low high : Int) : Number → Int
  | .int n => max low (min high n)
  | .double x => Binary.truncate low high x
  | .single x => Binary.truncate low high (Binary.widen x)

/-- Whether the number differs from zero. -/
def isNonzero : Number → Bool
  | .int n => n != 0
  | .double x => x != 0
  | .single x => x != 0

end Number

namespace Json

def string? : Json → Option String
  | .string s => some s
  | _ => none

def number? : Json → Option Number
  | .number n => some n
  | _ => none

def array? : Json → Option (List Json)
  | .array items => some items
  | _ => none

def object? : Json → Option Bag
  | .object entries => some entries
  | _ => none

def get? (j : Json) (key : String) : Option Json := j.object?.bind (·.get? key)

def ofNat (n : Nat) : Json := .number (.int n)

def ofInt32 (n : Int32) : Json := .number (.int n.toInt)

def ofUInt32 (n : UInt32) : Json := ofNat n.toNat

def ofFloat (x : Float) : Json := .number (.double x)

def ofFloat32 (x : Float32) : Json := .number (.single x)

/-- The entry of an optional field, which is left out when it is absent. -/
def optional {α : Type} (key : String) (encode : α → Json) : Option α → Bag
  | none => []
  | some a => [(key, encode a)]

/-- An optional field that is written as `null` when it is absent. -/
def orNull {α : Type} (encode : α → Json) : Option α → Json
  | none => .null
  | some a => encode a

mutual

/-- Every number of 32 bits made one of 64 bits with the same value. A float that is not finite has
no place in such a value and becomes `null`. -/
def widen : Json → Json
  | .number (.single x) => if x.isFinite then .number (.double (Binary.widen x)) else .null
  | .number (.double x) => if x.isFinite then .number (.double x) else .null
  | .array items => .array (widenAll items)
  | .object entries => .object (widenEntries entries)
  | j => j

/-- Widens every item. -/
def widenAll : List Json → List Json
  | [] => []
  | j :: rest => widen j :: widenAll rest

def widenEntries : List (String × Json) → List (String × Json)
  | [] => []
  | (k, j) :: rest => (k, widen j) :: widenEntries rest

end

end Json

end Tilemap
