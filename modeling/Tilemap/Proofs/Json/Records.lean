import Tilemap.Proofs.Json.Values

/-!
# Records that are written and read

`Decodes d encode a` says that a decoder gives a value back from the tree of its JSON form, as far
as that form is readable. A record has this property when its fields have it: its entries are found
as its `Fields`, and every field is looked up there, whether it is required, optional or left out.
-/

namespace Tilemap

namespace Json

variable {α : Type}

/-- A decoder gives back a value from its JSON form. -/
def Decodes (d : Decoder α) (encode : α → Json) (a : α) : Prop :=
  ∀ limit, (encode a).Readable limit → d limit (encode a).raw = some a

/-! ### Single values -/

theorem decodes_string (s : String) : Decodes .string .string s := fun _ _ => text?_glyphsOf s

theorem decodes_bool (b : Bool) : Decodes .bool .bool b := fun _ _ => rfl

theorem number_int {n : Int} (h : Fits64 n) (limit : Nat) :
    Decoder.number limit (Number.int n).raw = some (.int n) := by
  rw [raw_of_literal (wellFormed_intLiteral n) (chars_intLiteral n)]
  exact number?_intLiteral h

/-- An integer is read back if it lies between the bounds. -/
theorem int_int {n low high : Int} (h : Fits64 n) (hlow : low ≤ n)
    (hhigh : n ≤ high) (limit : Nat) : Decoder.int low high limit (Number.int n).raw = some n := by
  rw [Decoder.int, number_int h limit]
  simp [hlow, hhigh]

theorem decodes_int32 (n : Int32) : Decodes .int32 .ofInt32 n := by
  intro limit _
  have hlow : Int32.minValue.toInt ≤ n.toInt := Int32.minValue_le_toInt n
  have hhigh : n.toInt ≤ Int32.maxValue.toInt := Int32.toInt_le n
  have hfits : Fits64 n.toInt := by
    rw [Int32.toInt_minValue] at hlow
    rw [Int32.toInt_maxValue] at hhigh
    exact fits64_of_bounds (by omega) (by omega)
  have hint : Decoder.int Int32.minValue.toInt Int32.maxValue.toInt limit (ofInt32 n).raw =
      some n.toInt := int_int hfits hlow hhigh limit
  rw [Decoder.int32, hint, Option.map_some, Int32.ofInt_toInt]

theorem decodes_uint32 (n : UInt32) : Decodes .uint32 .ofUInt32 n := by
  intro limit _
  have hsize : n.toNat < UInt32.size := n.toNat_lt_size
  have hfits : Fits64 n.toNat := by
    simp only [UInt32.size] at hsize
    exact fits64_of_bounds (by omega) (by omega)
  have hint : Decoder.int 0 (UInt32.size - 1 : Nat) limit (ofUInt32 n).raw = some (n.toNat : Int) :=
    int_int hfits (by omega) (by omega) limit
  rw [Decoder.uint32, hint, Option.map_some, Int.toNat_natCast, UInt32.ofNat_toNat]

theorem decodes_double {x : Float} (hfinite : x.isFinite) : Decodes .double .ofFloat x := by
  intro limit h
  have hread := json?_double hfinite h
  obtain ⟨literal, hliteral⟩ := exists_raw_eq_number (n := .double x) hfinite
  rw [hliteral, Raw.json?] at hread
  obtain ⟨n, hn, heq⟩ := Option.map_eq_some_iff.mp hread
  obtain rfl : n = .double x := number.inj heq
  rw [ofFloat, raw, hliteral, Decoder.double, Decoder.number, hn]
  rfl

theorem decodes_single {x : Float32} (hfinite : x.isFinite) : Decodes .single .ofFloat32 x := by
  intro limit h
  have hread := h.floats.single x (by simp [ofFloat32, numbers]) hfinite
  obtain ⟨literal, hliteral⟩ := exists_raw_eq_number (n := .single x) hfinite
  rw [Decoder.parse?, Raw.parse?_document, Option.bind_some, ofFloat32, raw, hliteral] at hread
  rw [ofFloat32, raw, hliteral]
  exact hread

theorem decodes_bag {b : Bag} (hb : (object b).Proper) : Decodes .bag .object b := by
  intro limit h
  rw [Decoder.bag, Decoder.json, json?_raw _ hb h]
  rfl

/-- A word out of a choice is read back if its name leads back to it. -/
theorem decodes_choice {names : String → Option α} {name : α → String} {a : α}
    (h : names (name a) = some a) : Decodes (.choice names) (fun a => .string (name a)) a := by
  intro limit _
  rw [raw, Decoder.choice, text?_glyphsOf, Option.bind_some, h]

/-! ### Lists and absent values -/

theorem rawItems_eq_map (items : List Json) : rawItems items = items.map raw := by
  induction items with
  | nil => rfl
  | cons j rest ih => rw [rawItems, ih, List.map_cons]

theorem rawEntries_eq_map (entries : List (String × Json)) :
    rawEntries entries = entries.map fun e => (glyphsOf e.1, e.2.raw) := by
  induction entries with
  | nil => rfl
  | cons e rest ih => rw [rawEntries, ih, List.map_cons]

theorem mapM_eq_some {β : Type} {f : α → Option β} {g : β → α} {bs : List β}
    (h : ∀ b ∈ bs, f (g b) = some b) : (bs.map g).mapM f = some bs := by
  induction bs with
  | nil => rfl
  | cons b rest ih =>
    have hb := h b List.mem_cons_self
    have hrest := ih fun b' hb' => h b' (List.mem_cons_of_mem _ hb')
    rw [List.map_cons, List.mapM_cons, hb, hrest]
    rfl

/-- A list is read back if its items are. -/
theorem decodes_list {d : Decoder α} {encode : α → Json} {l : List α}
    (h : ∀ a ∈ l, Decodes d encode a) : Decodes d.list (fun l => .array (l.map encode)) l := by
  intro limit hreadable
  obtain ⟨inner, henter, hitems⟩ := hreadable.items
  rw [raw, rawItems_eq_map, List.map_map, Decoder.list, henter]
  exact mapM_eq_some fun a ha => h a ha inner (hitems _ (List.mem_map_of_mem ha))

/-- A tree that `null` is not is read as if it had to be there. -/
theorem nullable_of_ne {d : Decoder α} {limit : Nat} {r : Raw} (h : r ≠ .null) :
    d.nullable limit r = (d limit r).map some := by
  cases r with
  | null => exact absurd rfl h
  | bool b => rfl
  | number n => rfl
  | string s => rfl
  | array items => rfl
  | object entries => rfl

/-- A decoder gives back a value from a JSON form that is not `null`. -/
structure DecodesPresent (d : Decoder α) (encode : α → Json) (a : α) : Prop where
  decodes : Decodes d encode a
  raw_ne_null : (encode a).raw ≠ .null

theorem DecodesPresent.string (s : String) : DecodesPresent .string .string s :=
  ⟨decodes_string s, by simp [raw]⟩

theorem DecodesPresent.bag {b : Bag} (hb : (object b).Proper) : DecodesPresent .bag .object b :=
  ⟨decodes_bag hb, by simp [raw]⟩

theorem DecodesPresent.single {x : Float32} (hfinite : x.isFinite) :
    DecodesPresent .single .ofFloat32 x := by
  refine ⟨decodes_single hfinite, ?_⟩
  obtain ⟨literal, hliteral⟩ := exists_raw_eq_number (n := .single x) hfinite
  simp [ofFloat32, raw, hliteral]

/-- A value that may be absent is read back, as `null` if it is. -/
theorem decodes_orNull {d : Decoder α} {encode : α → Json} {o : Option α}
    (h : ∀ a ∈ o, DecodesPresent d encode a) : Decodes d.nullable (orNull encode) o := by
  intro limit hreadable
  cases o with
  | none => rfl
  | some a =>
    have ha := h a rfl
    rw [orNull, nullable_of_ne ha.raw_ne_null, ha.decodes limit hreadable, Option.map_some]

/-! ### Fields of a record -/

/-- The fields found for a record are its entries. -/
structure Fields.Holds (f : Fields) (entries : Bag) : Prop where
  positional : f.positional = false
  found : f.found = entries.map fun e => (e.1, e.2.raw)
  readable : ∀ e ∈ entries, e.2.Readable f.depth

/-- The spellings of different fields differ, and every field has a name. -/
def Fields.Distinct (spellings : List (List String)) : Prop :=
  spellings.flatten.Nodup ∧ [] ∉ spellings

namespace Fields

instance (spellings : List (List String)) : Decidable (Distinct spellings) :=
  inferInstanceAs (Decidable (_ ∧ _))

/-- The names of the fields are among their spellings, in the same order. -/
theorem names_sublist_flatten {spellings : List (List String)} (h : [] ∉ spellings) :
    (spellings.map (·.headD "")).Sublist spellings.flatten := by
  induction spellings with
  | nil => exact .slnil
  | cons field rest ih =>
    obtain ⟨first, others, rfl⟩ : ∃ first others, field = first :: others :=
      List.exists_cons_of_ne_nil fun heq => h (heq ▸ List.mem_cons_self)
    have hrest := ih fun hmem => h (List.mem_cons_of_mem _ hmem)
    exact .cons_cons first (hrest.trans (List.sublist_append_right others _))

/-- A field is found by its name, since no two fields share a spelling. -/
theorem find?_name {spellings : List (List String)} (h : Distinct spellings) {name : String}
    (hname : name ∈ spellings.map (·.headD "")) :
    ∃ others, spellings.find? (·.contains name) = some (name :: others) := by
  obtain ⟨hnodup, hnil⟩ := h
  induction spellings with
  | nil => cases hname
  | cons field rest ih =>
    obtain ⟨first, others, rfl⟩ : ∃ first others, field = first :: others :=
      List.exists_cons_of_ne_nil fun heq => hnil (heq ▸ List.mem_cons_self)
    obtain ⟨-, hrest, hdisjoint⟩ := List.nodup_append.mp (List.flatten_cons ▸ hnodup)
    rcases List.mem_cons.mp hname with rfl | hname
    · exact ⟨others, by simp⟩
    · have hrestNil : [] ∉ rest := fun hmem => hnil (List.mem_cons_of_mem _ hmem)
      obtain ⟨others', hfind⟩ := ih hname hrest hrestNil
      have hmem : name ∈ rest.flatten :=
        List.mem_flatten_of_mem (List.mem_of_find?_eq_some hfind) List.mem_cons_self
      have hnot : (first :: others).contains name = false := by
        rw [← Bool.not_eq_true, List.contains_iff_mem]
        exact fun hin => hdisjoint _ hin _ hmem rfl
      exact ⟨others', by rw [List.find?_cons, hnot, hfind]⟩

theorem lookup_found (entries : Bag) (name : String) :
    (entries.map fun e => (e.1, e.2.raw)).lookup name = (entries.lookup name).map raw := by
  induction entries with
  | nil => rfl
  | cons e rest ih =>
    rw [List.map_cons, List.lookup_cons, List.lookup_cons, ih]
    cases name == e.1 <;> rfl

/-- Fields under their names are found one after the other, none of them twice. -/
theorem foldlM_add? {spellings : List (List String)} {found : List (String × Raw)} {entries : Bag}
    (hknown : ∀ e ∈ entries, ∃ others,
      spellings.find? (·.contains e.1) = some (e.1 :: others))
    (hnodup : (found.map (·.1) ++ entries.map (·.1)).Nodup) :
    (rawEntries entries).foldlM (add? spellings) found =
      some (found ++ entries.map fun e => (e.1, e.2.raw)) := by
  induction entries generalizing found with
  | nil => simp [rawEntries]
  | cons e rest ih =>
    obtain ⟨k, j⟩ := e
    obtain ⟨others, hfind⟩ := hknown (k, j) List.mem_cons_self
    have hnew : k ∉ found.map (·.1) := fun hmem =>
      (List.nodup_append.mp hnodup).2.2 _ hmem _ List.mem_cons_self rfl
    have hlookup : found.lookup k = none := by
      refine List.lookup_eq_none_iff.mpr fun p hp => ?_
      simpa using fun heq : k = p.1 => hnew (heq ▸ List.mem_map_of_mem hp)
    have hadd : add? spellings found (glyphsOf k, j.raw) = some (found ++ [(k, j.raw)]) := by
      simp only [add?, text?_glyphsOf, Option.bind_eq_bind, Option.bind_some, hfind, hlookup]
      rfl
    rw [rawEntries, List.foldlM_cons, hadd, Option.bind_eq_bind, Option.bind_some, ih]
    · rw [List.append_assoc]
      rfl
    · exact fun e he => hknown e (List.mem_cons_of_mem _ he)
    · simpa using hnodup

/-- The entries of a record are found when their keys are names of fields in their order. -/
theorem of?_raw {spellings : List (List String)} (hspellings : Distinct spellings) {entries : Bag}
    (hkeys : (entries.map (·.1)).Sublist (spellings.map (·.headD ""))) {limit : Nat}
    (h : (object entries).Readable limit) :
    ∃ f, Fields.of? spellings limit (object entries).raw = some f ∧ f.Holds entries := by
  obtain ⟨inner, henter, hreadable⟩ := h.entries
  have hknown : ∀ e ∈ entries, ∃ others,
      spellings.find? (·.contains e.1) = some (e.1 :: others) := fun e he =>
    find?_name hspellings (hkeys.subset (List.mem_map_of_mem he))
  have hnodup : (([] : List (String × Raw)).map (·.1) ++ entries.map (·.1)).Nodup :=
    hspellings.1.sublist (hkeys.trans (names_sublist_flatten hspellings.2))
  refine ⟨⟨inner, false, entries.map fun e => (e.1, e.2.raw)⟩, ?_, rfl, rfl, hreadable⟩
  rw [raw, Fields.of?, henter]
  simp only [Option.bind_eq_bind, Option.bind_some]
  rw [foldlM_add? hknown hnodup]
  rfl

/-- A record is read from its entries when it can be built from fields that hold them. -/
theorem of?_bind_eq_some {spellings : List (List String)} (hspellings : Distinct spellings)
    {entries : Bag} (hkeys : (entries.map (·.1)).Sublist (spellings.map (·.headD "")))
    {limit : Nat} (h : (object entries).Readable limit) {build : Fields → Option α} {a : α}
    (hbuild : ∀ f : Fields, f.Holds entries → build f = some a) :
    (Fields.of? spellings limit (object entries).raw >>= build) = some a := by
  obtain ⟨f, hf, hfields⟩ := of?_raw hspellings hkeys h
  rw [hf]
  exact hbuild f hfields

section

variable {f : Fields} {entries : Bag} {name : String} {d : Decoder α} {encode : α → Json}

theorem Holds.lookup (h : f.Holds entries) (name : String) :
    f.found.lookup name = (entries.lookup name).map raw := by
  rw [h.found, lookup_found]

/-- The value of an entry is read as it is. -/
theorem Holds.decode (h : f.Holds entries) {a : α} (ha : Decodes d encode a)
    (hentry : entries.lookup name = some (encode a)) : d f.depth (encode a).raw = some a := by
  obtain ⟨before, after, hsplit, -⟩ := List.lookup_eq_some_iff.mp hentry
  refine ha f.depth (h.readable (name, encode a) ?_)
  rw [hsplit]
  exact List.mem_append_right _ List.mem_cons_self

/-- A field that must be there is read back. -/
theorem Holds.required (h : f.Holds entries) {a : α} (ha : Decodes d encode a)
    (hentry : entries.lookup name = some (encode a)) : f.required name d = some a := by
  rw [Fields.required, h.lookup, hentry, Option.map_some, Option.bind_some, h.decode ha hentry]

/-- A field that is there is read back, whatever its default is. -/
theorem Holds.withDefault (h : f.Holds entries) {a : α} (ha : Decodes d encode a) {default : α}
    (hentry : entries.lookup name = some (encode a)) :
    f.withDefault name default d = some a := by
  rw [Fields.withDefault, h.lookup, hentry, Option.map_some]
  exact h.decode ha hentry

/-- A field that may be left out has its default when it is. -/
theorem Holds.withDefault_getD (h : f.Holds entries) {o : Option α}
    (ho : ∀ a ∈ o, Decodes d encode a) {default : α}
    (hentry : entries.lookup name = o.map encode) :
    f.withDefault name default d = some (o.getD default) := by
  cases o with
  | none => rw [Fields.withDefault, h.lookup, hentry]; rfl
  | some a => exact h.withDefault (ho a rfl) hentry

/-- An optional field is read back, absent if it was left out. -/
theorem Holds.optional (h : f.Holds entries) {o : Option α}
    (ho : ∀ a ∈ o, DecodesPresent d encode a) (hentry : entries.lookup name = o.map encode) :
    f.optional name d = some o := by
  cases o with
  | none => rw [Fields.optional, Fields.withDefault, h.lookup, hentry]; rfl
  | some a => exact h.withDefault (a := some a) (decodes_orNull (o := some a) ho) hentry

/-- An optional float that is not finite is written as `null`, and so it is found absent. -/
theorem Holds.optional_single (h : f.Holds entries) {o : Option Float32}
    (hentry : entries.lookup name = o.map .ofFloat32) :
    f.optional name .single = some (o.filter (·.isFinite)) := by
  match o with
  | none => exact h.optional (by simp) hentry
  | some x =>
    cases hfinite : x.isFinite with
    | true =>
      rw [Option.filter_some_pos hfinite]
      refine h.optional (fun y hy => ?_) hentry
      obtain rfl := Option.some.inj hy
      exact DecodesPresent.single hfinite
    | false =>
      have hraw : (ofFloat32 x).raw = .null := raw_of_not_finite hfinite
      rw [Option.filter_some_neg hfinite, Fields.optional, Fields.withDefault, h.lookup, hentry,
        Option.map_some, Option.map_some, hraw]
      rfl

/-- An optional field that was written as `null` is read back as absent. -/
theorem Holds.optionalNamed (h : f.Holds entries) {o : Option α}
    (ho : ∀ a ∈ o, DecodesPresent d encode a)
    (hentry : entries.lookup name = some (orNull encode o)) :
    f.optionalNamed name d = some o := by
  rw [Fields.optionalNamed, h.positional, if_neg Bool.false_ne_true]
  exact h.withDefault (decodes_orNull ho) hentry

end

end Fields

/-! ### Looking up entries -/

@[simp] theorem lookup_entry (key : String) (j : Json) (rest : Bag) (name : String) :
    List.lookup name ((key, j) :: rest) = if name = key then some j else rest.lookup name := by
  by_cases h : name = key
  · simp [h]
  · simp [List.lookup_cons, beq_false_of_ne h, h]

@[simp] theorem lookup_optional (key : String) (encode : α → Json) (o : Option α) (name : String) :
    (Json.optional key encode o).lookup name = if name = key then o.map encode else none := by
  cases o <;> simp [Json.optional]

theorem keys_optional_sublist (key : String) (encode : α → Json) (o : Option α) :
    ((Json.optional key encode o).map (·.1)).Sublist [key] := by
  cases o with
  | none => exact List.nil_sublist _
  | some a => exact .refl _

end Json

end Tilemap
