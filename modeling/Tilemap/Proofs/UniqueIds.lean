import Mathlib.Data.List.Nodup
import Mathlib.Data.List.Perm.Subperm
import Mathlib.Data.Nat.Find
import Tilemap.IdAllocator

/-!
# Ids are issued once

The allocator starts its search behind the last number tried for an id. `allocateAll_eq_plainIds`
shows that this finds what the plain rule asks for, which looks at every number from two on: the
numbers that are skipped have all been issued. So no id is issued twice, whatever texts are asked
for and in whatever order.

`Sound` is the invariant behind this, and `Issues` says what a run of several requests adds to the
ids issued so far. Doors and objects are built by such runs.
-/

namespace Tilemap.IdAllocator

open Text (ofNatural)

/-! ### The ids issued so far -/

/-- The ids issued so far, the latest one first. -/
def ids (a : IdAllocator) : List String := a.issued.map Prod.fst

@[simp] theorem ids_empty : empty.ids = [] := rfl

theorem lookup_eq_none_iff_notMem (a : IdAllocator) (id : String) :
    a.issued.lookup id = none ↔ id ∉ a.ids := by
  simp only [ids, List.lookup_eq_none_iff, bne_iff_ne, List.mem_map, not_exists, not_and]
  exact ⟨fun h e he heq => h e he heq.symm, fun h e he heq => h e he heq.symm⟩

/-- An id counts as contained exactly when it has been issued. -/
theorem contains_iff_mem_ids (a : IdAllocator) (id : String) : a.contains id ↔ id ∈ a.ids := by
  rw [contains, Option.isSome_iff_ne_none, ne_eq, lookup_eq_none_iff_notMem, not_not]

theorem numbered_injective (base : String) : Function.Injective (numbered base) := by
  intro m n h
  have hrepr : (ofNatural m).toList = (ofNatural n).toList := by
    simpa [numbered, String.append_assoc] using congrArg String.toList h
  simp only [ofNatural, Nat.toList_repr] at hrepr
  rw [← Nat.ofDigitChars_ten_toDigits (n := m), hrepr, Nat.ofDigitChars_ten_toDigits]

/-- Among one more candidates than there are ids taken, one is free. -/
theorem exists_free_above (taken : List String) (base : String) (last : Nat) :
    ∃ k ∈ List.range' (last + 1) (taken.length + 1), numbered base k ∉ taken := by
  by_contra h
  push Not at h
  have hnodup : ((List.range' (last + 1) (taken.length + 1)).map (numbered base)).Nodup :=
    List.Nodup.map (numbered_injective base) List.nodup_range'
  have hsub : (List.range' (last + 1) (taken.length + 1)).map (numbered base) ⊆ taken := by
    intro id hid
    obtain ⟨k, hk, rfl⟩ := List.mem_map.mp hid
    exact h k hk
  have hle := (hnodup.subperm hsub).length_le
  simp only [List.length_map, List.length_range'] at hle
  omega

/-! ### The plain rule -/

theorem exists_free (taken : List String) (base : String) :
    ∃ k, 2 ≤ k ∧ numbered base k ∉ taken := by
  obtain ⟨k, hk, hfree⟩ := exists_free_above taken base 1
  exact ⟨k, (List.mem_range'_1.mp hk).1, hfree⟩

/-- The least number from two on with which an id is not taken yet. -/
def leastFree (taken : List String) (base : String) : Nat := Nat.find (exists_free taken base)

/-- The plain rule: the id asked for if it is not taken, and else the id with the least number from
two on that makes it free. -/
def plainId (taken : List String) (requested : String) : String :=
  if base requested ∈ taken then numbered (base requested) (leastFree taken (base requested))
  else base requested

/-- The ids that the plain rule issues one after the other. -/
def plainIds (taken : List String) : List String → List String
  | [] => []
  | requested :: rest =>
    plainId taken requested :: plainIds (plainId taken requested :: taken) rest

/-- The ids that the allocator issues one after the other, and what it is then. -/
def allocateAll (a : IdAllocator) : List String → List String × IdAllocator
  | [] => ([], a)
  | requested :: rest =>
    let (id, a) := a.allocate requested
    let (ids, a) := a.allocateAll rest
    (id :: ids, a)

/-- A free number is the least one if all the numbers before it are taken. -/
theorem leastFree_eq {taken : List String} {base : String} {k : Nat} (hk : 2 ≤ k)
    (hfree : numbered base k ∉ taken) (htaken : ∀ j, 2 ≤ j → j < k → numbered base j ∈ taken) :
    leastFree taken base = k := by
  rw [leastFree, Nat.find_eq_iff]
  refine ⟨⟨hk, hfree⟩, fun j hj hfreej => ?_⟩
  exact hfreej.2 (htaken j hfreej.1 hj)

theorem plainId_notMem (taken : List String) (requested : String) :
    plainId taken requested ∉ taken := by
  rw [plainId]
  split
  · exact (Nat.find_spec (exists_free taken (base requested))).2
  · assumption

theorem length_plainIds (taken requests : List String) :
    (plainIds taken requests).length = requests.length := by
  induction requests generalizing taken with
  | nil => rfl
  | cons requested rest ih => simp [plainIds, ih]

/-! ### The invariant -/

/-- No id was issued twice, and every number from two up to the last one tried for an id was issued
with it. So a search need not look at these numbers again. -/
structure Sound (a : IdAllocator) : Prop where
  nodup : a.ids.Nodup
  tried : ∀ {id : String} {last : Nat}, a.issued.lookup id = some last →
    1 ≤ last ∧ ∀ k, 2 ≤ k → k ≤ last → numbered id k ∈ a.ids

theorem sound_empty : empty.Sound where
  nodup := List.nodup_nil
  tried := by simp [empty]

theorem map_fst_setLast (issued : List (String × Nat)) (id : String) (last : Nat) :
    (setLast issued id last).map Prod.fst = issued.map Prod.fst := by
  rw [setLast, List.map_map]
  apply List.map_congr_left
  rintro ⟨i, n⟩ _
  by_cases h : i = id <;> simp [h]

/-- Setting the last number of an id changes no other id. -/
theorem lookup_setLast (issued : List (String × Nat)) (id : String) (last : Nat) (k : String) :
    (setLast issued id last).lookup k =
      if k = id then (issued.lookup k).map fun _ => last else issued.lookup k := by
  induction issued with
  | nil => simp [setLast]
  | cons e rest ih =>
    obtain ⟨i, n⟩ := e
    simp only [setLast] at ih
    by_cases hk : k = i
    · subst hk
      by_cases hid : k = id <;> simp [setLast, hid]
    · by_cases hid : i = id
      · simp [setLast, hid, List.lookup_cons, beq_false_of_ne (hid ▸ hk), ih]
      · simp [setLast, hid, List.lookup_cons, beq_false_of_ne hk, ih]

/-- The search ends at a free number, and every number that it passes is taken. -/
theorem nextNumber_spec (a : IdAllocator) (base : String) (last : Nat) :
    last < a.nextNumber base last ∧ numbered base (a.nextNumber base last) ∉ a.ids ∧
      ∀ k, last < k → k < a.nextNumber base last → numbered base k ∈ a.ids := by
  obtain ⟨k, hk, hfree⟩ := exists_free_above a.ids base last
  have hlength : a.ids.length = a.issued.length := List.length_map ..
  have hfound : ((List.range' (last + 1) (a.issued.length + 1)).find? fun n =>
      !a.contains (numbered base n)).isSome := by
    rw [List.find?_isSome]
    refine ⟨k, hlength ▸ hk, ?_⟩
    simpa [← contains_iff_mem_ids] using hfree
  obtain ⟨n, hn⟩ := Option.isSome_iff_exists.mp hfound
  rw [nextNumber, hn, Option.getD_some]
  rw [List.find?_range'_eq_some] at hn
  obtain ⟨hnfree, hnmem, hpassed⟩ := hn
  refine ⟨(List.mem_range'_1.mp hnmem).1, ?_, fun j hj hjn => ?_⟩
  · simpa [← contains_iff_mem_ids] using hnfree
  · simpa [contains_iff_mem_ids] using hpassed j hj hjn

/-- Every number from two up to the one found is taken: those up to the last one tried by the
invariant, and the others by the search. -/
theorem Sound.tried_below_nextNumber {a : IdAllocator} (hs : a.Sound) {id : String} {last k : Nat}
    (hlast : a.issued.lookup id = some last) (hk : 2 ≤ k) (hlt : k < a.nextNumber id last) :
    numbered id k ∈ a.ids := by
  rcases Nat.lt_or_ge last k with hlk | hkl
  · exact (a.nextNumber_spec id last).2.2 k hlk hlt
  · exact (hs.tried hlast).2 k hk hkl

/-! ### One request -/

/-- A request for an id that is free. -/
theorem allocate_of_notMem {a : IdAllocator} {requested : String} (h : base requested ∉ a.ids) :
    a.allocate requested = (base requested, ⟨(base requested, 1) :: a.issued⟩) := by
  simp only [allocate, (a.lookup_eq_none_iff_notMem _).mpr h]

/-- A request for an id that is taken. -/
theorem allocate_of_lookup {a : IdAllocator} {requested : String} {last : Nat}
    (h : a.issued.lookup (base requested) = some last) :
    a.allocate requested =
      (numbered (base requested) (a.nextNumber (base requested) last),
        ⟨(numbered (base requested) (a.nextNumber (base requested) last), 1) ::
          setLast a.issued (base requested) (a.nextNumber (base requested) last)⟩) := by
  simp only [allocate, h]

/-- A request adds the id that it gets to those issued. -/
theorem ids_allocate (a : IdAllocator) (requested : String) :
    (a.allocate requested).2.ids = (a.allocate requested).1 :: a.ids := by
  cases h : a.issued.lookup (base requested) with
  | none => simp [allocate_of_notMem ((a.lookup_eq_none_iff_notMem _).mp h), ids]
  | some last => simp [allocate_of_lookup h, ids, map_fst_setLast]

/-- A sound allocator issues the id of the plain rule. -/
theorem allocate_eq_plainId {a : IdAllocator} (hs : a.Sound) (requested : String) :
    (a.allocate requested).1 = plainId a.ids requested := by
  cases h : a.issued.lookup (base requested) with
  | none =>
    have hnot := (a.lookup_eq_none_iff_notMem _).mp h
    rw [allocate_of_notMem hnot, plainId, if_neg hnot]
  | some last =>
    have hmem : base requested ∈ a.ids := by
      by_contra hnot
      simp [(a.lookup_eq_none_iff_notMem _).mpr hnot] at h
    obtain ⟨hlt, hfree, -⟩ := a.nextNumber_spec (base requested) last
    have hpos := (hs.tried h).1
    rw [allocate_of_lookup h, plainId, if_pos hmem]
    rw [leastFree_eq (by omega) hfree fun j hj hjn => hs.tried_below_nextNumber h hj hjn]

/-- What is known of an entry stays known when more ids are issued. -/
theorem Sound.tried_cons {a : IdAllocator} (hs : a.Sound) {id new : String} {last : Nat}
    (h : a.issued.lookup id = some last) :
    1 ≤ last ∧ ∀ k, 2 ≤ k → k ≤ last → numbered id k ∈ new :: a.ids := by
  obtain ⟨hpos, htried⟩ := hs.tried h
  exact ⟨hpos, fun k hk hle => List.mem_cons_of_mem _ (htried k hk hle)⟩

/-- An id that is new has the number one, of which nothing is claimed. -/
theorem tried_one (ids : List String) (id : String) :
    1 ≤ 1 ∧ ∀ k, 2 ≤ k → k ≤ 1 → numbered id k ∈ ids :=
  ⟨le_rfl, fun k hk hle => by omega⟩

theorem sound_allocate {a : IdAllocator} (hs : a.Sound) (requested : String) :
    (a.allocate requested).2.Sound where
  nodup := by
    rw [ids_allocate, allocate_eq_plainId hs]
    exact List.nodup_cons.mpr ⟨plainId_notMem a.ids requested, hs.nodup⟩
  tried := by
    intro id last hlast
    rw [ids_allocate]
    cases h : a.issued.lookup (base requested) with
    | none =>
      rw [allocate_of_notMem ((a.lookup_eq_none_iff_notMem _).mp h)] at hlast ⊢
      by_cases hid : id = base requested
      · obtain rfl : 1 = last := by simpa [hid] using hlast
        exact tried_one _ _
      · rw [List.lookup_cons, beq_false_of_ne hid] at hlast
        exact hs.tried_cons hlast
    | some tried =>
      obtain ⟨hlt, -, -⟩ := a.nextNumber_spec (base requested) tried
      rw [allocate_of_lookup h] at hlast ⊢
      by_cases hid : id = numbered (base requested) (a.nextNumber (base requested) tried)
      · obtain rfl : 1 = last := by simpa [hid] using hlast
        exact tried_one _ _
      rw [List.lookup_cons, beq_false_of_ne hid] at hlast
      simp only [lookup_setLast] at hlast
      split at hlast
      · rename_i heq
        subst heq
        obtain rfl : a.nextNumber (base requested) tried = last := by simpa [h] using hlast
        refine ⟨by omega, fun k hk hle => ?_⟩
        -- the number just found is issued by this request, and those below it were before
        rcases Nat.lt_or_eq_of_le hle with hlt' | rfl
        · exact List.mem_cons_of_mem _ (hs.tried_below_nextNumber h hk hlt')
        · exact List.mem_cons_self
      · exact hs.tried_cons hlast

/-! ### Runs -/

/-- Between two states of an allocator these ids were issued, one after the other. -/
structure Issues (a : IdAllocator) (issued : List String) (b : IdAllocator) : Prop where
  ids_eq : b.ids = issued.reverse ++ a.ids
  sound : a.Sound → b.Sound

namespace Issues

variable {a b c : IdAllocator} {l l' : List String}

theorem refl (a : IdAllocator) : a.Issues [] a := ⟨rfl, id⟩

theorem allocate (a : IdAllocator) (requested : String) :
    a.Issues [(a.allocate requested).1] (a.allocate requested).2 :=
  ⟨ids_allocate a requested, fun hs => sound_allocate hs requested⟩

theorem append (h : a.Issues l b) (h' : b.Issues l' c) : a.Issues (l ++ l') c where
  ids_eq := by rw [h'.ids_eq, h.ids_eq, List.reverse_append, List.append_assoc]
  sound hs := h'.sound (h.sound hs)

/-- A request and then a run. -/
theorem cons {requested : String} (h : (a.allocate requested).2.Issues l b) :
    a.Issues ((a.allocate requested).1 :: l) b :=
  (allocate a requested).append h

/-- The ids of a run on a fresh allocator are distinct. -/
theorem nodup (h : empty.Issues l b) : l.Nodup := by
  have hnodup := (h.sound sound_empty).nodup
  rw [h.ids_eq, ids_empty, List.append_nil] at hnodup
  exact List.nodup_reverse.mp hnodup

end Issues

/-- The ids given out for a list of requests are what it issues. -/
theorem issues_allocateAll (a : IdAllocator) (requests : List String) :
    a.Issues (a.allocateAll requests).1 (a.allocateAll requests).2 := by
  induction requests generalizing a with
  | nil => exact .refl a
  | cons requested rest ih => exact .cons (ih _)

/-- A sound allocator gives out the plain ids. -/
theorem allocateAll_fst {a : IdAllocator} (hs : a.Sound) (requests : List String) :
    (a.allocateAll requests).1 = plainIds a.ids requests := by
  induction requests generalizing a with
  | nil => rfl
  | cons requested rest ih =>
    have hrest := ih (sound_allocate hs requested)
    rw [ids_allocate] at hrest
    simp only [allocateAll, plainIds, hrest, allocate_eq_plainId hs]

theorem numbered_ne_self (id : String) (k : Nat) : numbered id k ≠ id := by
  intro h
  simpa [numbered] using congrArg (·.toList.length) h

/-- A number is tried only when as many ids are taken, so numbers grow no faster than the ids. -/
theorem Sound.last_le {a : IdAllocator} (hs : a.Sound) {id : String} {last : Nat}
    (h : a.issued.lookup id = some last) : last ≤ a.ids.length := by
  obtain ⟨hpos, htried⟩ := hs.tried h
  have hmem : id ∈ a.ids := by
    by_contra hnot
    simp [(a.lookup_eq_none_iff_notMem _).mpr hnot] at h
  have hnodup : (id :: (List.range' 2 (last - 1)).map (numbered id)).Nodup := by
    refine List.nodup_cons.mpr ⟨?_, List.Nodup.map (numbered_injective id) List.nodup_range'⟩
    intro hid
    obtain ⟨k, -, hk⟩ := List.mem_map.mp hid
    exact numbered_ne_self id k hk
  have hsub : id :: (List.range' 2 (last - 1)).map (numbered id) ⊆ a.ids := by
    refine List.cons_subset.mpr ⟨hmem, fun i hi => ?_⟩
    obtain ⟨k, hk, rfl⟩ := List.mem_map.mp hi
    have hk := List.mem_range'_1.mp hk
    exact htried k hk.1 (by omega)
  have hle := (hnodup.subperm hsub).length_le
  simp only [List.length_cons, List.length_map, List.length_range'] at hle
  omega

theorem Sound.lookup_of_mem {a : IdAllocator} (hs : a.Sound) {e : String × Nat}
    (he : e ∈ a.issued) : a.issued.lookup e.1 = some e.2 := by
  rw [List.lookup_eq_some_iff]
  obtain ⟨before, after, hsplit⟩ := List.append_of_mem he
  refine ⟨before, after, hsplit, fun p hp => ?_⟩
  have hnodup := hs.nodup
  rw [ids, hsplit, List.map_append, List.map_cons] at hnodup
  have hdisjoint := List.disjoint_of_nodup_append hnodup
  rw [bne_iff_ne]
  intro heq
  exact hdisjoint (heq ▸ List.mem_map_of_mem hp) List.mem_cons_self

/-- A run on a fresh allocator issues the ids of the plain rule. No id is issued twice, the
allocator contains exactly the ids issued, and its numbers fit into 32 bits. -/
theorem allocateAll_eq_plainIds (requests : List String)
    (hfew : requests.length < UInt32.size - 1) :
    (empty.allocateAll requests).1 = plainIds [] requests ∧
      (empty.allocateAll requests).1.Nodup ∧
      (∀ id, (empty.allocateAll requests).2.contains id ↔
        id ∈ (empty.allocateAll requests).1) ∧
      ∀ e ∈ (empty.allocateAll requests).2.issued, e.2 < UInt32.size := by
  have hrun := issues_allocateAll empty requests
  have hplain := allocateAll_fst sound_empty requests
  have hs := hrun.sound sound_empty
  refine ⟨hplain, hrun.nodup, fun id => ?_, fun e he => ?_⟩
  · rw [contains_iff_mem_ids, hrun.ids_eq, ids_empty, List.append_nil, List.mem_reverse]
  · have hle := hs.last_le (hs.lookup_of_mem he)
    rw [hrun.ids_eq, hplain, ids_empty, List.append_nil, List.length_reverse,
      length_plainIds] at hle
    omega

/-- Ids that were asked for literally, ids of other ids, and a blank one. -/
theorem allocateAll_lamps :
    ["lamp", "lamp-2", " lamp ", "lamp-2", "", "lamp"].length < UInt32.size - 1 ∧
      (empty.allocateAll ["lamp", "lamp-2", " lamp ", "lamp-2", "", "lamp"]).1 =
        ["lamp", "lamp-2", "lamp-3", "lamp-2-2", "object", "lamp-4"] ∧
      (empty.allocateAll ["lamp", "lamp-2", " lamp ", "lamp-2", "", "lamp"]).1.Nodup := by
  have hfew : ["lamp", "lamp-2", " lamp ", "lamp-2", "", "lamp"].length < UInt32.size - 1 := by
    decide
  obtain ⟨-, hnodup, -, -⟩ := allocateAll_eq_plainIds _ hfew
  exact ⟨hfew, by decide +kernel, hnodup⟩

end Tilemap.IdAllocator
