import Mathlib.Data.List.Induction
import Mathlib.Data.List.Nodup
import Tilemap.Json.Basic

/-!
# Bags from lists of entries

`Bag.ofEntries` has every key of the list once. Under a key stands the last value that the list has
for it (`get?_ofEntries`), and the keys stand in the order in which they first come in the list
(`pairwise_place_ofEntries`). Of two bags that are merged the second one counts first
(`get?_merge_of_nodup`).
-/

namespace Tilemap.Bag

/-- The place in a list of entries where a key first comes. -/
def placeIn (entries : List (String × Json)) (key : String) : Nat :=
  (entries.map Prod.fst).idxOf key

variable {b : Bag} {entries : List (String × Json)}

theorem merge_concat (base added : Bag) (e : String × Json) :
    merge base (added ++ [e]) = (merge base added).put e.1 e.2 := by
  simp [merge, List.foldl_append]

/-- An entry more at the end is put into the bag of the others. -/
theorem ofEntries_concat (entries : List (String × Json)) (e : String × Json) :
    ofEntries (entries ++ [e]) = (ofEntries entries).put e.1 e.2 :=
  merge_concat [] entries e

/-- Of the values under a key the one that is added last counts. -/
theorem get?_merge (base added : Bag) (key : String) :
    (merge base added).get? key = (added.reverse.lookup key).or (base.get? key) := by
  induction added using List.reverseRecOn with
  | nil => rfl
  | append_singleton before e ih =>
    obtain ⟨k, v⟩ := e
    rw [merge_concat, get?_put, ih, List.reverse_concat]
    by_cases h : key = k
    · simp [h]
    · simp [List.lookup_cons, beq_false_of_ne h, h]

/-- Of the values under a key the last one counts. -/
theorem get?_ofEntries (entries : List (String × Json)) (key : String) :
    (ofEntries entries).get? key = entries.reverse.lookup key := by
  rw [ofEntries, get?_merge]
  exact Option.or_none

theorem keys_put (b : Bag) (key : String) (value : Json) :
    (b.put key value).map Prod.fst =
      if key ∈ b.map Prod.fst then b.map Prod.fst else b.map Prod.fst ++ [key] := by
  induction b with
  | nil => simp [put]
  | cons e rest ih =>
    obtain ⟨k, v⟩ := e
    unfold put
    by_cases h : k = key
    · simp [h]
    · rw [if_neg h, List.map_cons, List.map_cons, ih]
      simp only [List.mem_cons, Ne.symm h, false_or]
      split <;> rfl

theorem mem_keys_ofEntries {key : String} :
    key ∈ (ofEntries entries).map Prod.fst ↔ key ∈ entries.map Prod.fst := by
  induction entries using List.reverseRecOn with
  | nil => rfl
  | append_singleton before e ih =>
    rw [ofEntries_concat, keys_put, List.map_append, List.mem_append, ← ih]
    split
    · rename_i hmem
      simp only [List.map_cons, List.map_nil, List.mem_singleton, iff_self_or]
      rintro rfl
      exact hmem
    · exact List.mem_append

/-- Later entries do not move a key that is there already. -/
theorem placeIn_append_of_mem {key : String} (h : key ∈ entries.map Prod.fst)
    (more : List (String × Json)) : placeIn (entries ++ more) key = placeIn entries key := by
  rw [placeIn, List.map_append, List.idxOf_append_of_mem h, placeIn]

/-- The keys stand in the order in which they first come. -/
theorem pairwise_place_ofEntries (entries : List (String × Json)) :
    ((ofEntries entries).map Prod.fst).Pairwise (placeIn entries · < placeIn entries ·) := by
  induction entries using List.reverseRecOn with
  | nil => exact .nil
  | append_singleton before e ih =>
    have hold : ((ofEntries before).map Prod.fst).Pairwise
        (placeIn (before ++ [e]) · < placeIn (before ++ [e]) ·) := by
      refine ih.imp_of_mem ?_
      intro key key' hkey hkey' hlt
      rw [placeIn_append_of_mem (mem_keys_ofEntries.mp hkey),
        placeIn_append_of_mem (mem_keys_ofEntries.mp hkey')]
      exact hlt
    rw [ofEntries_concat, keys_put]
    split
    · exact hold
    · rename_i hnew
      rw [mem_keys_ofEntries] at hnew
      refine List.pairwise_append.mpr ⟨hold, List.pairwise_singleton _ _, ?_⟩
      intro key hkey key' hkey'
      obtain rfl := List.mem_singleton.mp hkey'
      rw [mem_keys_ofEntries] at hkey
      rw [placeIn_append_of_mem hkey, placeIn, placeIn, List.map_append,
        List.idxOf_append_of_notMem hnew]
      have hlt := List.idxOf_lt_length_of_mem hkey
      omega

theorem nodup_ofEntries (entries : List (String × Json)) :
    ((ofEntries entries).map Prod.fst).Nodup := by
  refine (pairwise_place_ofEntries entries).imp ?_
  rintro key _ hlt rfl
  exact Nat.lt_irrefl _ hlt

/-- Where the keys are distinct an entry is what stands under its key. -/
theorem mem_iff_get? (h : (b.map Prod.fst).Nodup) {key : String} {value : Json} :
    (key, value) ∈ b ↔ b.get? key = some value := by
  constructor
  · intro hmem
    obtain ⟨before, after, rfl⟩ := List.append_of_mem hmem
    rw [List.map_append, List.map_cons, List.nodup_append] at h
    refine List.lookup_eq_some_iff.mpr ⟨before, after, rfl, ?_⟩
    intro e he
    exact bne_iff_ne.mpr (h.2.2 e.1 (List.mem_map_of_mem he) key List.mem_cons_self).symm
  · intro hget
    obtain ⟨before, after, rfl, -⟩ := List.lookup_eq_some_iff.mp hget
    exact List.mem_append_right _ List.mem_cons_self

/-- Where the keys are distinct, the first value under a key is the last one. -/
theorem lookup_reverse (h : (b.map Prod.fst).Nodup) (key : String) :
    b.reverse.lookup key = b.get? key := by
  have hreverse : (b.reverse.map Prod.fst).Nodup := by
    rw [List.map_reverse]
    exact List.nodup_reverse.mpr h
  ext value
  change Bag.get? b.reverse key = _ ↔ _
  rw [← mem_iff_get? hreverse, ← mem_iff_get? h, List.mem_reverse]

/-- What is put over a bag counts before it. -/
theorem get?_merge_of_nodup {added : Bag} (h : (added.map Prod.fst).Nodup) (base : Bag)
    (key : String) : (merge base added).get? key = (added.get? key).or (base.get? key) := by
  rw [get?_merge, lookup_reverse h]

theorem nodup_merge {base : Bag} (h : (base.map Prod.fst).Nodup) (added : Bag) :
    ((merge base added).map Prod.fst).Nodup := by
  induction added using List.reverseRecOn with
  | nil => exact h
  | append_singleton before e ih =>
    rw [merge_concat]
    exact nodup_put e.1 e.2 ih

end Tilemap.Bag
