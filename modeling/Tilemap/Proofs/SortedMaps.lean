import Tilemap.SortedMap

/-!
# Maps from lists of entries

`SortedMap.ofList` has the keys of the list and no entries but those of the list. A map is the map
of its own entries, so a map that is written entry by entry can be put together again.
-/

namespace Tilemap.SortedMap

variable {α : Type}

theorem ext {m m' : SortedMap α} (h : m.entries = m'.entries) : m = m' := by
  cases m
  cases m'
  simpa using h

theorem mem_of_get? {m : SortedMap α} {key : String} {value : α} (h : m.get? key = some value) :
    (key, value) ∈ m.entries := by
  obtain ⟨before, after, hsplit, -⟩ := List.lookup_eq_some_iff.mp h
  rw [hsplit]
  exact List.mem_append_right _ List.mem_cons_self

/-- As keys are distinct, a key has the value of any entry with it. -/
theorem get?_of_mem {m : SortedMap α} {key : String} {value : α} (h : (key, value) ∈ m.entries) :
    m.get? key = some value := by
  obtain ⟨before, after, hsplit⟩ := List.append_of_mem h
  have hsorted := m.sorted
  rw [hsplit, List.pairwise_append] at hsorted
  refine List.lookup_eq_some_iff.mpr ⟨before, after, hsplit, fun e he => ?_⟩
  have hlt : e.1 < key := hsorted.2.2 e he (key, value) List.mem_cons_self
  simpa using fun heq : key = e.1 => String.lt_irrefl key (heq ▸ hlt)

/-- Two maps with the same value under every key are equal. -/
theorem ext_get? {m m' : SortedMap α} (h : ∀ key, m.get? key = m'.get? key) : m = m' := by
  have hnodup (m : SortedMap α) : m.entries.Nodup := by
    refine m.sorted.imp fun {a b} hlt heq => ?_
    exact String.lt_irrefl b.1 (heq ▸ hlt)
  have hperm : m.entries.Perm m'.entries := by
    refine (List.perm_ext_iff_of_nodup (hnodup m) (hnodup m')).mpr fun e => ?_
    constructor
    · exact fun he => mem_of_get? (h e.1 ▸ get?_of_mem he)
    · exact fun he => mem_of_get? ((h e.1).symm ▸ get?_of_mem he)
  refine ext (hperm.eq_of_pairwise (fun a b _ _ hab hba => ?_) m.sorted m'.sorted)
  exact absurd (String.lt_trans hab hba) (String.lt_irrefl _)

theorem contains_insert (m : SortedMap α) (key : String) (value : α) (k : String) :
    (m.insert key value).contains k ↔ k = key ∨ m.contains k := by
  rw [contains, get?_insert, contains]
  by_cases h : k = key <;> simp [h]

/-! ### Entries put one after the other -/

/-- A key is in the map if it was there or came in. -/
theorem contains_foldl_insert (m : SortedMap α) (entries : List (String × α)) (k : String) :
    (entries.foldl (fun m e => m.insert e.1 e.2) m).contains k ↔
      m.contains k ∨ k ∈ entries.map Prod.fst := by
  induction entries generalizing m with
  | nil => simp
  | cons e rest ih =>
    rw [List.foldl_cons, ih, contains_insert, List.map_cons, List.mem_cons, or_assoc, or_left_comm]

theorem contains_ofList (entries : List (String × α)) (k : String) :
    (ofList entries).contains k ↔ k ∈ entries.map Prod.fst := by
  rw [ofList, contains_foldl_insert]
  simp [contains]

theorem mem_foldl_insert {m : SortedMap α} {entries : List (String × α)} {e : String × α}
    (h : e ∈ (entries.foldl (fun m e => m.insert e.1 e.2) m).entries) :
    e ∈ m.entries ∨ e ∈ entries := by
  induction entries generalizing m with
  | nil => exact .inl h
  | cons head rest ih =>
    rcases ih h with h | h
    · rcases mem_insertEntry h with rfl | h
      · exact .inr List.mem_cons_self
      · exact .inl h
    · exact .inr (List.mem_cons_of_mem _ h)

theorem mem_of_mem_ofList {entries : List (String × α)} {e : String × α}
    (h : e ∈ (ofList entries).entries) : e ∈ entries :=
  (mem_foldl_insert h).resolve_left (by simp [empty])

/-- The last value that came in under a key is the one that stays. -/
theorem get?_foldl_insert (m : SortedMap α) (entries : List (String × α)) (key : String) :
    (entries.foldl (fun m e => m.insert e.1 e.2) m).get? key =
      (entries.reverse.lookup key).or (m.get? key) := by
  induction entries generalizing m with
  | nil => simp
  | cons e rest ih =>
    obtain ⟨k, v⟩ := e
    rw [List.foldl_cons, ih, get?_insert, List.reverse_cons, List.lookup_append, Option.or_assoc]
    congr 1
    by_cases h : key = k
    · simp [h]
    · simp [List.lookup_cons, beq_false_of_ne h, h]

/-- A map made of a list has, under a key, the last value of the list. -/
theorem get?_ofList (entries : List (String × α)) (key : String) :
    (ofList entries).get? key = entries.reverse.lookup key := by
  rw [ofList, get?_foldl_insert, get?_empty, Option.or_none]

/-- The entries that are put later win. -/
theorem get?_ofList_append (entries entries' : List (String × α)) (key : String) :
    (ofList (entries ++ entries')).get? key =
      ((ofList entries').get? key).or ((ofList entries).get? key) := by
  simp only [get?_ofList, List.reverse_append, List.lookup_append]

/-- Of the entries under a key the last one counts. -/
theorem get?_ofList_map_eq_some {β : Type} {f : β → String × α} {items : List β} {key : String}
    {value : α} : (ofList (items.map f)).get? key = some value ↔
      ∃ before b after, items = before ++ b :: after ∧ f b = (key, value) ∧
        ∀ b' ∈ after, (f b').1 ≠ key := by
  rw [get?_ofList, ← List.map_reverse, List.lookup_eq_some_iff]
  constructor
  · rintro ⟨later, earlier, hsplit, hlater⟩
    obtain ⟨after, rest, hitems, rfl, hrest⟩ := List.map_eq_append_iff.mp hsplit
    obtain ⟨b, before, rfl, hb, -⟩ := List.map_eq_cons_iff.mp hrest
    refine ⟨before.reverse, b, after.reverse, ?_, hb, ?_⟩
    · rw [← List.reverse_reverse items, hitems]
      simp
    · intro b' hb' heq
      have hne := hlater (f b') (List.mem_map_of_mem (List.mem_reverse.mp hb'))
      simp [heq] at hne
  · rintro ⟨before, b, after, rfl, hb, hafter⟩
    refine ⟨after.reverse.map f, before.reverse.map f, by simp [hb], ?_⟩
    intro e he
    obtain ⟨b', hb', rfl⟩ := List.mem_map.mp he
    simpa using (hafter b' (List.mem_reverse.mp hb')).symm

/-- Of the entries that are kept under a key the last one counts. -/
theorem get?_ofList_filterMap_eq_some {β : Type} {f : β → Option (String × α)} {items : List β}
    {key : String} {value : α} : (ofList (items.filterMap f)).get? key = some value ↔
      ∃ before b after, items = before ++ b :: after ∧ f b = some (key, value) ∧
        ∀ b' ∈ after, ∀ value', f b' ≠ some (key, value') := by
  have hlast := @get?_ofList_map_eq_some α (String × α) id (items.filterMap f) key value
  rw [List.map_id] at hlast
  rw [hlast]
  constructor
  · rintro ⟨kept, e, rest, hsplit, rfl, hrest⟩
    obtain ⟨before, tail, rfl, -, htail⟩ := List.filterMap_eq_append_iff.mp hsplit
    obtain ⟨skipped, b, after, rfl, -, hb, rfl⟩ := List.filterMap_eq_cons_iff.mp htail
    refine ⟨before ++ skipped, b, after, by simp, hb, ?_⟩
    intro b' hb' value' heq
    exact hrest _ (List.mem_filterMap.mpr ⟨b', hb', heq⟩) rfl
  · rintro ⟨before, b, after, rfl, hb, hafter⟩
    refine ⟨before.filterMap f, _, after.filterMap f, by simp [hb], rfl, ?_⟩
    rintro ⟨key', value'⟩ he rfl
    obtain ⟨b', hb', heq⟩ := List.mem_filterMap.mp he
    exact hafter b' hb' value' heq

/-- The value of an entry stays if no later one has its key. -/
theorem get?_ofList_append_cons {before after : List (String × α)} {key : String} {value : α}
    (h : ∀ e ∈ after, e.1 ≠ key) :
    (ofList (before ++ (key, value) :: after)).get? key = some value := by
  have hlast :=
    @get?_ofList_map_eq_some α (String × α) id (before ++ (key, value) :: after) key value
  rw [List.map_id] at hlast
  exact hlast.mpr ⟨before, _, after, rfl, rfl, h⟩

theorem get?_ofList_eq_none {entries : List (String × α)} {key : String} :
    (ofList entries).get? key = none ↔ ∀ e ∈ entries, e.1 ≠ key := by
  rw [get?_ofList, List.lookup_eq_none_iff]
  simp only [List.mem_reverse, bne_iff_ne, ne_comm]

/-! ### A map from its own entries -/

/-- A key after all the others is put at the end. -/
theorem insertEntry_of_forall_lt {key : String} {value : α} {entries : List (String × α)}
    (h : ∀ e ∈ entries, e.1 < key) : insertEntry key value entries = entries ++ [(key, value)] := by
  induction entries with
  | nil => rfl
  | cons head rest ih =>
    obtain ⟨hhead, hrest⟩ := List.forall_mem_cons.mp h
    have hnot : ¬ key < head.1 := fun hlt => String.lt_irrefl _ (String.lt_trans hlt hhead)
    have hne : key ≠ head.1 := fun heq => String.lt_irrefl _ (heq ▸ hhead)
    rw [insertEntry, if_neg hnot, if_neg hne, ih hrest, List.cons_append]

/-- Entries that come in sorted are put at the end, one by one. -/
theorem entries_foldl_insert (m : SortedMap α) (entries : List (String × α))
    (h : (m.entries ++ entries).Pairwise fun a b => a.1 < b.1) :
    (entries.foldl (fun m e => m.insert e.1 e.2) m).entries = m.entries ++ entries := by
  induction entries generalizing m with
  | nil => simp
  | cons e rest ih =>
    have hbelow : ∀ b ∈ m.entries, b.1 < e.1 := fun b hb =>
      (List.pairwise_append.mp h).2.2 b hb e List.mem_cons_self
    have hinsert : (m.insert e.1 e.2).entries = m.entries ++ [e] := insertEntry_of_forall_lt hbelow
    rw [List.foldl_cons, ih, hinsert, List.append_assoc, List.singleton_append]
    rwa [hinsert, List.append_assoc, List.singleton_append]

/-- Entries that are sorted already stay as they are. -/
theorem ofList_entries (m : SortedMap α) : ofList m.entries = m :=
  ext (entries_foldl_insert empty m.entries m.sorted)

end Tilemap.SortedMap
