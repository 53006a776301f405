import Mathlib.Data.List.Induction
import Tilemap.Proofs.DirectoryListing
import Tilemap.Proofs.Json.Values
import Tilemap.Proofs.SortedMaps
import Tilemap.Registry

/-!
# What a scan of directories finds

A scan takes the first directory that can be listed, with templates in it or without, and looks no
further. Of the files there that hold a template with an id, the last by name gives the template
with that id. `scansTo_scanDirectories` says so of any file store that looking does not change, and
in whatever order it lists the names of a directory.
-/

namespace Tilemap

open Text

variable {S : Type} [FileStore (StateM S)]

/-! ### Statement -/

/-- A directory that differs from one before it in case at most. -/
def IsRepeat (before : List String) (directory : String) : Prop :=
  ∃ earlier ∈ before, lower earlier.toList = lower directory.toList

/-- A directory of a list, with those that stand before it, is no repeat of them. -/
structure IsSearched (directories before : List String) (directory : String) : Prop where
  split : ∃ after, directories = before ++ directory :: after
  new : ¬ IsRepeat before directory

/-- A directory cannot be listed. -/
def Unreadable (s : S) (directory : String) : Prop :=
  ∃ e, answer (FileStore.list directory) s = .error e

/-- A name in a directory is that of a file that reads as a template. -/
structure TemplateAt (directory : String) (s : S) (name : String) (t : ObjectTemplate) :
    Prop where
  extension : Path.extension? (Path.join directory name) = some "obj" ∨
    Path.extension? (Path.join directory name) = some "json"
  isFile : answer (FileStore.isFile (Path.join directory name)) s = true
  template : ∃ text j, answer (FileStore.read (Path.join directory name)) s = .ok text ∧
    Json.parse? text = some j ∧ ObjectTemplate.ofJson j (some (Path.join directory name)) = .ok t

/-- The last template by name with an id. -/
def LastTemplate (directory : String) (s : S) (names : List String) (id : String)
    (t : ObjectTemplate) : Prop :=
  ∃ name ∈ names, TemplateAt directory s name t ∧ t.id = id ∧
    ∀ name' ∈ names, ∀ t', TemplateAt directory s name' t' → t'.id = id → name' ≤ name

/-- What a scan finds. -/
inductive ScansTo (directories : List String) (s : S) : TemplateSet → Prop where
  /-- The templates of the first directory that can be listed. -/
  | found {before names : List String} {directory : String} {set : TemplateSet}
      (hsearched : IsSearched directories before directory)
      (hnames : answer (FileStore.list directory) s = .ok names)
      (hbefore : ∀ before' d, IsSearched before before' d → Unreadable s d)
      (hdirectory : set.directory = some directory)
      (hget : ∀ id t, set.get? id = some t ↔ LastTemplate directory s names id t) :
      ScansTo directories s set
  /-- There is no such directory. -/
  | nothing (h : ∀ before d, IsSearched directories before d → Unreadable s d) :
      ScansTo directories s .empty

/-! ### The directories to search -/

theorem IsSearched.mem {directories before : List String} {directory : String}
    (h : IsSearched directories before directory) : directory ∈ directories := by
  obtain ⟨after, rfl⟩ := h.split
  exact List.mem_append_right before List.mem_cons_self

/-- One step of the search for repeats: the directories kept, and those seen, in lower case. -/
def keepDirectory (p : List String × List (List Char)) (d : String) :
    List String × List (List Char) :=
  if p.2.contains (lower d.toList) then p else (p.1 ++ [d], lower d.toList :: p.2)

theorem distinctDirectories_eq (directories : List String) :
    distinctDirectories directories = (directories.foldl keepDirectory ([], [])).1 := rfl

/-- The keys that were seen are the directories in small letters. -/
theorem mem_seen_iff (directories : List String) (key : List Char) :
    key ∈ (directories.foldl keepDirectory ([], [])).2 ↔
      ∃ d ∈ directories, lower d.toList = key := by
  induction directories using List.reverseRecOn with
  | nil => simp
  | append_singleton directories d ih =>
    rw [List.foldl_append, List.foldl_cons, List.foldl_nil, keepDirectory]
    split
    · rename_i hseen
      rw [ih]
      constructor
      · rintro ⟨d', hd', rfl⟩
        exact ⟨d', List.mem_append_left _ hd', rfl⟩
      · rintro ⟨d', hd', rfl⟩
        rcases List.mem_append.mp hd' with hd' | hd'
        · exact ⟨d', hd', rfl⟩
        · obtain rfl := List.mem_singleton.mp hd'
          exact ih.mp (List.contains_iff_mem.mp hseen)
    · simp [ih, or_and_right, exists_or, eq_comm, or_comm]

/-- A directory at the end is searched unless it is a repeat. -/
theorem distinctDirectories_append_singleton (directories : List String) (d : String)
    [Decidable (IsRepeat directories d)] :
    distinctDirectories (directories ++ [d]) =
      distinctDirectories directories ++ if IsRepeat directories d then [] else [d] := by
  have hrepeat : (directories.foldl keepDirectory ([], [])).2.contains (lower d.toList) ↔
      IsRepeat directories d := by
    rw [List.contains_iff_mem, mem_seen_iff, IsRepeat]
  rw [distinctDirectories_eq, distinctDirectories_eq, List.foldl_append, List.foldl_cons,
    List.foldl_nil, keepDirectory]
  by_cases h : IsRepeat directories d
  · rw [if_pos (hrepeat.mpr h), if_pos h, List.append_nil]
  · rw [if_neg (hrepeat.not.mpr h), if_neg h]

/-- A directory at the end is searched after the others, unless it repeats one. -/
theorem isSearched_append_singleton {directories before : List String} {d x : String} :
    IsSearched (directories ++ [x]) before d ↔ IsSearched directories before d ∨
      before = directories ∧ d = x ∧ ¬ IsRepeat directories x := by
  constructor
  · rintro ⟨⟨after, hsplit⟩, hnew⟩
    rcases List.eq_nil_or_concat after with rfl | ⟨after, y, rfl⟩
    · obtain ⟨rfl, hx⟩ := List.append_inj' hsplit rfl
      obtain rfl : x = d := by simpa using hx
      exact .inr ⟨rfl, rfl, hnew⟩
    · rw [List.concat_eq_append, ← List.cons_append, ← List.append_assoc] at hsplit
      obtain ⟨rfl, -⟩ := List.append_inj' hsplit rfl
      exact .inl ⟨⟨after, rfl⟩, hnew⟩
  · rintro (⟨⟨after, rfl⟩, hnew⟩ | ⟨rfl, rfl, hnew⟩)
    · exact ⟨⟨after ++ [x], by simp⟩, hnew⟩
    · exact ⟨⟨[], rfl⟩, hnew⟩

/-- What is searched is one of the distinct directories. -/
theorem mem_distinctDirectories {directories before : List String} {d : String}
    (h : IsSearched directories before d) : d ∈ distinctDirectories directories := by
  classical
  induction directories using List.reverseRecOn with
  | nil =>
    obtain ⟨⟨after, hsplit⟩, -⟩ := h
    simp at hsplit
  | append_singleton directories x ih =>
    rw [distinctDirectories_append_singleton, List.mem_append]
    rcases isSearched_append_singleton.mp h with h | ⟨-, rfl, hnew⟩
    · exact .inl (ih h)
    · rw [if_neg hnew]
      exact .inr List.mem_cons_self

/-- Before a directory to search, those to search before it stand in the list. -/
theorem exists_isSearched {directories before after : List String} {d : String}
    (h : distinctDirectories directories = before ++ d :: after) :
    ∃ before', IsSearched directories before' d ∧
      ∀ before'' d', IsSearched before' before'' d' → d' ∈ before := by
  classical
  induction directories using List.reverseRecOn generalizing after with
  | nil => simp [distinctDirectories_eq] at h
  | append_singleton directories x ih =>
    rw [distinctDirectories_append_singleton] at h
    have hkeep {after : List String}
        (h : distinctDirectories directories = before ++ d :: after) :
        ∃ before', IsSearched (directories ++ [x]) before' d ∧
          ∀ before'' d', IsSearched before' before'' d' → d' ∈ before := by
      obtain ⟨before', hd, hbefore⟩ := ih h
      exact ⟨before', isSearched_append_singleton.mpr (.inl hd), hbefore⟩
    by_cases hx : IsRepeat directories x
    · rw [if_pos hx, List.append_nil] at h
      exact hkeep h
    · rw [if_neg hx] at h
      rcases List.eq_nil_or_concat after with rfl | ⟨after, y, rfl⟩
      · obtain ⟨hbefore, hd⟩ := List.append_inj' h rfl
        obtain rfl : x = d := by simpa using hd
        refine ⟨directories, isSearched_append_singleton.mpr (.inr ⟨rfl, rfl, hx⟩), ?_⟩
        intro before'' d' hd'
        exact hbefore ▸ mem_distinctDirectories hd'
      · rw [List.concat_eq_append, ← List.cons_append, ← List.append_assoc] at h
        exact hkeep (List.append_inj' h rfl).1

/-! ### The templates of a directory -/

/-- The template in the file with a name, if there is one. -/
def templateIn? (directory : String) (s : S) (name : String) : Option ObjectTemplate :=
  let path := Path.join directory name
  if isTemplatePath path then
    if answer (FileStore.isFile path) s then (answer (loadTemplate path) s).toOption else none
  else none

def templatesListed (directory : String) :
    Except FileError (List String) → StateM S (Except FileError TemplateSet)
  | .error e => return .error e
  | .ok names => do
    let paths := (names.mergeSort (· ≤ ·)).map (Path.join directory)
    let files ← (paths.filter isTemplatePath).filterM FileStore.isFile
    let templates ← files.filterMapM fun path => do
      match ← loadTemplate path with
      | .ok t => return some t
      | .error _ => return none
    return .ok (TemplateSet.ofList (some directory) templates)

/-- The same program as one on the states alone. -/
def Listed.asStateM {order : ListingOrder} {α : Type} (x : Listed order S α) : StateM S α := x

theorem asStateM_loadTemplates (order : ListingOrder) (directory : String) :
    Listed.asStateM (loadTemplates directory : Listed order S _) =
      (Except.map (order.arrange directory) <$> FileStore.list directory : StateM S _) >>=
        templatesListed directory :=
  rfl

/-- The first directory that can be loaded ends the scan. -/
theorem asStateM_scanDirectories (order : ListingOrder) (d : String) (rest : List String) :
    Listed.asStateM (scanDirectories (d :: rest) : Listed order S _) = (do
      match ← Listed.asStateM (loadTemplates d : Listed order S _) with
      | .ok set => return set
      | .error _ => Listed.asStateM (scanDirectories rest : Listed order S _)) :=
  rfl

theorem toOption_eq_some {ε α : Type} {x : Except ε α} {a : α} :
    x.toOption = some a ↔ x = .ok a := by
  cases x <;> simp [Except.toOption]

theorem isTemplatePath_iff {path : String} : isTemplatePath path ↔
    Path.extension? path = some "obj" ∨ Path.extension? path = some "json" := by
  simp [isTemplatePath]

/-- There is one template in a file at most. -/
theorem TemplateAt.unique {directory : String} {s : S} {name : String} {t t' : ObjectTemplate}
    (h : TemplateAt directory s name t) (h' : TemplateAt directory s name t') : t = t' := by
  obtain ⟨text, j, htext, hj, ht⟩ := h.template
  obtain ⟨text', j', htext', hj', ht'⟩ := h'.template
  obtain rfl := Except.ok.inj (htext.symm.trans htext')
  obtain rfl := Option.some.inj (hj.symm.trans hj')
  exact Except.ok.inj (ht.symm.trans ht')

/-- A file with the document of a value holds the template that the value describes. -/
theorem templateAt_iff_of_document {directory name : String} {s : S} {j : Json}
    {t : ObjectTemplate} (hj : j.Proper) (h : j.Readable Json.depthLimit)
    (hread : answer (FileStore.read (Path.join directory name)) s = .ok j.document) :
    TemplateAt directory s name t ↔ isTemplatePath (Path.join directory name) ∧
      answer (FileStore.isFile (Path.join directory name)) s = true ∧
      ObjectTemplate.ofJson j (some (Path.join directory name)) = .ok t := by
  have hparse := Json.parse?_document hj h
  rw [isTemplatePath_iff]
  constructor
  · rintro ⟨hextension, hfile, text, j', hread', hparse', ht⟩
    obtain rfl := Except.ok.inj (hread.symm.trans hread')
    obtain rfl := Option.some.inj (hparse.symm.trans hparse')
    exact ⟨hextension, hfile, ht⟩
  · rintro ⟨hextension, hfile, ht⟩
    exact ⟨hextension, hfile, _, j, hread, hparse, ht⟩

/-- The template in the last file of all is the last with its id. -/
theorem TemplateAt.lastTemplate {directory : String} {s : S} {name : String} {t : ObjectTemplate}
    {names : List String} (h : TemplateAt directory s name t) (hname : name ∈ names)
    (hlast : ∀ name' ∈ names, name' ≤ name) : LastTemplate directory s names t.id t :=
  ⟨name, hname, h, rfl, fun name' hname' _ _ _ => hlast name' hname'⟩

/-- There is one last template with an id at most. -/
theorem LastTemplate.unique {directory : String} {s : S} {names : List String} {id : String}
    {t t' : ObjectTemplate} (h : LastTemplate directory s names id t)
    (h' : LastTemplate directory s names id t') : t = t' := by
  obtain ⟨name, hname, ht, hid, hlast⟩ := h
  obtain ⟨name', hname', ht', hid', hlast'⟩ := h'
  obtain rfl : name = name' :=
    le_antisymm (hlast' name hname t ht hid) (hlast name' hname' t' ht' hid')
  exact ht.unique ht'

namespace Steady

variable (h : Steady S)
include h

theorem keepsState_loadTemplate (path : String) :
    KeepsState (loadTemplate path : StateM S (Except TemplateError ObjectTemplate)) := by
  refine (h.read path).bind fun text => ?_
  split
  · exact keepsState_pure _
  · split
    · exact keepsState_pure _
    · exact keepsState_pure _

/-- A file is loaded if it can be read and its text spells a template. -/
theorem answer_loadTemplate_eq_ok {path : String} {s : S} {t : ObjectTemplate} :
    answer (loadTemplate path) s = .ok t ↔
      ∃ text j, answer (FileStore.read path) s = .ok text ∧ Json.parse? text = some j ∧
        ObjectTemplate.ofJson j (some path) = .ok t := by
  rw [loadTemplate, answer_bind (h.read _)]
  cases answer (FileStore.read path) s with
  | error e => simp [answer_pure]
  | ok text => cases hj : Json.parse? text <;> simp [answer_pure, hj]

theorem templateIn?_eq_some {directory : String} {s : S} {name : String} {t : ObjectTemplate} :
    templateIn? directory s name = some t ↔ TemplateAt directory s name t := by
  rw [templateIn?, Option.ite_none_right_eq_some, Option.ite_none_right_eq_some,
    isTemplatePath_iff, toOption_eq_some, h.answer_loadTemplate_eq_ok]
  constructor
  · rintro ⟨hextension, hfile, htemplate⟩
    exact ⟨hextension, hfile, htemplate⟩
  · rintro ⟨hextension, hfile, htemplate⟩
    exact ⟨hextension, hfile, htemplate⟩

/-- The listed files are loaded in the order of their names, without those that cannot be. -/
theorem run_templatesListed (directory : String) (names : List String) (s : S) :
    (templatesListed directory (.ok names)).run s =
      (.ok (TemplateSet.ofList (some directory)
        ((names.mergeSort (· ≤ ·)).filterMap (templateIn? directory s))), s) := by
  let load (path : String) : StateM S (Option ObjectTemplate) := do
    match ← loadTemplate path with
    | .ok t => return some t
    | .error _ => return none
  have hkeeps (path : String) : KeepsState (load path) := by
    refine (h.keepsState_loadTemplate path).bind fun result => ?_
    cases result with
    | ok t => exact keepsState_pure _
    | error e => exact keepsState_pure _
  have hload (path : String) : answer (load path) s = (answer (loadTemplate path) s).toOption := by
    show answer (loadTemplate path >>= _) s = _
    rw [answer_bind (h.keepsState_loadTemplate path)]
    cases answer (loadTemplate path) s <;> rfl
  rw [templatesListed, run_bind_of_run_eq (filterM_run h.isFile _ s),
    run_bind_of_run_eq (filterMapM_run hkeeps _ s)]
  simp only [hload, List.filterMap_filter, List.filterMap_map]
  rfl

end Steady

theorem pairwise_mergeSort_le (names : List String) :
    (names.mergeSort (· ≤ ·)).Pairwise (· ≤ ·) := by
  have hsorted : (names.mergeSort (· ≤ ·)).Pairwise fun a b => decide (a ≤ b) = true := by
    apply List.pairwise_mergeSort
    · intro a b c hab hbc
      exact decide_eq_true (le_trans (of_decide_eq_true hab) (of_decide_eq_true hbc))
    · intro a b
      simpa using le_total a b
  exact hsorted.imp of_decide_eq_true

/-- Sorted by name, the templates of a directory give each id the last one. -/
theorem get?_templatesListed (h : Steady S) {directory : String} {s : S} {names : List String}
    {id : String} {t : ObjectTemplate} :
    (TemplateSet.ofList (some directory)
        ((names.mergeSort (· ≤ ·)).filterMap (templateIn? directory s))).get? id = some t ↔
      LastTemplate directory s names id t := by
  have hmem (name : String) : name ∈ names.mergeSort (· ≤ ·) ↔ name ∈ names :=
    (List.mergeSort_perm names _).mem_iff
  have hlast {t : ObjectTemplate}
      (hget : (TemplateSet.ofList (some directory)
        ((names.mergeSort (· ≤ ·)).filterMap (templateIn? directory s))).get? id = some t) :
      LastTemplate directory s names id t := by
    obtain ⟨before, t, after, hsplit, ht, hafter⟩ := SortedMap.get?_ofList_map_eq_some.mp hget
    obtain ⟨rfl, rfl⟩ := Prod.mk.inj ht
    obtain ⟨earlier, rest, hnames, -, hrest⟩ := List.filterMap_eq_append_iff.mp hsplit
    obtain ⟨skipped, name, later, rfl, hskipped, hname, rfl⟩ := List.filterMap_eq_cons_iff.mp hrest
    have hsorted := pairwise_mergeSort_le names
    rw [hnames, ← List.append_assoc] at hsorted
    refine ⟨name, (hmem name).mp (by simp [hnames]), h.templateIn?_eq_some.mp hname, rfl, ?_⟩
    intro name' hname' t' ht' hid
    rw [← hmem, hnames, ← List.append_assoc, List.mem_append, List.mem_cons] at hname'
    rcases hname' with hearlier | rfl | hlater
    · exact (List.pairwise_append.mp hsorted).2.2 name' hearlier name List.mem_cons_self
    · exact le_refl name'
    · exact absurd hid (hafter t'
        (List.mem_filterMap.mpr ⟨name', hlater, h.templateIn?_eq_some.mpr ht'⟩))
  constructor
  · exact hlast
  · intro ht
    -- some template is found, and it is the last one too
    cases hget : (TemplateSet.ofList (some directory)
        ((names.mergeSort (· ≤ ·)).filterMap (templateIn? directory s))).get? id with
    | none =>
      obtain ⟨name, hname, hat, rfl, -⟩ := ht
      have hin := List.mem_filterMap.mpr
        ⟨name, (hmem name).mpr hname, h.templateIn?_eq_some.mpr hat⟩
      exact absurd rfl (SortedMap.get?_ofList_eq_none.mp hget _ (List.mem_map_of_mem hin))
    | some t' => rw [(hlast hget).unique ht]

/-- A directory is loaded as it is listed. -/
theorem run_loadTemplates (h : Steady S) (order : ListingOrder) (directory : String) (s : S) :
    (∃ e, answer (FileStore.list directory) s = .error e ∧
      (Listed.asStateM (loadTemplates directory : Listed order S _)).run s = (.error e, s)) ∨
    (∃ names set, answer (FileStore.list directory) s = .ok names ∧
      (Listed.asStateM (loadTemplates directory : Listed order S _)).run s = (.ok set, s) ∧
      set.directory = some directory ∧
      ∀ id t, set.get? id = some t ↔ LastTemplate directory s names id t) := by
  have hlist : (Except.map (order.arrange directory) <$> FileStore.list directory :
      StateM S _).run s =
        ((answer (FileStore.list directory) s).map (order.arrange directory), s) :=
    Prod.ext rfl (h.list directory s)
  rw [asStateM_loadTemplates, run_bind_of_run_eq hlist]
  cases hnames : answer (FileStore.list directory) s with
  | error e => exact .inl ⟨e, rfl, rfl⟩
  | ok names =>
    have hmem (name : String) : name ∈ order.arrange directory names ↔ name ∈ names :=
      (order.perm directory names).mem_iff
    refine .inr ⟨names, _, rfl, h.run_templatesListed directory _ s, rfl, fun id t => ?_⟩
    rw [get?_templatesListed h, LastTemplate, LastTemplate]
    simp only [hmem]

/-- The first directory that can be listed is taken. -/
theorem run_scanDirectories (h : Steady S) (order : ListingOrder) (directories : List String)
    (s : S) : ∃ set,
      (Listed.asStateM (scanDirectories directories : Listed order S _)).run s = (set, s) ∧
      ((∃ before directory after names, directories = before ++ directory :: after ∧
          (∀ d ∈ before, Unreadable s d) ∧ answer (FileStore.list directory) s = .ok names ∧
          set.directory = some directory ∧
          ∀ id t, set.get? id = some t ↔ LastTemplate directory s names id t) ∨
        (∀ d ∈ directories, Unreadable s d) ∧ set = .empty) := by
  induction directories with
  | nil => exact ⟨.empty, rfl, .inr ⟨by simp, rfl⟩⟩
  | cons directory rest ih =>
    rw [asStateM_scanDirectories]
    rcases run_loadTemplates h order directory s with
      ⟨e, herror, hrun⟩ | ⟨names, set, hnames, hrun, hdirectory, hget⟩
    · have hunreadable : Unreadable s directory := ⟨e, herror⟩
      rw [run_bind_of_run_eq hrun]
      obtain ⟨set, hset, hfound⟩ := ih
      refine ⟨set, hset, ?_⟩
      rcases hfound with ⟨before, d, after, names, rfl, hbefore, hrest⟩ | ⟨hall, hempty⟩
      · exact .inl ⟨directory :: before, d, after, names, rfl,
          List.forall_mem_cons.mpr ⟨hunreadable, hbefore⟩, hrest⟩
      · exact .inr ⟨List.forall_mem_cons.mpr ⟨hunreadable, hall⟩, hempty⟩
    · rw [run_bind_of_run_eq hrun]
      exact ⟨set, rfl, .inl ⟨[], directory, rest, names, rfl, by simp, hnames, hdirectory, hget⟩⟩

/-- A scan of directories without repeats finds what is to be found there, and changes nothing. -/
theorem scansTo_scanDirectories (h : Steady S) (order : ListingOrder) (directories : List String)
    (s : S) : ∃ set,
      (Listed.asStateM (scanDirectories (distinctDirectories directories) :
        Listed order S _)).run s = (set, s) ∧ ScansTo directories s set := by
  obtain ⟨set, hrun, hfound⟩ := run_scanDirectories h order (distinctDirectories directories) s
  refine ⟨set, hrun, ?_⟩
  rcases hfound with ⟨before, directory, after, names, hsplit, hbefore, hnames, hdirectory, hget⟩ |
    ⟨hall, rfl⟩
  · obtain ⟨before', hsearched, hsub⟩ := exists_isSearched hsplit
    exact .found hsearched hnames (fun before'' d hd => hbefore d (hsub before'' d hd)) hdirectory
      hget
  · exact .nothing fun before d hd => hall d (mem_distinctDirectories hd)

/-! ### One result -/

/-- Of two directories to search one comes first. -/
theorem IsSearched.eq_or_before {directories before before' : List String} {d d' : String}
    (h : IsSearched directories before d) (h' : IsSearched directories before' d') :
    (before = before' ∧ d = d') ∨ IsSearched before' before d ∨ IsSearched before before' d' := by
  obtain ⟨⟨after, hsplit⟩, hnew⟩ := h
  obtain ⟨⟨after', hsplit'⟩, hnew'⟩ := h'
  rcases List.append_eq_append_iff.mp (hsplit.symm.trans hsplit') with
    ⟨between, hbefore, hd⟩ | ⟨between, hbefore, hd⟩
  · cases between with
    | nil =>
      rw [List.append_nil] at hbefore
      exact .inl ⟨hbefore.symm, (List.cons.inj hd).1⟩
    | cons x between =>
      obtain rfl := (List.cons.inj hd).1
      exact .inr (.inl ⟨⟨between, hbefore⟩, hnew⟩)
  · cases between with
    | nil =>
      rw [List.append_nil] at hbefore
      exact .inl ⟨hbefore, (List.cons.inj hd).1.symm⟩
    | cons x between =>
      obtain rfl := (List.cons.inj hd).1
      exact .inr (.inr ⟨⟨between, hbefore⟩, hnew'⟩)

/-- A directory that is unreadable lists no names. -/
theorem Unreadable.list_ne {s : S} {d : String} (h : Unreadable s d) (names : List String) :
    answer (FileStore.list d) s ≠ .ok names := by
  obtain ⟨e, he⟩ := h
  rw [he]
  exact nofun

/-- What is found in the first directory that can be listed. -/
theorem ScansTo.get?_iff {directories before names : List String} {s : S} {directory : String}
    {set : TemplateSet} (h : ScansTo directories s set)
    (hsearched : IsSearched directories before directory)
    (hnames : answer (FileStore.list directory) s = .ok names)
    (hbefore : ∀ before' d, IsSearched before before' d → Unreadable s d) :
    set.directory = some directory ∧
      ∀ id t, set.get? id = some t ↔ LastTemplate directory s names id t := by
  cases h with
  | found hsearched' hnames' hbefore' hdirectory hget =>
    rcases hsearched.eq_or_before hsearched' with ⟨rfl, rfl⟩ | hfirst | hfirst
    · obtain rfl := Except.ok.inj (hnames.symm.trans hnames')
      exact ⟨hdirectory, hget⟩
    · exact absurd hnames ((hbefore' _ _ hfirst).list_ne _)
    · exact absurd hnames' ((hbefore _ _ hfirst).list_ne _)
  | nothing hall => exact absurd hnames ((hall _ _ hsearched).list_ne _)

/-- There is one thing that a scan finds, so the order in which names are listed does not show. -/
theorem ScansTo.unique {directories : List String} {s : S} {set set' : TemplateSet}
    (h : ScansTo directories s set) (h' : ScansTo directories s set') : set = set' := by
  cases h with
  | found hsearched hnames hbefore hdirectory hget =>
    obtain ⟨hdirectory', hget'⟩ := h'.get?_iff hsearched hnames hbefore
    have htemplates : set.templates = set'.templates := by
      apply SortedMap.ext_get?
      intro id
      apply Option.ext
      intro t
      exact (hget id t).trans (hget' id t).symm
    cases set
    cases set'
    dsimp only at hdirectory hdirectory' htemplates
    rw [hdirectory, hdirectory', htemplates]
  | nothing hall =>
    cases h' with
    | found hsearched hnames _ _ _ => exact absurd hnames ((hall _ _ hsearched).list_ne _)
    | nothing _ => rfl

end Tilemap
