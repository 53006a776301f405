import Tilemap.Proofs.TemplateScans

/-!
# What a registry answers

A registry reads its templates when it is first asked for them, and again when it is told to. In
between files may change as they will: what it hands out is what it read last. `registry_answers`
says so of every history of changes and requests, and `ScansTo` what there was to read.
-/

namespace Tilemap

variable {S : Type}

/-! ### Histories -/

variable (S) in
/-- The files change, or a registry is asked for its templates. Each time that it reads directories
they may be listed in another order. -/
inductive RegistryStep where
  /-- Files are written or removed. -/
  | change (f : S → S)
  | load (order : ListingOrder)
  | reload (order : ListingOrder)

/-- The files after a step. -/
def RegistryStep.files : RegistryStep S → S → S
  | .change f, s => f s
  | .load _, s => s
  | .reload _, s => s

/-- The files after the changes among steps. -/
def filesAfter (s : S) (steps : List (RegistryStep S)) : S :=
  steps.foldl (fun s step => step.files s) s

section Places

variable (steps : List (RegistryStep S)) (i : Nat)

/-- The step at a place loads. -/
def LoadAt : Prop := ∃ order, steps[i]? = some (.load order)

/-- The step at a place reloads. -/
def ReloadAt : Prop := ∃ order, steps[i]? = some (.reload order)

/-- The step at a place reads the directories: it reloads, or loads and is the first request. -/
def ScanAt : Prop :=
  ReloadAt steps i ∨ LoadAt steps i ∧ ∀ k < i, ¬ LoadAt steps k ∧ ¬ ReloadAt steps k

/-- The place of the step that made what the load at a place hands out. -/
inductive MadeAt : Nat → Prop where
  /-- It was the last reload. -/
  | reload {j : Nat} (hj : j < i) (hreload : ReloadAt steps j)
      (hlast : ∀ k, j < k → k < i → ¬ ReloadAt steps k) : MadeAt j
  /-- There was no reload, and it was the first load. -/
  | load {j : Nat} (hj : j ≤ i) (hload : LoadAt steps j) (hfirst : ∀ k < j, ¬ LoadAt steps k)
      (hnone : ∀ k < i, ¬ ReloadAt steps k) : MadeAt j

/-- The last scan before a place. -/
structure LastScan (j : Nat) : Prop where
  lt : j < i
  scan : ScanAt steps j
  last : ∀ k, j < k → k < i → ¬ ScanAt steps k

/-- What a registry holds before a step, by its answers: nothing before the first request, and then
what the last scan made. -/
inductive HeldAt (answers : List (Option TemplateSet)) : Option TemplateSet → Prop where
  | nothing (h : ∀ k < i, ¬ LoadAt steps k ∧ ¬ ReloadAt steps k) : HeldAt answers none
  | made {j : Nat} {set : TemplateSet} (hj : LastScan steps i j)
      (hset : answers[j]? = some (some set)) : HeldAt answers (some set)

end Places

variable {steps : List (RegistryStep S)} {i j k : Nat}

theorem LoadAt.not_reloadAt (h : LoadAt steps i) : ¬ ReloadAt steps i := by
  obtain ⟨order, hload⟩ := h
  rintro ⟨order', hreload⟩
  cases hload.symm.trans hreload

/-- A scan is a request. -/
theorem ScanAt.loadAt_or_reloadAt (h : ScanAt steps i) : LoadAt steps i ∨ ReloadAt steps i := by
  rcases h with hreload | ⟨hload, -⟩
  · exact .inr hreload
  · exact .inl hload

namespace LastScan

theorem unique (h : LastScan steps i j) (h' : LastScan steps i k) : j = k := by
  rcases Nat.lt_trichotomy j k with hlt | heq | hlt
  · exact absurd h'.scan (h.last k hlt h'.lt)
  · exact heq
  · exact absurd h.scan (h'.last j hlt h.lt)

theorem succ (h : LastScan steps i j) (hi : ¬ ScanAt steps i) : LastScan steps (i + 1) j := by
  refine ⟨Nat.lt_succ_of_lt h.lt, h.scan, ?_⟩
  intro k hjk hki
  rcases Nat.lt_succ_iff_lt_or_eq.mp hki with hlt | rfl
  · exact h.last k hjk hlt
  · exact hi

theorem of_scanAt (h : ScanAt steps i) : LastScan steps (i + 1) i :=
  ⟨Nat.lt_succ_self i, h, fun _ hik hki => absurd hki (Nat.not_lt.mpr hik)⟩

/-- The last scan before a load made what the load hands out. -/
theorem madeAt (h : LastScan steps i j) : MadeAt steps i j := by
  rcases h.scan with hreload | ⟨hload, hnone⟩
  · apply MadeAt.reload h.lt hreload
    intro k hjk hki hreload'
    exact h.last k hjk hki (.inl hreload')
  · apply MadeAt.load h.lt.le hload fun k hk => (hnone k hk).1
    intro k hki hreload
    rcases Nat.lt_trichotomy k j with hlt | rfl | hlt
    · exact (hnone k hlt).2 hreload
    · exact hload.not_reloadAt hreload
    · exact h.last k hlt hki (.inl hreload)

end LastScan

/-- What a load hands out was made by the last scan, or by the load itself. -/
theorem MadeAt.eq_or_lastScan (h : MadeAt steps i j) : j = i ∨ LastScan steps i j := by
  cases h with
  | reload hj hreload hlast =>
    refine .inr ⟨hj, .inl hreload, ?_⟩
    rintro k hjk hki (hreload' | ⟨-, hnone⟩)
    · exact hlast k hjk hki hreload'
    · exact (hnone j hjk).2 hreload
  | load hj hload hfirst hnone =>
    rcases Nat.eq_or_lt_of_le hj with heq | hlt
    · exact .inl heq
    · refine .inr ⟨hlt, .inr ⟨hload, fun k hk => ⟨hfirst k hk, hnone k (hk.trans hlt)⟩⟩, ?_⟩
      rintro k hjk hki (hreload | ⟨-, hnone'⟩)
      · exact hnone k hki hreload
      · exact (hnone' j hjk).1 hload

namespace HeldAt

variable {answers : List (Option TemplateSet)} {held : Option TemplateSet}

/-- A step that is no request leaves what is held as it is. -/
theorem succ (h : HeldAt steps i answers held) (hload : ¬ LoadAt steps i)
    (hreload : ¬ ReloadAt steps i) : HeldAt steps (i + 1) answers held := by
  cases h with
  | nothing h =>
    apply HeldAt.nothing
    intro k hk
    rcases Nat.lt_succ_iff_lt_or_eq.mp hk with hlt | rfl
    · exact h k hlt
    · exact ⟨hload, hreload⟩
  | made hj hset =>
    refine .made (hj.succ ?_) hset
    intro hscan
    exact hscan.loadAt_or_reloadAt.elim hload hreload

/-- A load that is not the first request is no scan. -/
theorem not_scanAt {set : TemplateSet} (h : HeldAt steps i answers (some set))
    (hload : LoadAt steps i) : ¬ ScanAt steps i := by
  cases h with
  | made hj hset =>
    rintro (hreload | ⟨-, hnone⟩)
    · exact hload.not_reloadAt hreload
    · have hbefore := hnone _ hj.lt
      exact hj.scan.loadAt_or_reloadAt.elim hbefore.1 hbefore.2

end HeldAt

/-! ### Registries -/

variable [FileStore (StateM S)]

/-- The answer to a step, if it is a request, and the registry and the files after it. -/
def RegistryStep.run : RegistryStep S → Registry × S → Option TemplateSet × Registry × S
  | .change f, (r, s) => (none, r, f s)
  | .load order, (r, s) =>
    let ((set, r'), s') := (Listed.asStateM (r.load : Listed order S _)).run s
    (some set, r', s')
  | .reload order, (r, s) =>
    let ((set, r'), s') := (Listed.asStateM (r.reload : Listed order S _)).run s
    (some set, r', s')

/-- The answers to the steps of a history. -/
def answers (p : Registry × S) : List (RegistryStep S) → List (Option TemplateSet)
  | [] => []
  | step :: rest => (step.run p).1 :: answers (step.run p).2 rest

/-- The registry and the files after a history. -/
def afterSteps (p : Registry × S) (steps : List (RegistryStep S)) : Registry × S :=
  steps.foldl (fun p step => (step.run p).2) p

/-- A registry for directories gives these answers in a history that starts with these files. -/
structure AnswersTo (directories : List String) (s : S) (steps : List (RegistryStep S))
    (answers : List (Option TemplateSet)) : Prop where
  load {i : Nat} (h : LoadAt steps i) : (∃ j, MadeAt steps i j) ∧
    ∀ j, MadeAt steps i j → ∃ set, answers[i]? = some (some set) ∧ answers[j]? = some (some set)
  scan {i : Nat} (h : ScanAt steps i) : ∃ set, answers[i]? = some (some set) ∧
    ScansTo directories (filesAfter s (steps.take i)) set

/-- What a step can answer, and what is held before it and after it. -/
inductive Steps (directories : List String) (s : S) :
    RegistryStep S → Option TemplateSet → Option TemplateSet → Option TemplateSet → Prop where
  | change (f : S → S) (held : Option TemplateSet) : Steps directories s (.change f) held none held
  /-- What is held is handed out. -/
  | cached (order : ListingOrder) (set : TemplateSet) :
      Steps directories s (.load order) (some set) (some set) (some set)
  /-- Nothing is held yet. -/
  | first (order : ListingOrder) {set : TemplateSet} (h : ScansTo directories s set) :
      Steps directories s (.load order) none (some set) (some set)
  | reload (order : ListingOrder) (held : Option TemplateSet) {set : TemplateSet}
      (h : ScansTo directories s set) :
      Steps directories s (.reload order) held (some set) (some set)

/-- Loading anew scans the directories as they stand and keeps what it finds. -/
theorem run_reload (h : Steady S) (order : ListingOrder) (directories : List String)
    (held : Option TemplateSet) (s : S) : ∃ set, ScansTo directories s set ∧
      (Listed.asStateM (Registry.reload ⟨distinctDirectories directories, held⟩ :
        Listed order S _)).run s = ((set, ⟨distinctDirectories directories, some set⟩), s) := by
  obtain ⟨set, hrun, hscans⟩ := scansTo_scanDirectories h order directories s
  refine ⟨set, hscans, ?_⟩
  exact run_bind_of_run_eq hrun fun set =>
    pure (set, (⟨distinctDirectories directories, some set⟩ : Registry))

/-- A step answers by what is held and by the files as they stand. -/
theorem steps_run (h : Steady S) (directories : List String) (step : RegistryStep S)
    (held : Option TemplateSet) (s : S) : ∃ answer held',
      step.run (⟨distinctDirectories directories, held⟩, s) =
        (answer, ⟨distinctDirectories directories, held'⟩, step.files s) ∧
      Steps directories s step held answer held' := by
  cases step with
  | change f => exact ⟨none, held, rfl, .change f held⟩
  | reload order =>
    obtain ⟨set, hscans, hrun⟩ := run_reload h order directories held s
    refine ⟨some set, some set, ?_, .reload order held hscans⟩
    rw [RegistryStep.run, hrun]
    rfl
  | load order =>
    cases held with
    | some set => exact ⟨some set, some set, rfl, .cached order set⟩
    | none =>
      obtain ⟨set, hscans, hrun⟩ := run_reload h order directories none s
      refine ⟨some set, some set, ?_, .first order hscans⟩
      rw [RegistryStep.run, Registry.load, hrun]
      rfl

/-- After a step, what is held is still what the last scan made. -/
theorem HeldAt.step {as : List (Option TemplateSet)} {directories : List String} {s : S}
    {step : RegistryStep S} {held answer held' : Option TemplateSet}
    (h : HeldAt steps i as held) (hstep : steps[i]? = some step) (hanswer : as[i]? = some answer)
    (hsteps : Steps directories s step held answer held') : HeldAt steps (i + 1) as held' := by
  cases hsteps with
  | change f =>
    apply h.succ
    · simp [LoadAt, hstep]
    · simp [ReloadAt, hstep]
  | cached order set =>
    have hscan := h.not_scanAt ⟨order, hstep⟩
    cases h with
    | made hj hset => exact .made (hj.succ hscan) hset
  | first order hscans =>
    refine .made (.of_scanAt ?_) hanswer
    cases h with
    | nothing hnone => exact .inr ⟨⟨order, hstep⟩, hnone⟩
  | reload order _ hscans => exact .made (.of_scanAt (.inl ⟨order, hstep⟩)) hanswer

/-! ### The whole history -/

/-- The answer of a step is what it gives after the steps before it. -/
theorem getElem?_answers (p : Registry × S) (steps : List (RegistryStep S)) (i : Nat) :
    (answers p steps)[i]? =
      steps[i]?.map fun step => (step.run (afterSteps p (steps.take i))).1 := by
  induction steps generalizing p i with
  | nil => simp [answers]
  | cons step rest ih =>
    cases i with
    | zero => rfl
    | succ i => exact ih (step.run p).2 i

theorem afterSteps_take_succ (p : Registry × S) {step : RegistryStep S}
    (h : steps[i]? = some step) :
    afterSteps p (steps.take (i + 1)) = (step.run (afterSteps p (steps.take i))).2 := by
  rw [List.take_add_one, h, afterSteps, List.foldl_append]
  rfl

omit [FileStore (StateM S)] in
theorem filesAfter_take_succ (s : S) {step : RegistryStep S} (h : steps[i]? = some step) :
    filesAfter s (steps.take (i + 1)) = step.files (filesAfter s (steps.take i)) := by
  rw [List.take_add_one, h, filesAfter, List.foldl_append]
  rfl

section History

variable (h : Steady S) (directories : List String) (s : S)
include h

/-- One step of a history. -/
theorem exists_steps_of_afterSteps {step : RegistryStep S} {held : Option TemplateSet}
    (hstep : steps[i]? = some step)
    (hafter : afterSteps (.ofDirectories directories, s) (steps.take i) =
      (⟨distinctDirectories directories, held⟩, filesAfter s (steps.take i))) :
    ∃ answer held', (answers (.ofDirectories directories, s) steps)[i]? = some answer ∧
      Steps directories (filesAfter s (steps.take i)) step held answer held' ∧
      afterSteps (.ofDirectories directories, s) (steps.take (i + 1)) =
        (⟨distinctDirectories directories, held'⟩, filesAfter s (steps.take (i + 1))) := by
  obtain ⟨answer, held', hrun, hsteps⟩ :=
    steps_run h directories step held (filesAfter s (steps.take i))
  refine ⟨answer, held', ?_, hsteps, ?_⟩
  · rw [getElem?_answers, hstep, hafter, Option.map_some, hrun]
  · rw [afterSteps_take_succ _ hstep, hafter, hrun, filesAfter_take_succ s hstep]

/-- Every step starts from what is held, with the files as the changes before it left them. -/
theorem exists_heldAt (steps : List (RegistryStep S)) (i : Nat) : ∃ held,
    afterSteps (.ofDirectories directories, s) (steps.take i) =
      (⟨distinctDirectories directories, held⟩, filesAfter s (steps.take i)) ∧
    HeldAt steps i (answers (.ofDirectories directories, s) steps) held := by
  induction i with
  | zero => exact ⟨none, rfl, .nothing fun k hk => absurd hk (Nat.not_lt_zero k)⟩
  | succ i ih =>
    obtain ⟨held, hafter, hheld⟩ := ih
    cases hstep : steps[i]? with
    | none =>
      have htake : steps.take (i + 1) = steps.take i := by simp [List.take_add_one, hstep]
      rw [htake]
      refine ⟨held, hafter, hheld.succ ?_ ?_⟩
      · simp [LoadAt, hstep]
      · simp [ReloadAt, hstep]
    | some step =>
      obtain ⟨answer, held', hanswer, hsteps, hafter⟩ :=
        exists_steps_of_afterSteps h directories s hstep hafter
      exact ⟨held', hafter, hheld.step hstep hanswer hsteps⟩

/-- What a step of a history answers, by what is held before it. -/
theorem exists_answer {step : RegistryStep S} (hstep : steps[i]? = some step) :
    ∃ held answer held', HeldAt steps i (answers (.ofDirectories directories, s) steps) held ∧
      (answers (.ofDirectories directories, s) steps)[i]? = some answer ∧
      Steps directories (filesAfter s (steps.take i)) step held answer held' := by
  obtain ⟨held, hafter, hheld⟩ := exists_heldAt h directories s steps i
  obtain ⟨answer, held', hanswer, hsteps, -⟩ :=
    exists_steps_of_afterSteps h directories s hstep hafter
  exact ⟨held, answer, held', hheld, hanswer, hsteps⟩

/-- A load hands out what was made when the directories were last read. -/
theorem answers_of_loadAt (hload : LoadAt steps i) : (∃ j, MadeAt steps i j) ∧
    ∀ j, MadeAt steps i j → ∃ set,
      (answers (.ofDirectories directories, s) steps)[i]? = some (some set) ∧
      (answers (.ofDirectories directories, s) steps)[j]? = some (some set) := by
  obtain ⟨order, hstep⟩ := hload
  obtain ⟨held, answer, held', hheld, hanswer, hsteps⟩ := exists_answer h directories s hstep
  cases hsteps with
  | cached order set =>
    cases hheld with
    | made hlast hset =>
      refine ⟨⟨_, hlast.madeAt⟩, fun j hmade => ⟨set, hanswer, ?_⟩⟩
      rcases hmade.eq_or_lastScan with rfl | hj
      · exact hanswer
      · rwa [hj.unique hlast]
  | @first order set hscans =>
    cases hheld with
    | nothing hnone =>
      have hmade : MadeAt steps i i :=
        .load (Nat.le_refl i) ⟨order, hstep⟩ (fun k hk => (hnone k hk).1) fun k hk =>
          (hnone k hk).2
      refine ⟨⟨i, hmade⟩, fun j hmade => ⟨set, hanswer, ?_⟩⟩
      rcases hmade.eq_or_lastScan with rfl | hj
      · exact hanswer
      · have hbefore := hnone j hj.lt
        exact absurd hj.scan.loadAt_or_reloadAt (by simp [hbefore])

/-- What a scan makes was to be found in the directories at that moment. -/
theorem scansTo_of_scanAt (hscan : ScanAt steps i) : ∃ set,
    (answers (.ofDirectories directories, s) steps)[i]? = some (some set) ∧
    ScansTo directories (filesAfter s (steps.take i)) set := by
  rcases hscan with ⟨order, hstep⟩ | ⟨⟨order, hstep⟩, hnone⟩
  · obtain ⟨held, answer, held', -, hanswer, hsteps⟩ := exists_answer h directories s hstep
    cases hsteps with
    | @reload _ _ set hscans => exact ⟨set, hanswer, hscans⟩
  · obtain ⟨held, answer, held', hheld, hanswer, hsteps⟩ := exists_answer h directories s hstep
    cases hsteps with
    | cached order set =>
      exact absurd (.inr ⟨⟨order, hstep⟩, hnone⟩) (hheld.not_scanAt ⟨order, hstep⟩)
    | @first _ set hscans => exact ⟨set, hanswer, hscans⟩

/-- Every load hands out what the last reload before it made, or the first load when there was none.
What is made by reading the directories is what was to be found in them at that moment. -/
theorem registry_answers (steps : List (RegistryStep S)) :
    AnswersTo directories s steps (answers (.ofDirectories directories, s) steps) :=
  ⟨answers_of_loadAt h directories s, scansTo_of_scanAt h directories s⟩

end History

/-! ### One history -/

open FileTree

def plainTemplate (id : String) : Json := .object [("id", .string id)]

def benchFiles : List (String × Json) :=
  [("seat.json", plainTemplate "bench"), ("bench.obj", plainTemplate "bench"),
    ("broken.json", .null)]

def wellFiles : List (String × Json) := benchFiles ++ [("well.json", plainTemplate "well")]

/-- A tree with files in the directory `objects`. -/
def objectsTree (files : List (String × Json)) : FileTree :=
  put (.directory [("objects", .directory
    (files.map fun (name, j) => (name, .file j.document.toUTF8)))]) home bare

/-- Directories to search: none is there but `objects`. -/
def benchDirectories : List String := ["missing", "objects", "OBJECTS"]

/-- A file is written between two loads, and a reload finds it. Then another file is removed. -/
def benchSteps : List (RegistryStep FileTree) :=
  [.load backwards,
    .change fun t =>
      (t.write "objects/well.json" (plainTemplate "well").document.toUTF8).toOption.getD t,
    .load backwards, .reload backwards,
    .change fun t => (t.remove "objects/bench.obj").toOption.getD t, .load backwards]

theorem proper_plainTemplate (id : String) : (plainTemplate id).Proper := by
  simp [plainTemplate, Json.Proper, Json.ProperEntries]

theorem readable_plainTemplate (id : String) : (plainTemplate id).Readable Json.depthLimit := by
  refine ⟨?_, .nil⟩
  show 1 < Json.depthLimit
  decide

/-- A scan of the directory `objects` finds, under an id, the last template by name with it. -/
theorem get?_objectsTree {files : List (String × Json)} {set : TemplateSet}
    (h : ScansTo benchDirectories (objectsTree files) set) (id : String) (t : ObjectTemplate) :
    set.get? id = some t ↔ LastTemplate "objects" (objectsTree files) (files.map (·.1)) id t := by
  have hsearched : IsSearched benchDirectories ["missing"] "objects" := by
    refine ⟨⟨["OBJECTS"], rfl⟩, ?_⟩
    simp only [IsRepeat, List.mem_singleton, exists_eq_left]
    decide
  have hnames : answer (FileStore.list "objects") (objectsTree files) =
      .ok (files.map (·.1)) := by
    show Except.ok ((files.map _).map Prod.fst) = _
    rw [List.map_map]
    rfl
  refine (h.get?_iff hsearched hnames ?_).2 id t
  intro before d hd
  obtain rfl := List.mem_singleton.mp hd.mem
  exact ⟨.notFound, rfl⟩

/-- A file of a tree with a template that has an id and nothing else. -/
theorem exists_templateAt {tree : FileTree} {id name : String}
    (hread : tree.read (Path.join "objects" name) = .ok (plainTemplate id).document)
    (hpath : isTemplatePath (Path.join "objects" name))
    (hfile : answer (FileStore.isFile (Path.join "objects" name)) tree = true)
    (hid : (ObjectTemplate.ofJson (plainTemplate id) (some (Path.join "objects" name))).toOption.map
      (fun t => (t.id, t.source)) = some (id, some (Path.join "objects" name))) :
    ∃ t, TemplateAt "objects" tree name t ∧ t.id = id ∧
      t.source = some (Path.join "objects" name) := by
  obtain ⟨t, ht, hpair⟩ := exists_ok_of_toOption_map hid
  obtain ⟨hid, hsource⟩ := Prod.mk.inj hpair
  have hanswer : answer (FileStore.read (Path.join "objects" name)) tree =
      .ok (plainTemplate id).document := hread
  have hiff := templateAt_iff_of_document (t := t) (proper_plainTemplate id)
    (readable_plainTemplate id) hanswer
  exact ⟨t, hiff.mpr ⟨hpath, hfile, ht⟩, hid, hsource⟩

/-- Of the two files with the template, the last by name counts. -/
theorem scansTo_benchFiles {set : TemplateSet}
    (h : ScansTo benchDirectories (objectsTree benchFiles) set) :
    (set.get? "bench").bind (·.source) = some "objects/seat.json" ∧ set.get? "well" = none := by
  obtain ⟨seat, hseat, hid, hsource⟩ : ∃ t, TemplateAt "objects" (objectsTree benchFiles)
      "seat.json" t ∧ t.id = "bench" ∧ t.source = some "objects/seat.json" :=
    exists_templateAt (read_eq_ok rfl rfl) (by decide) rfl (by decide +kernel)
  obtain ⟨bench, hbench, hid', -⟩ : ∃ t, TemplateAt "objects" (objectsTree benchFiles)
      "bench.obj" t ∧ t.id = "bench" ∧ t.source = some "objects/bench.obj" :=
    exists_templateAt (read_eq_ok rfl rfl) (by decide) rfl (by decide +kernel)
  constructor
  · have hlast : LastTemplate "objects" (objectsTree benchFiles) (benchFiles.map (·.1)) seat.id
        seat := hseat.lastTemplate (by simp [benchFiles]) (by decide)
    rw [← hid, (get?_objectsTree h seat.id seat).mpr hlast]
    exact hsource
  · apply Option.eq_none_iff_forall_ne_some.mpr
    intro t ht
    obtain ⟨name, hname, hat, hwell, -⟩ := (get?_objectsTree h "well" t).mp ht
    have hnames : name = "seat.json" ∨ name = "bench.obj" ∨ name = "broken.json" := by
      simpa [benchFiles] using hname
    rcases hnames with rfl | rfl | rfl
    · rw [hat.unique hseat, hid] at hwell
      exact absurd hwell (by decide)
    · rw [hat.unique hbench, hid'] at hwell
      exact absurd hwell (by decide)
    · have hread : answer (FileStore.read (Path.join "objects" "broken.json"))
          (objectsTree benchFiles) = .ok Json.null.document := read_eq_ok rfl rfl
      have hproper : Json.null.Proper := trivial
      have hreadable : Json.null.Readable Json.depthLimit := ⟨by decide, .nil⟩
      cases ((templateAt_iff_of_document hproper hreadable hread).mp hat).2.2

/-- The well is found once there is a file for it. -/
theorem scansTo_wellFiles {set : TemplateSet}
    (h : ScansTo benchDirectories (objectsTree wellFiles) set) :
    (set.get? "well").bind (·.source) = some "objects/well.json" := by
  obtain ⟨well, hwell, hid, hsource⟩ : ∃ t, TemplateAt "objects" (objectsTree wellFiles)
      "well.json" t ∧ t.id = "well" ∧ t.source = some "objects/well.json" :=
    exists_templateAt (read_eq_ok rfl rfl) (by decide) rfl (by decide +kernel)
  have hlast : LastTemplate "objects" (objectsTree wellFiles) (wellFiles.map (·.1)) well.id well :=
    hwell.lastTemplate (by simp [wellFiles, benchFiles]) (by decide)
  rw [← hid, (get?_objectsTree h well.id well).mpr hlast]
  exact hsource

/-- The second load hands out what the first one made, and the third what the reload made. -/
theorem registry_answers_bench : ∃ old new : TemplateSet,
    [0, 2, 3, 5].map (fun i => (answers (.ofDirectories benchDirectories, objectsTree benchFiles)
      benchSteps)[i]?.join) = [some old, some old, some new, some new] ∧
    (old.get? "bench").bind (·.source) = some "objects/seat.json" ∧ old.get? "well" = none ∧
    (new.get? "well").bind (·.source) = some "objects/well.json" := by
  have h := registry_answers steady_fileTree benchDirectories (objectsTree benchFiles) benchSteps
  have hload : LoadAt benchSteps 0 := ⟨_, rfl⟩
  have hreload : ReloadAt benchSteps 3 := ⟨_, rfl⟩
  have hfirst : MadeAt benchSteps 2 0 := by
    apply MadeAt.load (Nat.zero_le 2) hload nofun
    intro k hk
    rcases Nat.le_one_iff_eq_zero_or_eq_one.mp (Nat.le_of_lt_succ hk) with rfl | rfl
    · exact hload.not_reloadAt
    · simp [ReloadAt, benchSteps]
  have hthird : MadeAt benchSteps 5 3 := by
    apply MadeAt.reload (by decide) hreload
    intro k hk hki
    obtain rfl : k = 4 := Nat.le_antisymm (Nat.le_of_lt_succ hki) hk
    simp [ReloadAt, benchSteps]
  obtain ⟨old, hold, hscans⟩ := h.scan (.inr ⟨hload, nofun⟩)
  obtain ⟨new, hnew, hscans'⟩ := h.scan (.inl hreload)
  obtain ⟨old', hsecond, hold'⟩ := (h.load ⟨_, rfl⟩).2 0 hfirst
  obtain ⟨new', hlast, hnew'⟩ := (h.load ⟨_, rfl⟩).2 3 hthird
  obtain rfl : old = old' := by simpa [hold] using hold'
  obtain rfl : new = new' := by simpa [hnew] using hnew'
  have hfiles : filesAfter (objectsTree benchFiles) (benchSteps.take 3) = objectsTree wellFiles :=
    rfl
  rw [hfiles] at hscans'
  obtain ⟨hbench, hwell⟩ := scansTo_benchFiles hscans
  exact ⟨old, new, by simp [hold, hsecond, hnew, hlast], hbench, hwell, scansTo_wellFiles hscans'⟩

end Tilemap
