import Tilemap.Proofs.Outputs

/-!
# Where maps are written

The files of a map are named after its id, and an id is any text. `outputs_inside` says what keeps
the files inside the directory for the output: nothing but that the id holds no slash. An id that a
map takes from the name of its file never holds one. An id that a map gives itself may
(`exists_output_outside`).

A write changes a tree at one place only (`exists_way_of_write`), so a map without a slash in its id
changes nothing but two names in that directory, whether or not its files can be written.
-/

namespace Tilemap

open FileTree Text

/-! ### Statement -/

/-- A path is a single name in a directory. -/
def Path.IsChild (directory path : String) : Prop :=
  ∃ name, PlainName name ∧ path = Path.join directory name

/-- At most these places of a tree are changed. -/
def ChangesOnly (t t' : FileTree) (places : List (List String)) : Prop :=
  ∀ way, way ∉ places → t'.kinds way = t.kinds way

/-- What is known of the files of a map that gives itself the id `own`, if it gives itself one. -/
structure MapModel.OutputsInside (m : MapModel) (own : Option String) : Prop where
  /-- The paths are names in the directory, whichever it is, exactly if the id holds no slash. -/
  children : ∀ s, (∀ directory, ∀ w ∈ (m.bindTo s).writes directory,
    Path.IsChild directory w.1) ↔ '/' ∉ m.id.toList
  /-- Then no other place of a file tree is changed, even if a file cannot be written. -/
  changes : '/' ∉ m.id.toList → ∀ s directory t result t',
    runOn ((m.bindTo s).emit directory) t = (result, t') → t' = t ∨
      ∃ way, t.wayTo (Path.orHere directory) = .ok way ∧
        ChangesOnly t t' ((outputNames m.id).map (· :: way))
  /-- The name of a file holds no slash, and neither does the id of a map from nowhere. -/
  no_slash : own.bind nonBlank? = none → '/' ∉ m.id.toList

/-! ### Writing into a directory -/

namespace ChangesOnly

variable {t t' t'' : FileTree} {places places' : List (List String)}

theorem trans (h : ChangesOnly t t' places) (h' : ChangesOnly t' t'' places') :
    ChangesOnly t t'' (places ++ places') := by
  intro way hway
  rw [List.mem_append, not_or] at hway
  rw [h' way hway.2, h way hway.1]

theorem mono (h : ChangesOnly t t' places) (hsub : places ⊆ places') :
    ChangesOnly t t' places' := by
  intro way hway
  apply h way
  intro hmem
  exact hway (hsub hmem)

end ChangesOnly

theorem FileTree.Written.changesOnly {t t' : FileTree} {way : List String} {content : ByteArray}
    (h : Written t way content t') : ChangesOnly t t' [way] := by
  intro way' hway
  rw [h.kinds_eq, Function.update_of_ne (by simpa using hway)]

/-- What comes before a path that can be followed can be followed too. -/
theorem parts_of_append {path rest : String} {ps : List (List Char)} (hne : path ≠ "")
    (h : FileTree.parts (path ++ rest) = .ok ps) :
    FileTree.parts path = .ok (pieces (· = '/') path.toList) := by
  unfold FileTree.parts at h
  split at h
  · cases h
  rename_i hnul
  split at h
  · cases h
  rename_i hlong
  have hnul' : ¬ path.toList.contains '\x00' := by
    intro hmem
    apply hnul
    simp only [List.contains_iff_mem, String.toList_append, List.mem_append] at hmem ⊢
    exact .inl hmem
  have hlong' : ¬ maxPathSize < path.utf8ByteSize := by
    rw [String.utf8ByteSize_append] at hlong
    omega
  rw [FileTree.parts, if_neg hnul', if_neg hlong', if_neg hne]

theorem isAbsolute_append {path : String} (hne : path ≠ "") (rest : String) :
    Path.isAbsolute (path ++ rest).toList = Path.isAbsolute path.toList := by
  have hne' : path.toList ≠ [] := by simpa using hne
  rw [Path.isAbsolute, Path.isAbsolute, String.toList_append, List.head?_append_of_ne_nil _ hne']

/-- A directory can be followed where a name in it can, and from the same place. -/
theorem parts_orHere {directory name : String} (hname : PlainName name) {ps : List (List Char)}
    (h : FileTree.parts (Path.join directory name) = .ok ps) :
    FileTree.parts (Path.orHere directory) =
        .ok (pieces (· = '/') (Path.orHere directory).toList) ∧
      Path.isAbsolute (Path.join directory name).toList =
        Path.isAbsolute (Path.orHere directory).toList := by
  by_cases hempty : directory = ""
  · subst hempty
    rw [join_empty, hname.isAbsolute_eq]
    exact ⟨rfl, rfl⟩
  · rw [join_eq hempty hname] at h ⊢
    rw [Path.orHere, if_neg hempty]
    exact ⟨parts_of_append hempty h, isAbsolute_append hempty _⟩

/-- Steps that stay lead nowhere else. -/
theorem walkOn_here {kinds : List String → Option Kind} {way : List String}
    (hkind : kinds way = some .directory) {idle : List (List Char)}
    (hidle : ∀ part ∈ idle, Step.of part = .here) :
    walkOn kinds way (idle.map Step.of) = .ok way := by
  induction idle with
  | nil => rfl
  | cons part rest ih =>
    obtain ⟨hpart, hrest⟩ := List.forall_mem_cons.mp hidle
    have hstep : stepOn kinds way .here = .ok way := by simp only [stepOn, hkind]
    rw [List.map_cons, walkOn, List.foldlM_cons, hpart, hstep]
    exact ih hrest

/-- A file with a plain name is written right below the directory that it is written to. -/
theorem exists_way_of_write {t t' : FileTree} {directory name : String} {content : ByteArray}
    (hname : PlainName name) (h : t.write (Path.join directory name) content = .ok t') :
    ∃ way, t.wayTo (Path.orHere directory) = .ok way ∧ Written t (name :: way) content t' := by
  obtain ⟨before, part, name', way, hparts, hstep, hwalk, hkind, -, hwritten⟩ :=
    exists_written_of_write h
  obtain ⟨hparts', habsolute⟩ := parts_orHere hname hparts
  obtain ⟨before', idle, hpieces, hidle, hjoin⟩ := exists_pieces_orHere directory
  obtain ⟨rfl, hlast⟩ := List.append_inj' ((eq_of_parts hparts).trans (hjoin name hname)) rfl
  obtain rfl : part = name.toList := by simpa using hlast
  obtain rfl : name = name' := by simpa using hname.step_eq.symm.trans hstep
  refine ⟨way, ?_, hwritten⟩
  rw [wayTo_eq hparts', hpieces, stepsOf, List.map_append, ← List.append_assoc, walkOn,
    List.foldlM_append]
  rw [habsolute] at hwalk
  exact bind_eq_ok.mpr ⟨way, hwalk, walkOn_here hkind hidle⟩

theorem runOn_liftM {ε α : Type} (x : StateM FileTree α) (t : FileTree) :
    runOn (liftM x : ExceptT ε (StateM FileTree) α) t = (.ok (x.run t).1, (x.run t).2) := rfl

/-- A step that fails has still made its changes to the files. -/
theorem runOn_orFail {ε α : Type} (failure : String) (step : StateM FileTree (Except ε α))
    (t : FileTree) : runOn (orFail failure step) t =
      ((step.run t).1.mapError fun _ => failure, (step.run t).2) := by
  rw [orFail, runOn_bind, runOn_liftM]
  dsimp only
  cases (step.run t).1 <;> rfl

/-- A write either leaves the tree as it is or writes a file right below its directory. -/
theorem runOn_write {failure directory name text : String} {t t' : FileTree}
    {result : Except String Unit} (hname : PlainName name)
    (h : runOn (orFail failure (FileStore.write (Path.join directory name) text :
      StateM FileTree (Except FileError Unit))) t = (result, t')) :
    t' = t ∨ ∃ way, t.wayTo (Path.orHere directory) = .ok way ∧
      Written t (name :: way) text.toUTF8 t' := by
  rw [runOn_orFail, Prod.mk.injEq] at h
  obtain ⟨-, h⟩ := h
  change (changeTree (·.write (Path.join directory name) text.toUTF8) t).2 = t' at h
  rw [changeTree] at h
  cases hwrite : t.write (Path.join directory name) text.toUTF8 with
  | error e =>
    left
    rw [hwrite] at h
    exact h.symm
  | ok t₁ =>
    right
    rw [hwrite] at h
    obtain rfl : t₁ = t' := h
    exact exists_way_of_write hname hwrite

/-- Writing a map changes no more than the places of its files. -/
theorem changes_emit {b : BoundMap} (hid : '/' ∉ b.map.id.toList) {directory : String}
    {t t' : FileTree} {result : Except String Unit}
    (h : runOn (b.emit directory) t = (result, t')) :
    t' = t ∨ ∃ way, t.wayTo (Path.orHere directory) = .ok way ∧
      ChangesOnly t t' ((outputNames b.map.id).map (· :: way)) := by
  have hmodel : b.map.id ++ ".json" ∈ outputNames b.map.id := by simp [outputNames]
  have hpublic : b.map.id ++ ".public.json" ∈ outputNames b.map.id := by simp [outputNames]
  have hchanges {t t' : FileTree} {way : List String} {name : String} {content : ByteArray}
      (hname : name ∈ outputNames b.map.id) (hwritten : Written t (name :: way) content t') :
      ChangesOnly t t' ((outputNames b.map.id).map (· :: way)) := by
    apply hwritten.changesOnly.mono
    simpa using hname
  rw [BoundMap.emit, runOn_bind] at h
  generalize hwrite : runOn (orFail _ (b.emitModel directory)) t = first at h
  obtain ⟨first, t₁⟩ := first
  have hfirst := runOn_write (plainName_of_mem_outputNames hid hmodel) hwrite
  cases first with
  | error e =>
    obtain ⟨-, rfl⟩ := Prod.mk.inj h
    apply hfirst.imp_right
    rintro ⟨way, hway, hwritten⟩
    exact ⟨way, hway, hchanges hmodel hwritten⟩
  | ok u =>
    have hsecond := runOn_write (plainName_of_mem_outputNames hid hpublic) h
    rcases hfirst with rfl | ⟨way, hway, hwritten⟩
    · apply hsecond.imp_right
      rintro ⟨way, hway, hwritten⟩
      exact ⟨way, hway, hchanges hpublic hwritten⟩
    · right
      refine ⟨way, hway, ?_⟩
      rcases hsecond with rfl | ⟨way', hway', hwritten'⟩
      · exact hchanges hmodel hwritten
      · -- the first file does not change where the directory is
        obtain rfl : way = way' := Except.ok.inj ((hwritten.wayTo_mono hway).symm.trans hway')
        exact hwritten.changesOnly.trans hwritten'.changesOnly

/-! ### Ids from file names -/

namespace Path

/-- Each level of a path is the path itself or a path above it. -/
theorem suffix_of_mem_levels {absolute : Bool} {parts level : List (List Char)}
    (h : level ∈ levels absolute parts) : level <:+ parts := by
  induction parts with
  | nil => simp [levels] at h
  | cons part before ih =>
    rw [levels] at h
    split at h
    · exact (ih h).trans (List.suffix_cons part before)
    · rcases List.mem_cons.mp h with rfl | h
      · exact List.suffix_rfl
      · exact (ih h).trans (List.suffix_cons part before)

/-- The name that a path ends with holds no slash. -/
theorem slash_notMem_fileName {path : String} {name : List Char}
    (h : fileName? path = some name) : '/' ∉ name := by
  rw [fileName?] at h
  split at h
  · rename_i part before above hlevels
    split at h
    · cases h
    · obtain rfl := Option.some.inj h
      have hsuffix : part :: before <:+ _ := suffix_of_mem_levels (by
        rw [levelsOf] at hlevels
        rw [hlevels]
        exact List.mem_cons_self)
      have hpart := List.mem_reverse.mp (hsuffix.subset List.mem_cons_self)
      intro hslash
      exact Text.not_of_mem_pieces hpart hslash (by simp)
  · cases h

theorem mem_of_mem_cutName {name : List Char} {c : Char} (h : c ∈ (cutName name).1) : c ∈ name := by
  rw [cutName] at h
  split at h
  · rename_i before hdrop
    split at h
    · exact h
    · have hmem : c ∈ name.reverse.dropWhile (· ≠ '.') := by
        rw [hdrop]
        exact List.mem_cons_of_mem _ (List.mem_reverse.mp h)
      exact List.mem_reverse.mp ((List.dropWhile_suffix _).subset hmem)
  · exact h

theorem slash_notMem_stem {path stem : String} (h : stem? path = some stem) :
    '/' ∉ stem.toList := by
  obtain ⟨name, hname, rfl⟩ := Option.map_eq_some_iff.mp h
  rw [String.toList_ofList]
  intro hslash
  exact slash_notMem_fileName hname (mem_of_mem_cutName hslash)

end Path

/-- A map that gives itself no id has one without a slash. -/
theorem slash_notMem_resolveMapId {own : Option String} (hown : own.bind nonBlank? = none)
    (sourcePath : Option String) : '/' ∉ (resolveMapId own sourcePath).toList := by
  rw [resolveMapId, hown, Option.none_or]
  cases hstem : (sourcePath.bind Path.stem?).bind nonBlank? with
  | none => decide
  | some id =>
    obtain ⟨stem, hstem, hid⟩ := Option.bind_eq_some_iff.mp hstem
    obtain ⟨path, -, hpath⟩ := Option.bind_eq_some_iff.mp hstem
    rw [Option.getD_some, (Text.toList_of_nonBlank? hid).1]
    intro hslash
    exact Path.slash_notMem_stem hpath (Text.mem_of_mem_trim hslash)

/-! ### Main result -/

/-- A map whose id has no slash is written into the directory itself. -/
theorem isChild_of_mem_writes {b : BoundMap} (hid : '/' ∉ b.map.id.toList) (directory : String)
    {w : String × String} (hw : w ∈ b.writes directory) : Path.IsChild directory w.1 := by
  have hchild {name : String} (h : name ∈ outputNames b.map.id) :
      Path.IsChild directory (Path.join directory name) :=
    ⟨name, plainName_of_mem_outputNames hid h, rfl⟩
  rw [BoundMap.writes, List.mem_cons, List.mem_singleton] at hw
  rcases hw with rfl | rfl
  · exact hchild (by simp [outputNames])
  · exact hchild (by simp [outputNames])

/-- In the working directory the path of a map is the id with an ending. -/
theorem slash_notMem_of_isChild {b : BoundMap} (h : Path.IsChild "" (b.modelPath "")) :
    '/' ∉ b.map.id.toList := by
  obtain ⟨name, hname, hpath⟩ := h
  rw [BoundMap.modelPath, join_empty, join_empty] at hpath
  intro hslash
  apply hname.no_slash
  rw [← hpath, String.toList_append]
  exact List.mem_append_left _ hslash

/-- What is known of the files holds of every map whose id is resolved from its text and its
path. -/
theorem MapModel.outputsInside_of_id {m : MapModel} {own sourcePath : Option String}
    (hid : m.id = resolveMapId own sourcePath) : m.OutputsInside own where
  children s := by
    constructor
    · intro h
      exact slash_notMem_of_isChild (b := m.bindTo s) (h "" _ List.mem_cons_self)
    · intro h directory w hw
      exact isChild_of_mem_writes h directory hw
  changes := by
    intro hslash s directory t result t' h
    exact changes_emit (b := m.bindTo s) hslash h
  no_slash := by
    intro hown
    rw [hid]
    exact slash_notMem_resolveMapId hown sourcePath

/-- An accepted map is written to two names in the directory for the output, and nowhere else,
exactly if its id holds no slash; an id that it does not give itself holds none. -/
theorem outputs_inside :
    (∀ (text : String) (options : CompileOptions) (m : MapModel),
      compile text options = .ok m → m.OutputsInside ((headOf text).get? ["id"])) ∧
    (∀ (d : Tiled.Document) (options : CompileOptions) (m : MapModel),
      d.toMap options = .ok m → m.OutputsInside (Tiled.text? d.properties "id")) := by
  constructor
  · intro text options m h
    exact MapModel.outputsInside_of_id (id_of_compile h)
  · intro d options m h
    exact MapModel.outputsInside_of_id (Tiled.id_of_toMap h)

/-- A map that takes its id from the name of its file. -/
theorem outputs_inside_hall : ∃ m, compile "title: Hall" ⟨[], some "maps/hall.map"⟩ = .ok m ∧
    m.id = "hall" ∧ ∀ s directory, ∀ w ∈ (m.bindTo s).writes directory,
      Path.IsChild directory w.1 := by
  have hid : (compile "title: Hall" ⟨[], some "maps/hall.map"⟩).toOption.map (·.id) =
      some "hall" := by
    decide +kernel
  obtain ⟨m, hm, hid⟩ := exists_ok_of_toOption_map hid
  have hinside := outputs_inside.1 _ _ m hm
  have hown : ((headOf "title: Hall").get? ["id"]).bind nonBlank? = none := by decide +kernel
  refine ⟨m, hm, hid, fun s => ?_⟩
  exact (hinside.children s).mpr (hinside.no_slash hown)

/-- An id may lead out of the directory for the output. -/
theorem exists_output_outside : ∃ m, compile "id: ../escaped\n" ⟨[], none⟩ = .ok m ∧
    ∀ s, (m.bindTo s).modelPath "out" = "out/../escaped.json" ∧
      ¬ Path.IsChild "out" ((m.bindTo s).modelPath "out") := by
  have hid : (compile "id: ../escaped\n" ⟨[], none⟩).toOption.map (·.id) = some "../escaped" := by
    decide +kernel
  obtain ⟨m, hm, hid⟩ := exists_ok_of_toOption_map hid
  refine ⟨m, hm, fun s => ?_⟩
  have hpath : (m.bindTo s).modelPath "out" = "out/../escaped.json" := by
    rw [BoundMap.modelPath, MapModel.bindTo, hid]
    decide
  refine ⟨hpath, ?_⟩
  rw [hpath]
  rintro ⟨name, hname, hjoin⟩
  rw [join_eq (by decide) hname, if_neg (by decide)] at hjoin
  have hrest : name.toList = "../escaped.json".toList := by
    simpa using (congrArg String.toList hjoin).symm
  exact hname.no_slash (hrest ▸ by decide)

end Tilemap
