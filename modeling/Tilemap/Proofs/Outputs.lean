import Mathlib.Data.List.Nodup
import Tilemap.CommandLine
import Tilemap.File.Tree
import Tilemap.Proofs.FileTrees
import Tilemap.Proofs.Text.Trimming

/-!
# Written maps stay

A run writes two files for each of its maps, named after the id of the map. Nothing keeps the ids of
several maps apart, so a file may be written more than once, and then holds what was written last
(`Invocation.run_outputs`). If the ids are different names and none of them is another with
`.public` behind it (`IdsApart`), no two of the files are the same, and all maps stay.
-/

namespace Tilemap

open FileTree

/-! ### Runs on a file tree -/

/-- What comes of a run on a file tree, and the tree that it leaves. -/
def runOn {ε α : Type} (x : ExceptT ε (StateM FileTree) α) (t : FileTree) :
    Except ε α × FileTree := x.run.run t

section RunOn

variable {ε α β : Type} {t t' : FileTree} {b : β}

/-- The second step goes on with the files that the first one has left. -/
theorem runOn_bind (x : ExceptT ε (StateM FileTree) α) (f : α → ExceptT ε (StateM FileTree) β)
    (t : FileTree) :
    runOn (x >>= f) t = match runOn x t with
      | (.ok a, t₁) => runOn (f a) t₁
      | (.error e, t₁) => (.error e, t₁) := by
  simp only [runOn]
  rw [ExceptT.run_bind, StateT.run_bind]
  generalize StateT.run x.run t = result
  obtain ⟨_ | _, _⟩ := result <;> rfl

/-- Two steps succeed exactly if the first one does and the second one does after it. -/
theorem runOn_bind_eq_ok {x : ExceptT ε (StateM FileTree) α}
    {f : α → ExceptT ε (StateM FileTree) β} :
    runOn (x >>= f) t = (.ok b, t') ↔
      ∃ a t₁, runOn x t = (.ok a, t₁) ∧ runOn (f a) t₁ = (.ok b, t') := by
  rw [runOn_bind]
  rcases runOn x t with ⟨_ | a, t₁⟩
  · simp
  · constructor
    · intro h
      exact ⟨a, t₁, rfl, h⟩
    · rintro ⟨_, _, ⟨⟩, h⟩
      exact h

theorem runOn_pure_eq_ok {a : β} :
    runOn (pure a : ExceptT ε (StateM FileTree) β) t = (.ok b, t') ↔ a = b ∧ t = t' := by
  change ((Except.ok a, t) : Except ε β × FileTree) = (.ok b, t') ↔ _
  rw [Prod.mk.injEq, Except.ok.injEq]

theorem runOn_liftM_eq_ok {x : StateM FileTree β} :
    runOn (liftM x : ExceptT ε (StateM FileTree) β) t = (.ok b, t') ↔ x.run t = (b, t') := by
  change ((Except.ok (x.run t).1, (x.run t).2) : Except ε β × FileTree) = (.ok b, t') ↔
    (x.run t : β × FileTree) = _
  rw [Prod.mk.injEq, Except.ok.injEq, Prod.ext_iff]

theorem runOn_orFail_eq_ok {failure : String} {step : StateM FileTree (Except ε β)} :
    runOn (orFail failure step) t = (.ok b, t') ↔ step.run t = (.ok b, t') := by
  rw [orFail, runOn_bind_eq_ok]
  simp only [runOn_liftM_eq_ok]
  constructor
  · rintro ⟨a, t₁, hstep, h⟩
    cases a with
    | ok a =>
      obtain ⟨rfl, rfl⟩ := runOn_pure_eq_ok.mp h
      exact hstep
    | error e => cases h
  · intro h
    exact ⟨_, _, h, rfl⟩

end RunOn

/-- A change to the files succeeds exactly if it has a tree to leave behind. -/
theorem changeTree_eq_ok {change : FileTree → Except FileError FileTree} {t t' : FileTree} :
    (changeTree change).run t = (.ok (), t') ↔ change t = .ok t' := by
  change changeTree change t = _ ↔ _
  rw [changeTree]
  cases change t with
  | error e =>
    constructor
    · rintro ⟨⟩
    · rintro ⟨⟩
  | ok t₁ =>
    constructor
    · rintro ⟨⟩
      rfl
    · rintro ⟨⟩
      rfl

/-- A map text that is read and accepted is loaded. -/
theorem runOn_loadMapFile {t : FileTree} {path text : String} {options : CompileOptions}
    {m : MapModel} (hread : t.read path = .ok text) (htext : Path.hasExtension path "json" = false)
    (hcompile : compile text { options with sourcePath := some (options.sourcePath.getD path) } =
      .ok m) :
    runOn (loadMapFile path options : ExceptT MapError (StateM FileTree) MapModel) t =
      (.ok m, t) := by
  have hfile : (FileStore.read path : StateM FileTree _).run t = (.ok text, t) :=
    congrArg (·, t) hread
  simp only [loadMapFile, htext, Bool.false_eq_true, if_false]
  refine runOn_bind_eq_ok.mpr ⟨text, t, ?_, ?_⟩
  · exact runOn_bind_eq_ok.mpr ⟨_, t, runOn_liftM_eq_ok.mpr hfile, rfl⟩
  · rw [hcompile]
    rfl

namespace BoundMap

/-- The files that a map is written to, with their contents. -/
def writes (b : BoundMap) (directory : String) : List (String × String) :=
  [(b.modelPath directory, b.map.toJson.document), (b.publicPath directory, b.publicView.document)]

/-- Writing a map is writing its two files. -/
theorem runOn_emit_eq_ok {b : BoundMap} {directory : String} {t t' : FileTree} :
    runOn (b.emit directory) t = (.ok (), t') ↔ t.writeAll (b.writes directory) = .ok t' := by
  rw [emit, runOn_bind_eq_ok, writes]
  simp only [runOn_orFail_eq_ok, writeAll_cons_eq_ok]
  constructor
  · rintro ⟨⟨⟩, t₁, hmodel, hpublic⟩
    exact ⟨t₁, changeTree_eq_ok.mp hmodel, t', changeTree_eq_ok.mp hpublic, rfl⟩
  · rintro ⟨t₁, hmodel, t₂, hpublic, ⟨⟩⟩
    exact ⟨(), t₁, changeTree_eq_ok.mpr hmodel, changeTree_eq_ok.mpr hpublic⟩

/-- Writing all maps is writing all their files, in the order of the maps. -/
theorem runOn_emitAll_eq_ok {bound : List BoundMap} {directory : String} {t t' : FileTree} :
    runOn (forIn bound PUnit.unit fun b _ => do
      b.emit directory
      pure (ForInStep.yield PUnit.unit)) t = (.ok PUnit.unit, t') ↔
        t.writeAll (bound.flatMap (·.writes directory)) = .ok t' := by
  induction bound generalizing t with
  | nil =>
    rw [List.forIn_nil, runOn_pure_eq_ok, List.flatMap_nil, writeAll, List.foldlM_nil, pure_eq_ok]
    exact and_iff_right rfl
  | cons b rest ih =>
    rw [List.forIn_cons, runOn_bind_eq_ok, List.flatMap_cons, writeAll_append_eq_ok]
    simp only [runOn_bind_eq_ok, runOn_pure_eq_ok]
    constructor
    · rintro ⟨_, _, ⟨⟨⟩, t₁, hemit, rfl, rfl⟩, hrest⟩
      exact ⟨t₁, runOn_emit_eq_ok.mp hemit, ih.mp hrest⟩
    · rintro ⟨t₁, hemit, hrest⟩
      exact ⟨_, t₁, ⟨(), t₁, runOn_emit_eq_ok.mpr hemit, rfl, rfl⟩, ih.mpr hrest⟩

end BoundMap

namespace Invocation

/-- The text that a run prints when the maps are written. -/
def report (i : Invocation) (bound : List BoundMap) : Except String String :=
  match i.interact with
  | none => .ok ""
  | some objectId =>
    match i.outcome? objectId bound with
    | some outcome => .ok outcome.toJson.document
    | none => .error ("No map has an object " ++ quoted objectId)

/-- A run on a tree compiles maps and binds them to the templates that it loads. -/
def Binds (i : Invocation) (variable_ : String → Option String) (t : FileTree)
    (bound : List BoundMap) (t' : FileTree) : Prop :=
  ∃ maps t₁ templates registry, runOn i.compileMaps t = (.ok maps, t₁) ∧
    ((Registry.ofDirectories (searchPath i.objects variable_)).load :
      StateM FileTree (TemplateSet × Registry)).run t₁ = ((templates, registry), t') ∧
    bound = maps.map (·.bindTo templates)

/-- A run reads and binds its maps in one way only. -/
theorem Binds.unique {i : Invocation} {variable_ : String → Option String} {t t' t'' : FileTree}
    {bound bound' : List BoundMap} (h : i.Binds variable_ t bound t')
    (h' : i.Binds variable_ t bound' t'') : bound = bound' := by
  obtain ⟨maps, t₁, templates, registry, hmaps, hload, rfl⟩ := h
  obtain ⟨maps', t₁', templates', registry', hmaps', hload', rfl⟩ := h'
  obtain ⟨⟨⟩, rfl⟩ := Prod.mk.inj (hmaps.symm.trans hmaps')
  cases hload.symm.trans hload'
  rfl

/-- A run succeeds exactly if it reads its maps, makes the directory and writes every file. -/
theorem run_eq_ok {i : Invocation} {variable_ : String → Option String} {t t' : FileTree}
    {out : String} :
    runOn (i.run variable_) t = (.ok out, t') ↔
      ∃ bound t₁ t₂, i.Binds variable_ t bound t₁ ∧
        (makeDirectories i.output : StateM FileTree (Except FileError Unit)).run t₁ =
          (.ok (), t₂) ∧
        t₂.writeAll (bound.flatMap (·.writes i.output)) = .ok t' ∧ i.report bound = .ok out := by
  have hreport (bound : List BoundMap) (t₃ : FileTree) :
      runOn (match i.interact with
        | none => pure ""
        | some objectId =>
          match i.outcome? objectId bound with
          | some outcome => pure outcome.toJson.document
          | none => throw ("No map has an object " ++ quoted objectId) :
            ExceptT String (StateM FileTree) String) t₃ = (.ok out, t') ↔
        i.report bound = .ok out ∧ t₃ = t' := by
    rw [report]
    split
    · rw [runOn_pure_eq_ok, Except.ok.injEq]
    · split
      · rw [runOn_pure_eq_ok, Except.ok.injEq]
      · constructor
        · rintro ⟨⟩
        · rintro ⟨⟨⟩, -⟩
  rw [run, runOn_bind_eq_ok]
  constructor
  · rintro ⟨maps, t₁, hmaps, h⟩
    obtain ⟨⟨templates, registry⟩, t₂, hload, h⟩ := runOn_bind_eq_ok.mp h
    obtain ⟨⟨⟩, t₃, hmake, h⟩ := runOn_bind_eq_ok.mp h
    obtain ⟨⟨⟩, t₄, hemit, h⟩ := runOn_bind_eq_ok.mp h
    obtain ⟨hout, rfl⟩ := (hreport _ _).mp h
    exact ⟨_, t₂, t₃, ⟨maps, t₁, templates, registry, hmaps, runOn_liftM_eq_ok.mp hload, rfl⟩,
      runOn_orFail_eq_ok.mp hmake, BoundMap.runOn_emitAll_eq_ok.mp hemit, hout⟩
  · rintro ⟨bound, t₁, t₂, ⟨maps, t₀, templates, registry, hmaps, hload, rfl⟩, hmake, hwrite, hout⟩
    refine ⟨maps, t₀, hmaps, runOn_bind_eq_ok.mpr ⟨_, t₁, runOn_liftM_eq_ok.mpr hload, ?_⟩⟩
    refine runOn_bind_eq_ok.mpr ⟨_, t₂, runOn_orFail_eq_ok.mpr hmake, ?_⟩
    refine runOn_bind_eq_ok.mpr ⟨_, t', BoundMap.runOn_emitAll_eq_ok.mpr hwrite, ?_⟩
    exact (hreport _ _).mpr ⟨hout, rfl⟩

end Invocation

/-! ### File names -/

/-- A name without a slash, other than the names for no step and for the directory above. -/
structure PlainName (name : String) : Prop where
  no_slash : '/' ∉ name.toList
  step_eq : Step.of name.toList = .down name

theorem PlainName.pieces_eq {name : String} (h : PlainName name) :
    Text.pieces (· = '/') name.toList = [name.toList] :=
  Text.pieces_of_none fun _ hc heq => h.no_slash (of_decide_eq_true heq ▸ hc)

theorem PlainName.isAbsolute_eq {name : String} (h : PlainName name) :
    Path.isAbsolute name.toList = false := by
  rw [Path.isAbsolute, decide_eq_false_iff_not]
  exact fun hhead => h.no_slash (List.mem_of_mem_head? hhead)

@[simp] theorem join_empty (path : String) : Path.join "" path = path := by
  rw [Path.join, if_pos (by simp)]

/-- A name is put behind a directory with a slash between them, which may be there already. -/
theorem join_eq {directory name : String} (hdirectory : directory ≠ "") (h : PlainName name) :
    Path.join directory name =
      directory ++ (if directory.toList.getLast? = some '/' then name else "/" ++ name) := by
  rw [Path.join, if_neg (by simp [h.isAbsolute_eq, hdirectory])]
  split
  · rfl
  · rw [String.append_assoc]

/-- The path of a directory; an empty one stands for the working directory. -/
def Path.orHere (directory : String) : String := if directory = "" then "." else directory

/-- A name in a directory has the parts of the directory before it, but for such as lead nowhere. -/
theorem exists_pieces_orHere (directory : String) : ∃ before idle,
    Text.pieces (· = '/') (Path.orHere directory).toList = before ++ idle ∧
      (∀ part ∈ idle, Step.of part = .here) ∧
      ∀ name, PlainName name →
        Text.pieces (· = '/') (Path.join directory name).toList = before ++ [name.toList] := by
  by_cases hempty : directory = ""
  · refine ⟨[], [['.']], by rw [Path.orHere, if_pos hempty]; decide, by decide, fun name h => ?_⟩
    rw [hempty, join_empty, h.pieces_eq]
    rfl
  rw [Path.orHere, if_neg hempty]
  by_cases hslash : directory.toList.getLast? = some '/'
  · obtain ⟨d, hd⟩ := List.getLast?_eq_some_iff.mp hslash
    refine ⟨Text.pieces (· = '/') d, [[]], ?_, by decide, fun name h => ?_⟩
    · rw [hd, Text.pieces_append (by simp)]
      rfl
    · rw [join_eq hempty h, if_pos hslash, String.toList_append, hd, List.append_assoc,
        List.singleton_append, Text.pieces_append (by simp), h.pieces_eq]
  · refine ⟨Text.pieces (· = '/') directory.toList, [], by rw [List.append_nil], by simp,
      fun name h => ?_⟩
    rw [join_eq hempty h, if_neg hslash, String.toList_append, String.toList_append]
    change Text.pieces _ (directory.toList ++ '/' :: name.toList) = _
    rw [Text.pieces_append (by simp), h.pieces_eq]

/-- A plain name is the last piece of the path that it is joined to. -/
theorem exists_pieces_join (directory : String) : ∃ before, ∀ name, PlainName name →
    Text.pieces (· = '/') (Path.join directory name).toList = before ++ [name.toList] := by
  obtain ⟨before, idle, -, -, hjoin⟩ := exists_pieces_orHere directory
  exact ⟨before, hjoin⟩

/-- Plain names that lead from a directory to the same place are the same. -/
theorem eq_of_sameFile {t : FileTree} {directory name name' : String} (h : PlainName name)
    (h' : PlainName name')
    (hsame : t.SameFile (Path.join directory name) (Path.join directory name')) : name = name' := by
  obtain ⟨before, hjoin⟩ := exists_pieces_join directory
  have hhead {name : String} (h : PlainName name) {way : List String}
      (hway : t.wayTo (Path.join directory name) = .ok way) : way.head? = some name :=
    head?_of_wayTo (hjoin name h) h.step_eq hway
  obtain ⟨way, hway, hway'⟩ := hsame
  exact Option.some.inj ((hhead h hway).symm.trans (hhead h' hway'))

theorem plainName_of_length {name : String} (h : '/' ∉ name.toList)
    (hlong : 2 < name.toList.length) : PlainName name := by
  refine ⟨h, ?_⟩
  have hne {part : List Char} (hshort : part.length ≤ 2) : name.toList ≠ part := by
    rintro rfl
    omega
  have hhere : ¬ (name.toList = [] || name.toList = ['.']) := by
    rw [Bool.or_eq_true, decide_eq_true_eq, decide_eq_true_eq, not_or]
    exact ⟨hne (by simp), hne (by simp)⟩
  rw [Step.of, if_neg hhere, if_neg (hne (by simp)), String.ofList_toList]

def outputNames (id : String) : List String := [id ++ ".json", id ++ ".public.json"]

theorem plainName_of_mem_outputNames {id name : String} (hid : '/' ∉ id.toList)
    (h : name ∈ outputNames id) : PlainName name := by
  rw [outputNames, List.mem_cons, List.mem_singleton] at h
  rcases h with rfl | rfl
  · exact plainName_of_length (by simp [hid]) (by simp)
  · exact plainName_of_length (by simp [hid]) (by simp)

/-- Ids are different names, and none of them is another with `.public` behind it. -/
structure IdsApart (ids : List String) : Prop where
  no_slash : ∀ id ∈ ids, '/' ∉ id.toList
  nodup : ids.Nodup
  not_public : ∀ id ∈ ids, id ++ ".public" ∉ ids

theorem append_public_json (id : String) : id ++ ".public.json" = id ++ ".public" ++ ".json" := by
  rw [String.append_assoc]
  rfl

/-- Maps whose ids are apart have files of different names. -/
theorem IdsApart.nodup_outputNames {ids : List String} (h : IdsApart ids) :
    (ids.flatMap outputNames).Nodup := by
  rw [List.nodup_flatMap]
  constructor
  · intro id _
    have hne : id ++ ".json" ≠ id ++ ".public.json" := by
      rw [Ne, String.append_right_inj]
      decide
    simp [outputNames, hne]
  · refine h.nodup.imp_of_mem fun {id id'} hid hid' hne => ?_
    refine List.disjoint_left.mpr fun name hname hname' => ?_
    rw [outputNames, List.mem_cons, List.mem_singleton, append_public_json] at hname hname'
    rcases hname with rfl | rfl <;> rcases hname' with heq | heq <;>
      rw [String.append_left_inj] at heq
    · exact hne heq
    · exact h.not_public id' hid' (heq ▸ hid)
    · exact h.not_public id hid (heq ▸ hid')
    · exact hne ((String.append_left_inj _).mp heq)

/-! ### Main result -/

/-- The files of a map hold the map and its public view. -/
structure BoundMap.Held (b : BoundMap) (directory : String) (t : FileTree) : Prop where
  model : t.read (b.modelPath directory) = .ok b.map.toJson.document
  publicView : t.read (b.publicPath directory) = .ok b.publicView.document

/-- Files hold what was written to them last. -/
def HoldLast (writes : List (String × String)) (t : FileTree) : Prop :=
  ∀ before w after, writes = before ++ w :: after → (∀ w' ∈ after, ¬ t.SameFile w.1 w'.1) →
    t.read w.1 = .ok w.2

/-- Maps with ids apart are never written to the same file. -/
theorem pairwise_writes {bound : List BoundMap} (h : IdsApart (bound.map (·.map.id)))
    (directory : String) (t : FileTree) :
    (bound.flatMap (·.writes directory)).Pairwise fun w w' => ¬ t.SameFile w.1 w'.1 := by
  have hpaths : (bound.flatMap (·.writes directory)).map (·.1) =
      ((bound.map (·.map.id)).flatMap outputNames).map (Path.join directory) := by
    rw [List.map_flatMap, List.map_flatMap, List.flatMap_map]
    rfl
  rw [← List.pairwise_map (R := fun p p' => ¬ t.SameFile p p'), hpaths, List.pairwise_map]
  refine h.nodup_outputNames.imp_of_mem fun {name name'} hname hname' hne hsame => hne ?_
  have hplain {name : String} (h' : name ∈ (bound.map (·.map.id)).flatMap outputNames) :
      PlainName name := by
    obtain ⟨id, hid, hname⟩ := List.mem_flatMap.mp h'
    exact plainName_of_mem_outputNames (h.no_slash id hid) hname
  exact eq_of_sameFile (hplain hname) (hplain hname') hsame

/-- After a run every file holds what was written to it last. So all maps are held if no two of the
files are the same, which they are not if the ids of the maps are apart. -/
theorem Invocation.run_outputs {i : Invocation} {variable_ : String → Option String}
    {t t' : FileTree} {out : String} (h : runOn (i.run variable_) t = (.ok out, t')) :
    ∃ bound t₁, i.Binds variable_ t bound t₁ ∧
      HoldLast (bound.flatMap (·.writes i.output)) t' ∧
      (IdsApart (bound.map (·.map.id)) →
        (bound.flatMap (·.writes i.output)).Pairwise (fun w w' => ¬ t'.SameFile w.1 w'.1) ∧
        ∀ b ∈ bound, b.Held i.output t') := by
  obtain ⟨bound, t₁, t₂, hbinds, -, hwrite, -⟩ := run_eq_ok.mp h
  have hlast : HoldLast (bound.flatMap (·.writes i.output)) t' := by
    rintro before w after heq
    rw [heq] at hwrite
    exact read_of_writeAll hwrite
  refine ⟨bound, t₁, hbinds, hlast, fun hids => ?_⟩
  have hapart := pairwise_writes hids i.output t'
  have hread {w : String × String} (hw : w ∈ bound.flatMap (·.writes i.output)) :
      t'.read w.1 = .ok w.2 := by
    obtain ⟨before, after, heq⟩ := List.append_of_mem hw
    rw [heq, List.pairwise_append, List.pairwise_cons] at hapart
    exact hlast before w after heq hapart.2.1.1
  refine ⟨hapart, fun b hb => ⟨?_, ?_⟩⟩
  · exact @hread (b.modelPath i.output, b.map.toJson.document)
      (List.mem_flatMap.mpr ⟨b, hb, List.mem_cons_self⟩)
  · exact @hread (b.publicPath i.output, b.publicView.document)
      (List.mem_flatMap.mpr ⟨b, hb, List.mem_cons_of_mem _ List.mem_cons_self⟩)

/-! ### Two maps -/

def pairTree (text text' : String) : FileTree :=
  put (.directory [("maps", .directory
    [("a.map", .file text.toUTF8), ("b.map", .file text'.toUTF8)])]) home FileTree.bare

/-- The run that compiles the directory without the tiles of the catalog. -/
def pairRun : Invocation := ⟨"maps", "out", [], false, none, none, none⟩

theorem mapNames_pair (text text' : String) :
    (mapNames "maps" ["a.map", "b.map"] : StateM FileTree (List String)).run
      (pairTree text text') = (["a.map", "b.map"], pairTree text text') := by
  have hsorted : ["a.map", "b.map"].mergeSort nameComesFirst = ["a.map", "b.map"] :=
    List.mergeSort_of_pairwise (by decide)
  have hrun : (mapNames "maps" ["a.map", "b.map"] : StateM FileTree (List String)).run
      (pairTree text text') =
        (["a.map", "b.map"].mergeSort nameComesFirst, pairTree text text') := rfl
  rw [hrun, hsorted]

theorem runOn_compileMaps_pair {text text' : String} {a b : MapModel}
    (ha : compile text ⟨[], some "maps/a.map"⟩ = .ok a)
    (hb : compile text' ⟨[], some "maps/b.map"⟩ = .ok b) :
    runOn pairRun.compileMaps (pairTree text text') = (.ok [a, b], pairTree text text') := by
  have hload : runOn (loadMapDirectory "maps" ⟨[], none⟩ : ExceptT MapError (StateM FileTree) _)
      (pairTree text text') = (.ok [a, b], pairTree text text') := by
    refine runOn_bind_eq_ok.mpr ⟨_, _, runOn_liftM_eq_ok.mpr rfl, ?_⟩
    refine runOn_bind_eq_ok.mpr ⟨_, _, runOn_liftM_eq_ok.mpr (mapNames_pair text text'), ?_⟩
    rw [List.mapM_cons]
    refine runOn_bind_eq_ok.mpr ⟨a, _, runOn_loadMapFile (read_eq_ok rfl rfl) ?_ ha, ?_⟩
    · decide
    rw [List.mapM_cons, List.mapM_nil, bind_assoc]
    refine runOn_bind_eq_ok.mpr ⟨b, _, runOn_loadMapFile (read_eq_ok rfl rfl) ?_ hb, rfl⟩
    decide
  refine runOn_bind_eq_ok.mpr ⟨true, _, runOn_liftM_eq_ok.mpr rfl, ?_⟩
  exact runOn_orFail_eq_ok.mpr hload

def outputTree (text text' : String) (files : List (String × FileTree)) : FileTree :=
  .directory [("tmp", .directory [("work", .directory [("maps", .directory
    [("a.map", .file text.toUTF8), ("b.map", .file text'.toUTF8)]), ("out", .directory files)])])]

/-- The four files of two maps can be written, be their ids the same or not. -/
theorem exists_writeAll_pair (text text' a a' b b' : String) {id : String}
    (hid : id = "x" ∨ id = "y") : ∃ t', (outputTree text text' []).writeAll
      [(Path.join "out" ("x" ++ ".json"), a), (Path.join "out" ("x" ++ ".public.json"), a'),
        (Path.join "out" (id ++ ".json"), b), (Path.join "out" (id ++ ".public.json"), b')] =
          .ok t' := by
  simp only [writeAll_cons_eq_ok]
  rcases hid with rfl | rfl
  · exact ⟨_, _, rfl, _, rfl, _, rfl, _, rfl, rfl⟩
  · exact ⟨_, _, rfl, _, rfl, _, rfl, _, rfl, rfl⟩

/-- The run writes both maps. Only the ids of the maps matter. -/
theorem exists_runOn_pair {text text' : String} {a b : MapModel}
    (ha : compile text ⟨[], some "maps/a.map"⟩ = .ok a)
    (hb : compile text' ⟨[], some "maps/b.map"⟩ = .ok b)
    (hida : a.id = "x") (hidb : b.id = "x" ∨ b.id = "y") :
    ∃ t', runOn (pairRun.run fun _ => none) (pairTree text text') = (.ok "", t') ∧
      pairRun.Binds (fun _ => none) (pairTree text text') [a.bindTo .empty, b.bindTo .empty]
        (pairTree text text') := by
  have hbinds : pairRun.Binds (fun _ => none) (pairTree text text')
      [a.bindTo .empty, b.bindTo .empty] (pairTree text text') :=
    ⟨_, _, _, _, runOn_compileMaps_pair ha hb, rfl, rfl⟩
  have hmake : (makeDirectories "out" : StateM FileTree (Except FileError Unit)).run
      (pairTree text text') = (.ok (), outputTree text text' []) := rfl
  obtain ⟨t', hwrite⟩ : ∃ t', (outputTree text text' []).writeAll
      ([a.bindTo .empty, b.bindTo .empty].flatMap (·.writes "out")) = .ok t' := by
    simp only [List.flatMap_cons, List.flatMap_nil, BoundMap.writes, BoundMap.modelPath,
      BoundMap.publicPath, MapModel.bindTo, hida]
    exact exists_writeAll_pair text text' _ _ _ _ hidb
  exact ⟨t', Invocation.run_eq_ok.mpr ⟨_, _, _, hbinds, hmake, hwrite, rfl⟩, hbinds⟩

/-- Two maps with the ids `x` and `y`, each of which keeps its two files. -/
theorem run_outputs_pair : ∃ (a b : BoundMap) (t' : FileTree),
    runOn (pairRun.run fun _ => none) (pairTree "id: x" "id: y") = (.ok "", t') ∧
      a.map.id = "x" ∧ b.map.id = "y" ∧ IdsApart ["x", "y"] ∧
      a.Held "out" t' ∧ b.Held "out" t' := by
  have hx : (compile "id: x" ⟨[], some "maps/a.map"⟩).toOption.map (·.id) = some "x" := by
    decide +kernel
  have hy : (compile "id: y" ⟨[], some "maps/b.map"⟩).toOption.map (·.id) = some "y" := by
    decide +kernel
  obtain ⟨a, ha, hida⟩ := exists_ok_of_toOption_map hx
  obtain ⟨b, hb, hidb⟩ := exists_ok_of_toOption_map hy
  obtain ⟨t', hrun, hbinds⟩ := exists_runOn_pair ha hb hida (.inr hidb)
  obtain ⟨bound, t₁, hbound, -, hheld⟩ := Invocation.run_outputs hrun
  obtain rfl := hbinds.unique hbound
  have hids : IdsApart ["x", "y"] := ⟨by decide, by decide, by decide⟩
  have hboth := (hheld (by
    change IdsApart [a.id, b.id]
    rwa [hida, hidb])).2
  exact ⟨_, _, t', hrun, hida, hidb, hids, hboth _ List.mem_cons_self,
    hboth _ (List.mem_cons_of_mem _ List.mem_cons_self)⟩

/-- A map starts with its id and its name. -/
theorem exists_document_eq (m : MapModel) : ∃ rest, m.toJson.document.toList =
    '\x7b' :: (Json.newline 1 ++ (Json.quote "id" ++ ':' :: ' ' :: (Json.quote m.id ++
      ',' :: (Json.newline 1 ++ (Json.quote "name" ++ ':' :: ' ' ::
        (Json.quote m.name ++ rest)))))) := by
  rw [Json.document, String.toList_append, Json.pretty, String.toList_ofList, MapModel.toJson]
  simp only [List.cons_append, Json.prettyChars, Json.prettyEntries, List.append_assoc]
  exact ⟨_, rfl⟩

/-- A run can lose a map: of two maps with the same id only the second one stays. -/
theorem exists_run_not_held : ¬ ∀ (i : Invocation) (variable_ : String → Option String)
    (t t' : FileTree) (out : String), runOn (i.run variable_) t = (.ok out, t') →
      ∀ bound t₁, i.Binds variable_ t bound t₁ → ∀ b ∈ bound, b.Held i.output t' := by
  intro hall
  have hx : (compile "id: x\ntitle: A" ⟨[], some "maps/a.map"⟩).toOption.map
      (fun m => (m.id, m.name)) = some ("x", "A") := by
    decide +kernel
  have hy : (compile "id: x\ntitle: B" ⟨[], some "maps/b.map"⟩).toOption.map
      (fun m => (m.id, m.name)) = some ("x", "B") := by
    decide +kernel
  obtain ⟨a, ha, hheada⟩ := exists_ok_of_toOption_map hx
  obtain ⟨b, hb, hheadb⟩ := exists_ok_of_toOption_map hy
  obtain ⟨hida, hnamea⟩ := Prod.mk.inj hheada
  obtain ⟨hidb, hnameb⟩ := Prod.mk.inj hheadb
  obtain ⟨t', hrun, hbinds⟩ := exists_runOn_pair ha hb hida (.inl hidb)
  have hheld := hall _ _ _ _ _ hrun _ _ hbinds
  have hmodela := (hheld (a.bindTo .empty) List.mem_cons_self).model
  have hmodelb := (hheld (b.bindTo .empty) (List.mem_cons_of_mem _ List.mem_cons_self)).model
  have hpath : (a.bindTo .empty).modelPath "out" = (b.bindTo .empty).modelPath "out" := by
    simp only [BoundMap.modelPath, MapModel.bindTo, hida, hidb]
  have hsame : a.toJson.document = b.toJson.document := by
    change t'.read ((a.bindTo .empty).modelPath "out") = _ at hmodela
    rw [hpath] at hmodela
    exact Except.ok.inj (hmodela.symm.trans hmodelb)
  obtain ⟨rest, hresta⟩ := exists_document_eq a
  obtain ⟨rest', hrestb⟩ := exists_document_eq b
  rw [← hsame, hresta, hida, hidb, hnamea, hnameb] at hrestb
  simp [Json.quote, Json.escape] at hrestb

end Tilemap
