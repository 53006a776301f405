import Mathlib.Data.List.Forall2
import Mathlib.Data.String.Basic
import Tilemap.MapFiles
import Tilemap.Proofs.Outputs
import Tilemap.Proofs.Stages

/-!
# The order of a directory

A file system lists the names of a directory in any order. The maps of the directory come out in an
order of their own: `init.map` first and the others by name. This order is total on names, so the
listing does not show in what is loaded (`loadMapDirectory_listed`), and the error of a directory
with several wrong maps is always that of the same map.

All this holds in any file store whose files stay as they are while one looks at them (`Steady`),
of which the file tree is one.
-/

namespace Tilemap

open FileTree Text

/-! ### Runs that change nothing -/

section Runs

variable {S ε α β : Type} {s : S}

/-- A run that leaves every state as it is. -/
def KeepsState (x : StateM S α) : Prop := ∀ s, (x.run s).2 = s

/-- What comes of a run from a state. -/
def answer (x : StateM S α) (s : S) : α := (x.run s).1

theorem KeepsState.run_eq {x : StateM S α} (h : KeepsState x) (s : S) :
    x.run s = (answer x s, s) :=
  Prod.ext rfl (h s)

theorem keepsState_pure (a : α) : KeepsState (pure a : StateM S α) := fun _ => rfl

theorem answer_pure (a : α) (s : S) : answer (pure a : StateM S α) s = a := rfl

/-- A run goes on from the state that its first step leaves. -/
theorem run_bind_of_run_eq {x : StateM S α} {a : α} {s' : S} (h : x.run s = (a, s'))
    (f : α → StateM S β) : (x >>= f).run s = (f a).run s' := by
  rw [StateT.run_bind, h]
  rfl

theorem KeepsState.run_bind {x : StateM S α} (h : KeepsState x) (f : α → StateM S β) (s : S) :
    (x >>= f).run s = (f (answer x s)).run s :=
  run_bind_of_run_eq (h.run_eq s) f

theorem answer_bind {x : StateM S α} (h : KeepsState x) (f : α → StateM S β) (s : S) :
    answer (x >>= f) s = answer (f (answer x s)) s := by
  rw [answer, h.run_bind]
  rfl

theorem KeepsState.bind {x : StateM S α} {f : α → StateM S β} (h : KeepsState x)
    (hf : ∀ a, KeepsState (f a)) : KeepsState (x >>= f) := fun s => by
  rw [h.run_bind]
  exact hf _ s

/-- The accumulator of a filter holds what was kept before, last first. -/
theorem filterAuxM_run {p : α → StateM S Bool} (h : ∀ a, KeepsState (p a)) (l before : List α)
    (s : S) : (l.filterAuxM p before).run s =
      ((l.filter fun a => answer (p a) s).reverse ++ before, s) := by
  induction l generalizing before with
  | nil => rfl
  | cons a rest ih =>
    rw [List.filterAuxM, (h a).run_bind, ih]
    cases hp : answer (p a) s <;> simp [hp]

/-- Filtering by tests that keep the state is filtering by their answers. -/
theorem filterM_run {p : α → StateM S Bool} (h : ∀ a, KeepsState (p a)) (l : List α) (s : S) :
    (l.filterM p).run s = (l.filter fun a => answer (p a) s, s) := by
  rw [List.filterM, StateT.run_bind, filterAuxM_run h]
  change (((l.filter fun a => answer (p a) s).reverse ++ []).reverse, s) = _
  rw [List.append_nil, List.reverse_reverse]

/-- Selecting by steps that keep the state is selecting by their answers. -/
theorem filterMapM_run {f : α → StateM S (Option β)} (h : ∀ a, KeepsState (f a)) (l : List α)
    (s : S) : (l.filterMapM f).run s = (l.filterMap fun a => answer (f a) s, s) := by
  induction l with
  | nil => rfl
  | cons a rest ih =>
    rw [List.filterMapM_cons, (h a).run_bind, List.filterMap_cons]
    cases answer (f a) s with
    | none => exact ih
    | some b =>
      show ((rest.filterMapM f).run s |> fun p => (b :: p.1, p.2)) = _
      rw [ih]

/-! A run that can fail keeps the state when it fails, too. -/

theorem keepsState_throw (e : ε) : KeepsState (throw e : ExceptT ε (StateM S) α).run :=
  fun _ => rfl

theorem keepsState_ofExcept (x : Except ε α) :
    KeepsState (liftM x : ExceptT ε (StateM S) α).run := fun _ => by
  cases x <;> rfl

theorem KeepsState.lift {x : StateM S α} (h : KeepsState x) :
    KeepsState (liftM x : ExceptT ε (StateM S) α).run := fun s => h s

/-- The answer of a program in steps that keep the state is found without the state changing in
between. -/
theorem answer_run_bind {x : ExceptT ε (StateM S) α} (h : KeepsState x.run)
    (f : α → ExceptT ε (StateM S) β) (s : S) :
    answer (x >>= f).run s = answer x.run s >>= fun a => answer (f a).run s := by
  rw [answer, ExceptT.run_bind, h.run_bind]
  cases answer x.run s <;> rfl

theorem KeepsState.run_bindExcept {x : ExceptT ε (StateM S) α} {f : α → ExceptT ε (StateM S) β}
    (h : KeepsState x.run) (hf : ∀ a, KeepsState (f a).run) : KeepsState (x >>= f).run := by
  rw [ExceptT.run_bind]
  refine h.bind fun a => ?_
  cases a with
  | ok a => exact hf a
  | error e => exact keepsState_pure _

theorem keepsState_mapM {f : α → ExceptT ε (StateM S) β} (h : ∀ a, KeepsState (f a).run)
    (l : List α) : KeepsState (l.mapM f).run := by
  induction l with
  | nil => exact keepsState_pure _
  | cons a rest ih =>
    rw [List.mapM_cons]
    refine (h a).run_bindExcept fun b => ?_
    exact ih.run_bindExcept fun bs => keepsState_pure _

/-- A list of steps that keep the state answers as its steps do, each from the same state. -/
theorem answer_mapM {f : α → ExceptT ε (StateM S) β} (h : ∀ a, KeepsState (f a).run) (l : List α)
    (s : S) : answer (l.mapM f).run s = l.mapM fun a => answer (f a).run s := by
  induction l with
  | nil => rfl
  | cons a rest ih =>
    rw [List.mapM_cons, List.mapM_cons, answer_run_bind (h a)]
    congr 1
    funext b
    rw [answer_run_bind (keepsState_mapM h rest), ih]
    rfl

end Runs

/-! ### Listed file stores -/

/-- An order for the names in each directory. -/
structure ListingOrder where
  arrange : String → List String → List String
  perm (directory : String) (names : List String) : (arrange directory names).Perm names

/-- Programs on a file store that lists its directories in an order. They have a type of their own,
for states alone already have a file store. -/
def Listed (_ : ListingOrder) (S α : Type) : Type := StateM S α

section Listed

variable {S : Type} {order : ListingOrder}

instance : Monad (Listed order S) := inferInstanceAs (Monad (StateM S))

/-- Only the listings of the store are others. -/
instance [store : FileStore (StateM S)] : FileStore (Listed order S) where
  read := store.read
  list path := StateT.map (Except.map (order.arrange path)) (store.list path)
  isFile := store.isFile
  isDirectory := store.isDirectory
  write := store.write
  makeDirectory := store.makeDirectory

/-- The same program as one on the states alone. -/
def Listed.toStateM {ε α : Type} (x : ExceptT ε (Listed order S) α) : ExceptT ε (StateM S) α := x

end Listed

variable {S : Type} [FileStore (StateM S)]

variable (S) in
/-- Looking at files changes nothing. -/
structure Steady : Prop where
  read (path : String) : KeepsState (FileStore.read path : StateM S _)
  list (path : String) : KeepsState (FileStore.list path : StateM S _)
  isFile (path : String) : KeepsState (FileStore.isFile path : StateM S _)

theorem steady_fileTree : Steady FileTree := ⟨fun _ _ => rfl, fun _ _ => rfl, fun _ _ => rfl⟩

namespace Steady

variable (h : Steady S)
include h

theorem keepsState_readText (path : String) :
    KeepsState (readText path : ExceptT MapError (StateM S) String).run := by
  refine (h.read path).lift.run_bindExcept fun text => ?_
  cases text with
  | ok text => exact keepsState_pure _
  | error reason => exact keepsState_throw _

theorem keepsState_resolve (directory : String) (t : Tiled.Tileset) :
    KeepsState (t.resolve directory : ExceptT MapError (StateM S) Tiled.Tileset).run := by
  rw [Tiled.Tileset.resolve]
  split
  · exact keepsState_pure _
  · refine (h.keepsState_readText _).run_bindExcept fun text => ?_
    split
    · exact keepsState_throw _
    · exact keepsState_pure _

theorem keepsState_loadTiledMap (path : String) (options : CompileOptions) :
    KeepsState (Tiled.loadMap path options : ExceptT MapError (StateM S) MapModel).run := by
  refine (h.keepsState_readText path).run_bindExcept fun text => ?_
  split
  · exact keepsState_throw _
  · refine (keepsState_mapM (h.keepsState_resolve _) _).run_bindExcept fun tilesets => ?_
    exact keepsState_ofExcept _

theorem keepsState_loadMapFile (path : String) (options : CompileOptions) :
    KeepsState (loadMapFile path options : ExceptT MapError (StateM S) MapModel).run := by
  rw [loadMapFile]
  split
  · exact h.keepsState_loadTiledMap _ _
  · exact (h.keepsState_readText path).run_bindExcept fun text => keepsState_ofExcept _

end Steady

/-! ### The order of names -/

/-- Whether a name comes before another one: `init.map` comes first, the others by name. -/
def Earlier (a b : String) : Prop := b ≠ entryName ∧ (a = entryName ∨ a < b)

instance (a b : String) : Decidable (Earlier a b) := inferInstanceAs (Decidable (_ ∧ _))

theorem Earlier.ne {a b : String} (h : Earlier a b) : a ≠ b := by
  rintro rfl
  exact h.2.elim h.1 (lt_irrefl a)

theorem Earlier.trans {a b c : String} (hab : Earlier a b) (hbc : Earlier b c) : Earlier a c := by
  refine ⟨hbc.1, hab.2.imp_right fun hlt => ?_⟩
  exact hlt.trans (hbc.2.resolve_left hab.1)

theorem Earlier.asymm {a b : String} (hab : Earlier a b) : ¬ Earlier b a :=
  fun hba => (hab.trans hba).ne rfl

theorem eq_or_earlier (a b : String) : a = b ∨ Earlier a b ∨ Earlier b a := by
  by_cases ha : a = entryName
  · by_cases hb : b = entryName
    · exact .inl (ha.trans hb.symm)
    · exact .inr (.inl ⟨hb, .inl ha⟩)
  by_cases hb : b = entryName
  · exact .inr (.inr ⟨ha, .inl hb⟩)
  rcases lt_trichotomy a b with hlt | heq | hlt
  · exact .inr (.inl ⟨hb, .inr hlt⟩)
  · exact .inl heq
  · exact .inr (.inr ⟨ha, .inr hlt⟩)

theorem nameComesFirst_iff {a b : String} : nameComesFirst a b = true ↔ a = b ∨ Earlier a b := by
  rw [nameComesFirst, Earlier]
  split
  case isTrue ha =>
    by_cases hb : b = entryName <;> simp [ha, hb]
  case isFalse ha =>
    split
    case isTrue hb => simp [ha, hb]
    case isFalse hb => simp [ha, hb, le_iff_eq_or_lt]

theorem nameComesFirst_trans (a b c : String) (hab : nameComesFirst a b = true)
    (hbc : nameComesFirst b c = true) : nameComesFirst a c = true := by
  rw [nameComesFirst_iff] at hab hbc ⊢
  rcases hab with rfl | hab
  · exact hbc
  · rcases hbc with rfl | hbc
    · exact .inr hab
    · exact .inr (hab.trans hbc)

theorem nameComesFirst_total (a b : String) :
    (nameComesFirst a b || nameComesFirst b a) = true := by
  rw [Bool.or_eq_true, nameComesFirst_iff, nameComesFirst_iff]
  rcases eq_or_earlier a b with heq | hab | hba
  · exact .inl (.inl heq)
  · exact .inl (.inr hab)
  · exact .inr (.inr hba)

theorem nameComesFirst_antisymm {a b : String} (hab : nameComesFirst a b = true)
    (hba : nameComesFirst b a = true) : a = b := by
  rcases nameComesFirst_iff.mp hab with heq | hab
  · exact heq
  · exact ((nameComesFirst_iff.mp hba).resolve_right hab.asymm).symm

/-- Names come out sorted in one way, whatever order they had before. -/
theorem mergeSort_eq_of_perm {names names' : List String} (h : names.Perm names') :
    names.mergeSort nameComesFirst = names'.mergeSort nameComesFirst :=
  mergeSort_congr_perm nameComesFirst_trans nameComesFirst_total
    (fun _ _ _ _ => nameComesFirst_antisymm) h

/-- Different names are sorted strictly. -/
theorem pairwise_earlier {names : List String} (h : names.Nodup) :
    (names.mergeSort nameComesFirst).Pairwise Earlier := by
  have hnodup : (names.mergeSort nameComesFirst).Nodup :=
    (List.mergeSort_perm names _).nodup_iff.mpr h
  have hsorted := List.pairwise_mergeSort nameComesFirst_trans nameComesFirst_total names
  refine hsorted.imp₂ (fun a b hfirst hne => ?_) hnodup
  exact (nameComesFirst_iff.mp hfirst).resolve_left hne

/-! ### The names of map files -/

/-- A name with something before its extension, which is `map` in any letter case. -/
def HasMapExtension (name : String) : Prop :=
  ∃ stem extension, stem ≠ [] ∧ name.toList = stem ++ '.' :: extension ∧
    asciiLower extension = "map".toList

theorem PlainName.toList_ne {name : String} (h : PlainName name) :
    name.toList ≠ [] ∧ name.toList ≠ ['.'] ∧ name.toList ≠ ['.', '.'] := by
  refine ⟨fun heq => ?_, fun heq => ?_, fun heq => ?_⟩ <;>
    · have hstep := h.step_eq
      rw [heq] at hstep
      cases hstep

namespace Path

/-- What follows the last dot of a name, if anything stands before it. -/
theorem cutName_snd_eq_some {name extension : List Char} :
    (cutName name).2 = some extension ↔
      ∃ stem, stem ≠ [] ∧ name = stem ++ '.' :: extension ∧ '.' ∉ extension := by
  constructor
  · intro h
    have hsplit := List.takeWhile_append_dropWhile (p := (· ≠ '.')) (l := name.reverse)
    rw [cutName] at h
    split at h
    case h_1 before hdrop =>
      split at h
      · cases h
      case isFalse hne =>
        obtain rfl := Option.some.inj h
        refine ⟨before.reverse, by simpa using hne, ?_, fun hmem => ?_⟩
        · rw [hdrop] at hsplit
          have hname := congrArg List.reverse hsplit
          rw [List.reverse_append, List.reverse_reverse, List.reverse_cons,
            List.append_assoc] at hname
          exact hname.symm
        · simpa using List.mem_takeWhile_imp (List.mem_reverse.mp hmem)
    case h_2 => cases h
  · rintro ⟨stem, hne, rfl, hdot⟩
    have hall : ∀ c ∈ extension.reverse, (decide (c ≠ '.')) = true := fun c hc =>
      decide_eq_true fun heq => hdot (heq ▸ List.mem_reverse.mp hc)
    rw [cutName, List.reverse_append, List.reverse_cons, List.append_assoc, List.singleton_append,
      List.takeWhile_append_of_pos hall, List.dropWhile_append_of_pos hall]
    simp [hne]

/-- A name at the end of a path is one level more. -/
theorem levels_append_singleton (absolute : Bool) {name : List Char} (hne : name ≠ [])
    (hdot : name ≠ ['.']) (before : List (List Char)) :
    levels absolute (before ++ [name]).reverse =
      (name :: before.reverse) :: levels absolute before.reverse := by
  rw [List.reverse_append, List.reverse_singleton, List.singleton_append, levels, if_neg]
  simp [isIdle, hne, hdot]

/-- A name joined to a directory is the last level of the path. -/
theorem exists_levelsOf_join {name : String} (h : PlainName name) (directory : String) :
    ∃ before, levelsOf (join directory name).toList =
      levels (isAbsolute (join directory name).toList) (before ++ [name.toList]).reverse := by
  obtain ⟨before, hjoin⟩ := exists_pieces_join directory
  have hpieces := hjoin name h
  rw [levelsOf]
  cases habsolute : isAbsolute (join directory name).toList with
  | false => exact ⟨before, congrArg (fun parts => levels false parts.reverse) hpieces⟩
  | true =>
    -- The slash at the start is dropped, and with it the empty part before it.
    rw [isAbsolute, decide_eq_true_eq] at habsolute
    obtain ⟨rest, hrest⟩ := List.head?_eq_some_iff.mp habsolute
    rw [hrest, pieces, if_pos (by decide)] at hpieces
    rw [hrest]
    cases before with
    | nil => exact absurd (List.cons.inj hpieces).2 (pieces_ne_nil _ _)
    | cons part before =>
      exact ⟨before, congrArg (fun parts => levels true parts.reverse) (List.cons.inj hpieces).2⟩

/-- A path joined from a directory and a name ends with the name. -/
theorem fileName?_join {name : String} (h : PlainName name) (directory : String) :
    fileName? (join directory name) = some name.toList := by
  obtain ⟨hne, hhere, hup⟩ := h.toList_ne
  obtain ⟨before, hlevels⟩ := exists_levelsOf_join h directory
  rw [fileName?, hlevels, levels_append_singleton _ hne hhere]
  simp [hhere, hup]

end Path

theorem hasMapExtension_iff {name : String} : HasMapExtension name ↔
    (Path.cutName name.toList).2.any (fun e => asciiLower e = "map".toList) = true := by
  simp only [HasMapExtension, Option.any_eq_true, decide_eq_true_eq, Path.cutName_snd_eq_some]
  constructor
  · rintro ⟨stem, extension, hne, hname, hlower⟩
    refine ⟨extension, ⟨stem, hne, hname, fun hdot => ?_⟩, hlower⟩
    have hmem : '.' ∈ asciiLower extension := List.mem_map_of_mem hdot
    rw [hlower] at hmem
    exact absurd hmem (by decide)
  · rintro ⟨extension, ⟨stem, hne, hname, -⟩, hlower⟩
    exact ⟨stem, extension, hne, hname, hlower⟩

instance (name : String) : Decidable (HasMapExtension name) :=
  decidable_of_iff _ hasMapExtension_iff.symm

/-- The extension of a path in a directory is that of its name. -/
theorem hasExtension_map_join {name : String} (h : PlainName name) (directory : String) :
    Path.hasExtension (Path.join directory name) "map" = true ↔ HasMapExtension name := by
  have hmap : asciiLower "map".toList = "map".toList := by decide
  rw [hasMapExtension_iff, Path.hasExtension, Path.extension?, Path.fileName?_join h, hmap]
  simp only [Option.bind_some, Option.any_map, String.toList_ofList]

/-! ### Loading the files of a directory -/

/-- Files are loaded one after another, up to the first that cannot be loaded. Its error is all that
comes of them. -/
inductive LoadsAll (load : String → Except MapError MapModel) :
    List String → Except MapError (List MapModel) → Prop where
  | models {files : List String} {maps : List MapModel}
      (h : List.Forall₂ (fun name m => load name = .ok m) files maps) :
      LoadsAll load files (.ok maps)
  | firstError (before after : List String) {name : String} {e : MapError}
      (hbefore : ∀ name ∈ before, ∃ m, load name = .ok m) (h : load name = .error e) :
      LoadsAll load (before ++ name :: after) (.error e)

/-- There is one way to load a list of files. -/
theorem loadsAll_iff {load : String → Except MapError MapModel} {files : List String}
    {result : Except MapError (List MapModel)} :
    LoadsAll load files result ↔ files.mapM load = result := by
  constructor
  · intro h
    cases h with
    | models h => exact mapM_eq_ok_iff.mpr h
    | firstError before after hbefore h =>
      exact mapM_eq_error_iff.mpr ⟨before, _, after, rfl, hbefore, h⟩
  · intro h
    cases result with
    | ok maps => exact .models (mapM_eq_ok_iff.mp h)
    | error e =>
      obtain ⟨before, name, after, rfl, hbefore, hname⟩ := mapM_eq_error_iff.mp h
      exact .firstError before after hbefore hname

/-- The map files among the names in a directory, in the order in which they are loaded. -/
structure MapFiles (directory : String) (s : S) (names files : List String) : Prop where
  sorted : files.Pairwise Earlier
  mem_iff (name : String) : name ∈ files ↔ name ∈ names ∧ HasMapExtension name ∧
    answer (FileStore.isFile (Path.join directory name)) s = true

/-- There is one such order. -/
theorem MapFiles.unique {directory : String} {s : S} {names files files' : List String}
    (h : MapFiles directory s names files) (h' : MapFiles directory s names files') :
    files = files' := by
  have hnodup {files : List String} (hsorted : files.Pairwise Earlier) : files.Nodup :=
    hsorted.imp Earlier.ne
  have hperm : files.Perm files' :=
    (List.perm_ext_iff_of_nodup (hnodup h.sorted) (hnodup h'.sorted)).mpr fun name =>
      (h.mem_iff name).trans (h'.mem_iff name).symm
  exact hperm.eq_of_pairwise (fun _ _ _ _ hab hba => absurd hba hab.asymm) h.sorted h'.sorted

def loadNamed (directory : String) (options : CompileOptions) (name : String) :
    ExceptT MapError (StateM S) MapModel :=
  let path := Path.join directory name
  loadMapFile path { options with sourcePath := some path }

def loadListing (directory : String) (options : CompileOptions) :
    Except FileError (List String) → ExceptT MapError (StateM S) (List MapModel)
  | .error _ => return []
  | .ok names => do
    let names ← (mapNames directory names : StateM S _)
    names.mapM (loadNamed directory options)

/-- Loading a directory is listing it and then loading what was listed. -/
theorem loadMapDirectory_eq (directory : String) (options : CompileOptions) :
    (loadMapDirectory directory options : ExceptT MapError (StateM S) (List MapModel)) =
      (liftM (FileStore.list directory : StateM S _) >>= loadListing directory options) :=
  rfl

/-- With another order of listing, the same is loaded from the listing in that order. -/
theorem toStateM_loadMapDirectory (order : ListingOrder) (directory : String)
    (options : CompileOptions) :
    Listed.toStateM (loadMapDirectory directory options : ExceptT MapError (Listed order S) _) =
      (liftM (Except.map (order.arrange directory) <$> FileStore.list directory : StateM S _) >>=
        loadListing directory options) :=
  rfl

namespace Steady

variable (h : Steady S)
include h

/-- Which names are loaded, in which order, is decided without changing the state. -/
theorem run_mapNames (directory : String) (names : List String) (s : S) :
    (mapNames directory names : StateM S (List String)).run s =
      ((names.filter fun name => Path.hasExtension (Path.join directory name) "map" &&
        answer (FileStore.isFile (Path.join directory name)) s).mergeSort nameComesFirst, s) := by
  have hkeeps (name : String) : KeepsState (do
      return Path.hasExtension (Path.join directory name) "map" &&
        (← FileStore.isFile (Path.join directory name)) : StateM S Bool) :=
    (h.isFile _).bind fun _ => keepsState_pure _
  rw [mapNames, StateT.run_bind, filterM_run hkeeps]
  rfl

theorem keepsState_mapNames (directory : String) (names : List String) :
    KeepsState (mapNames directory names : StateM S (List String)) := fun s => by
  rw [h.run_mapNames]

/-- The order in which names are listed is forgotten. -/
theorem answer_mapNames_of_perm (directory : String) {names names' : List String}
    (hperm : names.Perm names') (s : S) :
    answer (mapNames directory names) s = answer (mapNames directory names') s := by
  rw [answer, answer, h.run_mapNames, h.run_mapNames]
  exact mergeSort_eq_of_perm (hperm.filter _)

/-- The names of different entries give the map files among them. -/
theorem mapFiles_mapNames {directory : String} {names : List String} (hnodup : names.Nodup)
    (hplain : ∀ name ∈ names, PlainName name) (s : S) :
    MapFiles directory s names (answer (mapNames directory names) s) := by
  rw [answer, h.run_mapNames]
  refine ⟨pairwise_earlier (hnodup.filter _), fun name => ?_⟩
  rw [(List.mergeSort_perm _ _).mem_iff, List.mem_filter, Bool.and_eq_true]
  exact and_congr_right fun hname =>
    and_congr_left' (hasExtension_map_join (hplain name hname) directory)

theorem keepsState_loadNamed (directory : String) (options : CompileOptions) (name : String) :
    KeepsState (loadNamed directory options name : ExceptT MapError (StateM S) MapModel).run :=
  h.keepsState_loadMapFile _ _

/-- What is loaded from a listing, file by file, or nothing if there is none. -/
theorem run_loadListing (directory : String) (options : CompileOptions)
    (listing : Except FileError (List String)) (s : S) :
    (loadListing directory options listing).run.run s =
      (match listing with
        | .error _ => .ok []
        | .ok names => (answer (mapNames directory names) s).mapM fun name =>
          answer (loadNamed directory options name).run s, s) := by
  cases listing with
  | error e => rfl
  | ok names =>
    have hload := h.keepsState_loadNamed directory options
    have hnames : KeepsState (liftM (mapNames directory names : StateM S _) :
        ExceptT MapError (StateM S) (List String)).run :=
      (h.keepsState_mapNames directory names).lift
    rw [loadListing, (hnames.run_bindExcept fun _ => keepsState_mapM hload _).run_eq,
      answer_run_bind hnames]
    exact congrArg (·, s) (answer_mapM hload _ s)

theorem run_loadMapDirectory (directory : String) (options : CompileOptions) (s : S) :
    (loadMapDirectory directory options :
        ExceptT MapError (StateM S) (List MapModel)).run.run s =
      (loadListing directory options (answer (FileStore.list directory) s)).run.run s := by
  rw [loadMapDirectory_eq, ExceptT.run_bind, (h.list directory).lift.run_bind]
  rfl

/-- The order in which a directory is listed does not matter. -/
theorem run_listed (order : ListingOrder) (directory : String) (options : CompileOptions)
    (s : S) :
    (Listed.toStateM (loadMapDirectory directory options :
        ExceptT MapError (Listed order S) (List MapModel))).run.run s =
      (loadListing directory options (answer (FileStore.list directory) s)).run.run s := by
  have hlist : KeepsState (Except.map (order.arrange directory) <$> FileStore.list directory :
      StateM S _) := h.list directory
  rw [toStateM_loadMapDirectory, ExceptT.run_bind, hlist.lift.run_bind]
  change (loadListing directory options ((answer (FileStore.list directory) s).map
    (order.arrange directory))).run.run s = _
  rw [h.run_loadListing, h.run_loadListing]
  cases answer (FileStore.list directory) s with
  | error e => rfl
  | ok names =>
    simp only [Except.map]
    rw [h.answer_mapNames_of_perm directory (order.perm directory names)]

end Steady

/-! ### Main result -/

/-- The names of the entries of one directory: no two are the same, and each leads a step down. -/
structure EntryNames (names : List String) : Prop where
  nodup : names.Nodup
  plain : ∀ name ∈ names, PlainName name

/-- What comes of loading the maps of a directory. -/
structure DirectoryLoads (directory : String) (options : CompileOptions) (s : S)
    (result : Except MapError (List MapModel)) : Prop where
  run_eq : (loadMapDirectory directory options : ExceptT MapError (StateM S) _).run.run s =
    (result, s)
  /-- It is the same in any order in which the directory may be listed. -/
  listed (order : ListingOrder) : (Listed.toStateM (loadMapDirectory directory options :
    ExceptT MapError (Listed order S) _)).run.run s = (result, s)
  /-- A directory that cannot be listed has no maps. -/
  of_error {e : FileError} (h : answer (FileStore.list directory) s = .error e) : result = .ok []
  /-- The map files are loaded in their own order, each with its path as its source. -/
  of_names {names : List String} (h : answer (FileStore.list directory) s = .ok names)
    (hnames : EntryNames names) : ∃ files, MapFiles directory s names files ∧
      LoadsAll (fun name => answer (loadNamed directory options name).run s) files result

/-- The maps of a directory do not depend on the order in which it is listed. Either each of its map
files gives its map, `init.map` the first and the others by name, or there are no maps and only the
error of the first file that gives none. -/
theorem loadMapDirectory_listed (h : Steady S) (directory : String) (options : CompileOptions)
    (s : S) : ∃ result, DirectoryLoads directory options s result := by
  have hrun := h.run_loadListing directory options (answer (FileStore.list directory) s) s
  refine ⟨_, (h.run_loadMapDirectory directory options s).trans hrun,
    fun order => (h.run_listed order directory options s).trans hrun,
    fun herror => ?_, fun {names} hlist hnames => ?_⟩
  · rw [herror]
  · rw [hlist]
    exact ⟨_, h.mapFiles_mapNames hnames.nodup hnames.plain s, loadsAll_iff.mpr rfl⟩

/-! ### A directory of five entries -/

/-- A directory with three map files, a text and a directory that is named like a map. -/
def mixedTree : FileTree :=
  put (.directory [("maps", .directory
    [("b.map", .file "id: b".toUTF8), ("sub.map", bare), ("notes.txt", .file "id: n".toUTF8),
      ("init.map", .file "id: i".toUTF8), ("A.MAP", .file "id: a".toUTF8)])]) home bare

def mixedNames : List String := ["b.map", "sub.map", "notes.txt", "init.map", "A.MAP"]

/-- Directories are listed backwards. -/
def backwards : ListingOrder := ⟨fun _ => List.reverse, fun _ names => names.reverse_perm⟩

theorem entryNames_mixed : EntryNames mixedNames := by
  refine ⟨by decide, fun name hname => ?_⟩
  simp only [mixedNames, List.mem_cons, List.not_mem_nil, or_false] at hname
  rcases hname with rfl | rfl | rfl | rfl | rfl <;>
    exact plainName_of_length (by decide) (by decide)

theorem mapFiles_mixed : MapFiles "maps" mixedTree mixedNames ["init.map", "A.MAP", "b.map"] := by
  refine ⟨by decide, fun name => ⟨fun hname => ?_, fun ⟨hname, hmap, hfile⟩ => ?_⟩⟩
  · simp only [List.mem_cons, List.not_mem_nil, or_false] at hname
    rcases hname with rfl | rfl | rfl <;> exact ⟨by decide, by decide, rfl⟩
  · simp only [mixedNames, List.mem_cons, List.not_mem_nil, or_false] at hname
    rcases hname with rfl | rfl | rfl | rfl | rfl
    · decide
    · cases hfile
    · exact absurd hmap (by decide)
    · decide
    · decide

/-- A map file of the tree gives the map that its text describes. -/
theorem exists_loadNamed_mixed {name text id : String}
    (hread : mixedTree.read (Path.join "maps" name) = .ok text)
    (htext : Path.hasExtension (Path.join "maps" name) "json" = false)
    (hid : (compile text ⟨[], some (Path.join "maps" name)⟩).toOption.map (·.id) = some id) :
    ∃ m, answer (loadNamed "maps" ⟨[], none⟩ name).run mixedTree = .ok m ∧ m.id = id := by
  obtain ⟨m, hm, hmid⟩ := exists_ok_of_toOption_map hid
  have hrun : runOn (loadNamed "maps" ⟨[], none⟩ name) mixedTree = (.ok m, mixedTree) :=
    @runOn_loadMapFile _ _ _ ⟨[], some (Path.join "maps" name)⟩ _ hread htext hm
  exact ⟨m, congrArg Prod.fst hrun, hmid⟩

theorem loadMapDirectory_listed_mixed : ∃ maps : List MapModel,
    (Listed.toStateM (loadMapDirectory "maps" ⟨[], none⟩ :
      ExceptT MapError (Listed backwards FileTree) _)).run.run mixedTree = (.ok maps, mixedTree) ∧
      (loadMapDirectory "maps" ⟨[], none⟩ :
        ExceptT MapError (StateM FileTree) _).run.run mixedTree = (.ok maps, mixedTree) ∧
      maps.map (·.id) = ["i", "a", "b"] := by
  obtain ⟨result, h⟩ := loadMapDirectory_listed steady_fileTree "maps" ⟨[], none⟩ mixedTree
  have hlist : answer (FileStore.list "maps") mixedTree = .ok mixedNames := rfl
  obtain ⟨files, hfiles, hload⟩ := h.of_names hlist entryNames_mixed
  obtain rfl := hfiles.unique mapFiles_mixed
  obtain ⟨i, hi, hidi⟩ : ∃ m, answer (loadNamed "maps" ⟨[], none⟩ "init.map").run mixedTree =
      .ok m ∧ m.id = "i" :=
    exists_loadNamed_mixed (read_eq_ok rfl rfl) (by decide) (by decide +kernel)
  obtain ⟨a, ha, hida⟩ : ∃ m, answer (loadNamed "maps" ⟨[], none⟩ "A.MAP").run mixedTree =
      .ok m ∧ m.id = "a" :=
    exists_loadNamed_mixed (read_eq_ok rfl rfl) (by decide) (by decide +kernel)
  obtain ⟨b, hb, hidb⟩ : ∃ m, answer (loadNamed "maps" ⟨[], none⟩ "b.map").run mixedTree =
      .ok m ∧ m.id = "b" :=
    exists_loadNamed_mixed (read_eq_ok rfl rfl) (by decide) (by decide +kernel)
  obtain rfl : .ok [i, a, b] = result := by
    rw [← loadsAll_iff.mp hload]
    simp only [List.mapM_cons, List.mapM_nil, hi, ha, hb]
    rfl
  exact ⟨[i, a, b], h.listed backwards, h.run_eq, by simp [hidi, hida, hidb]⟩

end Tilemap
