import Mathlib.Logic.Function.Basic
import Tilemap.File.Tree
import Tilemap.Proofs.Stages

/-!
# Writing to a file tree

Where a path leads depends only on what stands where: a directory, a file or nothing (`kinds`). A
file that is written changes that at one place (`write_eq_ok`), and every path that led somewhere
still leads there. So after many writes a file holds what was written to it last
(`read_of_writeAll`).
-/

namespace Tilemap

namespace FileTree

open Text

/-! ### What stands where -/

/-- A directory, or a file with its content. -/
inductive Kind where
  | directory
  | file (content : ByteArray)

def kind : FileTree → Kind
  | .directory _ => .directory
  | .file content => .file content

/-- What stands at names below a tree, if anything does. -/
def kindAt? : List String → FileTree → Option Kind
  | [], t => some t.kind
  | name :: rest, t => (t.entries?.bind (·.lookup name)).bind (kindAt? rest)

/-- What stands at the end of a way, which is given with its last name first. -/
def kinds (t : FileTree) (way : List String) : Option Kind := kindAt? way.reverse t

/-- Follows one step by what stands where. -/
def stepOn (kinds : List String → Option Kind) (way : List String) (step : Step) :
    Except FileError (List String) :=
  match kinds way with
  | some .directory =>
    match step with
    | .here => .ok way
    | .up => .ok way.tail
    | .down name =>
      if maxNameSize < name.utf8ByteSize then .error .nameTooLong
      else if (kinds (name :: way)).isSome then .ok (name :: way)
      else .error .notFound
  | _ => .error .notDirectory

/-- Follows steps by what stands where. -/
def walkOn (kinds : List String → Option Kind) (way : List String) (steps : List Step) :
    Except FileError (List String) :=
  steps.foldlM (stepOn kinds) way

/-- The way that a path leads, last name first. -/
def wayTo (t : FileTree) (path : String) : Except FileError (List String) :=
  (t.locate path).map (·.1)

/-- Two paths lead to the same place. -/
def SameFile (t : FileTree) (path path' : String) : Prop :=
  ∃ way, t.wayTo path = .ok way ∧ t.wayTo path' = .ok way

/-- Directories one in another lead from a tree down to another tree. -/
inductive Leads (t : FileTree) : List (String × FileTree) → FileTree → Prop where
  | root : Leads t [] t
  | down {above : List (String × FileTree)} {entries : List (String × FileTree)} {name : String}
      {next : FileTree} (h : Leads t above (.directory entries))
      (hlookup : entries.lookup name = some next) :
    Leads t ((name, .directory entries) :: above) next

namespace Leads

variable {t here : FileTree} {above : List (String × FileTree)}

/-- What stands below a way is found from where the way leads. -/
theorem kindAt?_append (h : Leads t above here) (rest : List String) :
    kindAt? ((above.map (·.1)).reverse ++ rest) t = kindAt? rest here := by
  induction h generalizing rest with
  | root => rfl
  | @down above entries name next _ hlookup ih =>
    rw [List.map_cons, List.reverse_cons, List.append_assoc, List.singleton_append, ih, kindAt?]
    simp [entries?, hlookup]

theorem kinds_eq (h : Leads t above here) : t.kinds (above.map (·.1)) = some here.kind := by
  have heq := h.kindAt?_append []
  rwa [List.append_nil] at heq

/-- What stands one name further on is an entry of where the way leads. -/
theorem kinds_cons (h : Leads t above here) (name : String) :
    t.kinds (name :: above.map (·.1)) =
      (here.entries?.bind (·.lookup name)).map kind := by
  rw [kinds, List.reverse_cons, h.kindAt?_append, kindAt?]
  cases here.entries?.bind (·.lookup name) <;> rfl

end Leads

/-- Steps are followed by what stands where. -/
theorem walk_eq {t here : FileTree} {above : List (String × FileTree)} (h : Leads t above here)
    (steps : List Step) :
    (walk above here steps).map (·.1) = walkOn t.kinds (above.map (·.1)) steps := by
  induction steps generalizing above here with
  | nil => rfl
  | cons step rest ih =>
    have hkind := h.kinds_eq
    rw [walkOn, List.foldlM_cons]
    simp only [stepOn, hkind]
    cases here with
    | file content => rfl
    | directory entries =>
      cases step with
      | here => exact ih h
      | up =>
        cases h with
        | root => exact ih .root
        | down h hlookup => exact ih h
      | down name =>
        have hcons := h.kinds_cons name
        simp only [entries?, Option.bind_some] at hcons
        simp only [walk, entry?, kind, hcons, Option.isSome_map]
        by_cases hlong : maxNameSize < name.utf8ByteSize
        · simp only [if_pos hlong]
          rfl
        · simp only [if_neg hlong]
          cases hlookup : entries.lookup name with
          | none => rfl
          | some next => exact ih (h.down hlookup)

/-- Steps from where a way leads lead on from there. -/
theorem exists_leads_of_walk {t here : FileTree} {above : List (String × FileTree)}
    (h : Leads t above here) {steps : List Step} {way : List String} {node : FileTree}
    (hwalk : walk above here steps = .ok (way, node)) :
    ∃ above', Leads t above' node ∧ above'.map (·.1) = way := by
  induction steps generalizing above here with
  | nil =>
    rw [walk, Except.ok.injEq, Prod.mk.injEq] at hwalk
    exact ⟨above, hwalk.2 ▸ h, hwalk.1⟩
  | cons step rest ih =>
    cases here with
    | file content => simp [walk] at hwalk
    | directory entries =>
      cases step with
      | here => exact ih h hwalk
      | up =>
        cases h with
        | root => exact ih .root hwalk
        | down h hlookup => exact ih h hwalk
      | down name =>
        simp only [walk, entry?] at hwalk
        by_cases hlong : maxNameSize < name.utf8ByteSize
        · simp [hlong] at hwalk
        · cases hlookup : entries.lookup name with
          | none => simp [hlong, hlookup] at hwalk
          | some next =>
            simp only [if_neg hlong, hlookup] at hwalk
            exact ih (h.down hlookup) hwalk

/-! ### One file written -/

theorem lookup_putEntry (name : String) (node : FileTree) (entries : List (String × FileTree))
    (name' : String) :
    (putEntry name node entries).lookup name' =
      if name' = name then some node else entries.lookup name' := by
  induction entries with
  | nil =>
    by_cases h : name' = name
    · simp [putEntry, h]
    · simp [putEntry, h, List.lookup_cons, beq_false_of_ne h]
  | cons e rest ih =>
    obtain ⟨n, s⟩ := e
    rw [putEntry]
    split
    · rename_i hn
      subst hn
      by_cases h : name' = n
      · simp [h]
      · simp [h, List.lookup_cons, beq_false_of_ne h]
    · rename_i hn
      by_cases h : name' = n
      · subst h
        simp [hn]
      · simp [List.lookup_cons, beq_false_of_ne h, ih]

/-- Names lead to a file, or to a name that is free in a directory. -/
inductive Slot : FileTree → List String → Prop where
  | file (content : ByteArray) : Slot (.file content) []
  | free {entries : List (String × FileTree)} {name : String}
      (hlookup : entries.lookup name = none) : Slot (.directory entries) [name]
  | down {entries : List (String × FileTree)} {name : String} {next : FileTree}
      {rest : List String} (hlookup : entries.lookup name = some next) (h : Slot next rest) :
    Slot (.directory entries) (name :: rest)

/-- A free place below a way is a free place of the whole tree. -/
theorem Leads.slot_append {t here : FileTree} {above : List (String × FileTree)}
    {rest : List String} (h : Leads t above here) (hslot : Slot here rest) :
    Slot t ((above.map (·.1)).reverse ++ rest) := by
  induction h generalizing rest with
  | root => exact hslot
  | @down above entries name next _ hlookup ih =>
    rw [List.map_cons, List.reverse_cons, List.append_assoc]
    exact ih (.down hlookup hslot)

theorem Slot.kindAt?_ne_directory {t : FileTree} {names : List String} (h : Slot t names) :
    kindAt? names t ≠ some .directory := by
  induction h with
  | file content => simp [kindAt?, kind]
  | free hlookup => simp [kindAt?, entries?, hlookup]
  | down hlookup _ ih => simpa [kindAt?, entries?, hlookup] using ih

/-- A file put into a slot is seen there and nowhere else. -/
theorem Slot.kindAt?_put {t : FileTree} {names : List String} (h : Slot t names)
    (content : ByteArray) (names' : List String) :
    kindAt? names' (put (.file content) names t) =
      if names' = names then some (.file content) else kindAt? names' t := by
  induction h generalizing names' with
  | file content' => cases names' <;> rfl
  | @free entries name hlookup =>
    cases names' with
    | nil => rfl
    | cons name' rest' =>
      simp only [put, kindAt?, entries?, Option.getD_some, Option.bind_some, lookup_putEntry]
      by_cases hname : name' = name
      · subst hname
        cases rest' <;> simp [hlookup, kindAt?, kind, entries?]
      · simp [hname]
  | @down entries name next rest hlookup _ ih =>
    cases names' with
    | nil => rfl
    | cons name' rest' =>
      simp only [put, kindAt?, entries?, Option.getD_some, Option.bind_some, lookup_putEntry,
        hlookup]
      by_cases hname : name' = name
      · subst hname
        simp [ih, hlookup]
      · simp [hname]

/-- A step that can be taken can still be taken once more things stand in the tree. -/
theorem stepOn_mono {kinds kinds' : List String → Option Kind}
    (hdirectory : ∀ way, kinds way = some .directory → kinds' way = some .directory)
    (hsome : ∀ way, (kinds way).isSome → (kinds' way).isSome) {step : Step}
    {way way' : List String} (h : stepOn kinds way step = .ok way') :
    stepOn kinds' way step = .ok way' := by
  unfold stepOn at h ⊢
  split at h
  · rename_i hkind
    rw [hdirectory way hkind]
    cases step with
    | here => exact h
    | up => exact h
    | down name =>
      simp only at h ⊢
      split at h
      · cases h
      · rename_i hshort
        rw [if_neg hshort]
        split at h
        · rename_i hthere
          rwa [if_pos (hsome _ hthere)]
        · cases h
  · cases h

theorem eq_of_stepOn_down {kinds : List String → Option Kind} {way way' : List String}
    {name : String} (h : stepOn kinds way (.down name) = .ok way') : way' = name :: way := by
  unfold stepOn at h
  split at h
  · simp only at h
    split at h
    · cases h
    · split at h
      · exact (Except.ok.inj h).symm
      · cases h
  · cases h

/-- Where there are more files, all ways are still there. -/
theorem walkOn_mono {kinds kinds' : List String → Option Kind}
    (hdirectory : ∀ way, kinds way = some .directory → kinds' way = some .directory)
    (hsome : ∀ way, (kinds way).isSome → (kinds' way).isSome) {steps : List Step}
    {way way' : List String} (h : walkOn kinds way steps = .ok way') :
    walkOn kinds' way steps = .ok way' := by
  induction steps generalizing way with
  | nil => exact h
  | cons step rest ih =>
    rw [walkOn, List.foldlM_cons] at h ⊢
    obtain ⟨next, hnext, hrest⟩ := bind_eq_ok.mp h
    exact bind_eq_ok.mpr ⟨next, stepOn_mono hdirectory hsome hnext, ih hrest⟩

/-- The steps of the parts of a path, from the root. -/
def stepsOf (absolute : Bool) (parts : List (List Char)) : List Step :=
  (if absolute then [] else home.map Step.down) ++ parts.map Step.of

/-- Where steps lead depends only on what stands where. -/
theorem follow_eq (t : FileTree) (absolute : Bool) (parts : List (List Char)) :
    (t.follow absolute parts).map (·.1) = walkOn t.kinds [] (stepsOf absolute parts) :=
  walk_eq .root _

theorem eq_of_parts {path : String} {ps : List (List Char)} (h : parts path = .ok ps) :
    ps = pieces (· = '/') path.toList := by
  rw [parts] at h
  split at h
  · cases h
  · split at h
    · cases h
    · split at h
      · cases h
      · exact (Except.ok.inj h).symm

/-- Where a path leads depends only on what stands where. -/
theorem wayTo_eq {t : FileTree} {path : String} {ps : List (List Char)} (h : parts path = .ok ps) :
    t.wayTo path = walkOn t.kinds [] (stepsOf (Path.isAbsolute path.toList) ps) := by
  rw [← follow_eq, wayTo, locate, h]
  rfl

theorem parts_of_wayTo {t : FileTree} {path : String} {way : List String}
    (h : t.wayTo path = .ok way) : ∃ ps, parts path = .ok ps := by
  cases hparts : parts path with
  | ok ps => exact ⟨ps, rfl⟩
  | error e =>
    rw [wayTo, locate, hparts] at h
    cases h

/-- A path that ends with a step down leads to a place with that name. -/
theorem head?_of_wayTo {t : FileTree} {path : String} {before : List (List Char)}
    {part : List Char} {name : String}
    (hpieces : pieces (· = '/') path.toList = before ++ [part]) (hstep : Step.of part = .down name)
    {way : List String} (h : t.wayTo path = .ok way) : way.head? = some name := by
  obtain ⟨ps, hps⟩ := parts_of_wayTo h
  rw [wayTo_eq hps, eq_of_parts hps, hpieces, stepsOf, List.map_append, ← List.append_assoc,
    walkOn, List.foldlM_append, List.map_singleton, hstep] at h
  obtain ⟨way', -, hlast⟩ := bind_eq_ok.mp h
  rw [List.foldlM_cons] at hlast
  obtain ⟨way'', hdown, hend⟩ := bind_eq_ok.mp hlast
  obtain rfl := pure_eq_ok.mp hend
  rw [eq_of_stepOn_down hdown]
  rfl

/-- Names that have a place for a file lead from the root to a slot. -/
theorem place_eq_ok {t : FileTree} {absolute : Bool} {name : String} {before : List (List Char)}
    {names : List String} {old : Option FileTree}
    (h : t.place absolute name before = .ok (names, old)) :
    ∃ way, names = (name :: way).reverse ∧ t.kinds way = some .directory ∧
      walkOn t.kinds [] (stepsOf absolute before.reverse) = .ok way ∧
      ¬ maxNameSize < name.utf8ByteSize ∧
      ((∀ entries, old ≠ some (.directory entries)) → Slot t names) := by
  obtain ⟨⟨way, node⟩, hfollow, h⟩ := bind_eq_ok.mp h
  obtain ⟨above, hleads, hway⟩ := exists_leads_of_walk .root hfollow
  have hwalk : walkOn t.kinds [] (stepsOf absolute before.reverse) = .ok way := by
    rw [← follow_eq, hfollow]
    rfl
  subst hway
  cases node with
  | file content => cases h
  | directory entries =>
    obtain ⟨entry, hentry, h⟩ := bind_eq_ok.mp h
    obtain ⟨rfl, rfl⟩ := Prod.mk.inj (pure_eq_ok.mp h)
    rw [ entry?] at hentry
    split at hentry
    · cases hentry
    · rename_i hshort
      obtain rfl := Except.ok.inj hentry
      refine ⟨_, rfl, hleads.kinds_eq, hwalk, hshort, fun hfree => ?_⟩
      rw [List.reverse_cons]
      refine hleads.slot_append ?_
      cases hlookup : entries.lookup name with
      | none => exact .free hlookup
      | some next =>
        cases next with
        | directory entries' => exact absurd hlookup (hfree entries')
        | file content => exact .down hlookup (.file content)

/-- A file that is put somewhere changes what stands there and nothing else. -/
theorem kinds_put {t : FileTree} {way : List String} (h : Slot t way.reverse)
    (content : ByteArray) : (put (.file content) way.reverse t).kinds =
      Function.update t.kinds way (some (.file content)) := by
  funext way'
  rw [kinds, h.kindAt?_put, Function.update_apply]
  simp only [List.reverse_inj]
  rfl

/-- A file has been written at the end of a way, where no directory stood. -/
structure Written (t : FileTree) (way : List String) (content : ByteArray) (t' : FileTree) :
    Prop where
  kinds_eq : t'.kinds = Function.update t.kinds way (some (.file content))
  not_directory : t.kinds way ≠ some .directory

namespace Written

variable {t t' : FileTree} {way : List String} {content : ByteArray}

/-- Writing leaves every directory where it is. -/
theorem directory (h : Written t way content t') (way' : List String)
    (hdirectory : t.kinds way' = some .directory) : t'.kinds way' = some .directory := by
  have hne : way' ≠ way := by
    rintro rfl
    exact h.not_directory hdirectory
  rwa [h.kinds_eq, Function.update_of_ne hne]

/-- Writing takes nothing away. -/
theorem isSome (h : Written t way content t') (way' : List String)
    (hsome : (t.kinds way').isSome) : (t'.kinds way').isSome := by
  rw [h.kinds_eq, Function.update_apply]
  split
  · rfl
  · exact hsome

theorem kinds_self (h : Written t way content t') : t'.kinds way = some (.file content) := by
  rw [h.kinds_eq, Function.update_self]

/-- Every path that led somewhere leads there still. -/
theorem wayTo_mono (h : Written t way content t') {path : String} {way' : List String}
    (hway : t.wayTo path = .ok way') : t'.wayTo path = .ok way' := by
  obtain ⟨ps, hps⟩ := parts_of_wayTo hway
  rw [wayTo_eq hps] at hway ⊢
  exact walkOn_mono h.directory h.isSome hway

end Written

/-- A file is written in the directory that the parts of its path lead to, without the last one,
which is its name. -/
theorem exists_written_of_write {t t' : FileTree} {path : String} {content : ByteArray}
    (h : t.write path content = .ok t') :
    ∃ before part name way, parts path = .ok (before ++ [part]) ∧ Step.of part = .down name ∧
      walkOn t.kinds [] (stepsOf (Path.isAbsolute path.toList) before) = .ok way ∧
      t.kinds way = some .directory ∧ ¬ maxNameSize < name.utf8ByteSize ∧
      Written t (name :: way) content t' := by
  obtain ⟨ps, hparts, h⟩ := bind_eq_ok.mp h
  cases hrev : ps.reverse with
  | nil => simp [hrev] at h
  | cons part before =>
    have hps : ps = before.reverse ++ [part] := by
      rw [← List.reverse_reverse ps, hrev, List.reverse_cons]
    simp only [hrev] at h
    cases hstep : Step.of part with
    | here => simp [hstep] at h
    | up => simp [hstep] at h
    | down name =>
      simp only [hstep] at h
      obtain ⟨⟨names, old⟩, hplace, h⟩ := bind_eq_ok.mp h
      obtain ⟨way, rfl, hkind, hwalk, hshort, hslot⟩ := place_eq_ok hplace
      have hfree : ∀ entries, old ≠ some (.directory entries) := by
        rintro entries rfl
        cases h
      have hput : put (.file content) (name :: way).reverse t = t' := by
        cases old with
        | none => exact pure_eq_ok.mp h
        | some node =>
          cases node with
          | directory entries => cases h
          | file content' => exact pure_eq_ok.mp h
      have hslot := hslot hfree
      exact ⟨before.reverse, part, name, way, hps ▸ hparts, hstep, hwalk, hkind, hshort,
        hput ▸ kinds_put hslot content, hslot.kindAt?_ne_directory⟩

theorem write_eq_ok {t t' : FileTree} {path : String} {content : ByteArray}
    (h : t.write path content = .ok t') :
    ∃ way, Written t way content t' ∧ t'.wayTo path = .ok way := by
  obtain ⟨before, part, name, way, hparts, hstep, hwalk, hkind, hshort, hwritten⟩ :=
    exists_written_of_write h
  refine ⟨name :: way, hwritten, ?_⟩
  have hbefore : walkOn t'.kinds [] (stepsOf (Path.isAbsolute path.toList) before) = .ok way :=
    walkOn_mono hwritten.directory hwritten.isSome hwalk
  have hlast : stepOn t'.kinds way (.down name) = .ok (name :: way) := by
    simp only [stepOn, hwritten.directory way hkind, hwritten.kinds_self, if_neg hshort]
    rfl
  rw [wayTo_eq hparts, stepsOf, List.map_append, ← List.append_assoc, walkOn,
    List.foldlM_append, List.map_singleton, hstep]
  exact bind_eq_ok.mpr ⟨way, hbefore, by rw [List.foldlM_cons, hlast]; rfl⟩

/-! ### Reading -/

/-- What a path leads to stands at the end of its way. -/
theorem find_of_wayTo {t : FileTree} {path : String} {way : List String}
    (h : t.wayTo path = .ok way) :
    ∃ node, t.find path = .ok node ∧ t.kinds way = some node.kind := by
  rw [wayTo] at h
  cases hlocate : t.locate path with
  | error e =>
    rw [hlocate] at h
    cases h
  | ok found =>
    obtain ⟨way', node⟩ := found
    rw [hlocate] at h
    obtain rfl : way' = way := Except.ok.inj h
    obtain ⟨ps, hps, hfollow⟩ := bind_eq_ok.mp hlocate
    obtain ⟨above, hleads, rfl⟩ := exists_leads_of_walk .root hfollow
    refine ⟨node, ?_, hleads.kinds_eq⟩
    rw [find, hlocate]
    rfl

/-- A file that holds a text is read as that text. -/
theorem read_eq_ok {t : FileTree} {path text : String} {way : List String}
    (hway : t.wayTo path = .ok way) (hkind : t.kinds way = some (.file text.toUTF8)) :
    t.read path = .ok text := by
  obtain ⟨node, hfind, hnode⟩ := find_of_wayTo hway
  rw [hnode, Option.some.injEq] at hkind
  cases node with
  | directory entries => cases hkind
  | file content =>
    obtain rfl : content = text.toUTF8 := by injection hkind
    have hdecode : String.fromUTF8? text.toUTF8 = some text := dif_pos text.isValidUTF8
    refine bind_eq_ok.mpr ⟨_, hfind, ?_⟩
    simp only [hdecode]
    rfl

/-! ### Many files written -/

/-- Writes texts to files, one after the other. -/
def writeAll (t : FileTree) (writes : List (String × String)) : Except FileError FileTree :=
  writes.foldlM (fun t w => t.write w.1 w.2.toUTF8) t

theorem writeAll_cons_eq_ok {t t' : FileTree} {w : String × String}
    {writes : List (String × String)} :
    t.writeAll (w :: writes) = .ok t' ↔
      ∃ t₁, t.write w.1 w.2.toUTF8 = .ok t₁ ∧ t₁.writeAll writes = .ok t' := by
  rw [writeAll, List.foldlM_cons, bind_eq_ok]
  rfl

theorem writeAll_append_eq_ok {t t' : FileTree} {writes writes' : List (String × String)} :
    t.writeAll (writes ++ writes') = .ok t' ↔
      ∃ t₁, t.writeAll writes = .ok t₁ ∧ t₁.writeAll writes' = .ok t' := by
  rw [writeAll, List.foldlM_append, bind_eq_ok]
  rfl

/-- Writing files leaves the paths lead where they led before. -/
theorem wayTo_of_writeAll {t t' : FileTree} {writes : List (String × String)}
    (h : t.writeAll writes = .ok t') {path : String} {way : List String}
    (hway : t.wayTo path = .ok way) : t'.wayTo path = .ok way := by
  refine foldlM_preserves (P := fun t => t.wayTo path = .ok way) ?_ hway h
  intro w _ t₁ t₂ hway hwrite
  obtain ⟨_, hwritten, -⟩ := write_eq_ok hwrite
  exact hwritten.wayTo_mono hway

/-- A file stays as it is while others are written. -/
theorem kinds_of_writeAll {t t' : FileTree} {writes : List (String × String)}
    (h : t.writeAll writes = .ok t') {path : String} {way : List String} {kind : Option Kind}
    (hway : t.wayTo path = .ok way) (hkind : t.kinds way = kind)
    (hother : ∀ w ∈ writes, ¬ t'.SameFile path w.1) : t'.kinds way = kind := by
  induction writes generalizing t with
  | nil =>
    obtain rfl := pure_eq_ok.mp h
    exact hkind
  | cons w rest ih =>
    obtain ⟨t₁, hwrite, hrest⟩ := writeAll_cons_eq_ok.mp h
    obtain ⟨way', hwritten, hway'⟩ := write_eq_ok hwrite
    have hpath := hwritten.wayTo_mono hway
    have hne : way ≠ way' := by
      rintro rfl
      exact hother w List.mem_cons_self
        ⟨way, wayTo_of_writeAll hrest hpath, wayTo_of_writeAll hrest hway'⟩
    refine ih hrest hpath ?_ fun w' hw' => hother w' (List.mem_cons_of_mem _ hw')
    rw [hwritten.kinds_eq, Function.update_of_ne hne, hkind]

/-- One of many files is written, and then the others after it. -/
theorem exists_written_of_writeAll {t t' : FileTree} {before after : List (String × String)}
    {w : String × String} (h : t.writeAll (before ++ w :: after) = .ok t') :
    ∃ (t₁ : FileTree) (way : List String), t₁.wayTo w.1 = .ok way ∧
      t₁.kinds way = some (.file w.2.toUTF8) ∧ t₁.writeAll after = .ok t' := by
  obtain ⟨t₀, -, h⟩ := writeAll_append_eq_ok.mp h
  obtain ⟨t₁, hwrite, hrest⟩ := writeAll_cons_eq_ok.mp h
  obtain ⟨way, hwritten, hway⟩ := write_eq_ok hwrite
  exact ⟨t₁, way, hway, hwritten.kinds_self, hrest⟩

/-- After many writes a file holds what was written to it last. -/
theorem read_of_writeAll {t t' : FileTree} {before after : List (String × String)}
    {w : String × String} (h : t.writeAll (before ++ w :: after) = .ok t')
    (hlast : ∀ w' ∈ after, ¬ t'.SameFile w.1 w'.1) : t'.read w.1 = .ok w.2 := by
  obtain ⟨t₁, way, hway, hkind, hrest⟩ := exists_written_of_writeAll h
  exact read_eq_ok (wayTo_of_writeAll hrest hway) (kinds_of_writeAll hrest hway hkind hlast)

end FileTree

end Tilemap
