import Tilemap.Proofs.SourceLines

/-!
# Where an error is

An error in an object line or in the legend names the line of the text that it is about. However the
sections of the text are scattered, `compile_error_locates` says that the number is right: the line
is text of the section that is named, what the error quotes is what is read of the line, and it is
at fault. Of the objects of a section it is the first line at fault, and `entry` counts the lines up
to it that are no comments.
-/

namespace Tilemap

open Text

/-! ### Statement -/

/-- The line at a place is text of the section with a key, and no comment but has a code. -/
def CodeAt (lines : List (List Char)) (i : Nat) (key code : String) : Prop :=
  ∃ l, TextAt lines i key l ∧ l.code = some code

/-- A definition without `=`, or with nothing in front of its first `=`, or with nothing between it
and the next `;`. -/
def IsMalformedDefinition (text : List Char) : Prop :=
  '=' ∉ text ∨ ∃ symbol rest, text = symbol ++ '=' :: rest ∧ '=' ∉ symbol ∧
    (trim symbol = [] ∨ trim (rest.takeWhile (· ≠ ';')) = [])

/-- What an error says about lines of a text is so. -/
def MapError.Locates (lines : List (List Char)) : MapError → Prop
  | .malformedObjectLine key entry number content reason =>
    ∃ i, number = i + 1 ∧ CodeAt lines i key content ∧ ObjectLine.parse content = .error reason ∧
      ∃ earlier : List Nat, earlier.Pairwise (· < ·) ∧ entry = earlier.length + 1 ∧
        (∀ j, j ∈ earlier ↔ j < i ∧ ∃ code, CodeAt lines j key code) ∧
        ∀ j < i, ∀ code, CodeAt lines j key code → ∃ l, ObjectLine.parse code = .ok l
  | .malformedTileDefinition number content =>
    ∃ i l, number = i + 1 ∧ TextAt lines i "tiles" l ∧ l.definitionText? = some content ∧
      IsMalformedDefinition content.toList
  | _ => True

/-! ### Refusals -/

/-- Steps that are refused are refused at one of them. -/
theorem exists_of_foldlM_eq_error {ε α β : Type} {f : β → α → Except ε β} {l : List α} {b : β}
    {e : ε} (h : l.foldlM f b = .error e) : ∃ a ∈ l, ∃ b', f b' a = .error e := by
  obtain ⟨before, a, after, b', rfl, -, ha⟩ := foldlM_eq_error_iff.mp h
  exact ⟨a, List.mem_append_right _ List.mem_cons_self, b', ha⟩

variable {lines : List (List Char)} {text : String} {e : MapError}

theorem TextAt.number_eq {i : Nat} {key : String} {l : Line} (h : TextAt lines i key l) :
    l.number = i + 1 := by
  obtain ⟨-, line, -, -, rfl⟩ := h
  rfl

/-! ### The legend -/

/-- What the pieces behind the id say. -/
def settingsOf (pieces : List (List Char)) : List (String × String) :=
  ((pieces.map trim).filter (· ≠ [])).map TileDefinition.setting

/-- How a definition is read whose symbol ends at an `=` and whose other pieces have a `;` between
them. -/
theorem TileDefinition.parse?_eq {text : String} {symbol id : List Char} {ws : List (List Char)}
    (htext : text.toList = symbol ++ '=' :: (id ++ ws.flatMap (';' :: ·))) (hsymbol : '=' ∉ symbol)
    (hws : ∀ w ∈ id :: ws, ';' ∉ w) :
    parse? text = if trim symbol = [] ∨ trim id = [] then none
      else some ⟨String.ofList (trim symbol), String.ofList (trim id), settingsOf ws⟩ := by
  rw [parse?, htext, cut?_append hsymbol]
  simp only [Option.bind_eq_bind, Option.bind_some, nonBlank?_ofList, pieces_flatMap hws,
    List.map_cons]
  by_cases hblank : trim symbol = []
  · simp [hblank]
  · rw [if_neg hblank, Option.bind_some]
    cases hid : trim id with
    | nil => simp
    | cons c r => simp [hblank, settingsOf]

/-- How a definition is read that has an `=`. -/
theorem TileDefinition.exists_parse?_eq {definition : String} {symbol rest : List Char}
    (htext : definition.toList = symbol ++ '=' :: rest) (hsymbol : '=' ∉ symbol) :
    ∃ settings, TileDefinition.parse? definition =
      if trim symbol = [] ∨ trim (rest.takeWhile (· ≠ ';')) = [] then none
      else some ⟨String.ofList (trim symbol), String.ofList (trim (rest.takeWhile (· ≠ ';'))),
        settings⟩ := by
  obtain ⟨id, ws, hpieces, hrest, hws⟩ := exists_pieces_eq ';' rest
  obtain ⟨ws', hws'⟩ := exists_pieces_eq_cons (· = ';') rest
  have hid : rest.takeWhile (· ≠ ';') = id := by
    simpa using (List.cons.inj (hws'.symm.trans hpieces)).1
  rw [hid]
  exact ⟨settingsOf ws, TileDefinition.parse?_eq (hrest ▸ htext) hsymbol hws⟩

theorem isMalformedDefinition_of_parse? {definition : String}
    (h : TileDefinition.parse? definition = none) : IsMalformedDefinition definition.toList := by
  by_cases hmem : '=' ∈ definition.toList
  · obtain ⟨symbol, rest, htext, hsymbol⟩ := List.eq_append_cons_of_mem hmem
    refine .inr ⟨symbol, rest, htext, hsymbol, ?_⟩
    obtain ⟨settings, hparse⟩ := TileDefinition.exists_parse?_eq htext hsymbol
    by_contra hboth
    rw [hparse, if_neg hboth] at h
    cases h
  · exact .inl hmem

/-- A line of the legend is refused because it is malformed or because of its symbol. -/
theorem Legend.exists_of_add_eq_error {legend : Legend} {l : Line} (h : legend.add l = .error e) :
    (∃ definition, l.definitionText? = some definition ∧
      TileDefinition.parse? definition = none ∧
        e = .malformedTileDefinition l.number definition) ∨
      ∃ symbol existing requested, e = .conflictingSymbol symbol existing requested := by
  rw [Legend.add] at h
  split at h
  · cases h
  · rename_i definition hdefinition
    split at h
    · rename_i hparse
      cases h
      exact .inl ⟨definition, hdefinition, hparse, rfl⟩
    · dsimp only at h
      split at h <;> cases h
      exact .inr ⟨_, _, _, rfl⟩

theorem exists_add_of_resolveTiles_eq_error {catalog : Catalog} {ls : List Line}
    {floorColour : Option String} (h : resolveTiles catalog ls floorColour = .error e) :
    ∃ l ∈ ls, ∃ legend : Legend, legend.add l = .error e := by
  rw [resolveTiles, bind_pure_eq_error] at h
  exact exists_of_foldlM_eq_error h

theorem locates_of_resolveTiles {catalog : Catalog} {floorColour : Option String}
    (h : resolveTiles catalog (legendLines text) floorColour = .error e) :
    e.Locates (linesOf text) := by
  obtain ⟨l, hl, legend, hadd⟩ := exists_add_of_resolveTiles_eq_error h
  rw [legendLines_eq, mem_linesUnder_itemsOf] at hl
  obtain ⟨i, hi⟩ := hl
  rcases Legend.exists_of_add_eq_error hadd with ⟨definition, hdefinition, hparse, rfl⟩ |
    ⟨_, _, _, rfl⟩
  · exact ⟨i, l, hi.number_eq, hi, hdefinition, isMalformedDefinition_of_parse? hparse⟩
  · trivial

/-! ### Layers, doors and the size -/

/-- A row can only fail by its width. -/
theorem TileLayer.exists_of_addRow_eq_error {l : TileLayer} {row : List Cell}
    (h : l.addRow row = .error e) :
    ∃ layer place expected found, e = .unequalLayerWidth layer place expected found := by
  rw [TileLayer.addRow] at h
  split at h <;> cases h
  exact ⟨_, _, _, _, rfl⟩

/-- A layer is refused because of the length of a row or because of a token. -/
theorem TileLayer.exists_of_addLine_eq_error {tiles : TileTable} {l : TileLayer} {line : Line}
    (h : l.addLine tiles line = .error e) :
    (∃ layer place expected found, e = .unequalLayerWidth layer place expected found) ∨
      ∃ layer place token, e = .unknownTileReference layer place token := by
  rw [TileLayer.addLine] at h
  split at h
  · exact .inl (exists_of_addRow_eq_error h)
  · split at h
    · cases h
    · split at h
      · cases h
      · split at h
        · exact .inl (exists_of_addRow_eq_error h)
        · cases h
          exact .inr ⟨_, _, _, rfl⟩

/-- Layers fail by the width of a row or by a token that stands for nothing. -/
theorem exists_of_compileLayers_eq_error {tiles : TileTable} {sections : List Section}
    (h : compileLayers tiles sections = .error e) :
    (∃ layer place expected found, e = .unequalLayerWidth layer place expected found) ∨
      ∃ layer place token, e = .unknownTileReference layer place token := by
  rw [compileLayers, bind_pure_eq_error] at h
  obtain ⟨⟨s, index⟩, -, hlayer⟩ := exists_of_mapM_eq_error h
  unfold compileLayer at hlayer
  rw [bind_pure_eq_error] at hlayer
  obtain ⟨line, -, l, hline⟩ := exists_of_foldlM_eq_error hlayer
  exact TileLayer.exists_of_addLine_eq_error hline

/-- The errors of layers name no line. -/
theorem locates_of_compileLayers {tiles : TileTable} {sections : List Section}
    (h : compileLayers tiles sections = .error e) : e.Locates lines := by
  rcases exists_of_compileLayers_eq_error h with ⟨_, _, _, _, rfl⟩ | ⟨_, _, _, rfl⟩ <;> trivial

theorem DoorEntry.exists_of_parse_eq_error {entry : String}
    (h : DoorEntry.parse entry = .error e) : ∃ reason, e = .invalidDoorCoordinate entry reason := by
  rw [DoorEntry.parse] at h
  dsimp only at h
  split at h
  · cases h
    exact ⟨_, rfl⟩
  · split at h <;> cases h
    exact ⟨_, rfl⟩

/-- Doors are refused because of an entry that cannot be read. -/
theorem exists_of_buildDoorsOf_eq_error {kind : DoorKind} {mapId : String} {ids : IdAllocator}
    {entries : List String} (h : buildDoorsOf kind mapId ids entries = .error e) :
    ∃ entry ∈ entries, DoorEntry.parse entry = .error e := by
  induction entries generalizing ids with
  | nil => cases h
  | cons entry rest ih =>
    rw [buildDoorsOf, bind_eq_error] at h
    rcases h with h | ⟨parsed, -, h⟩
    · exact ⟨entry, List.mem_cons_self, h⟩
    · obtain ⟨entry', hmem, hparse⟩ := ih (bind_pure_eq_error.mp h)
      exact ⟨entry', List.mem_cons_of_mem _ hmem, hparse⟩

/-- Doors fail by an entry that cannot be read. -/
theorem exists_of_buildDoors_eq_error {outbound inbound : List String} {mapId : String}
    {ids : IdAllocator} (h : buildDoors outbound inbound mapId ids = .error e) :
    ∃ entry ∈ outbound ++ inbound, DoorEntry.parse entry = .error e := by
  rw [buildDoors, bind_eq_error] at h
  rcases h with h | ⟨built, -, h⟩
  · obtain ⟨entry, hentry, hparse⟩ := exists_of_buildDoorsOf_eq_error h
    exact ⟨entry, List.mem_append_left _ hentry, hparse⟩
  · obtain ⟨entry, hentry, hparse⟩ := exists_of_buildDoorsOf_eq_error (bind_pure_eq_error.mp h)
    exact ⟨entry, List.mem_append_right _ hentry, hparse⟩

theorem locates_of_buildDoors {outbound inbound : List String} {mapId : String}
    {ids : IdAllocator} (h : buildDoors outbound inbound mapId ids = .error e) :
    e.Locates lines := by
  obtain ⟨entry, -, hparse⟩ := exists_of_buildDoors_eq_error h
  obtain ⟨reason, rfl⟩ := DoorEntry.exists_of_parse_eq_error hparse
  trivial

theorem exists_of_assemble_eq_error {parts : MapParts} (h : parts.assemble = .error e) :
    ∃ size, e = .mapTooLarge size := by
  rw [MapParts.assemble] at h
  have h := bind_pure_eq_error.mp h
  rw [Size.check] at h
  split at h <;> cases h
  exact ⟨_, rfl⟩

theorem locates_of_assemble {parts : MapParts} (h : parts.assemble = .error e) :
    e.Locates lines := by
  obtain ⟨size, rfl⟩ := exists_of_assemble_eq_error h
  trivial

/-! ### Objects -/

/-- The first line that is refused, and all before it that are not. -/
theorem placeLines_eq_error {key : String} {ids : IdAllocator}
    {numbered : List ((Line × String) × Nat)} (h : placeLines key ids numbered = .error e) :
    ∃ before line code entry after reason, numbered = before ++ ((line, code), entry) :: after ∧
      e = .malformedObjectLine key entry line.number code reason ∧
      ObjectLine.parse code = .error reason ∧
      ∀ p ∈ before, ∃ l, ObjectLine.parse p.1.2 = .ok l := by
  induction numbered generalizing ids with
  | nil => cases h
  | cons head rest ih =>
    obtain ⟨⟨line, code⟩, entry⟩ := head
    rw [placeLines] at h
    split at h
    · rename_i reason hparse
      cases h
      exact ⟨[], line, code, entry, rest, reason, rfl, rfl, hparse, by simp⟩
    · rename_i l hparse
      obtain ⟨before, line', code', entry', after, reason, rfl, he, hreason, hbefore⟩ :=
        ih (bind_pure_eq_error.mp h)
      refine ⟨((line, code), entry) :: before, line', code', entry', after, reason, rfl, he,
        hreason, ?_⟩
      exact List.forall_mem_cons.mpr ⟨⟨l, hparse⟩, hbefore⟩

/-- Object layers fail by the lines of one section. -/
theorem exists_of_compileObjectLayersFrom_eq_error {ids : IdAllocator}
    {sections : List (Section × Nat)} (h : compileObjectLayersFrom ids sections = .error e) :
    ∃ p ∈ sections, ∃ ids', placeLines p.1.key ids' (p.1.codeLines.zipIdx 1) = .error e := by
  induction sections generalizing ids with
  | nil => cases h
  | cons head rest ih =>
    obtain ⟨s, order⟩ := head
    rw [compileObjectLayersFrom, bind_eq_error] at h
    rcases h with h | ⟨placed, -, h⟩
    · exact ⟨(s, order), List.mem_cons_self, ids, h⟩
    · obtain ⟨p, hp, hplace⟩ := ih (bind_pure_eq_error.mp h)
      exact ⟨p, List.mem_cons_of_mem _ hp, hplace⟩

/-- The lines of a section that hold code are the texts under its key. -/
theorem mem_codeLines {s : Section} (hs : s ∈ splitSections text) {l : Line} {code : String} :
    (l, code) ∈ s.codeLines ↔ l.code = some code ∧ ∃ i, TextAt (linesOf text) i s.key l := by
  rw [← mem_linesUnder_itemsOf, ← lines_of_mem_splitSections hs, Section.codeLines,
    List.mem_filterMap]
  constructor
  · rintro ⟨l', hl', hcode⟩
    obtain ⟨code', hcode', heq⟩ := Option.map_eq_some_iff.mp hcode
    cases heq
    exact ⟨hcode', hl'⟩
  · rintro ⟨hcode, hl⟩
    exact ⟨l, hl, by rw [hcode]; rfl⟩

theorem pairwise_codeLines {s : Section} (hs : s ∈ splitSections text) :
    s.codeLines.Pairwise (·.1.number < ·.1.number) := by
  rw [Section.codeLines, List.pairwise_filterMap, lines_of_mem_splitSections hs]
  refine (pairwise_linesUnder_itemsOf s.key text).imp ?_
  rintro l l' hlt ⟨m, code⟩ hm ⟨m', code'⟩ hm'
  obtain ⟨_, -, heq⟩ := Option.map_eq_some_iff.mp hm
  obtain ⟨_, -, heq'⟩ := Option.map_eq_some_iff.mp hm'
  cases heq
  cases heq'
  exact hlt

/-- The first object line at fault of a section, by what stands before it there. -/
theorem locates_of_codeLines {s : Section} (hs : s ∈ splitSections text)
    {before after : List (Line × String)} {line : Line} {code : String}
    {reason : ObjectLineError} (hsplit : s.codeLines = before ++ (line, code) :: after)
    (hreason : ObjectLine.parse code = .error reason)
    (hbefore : ∀ p ∈ before, ∃ l, ObjectLine.parse p.2 = .ok l) :
    (MapError.malformedObjectLine s.key (before.length + 1) line.number code reason).Locates
      (linesOf text) := by
  have hmem : ∀ p ∈ s.codeLines, ∃ j, p.1.number = j + 1 ∧ TextAt (linesOf text) j s.key p.1 ∧
      p.1.code = some p.2 := by
    rintro ⟨l, c⟩ hp
    obtain ⟨hc, j, hj⟩ := (mem_codeLines hs).mp hp
    exact ⟨j, hj.number_eq, hj, hc⟩
  obtain ⟨i, hnumber, hi, hcode⟩ := hmem (line, code) (by simp [hsplit])
  dsimp only at hnumber
  have hmem' : ∀ p ∈ before, ∃ j, p.1.number = j + 1 ∧ TextAt (linesOf text) j s.key p.1 ∧
      p.1.code = some p.2 := fun p hp => hmem p (by simp [hsplit, hp])
  have hsorted := pairwise_codeLines hs
  rw [hsplit, List.pairwise_append, List.pairwise_cons] at hsorted
  obtain ⟨hearlier, ⟨hlater, -⟩, hless⟩ := hsorted
  -- a line with a smaller number is neither the line at fault nor behind it
  have hfirst : ∀ j < i, ∀ code' l, TextAt (linesOf text) j s.key l → l.code = some code' →
      (l, code') ∈ before := by
    intro j hji code' l htext hcode'
    have hl : (l, code') ∈ s.codeLines := (mem_codeLines hs).mpr ⟨hcode', j, htext⟩
    have hj := htext.number_eq
    rw [hsplit, List.mem_append, List.mem_cons] at hl
    rcases hl with hl | hl | hl
    · exact hl
    · cases hl
      omega
    · have hlt : line.number < l.number := hlater _ hl
      omega
  refine ⟨i, hnumber, ⟨line, hi, hcode⟩, hreason, before.map (·.1.number - 1), ?_, by simp, ?_, ?_⟩
  · rw [List.pairwise_map]
    refine hearlier.imp_of_mem fun {p q} hp hq hlt => ?_
    obtain ⟨j, hj, -⟩ := hmem' p hp
    omega
  · intro j
    rw [List.mem_map]
    constructor
    · rintro ⟨p, hp, rfl⟩
      obtain ⟨j, hj, htext, hcode'⟩ := hmem' p hp
      have hlt : p.1.number < line.number := hless p hp _ List.mem_cons_self
      rw [hj, Nat.add_sub_cancel]
      exact ⟨by omega, p.2, p.1, htext, hcode'⟩
    · rintro ⟨hji, code', l, htext, hcode'⟩
      exact ⟨(l, code'), hfirst j hji code' l htext hcode', by simp [htext.number_eq]⟩
  · rintro j hji code' ⟨l, htext, hcode'⟩
    exact hbefore (l, code') (hfirst j hji code' l htext hcode')

/-- An error about an object line names its section, its entry and its line. -/
theorem locates_of_compileObjectLayers {ids : IdAllocator} {start : String}
    (h : compileObjectLayers ids (sectionsStarting (splitSections text) start) = .error e) :
    e.Locates (linesOf text) := by
  obtain ⟨⟨s, order⟩, hs, ids', hplace⟩ := exists_of_compileObjectLayersFrom_eq_error h
  have hs : s ∈ splitSections text := (List.mem_filter.mp (List.fst_mem_of_mem_zipIdx hs)).1
  obtain ⟨before, line, code, entry, after, reason, hsplit, rfl, hreason, hbefore⟩ :=
    placeLines_eq_error hplace
  obtain ⟨earlier, later, hcodes, rfl, hlater⟩ := List.zipIdx_eq_append_iff.mp hsplit
  obtain ⟨head, later', rfl, hhead, -⟩ := List.zipIdx_eq_cons_iff.mp hlater.symm
  obtain ⟨rfl, rfl⟩ := Prod.mk.inj hhead
  rw [Nat.add_comm 1 earlier.length]
  refine locates_of_codeLines hs hcodes hreason fun p hp => ?_
  rw [← List.zipIdx_map_fst 1 earlier] at hp
  obtain ⟨q, hq, rfl⟩ := List.mem_map.mp hp
  exact hbefore q hq

/-! ### Main result -/

/-- An error of a map text is about the line that it names. -/
theorem compile_error_locates {options : CompileOptions} (h : compile text options = .error e) :
    e.Locates (linesOf text) := by
  unfold compile at h
  simp only [bind_eq_error] at h
  rcases h with h | ⟨tiles, -, h | ⟨layers, -, h | ⟨built, -, h | ⟨placed, -, h⟩⟩⟩⟩
  · exact locates_of_resolveTiles h
  · exact locates_of_compileLayers h
  · exact locates_of_buildDoors h
  · exact locates_of_compileObjectLayers h
  · exact locates_of_assemble h

/-- A map text whose objects stand in two pieces; the line at fault is the second of them that is no
comment. -/
def scatteredText : String :=
  textOf ["[Objects]", "# lamps", "lamp@1x1", "[Tiles]", ". = floor", "[objects]", "", "lamp@2"]

def gapText : String := textOf ["id: gap", "[Tiles]", "# = # a wall"]

theorem compile_error_locates_scattered :
    (compile scatteredText .default =
        .error (.malformedObjectLine "objects" 2 8 "lamp@2" .noCoordinateSeparator) ∧
      (MapError.malformedObjectLine "objects" 2 8 "lamp@2" .noCoordinateSeparator).Locates
        (linesOf scatteredText)) ∧
    compile gapText .default = .error (.malformedTileDefinition 3 "# =") ∧
      (MapError.malformedTileDefinition 3 "# =").Locates (linesOf gapText) := by
  have hscattered : (compile scatteredText .default).map (fun _ => ()) =
      .error (.malformedObjectLine "objects" 2 8 "lamp@2" .noCoordinateSeparator) := by
    decide +kernel
  have hgap : (compile gapText .default).map (fun _ => ()) =
      .error (.malformedTileDefinition 3 "# =") := by
    decide +kernel
  have hscattered := eq_error_of_map hscattered
  have hgap := eq_error_of_map hgap
  exact ⟨⟨hscattered, compile_error_locates hscattered⟩, hgap, compile_error_locates hgap⟩

end Tilemap
