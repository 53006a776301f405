import Mathlib.Logic.Relation
import Tilemap.Proofs.Reading
import Tilemap.Proofs.Text.Trimming

/-!
# Sections line by line

Which section a line belongs to depends only on the headers above it, and the sections of a text
only on what its lines are, headers or not (`Item`). So two texts are read alike as soon as their
items are (`ItemsAlike`): the same titles in the same order among the sections of a kind, and under
every key lines that are read alike.
-/

namespace Tilemap

open Text

/-! ### Lines of a text -/

def linesOf (text : String) : List (List Char) := pieces (· = '\n') text.toList

/-- The text of lines. -/
def textOf (lines : List String) : String :=
  String.ofList (['\n'].intercalate (lines.map String.toList))

/-- The lines of a text that is put together from lines are those lines. -/
theorem linesOf_textOf {lines : List String} (hne : lines ≠ [])
    (h : ∀ line ∈ lines, '\n' ∉ line.toList) :
    linesOf (textOf lines) = lines.map String.toList := by
  rw [linesOf, textOf, String.toList_ofList]
  induction lines with
  | nil => exact absurd rfl hne
  | cons line rest ih =>
    obtain ⟨hline, hrest⟩ := List.forall_mem_cons.mp h
    have hpieces : pieces (· = '\n') line.toList = [line.toList] :=
      pieces_of_none fun c hc heq => hline (of_decide_eq_true heq ▸ hc)
    cases rest with
    | nil => simpa using hpieces
    | cons next rest =>
      rw [List.map_cons, List.intercalate_cons_of_ne_nil (by simp), ← List.append_cons,
        pieces_append (by simp), hpieces, ih (by simp) hrest]
      rfl

/-- A change of lines, which may depend on their text, leads from this text to the one of the other
lines. -/
theorem eqvGen_textOf {r : String → List (List Char) → List (List Char) → Prop}
    {lines lines' : List String} (hne : lines ≠ []) (h : ∀ line ∈ lines, '\n' ∉ line.toList)
    (hne' : lines' ≠ []) (h' : ∀ line ∈ lines', '\n' ∉ line.toList)
    (hr : r (textOf lines) (lines.map String.toList) (lines'.map String.toList)) :
    Relation.EqvGen (fun text text' => r text (linesOf text) (linesOf text')) (textOf lines)
      (textOf lines') := by
  apply Relation.EqvGen.rel
  rw [linesOf_textOf hne h, linesOf_textOf hne' h']
  exact hr

def Line.unnumbered (l : Line) : Line := { l with number := 0 }

def Item.unnumbered : Item → Item
  | .header name => .header name
  | .line l => .line l.unnumbered

def Section.unnumbered (s : Section) : Section := { s with lines := s.lines.map Line.unnumbered }

/-- What lines are, without their numbers. -/
def itemsOfLines (lines : List (List Char)) : List Item := lines.filterMap (Item.of? 0)

/-- The name in a line, if it is a header. -/
def headerOf? (line : List Char) : Option String :=
  match Item.of? 0 line with
  | some (.header name) => some name
  | _ => none

theorem itemsOfLines_append (lines lines' : List (List Char)) :
    itemsOfLines (lines ++ lines') = itemsOfLines lines ++ itemsOfLines lines' :=
  List.filterMap_append

theorem item_of_headerOf? {line : List Char} {name : String} (h : headerOf? line = some name) :
    Item.of? 0 line = some (.header name) := by
  rw [headerOf?] at h
  split at h
  · rename_i heq
    rw [heq, Option.some.inj h]
  · cases h

theorem itemsOfLines_cons {line : List Char} {item : Item} (h : Item.of? 0 line = some item)
    (lines : List (List Char)) : itemsOfLines (line :: lines) = item :: itemsOfLines lines := by
  rw [itemsOfLines, List.filterMap_cons, h]
  rfl

theorem itemsOfLines_header {header : List Char} {name : String}
    (h : headerOf? header = some name) (lines : List (List Char)) :
    itemsOfLines (header :: lines) = .header name :: itemsOfLines lines :=
  itemsOfLines_cons (item_of_headerOf? h) lines

theorem Item.map_unnumbered_of? (number : Nat) (line : List Char) :
    (Item.of? number line).map Item.unnumbered = Item.of? 0 line := by
  rw [Item.of?, Item.of?]
  cases trim line with
  | nil => rfl
  | cons c r =>
    dsimp only
    cases (codeOf? (c :: r)).bind headerName? <;> rfl

theorem map_unnumbered_itemsOf (text : String) :
    (itemsOf text).map Item.unnumbered = itemsOfLines (linesOf text) := by
  have hnumber : (fun p : List Char × Nat => (Item.of? p.2 p.1).map Item.unnumbered) =
      Item.of? 0 ∘ Prod.fst := funext fun p => Item.map_unnumbered_of? p.2 p.1
  rw [itemsOf, List.map_filterMap, hnumber, ← List.filterMap_map, List.zipIdx_map_fst]
  rfl

/-! ### Titles -/

/-- Whether the key of a section starts with a text. -/
def keyStarts (start key : String) : Bool := start.toList.isPrefixOf key.toList

/-- The titles after a header: a new key comes last. -/
def addTitle (found : List (String × String)) (name : String) : List (String × String) :=
  if (found.lookup (sectionKey name)).isSome then found else found ++ [(sectionKey name, name)]

def addTitles (found : List (String × String)) (items : List Item) : List (String × String) :=
  items.foldl (fun found item => match item with
    | .header name => addTitle found name
    | .line _ => found) found

theorem titles_eq (items : List Item) : titles items = addTitles [(metaKey, "Meta")] items := rfl

@[simp] theorem addTitles_nil (found : List (String × String)) : addTitles found [] = found := rfl

@[simp] theorem addTitles_header (found : List (String × String)) (name : String)
    (items : List Item) :
    addTitles found (.header name :: items) = addTitles (addTitle found name) items := rfl

@[simp] theorem addTitles_line (found : List (String × String)) (l : Line) (items : List Item) :
    addTitles found (.line l :: items) = addTitles found items := rfl

/-- Titles of later items are added to those of the items before. -/
theorem addTitles_append (found : List (String × String)) (items items' : List Item) :
    addTitles found (items ++ items') = addTitles (addTitles found items) items' :=
  List.foldl_append

theorem addTitles_map_line (found : List (String × String)) (ls : List Line) :
    addTitles found (ls.map .line) = found := by
  induction ls with
  | nil => rfl
  | cons l rest ih => exact ih

/-- A key has the title that it had, or else the name of the header if it is its key. -/
theorem lookup_addTitle (found : List (String × String)) (name key : String) :
    (addTitle found name).lookup key =
      (found.lookup key).or (if key = sectionKey name then some name else none) := by
  rw [addTitle]
  split
  · rename_i hfound
    split
    · rename_i heq
      rw [heq, Option.or_of_isSome hfound]
    · rw [Option.or_none]
  · rw [List.lookup_append]
    congr 1
    by_cases h : key = sectionKey name
    · simp [h]
    · simp [List.lookup_cons, h, beq_false_of_ne h]

/-- A key has a title if it had one or if there is a header for it. -/
theorem isSome_lookup_addTitles (found : List (String × String)) (items : List Item)
    (key : String) :
    ((addTitles found items).lookup key).isSome ↔
      (found.lookup key).isSome ∨ ∃ name, .header name ∈ items ∧ sectionKey name = key := by
  induction items generalizing found with
  | nil => simp
  | cons item rest ih =>
    cases item with
    | header name =>
      rw [addTitles_header, ih, lookup_addTitle]
      by_cases h : key = sectionKey name
      · simp [h]
      · simp [h, Ne.symm h]
    | line l => simp [ih]

/-! ### Lines under a key -/

/-- The lines under a key. -/
def linesUnder (key : String) (items : List Item) : List Line :=
  ((keyedLines metaKey items).filter (·.1 = key)).map (·.2)

/-- The key that holds after items that are read under a key. -/
def keyAfter (current : String) (items : List Item) : String :=
  items.foldl (fun key item => match item with
    | .header name => sectionKey name
    | .line _ => key) current

@[simp] theorem keyAfter_nil (current : String) : keyAfter current [] = current := rfl

@[simp] theorem keyAfter_header (current name : String) (items : List Item) :
    keyAfter current (.header name :: items) = keyAfter (sectionKey name) items := rfl

@[simp] theorem keyAfter_line (current : String) (l : Line) (items : List Item) :
    keyAfter current (.line l :: items) = keyAfter current items := rfl

theorem keyAfter_append (current : String) (items items' : List Item) :
    keyAfter current (items ++ items') = keyAfter (keyAfter current items) items' :=
  List.foldl_append

/-- Lines after the first items stand under the last key of these. -/
theorem keyedLines_append (current : String) (items items' : List Item) :
    keyedLines current (items ++ items') =
      keyedLines current items ++ keyedLines (keyAfter current items) items' := by
  induction items generalizing current with
  | nil => rfl
  | cons item rest ih =>
    cases item with
    | header name => exact ih (sectionKey name)
    | line l => simp [keyedLines, ih]

theorem keyedLines_map_line (current : String) (ls : List Line) :
    keyedLines current (ls.map .line) = ls.map (current, ·) := by
  induction ls with
  | nil => rfl
  | cons l rest ih => exact congrArg _ ih

theorem keyAfter_map_line (current : String) (ls : List Line) :
    keyAfter current (ls.map .line) = current := by
  induction ls with
  | nil => rfl
  | cons l rest ih => exact ih

theorem filter_keyed (current key : String) (ls : List Line) :
    (ls.map (current, ·)).filter (·.1 = key) =
      if current = key then ls.map (current, ·) else [] := by
  split <;> rename_i h
  · exact List.filter_eq_self.mpr (by simp [h])
  · exact List.filter_eq_nil_iff.mpr (by simp [h])

/-- Every line stands under the key of a header, or under the one it all started with. -/
theorem key_mem_keyedLines {current key : String} {l : Line} {items : List Item}
    (h : (key, l) ∈ keyedLines current items) :
    key = current ∨ ∃ name, .header name ∈ items ∧ sectionKey name = key := by
  induction items generalizing current with
  | nil => simp [keyedLines] at h
  | cons item rest ih =>
    cases item with
    | header name =>
      rcases ih h with rfl | ⟨name', hmem, rfl⟩
      · exact .inr ⟨name, List.mem_cons_self, rfl⟩
      · exact .inr ⟨name', List.mem_cons_of_mem _ hmem, rfl⟩
    | line l' =>
      rw [keyedLines, List.mem_cons, Prod.mk.injEq] at h
      rcases h with ⟨rfl, -⟩ | h
      · exact .inl rfl
      · rcases ih h with rfl | ⟨name', hmem, rfl⟩
        · exact .inl rfl
        · exact .inr ⟨name', List.mem_cons_of_mem _ hmem, rfl⟩

/-- The keys with a section are those of the headers, and that of the head. -/
theorem isSome_lookup_titles (items : List Item) (key : String) :
    ((titles items).lookup key).isSome ↔
      key = metaKey ∨ ∃ name, .header name ∈ items ∧ sectionKey name = key := by
  rw [titles_eq, isSome_lookup_addTitles]
  by_cases h : key = metaKey
  · simp [h]
  · simp [List.lookup_cons, h, beq_false_of_ne h]

/-- Lines stand only under keys that have a title. -/
theorem linesUnder_of_lookup {key : String} {items : List Item}
    (h : (titles items).lookup key = none) : linesUnder key items = [] := by
  have hno := (not_congr (isSome_lookup_titles items key)).mp (by simp [h])
  rw [linesUnder, List.map_eq_nil_iff, List.filter_eq_nil_iff]
  rintro ⟨key', l⟩ hmem heq
  obtain rfl : key' = key := of_decide_eq_true heq
  exact hno (key_mem_keyedLines hmem)

/-! ### Sections of items -/

def sectionsOf (items : List Item) : List Section :=
  (titles items).map fun (key, title) => ⟨key, title, linesUnder key items⟩

theorem splitSections_eq (text : String) : splitSections text = sectionsOf (itemsOf text) := rfl

theorem find?_key {α : Type} (entries : List (String × α)) (key : String) :
    entries.find? (·.1 = key) = (entries.lookup key).map (key, ·) := by
  induction entries with
  | nil => rfl
  | cons e rest ih =>
    obtain ⟨k, a⟩ := e
    by_cases h : k = key
    · simp [h]
    · simp [h, List.lookup_cons, beq_false_of_ne (Ne.symm h), ih]

/-- A section is found by its key, with its title and the lines under it. -/
theorem findSection?_sectionsOf (items : List Item) (key : String) :
    findSection? (sectionsOf items) key =
      ((titles items).lookup key).map fun title => ⟨key, title, linesUnder key items⟩ := by
  have hkey : ((fun s : Section => decide (s.key = key)) ∘
      fun e : String × String => (⟨e.1, e.2, linesUnder e.1 items⟩ : Section)) =
        fun e => decide (e.1 = key) := rfl
  rw [findSection?, sectionsOf, List.find?_map, hkey, find?_key, Option.map_map]
  rfl

/-- The sections of a kind come in the order of their titles. -/
theorem sectionsStarting_sectionsOf (items : List Item) (start : String) :
    sectionsStarting (sectionsOf items) start =
      ((titles items).filter (keyStarts start ·.1)).map fun (key, title) =>
        ⟨key, title, linesUnder key items⟩ := by
  rw [sectionsStarting, sectionsOf, List.filter_map]
  rfl

/-! ### Items without numbers -/

theorem linesUnder_unnumbered (key : String) (items : List Item) :
    linesUnder key (items.map Item.unnumbered) =
      (linesUnder key items).map Line.unnumbered := by
  have hkeyed (current : String) : keyedLines current (items.map Item.unnumbered) =
      (keyedLines current items).map fun p => (p.1, p.2.unnumbered) := by
    induction items generalizing current with
    | nil => rfl
    | cons item rest ih =>
      cases item with
      | header name => exact ih (sectionKey name)
      | line l => exact congrArg _ (ih current)
  rw [linesUnder, hkeyed, List.filter_map, List.map_map, linesUnder, List.map_map]
  rfl

theorem titles_unnumbered (items : List Item) :
    titles (items.map Item.unnumbered) = titles items := by
  have hadd (found : List (String × String)) :
      addTitles found (items.map Item.unnumbered) = addTitles found items := by
    induction items generalizing found with
    | nil => rfl
    | cons item rest ih => cases item <;> exact ih _
  exact hadd _

/-- Numbers of lines change nothing in the sections of a kind but the numbers of their lines. -/
theorem sectionsStarting_unnumbered (items : List Item) (start : String) :
    sectionsStarting (sectionsOf (items.map Item.unnumbered)) start =
      (sectionsStarting (sectionsOf items) start).map Section.unnumbered := by
  simp only [sectionsStarting_sectionsOf, titles_unnumbered, linesUnder_unnumbered, List.map_map]
  rfl

/-- Layers agree if the sections that draw them do one by one. -/
theorem compileLayers_map_congr {α : Type} {tiles : TileTable} {f g : α → Section}
    (h : ∀ a index, compileLayer tiles (f a) index = compileLayer tiles (g a) index) (as : List α) :
    compileLayers tiles (as.map f) = compileLayers tiles (as.map g) := by
  rw [compileLayers, compileLayers, List.zipIdx_map, List.zipIdx_map, List.mapM_map, List.mapM_map]
  simp only [Function.comp_def, Prod.map, id_eq, h]

/-- The number of a line says nothing about what it draws. -/
theorem compileLayers_unnumbered (tiles : TileTable) (sections : List Section) :
    compileLayers tiles (sections.map Section.unnumbered) = compileLayers tiles sections := by
  have hlayer (s : Section) (index : Nat) :
      compileLayer tiles s.unnumbered index = compileLayer tiles (id s) index := by
    rw [id_eq, compileLayer, compileLayer, Section.unnumbered, List.foldlM_map]
    rfl
  rw [compileLayers_map_congr hlayer, List.map_id]

/-! ### Items that are read alike -/

/-- Two lists of items agree in what is read of them. Whether grids agree is asked only with the
tiles in a class. -/
structure ItemsAlike (made : TileTable → Prop) (items items' : List Item) : Prop where
  titles : ∀ start, start = "layer" ∨ start = "objects" →
    (titles items).filter (keyStarts start ·.1) =
      (Tilemap.titles items').filter (keyStarts start ·.1)
  codes : ∀ key,
    (linesUnder key items).filterMap Line.code = (linesUnder key items').filterMap Line.code
  legend : (linesUnder "tiles" items).filterMap Line.definitionText? =
    (linesUnder "tiles" items').filterMap Line.definitionText?
  layers : ∀ tiles, made tiles →
    compileLayers tiles (sectionsStarting (sectionsOf items) "layer") =
      compileLayers tiles (sectionsStarting (sectionsOf items') "layer")

theorem ItemsAlike.refl (made : TileTable → Prop) (items : List Item) :
    ItemsAlike made items items :=
  ⟨fun _ _ => rfl, fun _ => rfl, rfl, fun _ _ => rfl⟩

theorem headOf_eq_itemsOf (text : String) :
    headOf text = ⟨((linesUnder metaKey (itemsOf text)).filterMap Line.code).filterMap
      MetaEntry.parse?⟩ := by
  have hmeta := (isSome_lookup_titles (itemsOf text) metaKey).mpr (.inl rfl)
  obtain ⟨title, htitle⟩ := Option.isSome_iff_exists.mp hmeta
  rw [headOf, splitSections_eq, findSection?_sectionsOf, htitle, Option.map_some, Option.map_some,
    ofSection_eq]
  rfl

/-- The head is read from the lines under its key alone. -/
theorem headOf_eq (text : String) :
    headOf text =
      ⟨((linesUnder metaKey (itemsOfLines (linesOf text))).filterMap Line.code).filterMap
        MetaEntry.parse?⟩ := by
  rw [headOf_eq_itemsOf, ← map_unnumbered_itemsOf, linesUnder_unnumbered, List.filterMap_map]
  rfl

theorem legendLines_eq (text : String) :
    legendLines text = linesUnder "tiles" (itemsOf text) := by
  rw [legendLines, splitSections_eq, findSection?_sectionsOf]
  cases hlookup : (titles (itemsOf text)).lookup "tiles" with
  | none => exact (linesUnder_of_lookup hlookup).symm
  | some title => rfl

/-- The texts of a legend are those of the lines under its key. -/
theorem legendTexts_eq (text : String) :
    (legendLines text).filterMap Line.definitionText? =
      (linesUnder "tiles" (itemsOfLines (linesOf text))).filterMap Line.definitionText? := by
  rw [legendLines_eq, ← map_unnumbered_itemsOf, linesUnder_unnumbered, List.filterMap_map]
  rfl

/-- Layers are compiled from the items of a text, without the numbers of its lines. -/
theorem compileLayers_splitSections (tiles : TileTable) (text : String) :
    compileLayers tiles (sectionsStarting (splitSections text) "layer") =
      compileLayers tiles
        (sectionsStarting (sectionsOf (itemsOfLines (linesOf text))) "layer") := by
  rw [← map_unnumbered_itemsOf, sectionsStarting_unnumbered, compileLayers_unnumbered,
    splitSections_eq]

/-- The bare sections of a kind are those of the items, with code for lines. -/
theorem map_bare_sectionsStarting (text : String) (start : String) :
    (sectionsStarting (splitSections text) start).map Section.bare =
      ((titles (itemsOfLines (linesOf text))).filter (keyStarts start ·.1)).map
        fun (key, title) => ⟨key, title, ((linesUnder key (itemsOfLines (linesOf text))).filterMap
          Line.code).map Line.ofCode⟩ := by
  rw [← map_unnumbered_itemsOf, splitSections_eq, sectionsStarting_sectionsOf, titles_unnumbered,
    List.map_map]
  refine List.map_congr_left fun ⟨key, title⟩ _ => ?_
  dsimp only
  rw [linesUnder_unnumbered, List.filterMap_map]
  rfl

/-- Texts are read alike if their items are. -/
theorem sameReading_of_items {options : CompileOptions} {text text' : String}
    (h : ItemsAlike (fun tiles => tileTableOf text options = .ok tiles)
      (itemsOfLines (linesOf text)) (itemsOfLines (linesOf text'))) :
    SameReading options text text' := by
  refine ⟨?_, ?_, fun tiles htiles => ?_, ?_⟩
  · rw [headOf_eq, headOf_eq, h.codes]
  · rw [legendTexts_eq, legendTexts_eq, h.legend]
  · rw [compileLayers_splitSections, compileLayers_splitSections, h.layers tiles htiles]
  · rw [map_bare_sectionsStarting, map_bare_sectionsStarting, h.titles "objects" (.inr rfl)]
    simp only [h.codes]

/-- Changes of a text do not change what it describes if none of them changes what its items are
read as. -/
theorem compile_of_eqvGen {changes : String → String → Prop} {options : CompileOptions}
    (hchanges : ∀ text text', changes text text' →
      ItemsAlike (fun tiles => tileTableOf text options = .ok tiles) (itemsOfLines (linesOf text))
        (itemsOfLines (linesOf text')))
    {text text' : String} (h : Relation.EqvGen changes text text') :
    (compile text options).mapError MapError.unnumbered =
      (compile text' options).mapError MapError.unnumbered := by
  induction h with
  | rel text text' h => exact compile_of_sameReading (sameReading_of_items (hchanges text text' h))
  | refl text => rfl
  | symm text text' _ ih => exact ih.symm
  | trans text text' text'' _ _ ih ih' => exact ih.trans ih'

end Tilemap
