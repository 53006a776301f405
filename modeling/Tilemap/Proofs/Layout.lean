import Tilemap.Proofs.Sections

/-!
# Layout of a map text

A map text may be laid out as its author likes: blank lines and the blanks around a line say
nothing, a section may be written in several pieces, and sections may stand in any order as long as
those of one kind, the layers or the object layers, keep theirs. `compile_of_sameLayout` says that
texts which differ in this way only (`SameLayout`) describe the same map, or are refused for the
same reason, which may then be found on another line.
-/

namespace Tilemap

open Text

/-! ### Statement -/

/-- A header with a name, and lines below it of which none is a header. -/
def IsBlock (name : String) (block : List (List Char)) : Prop :=
  ∃ header body, block = header :: body ∧ headerOf? header = some name ∧
    ∀ line ∈ body, headerOf? line = none

/-- Sections with these keys may change places: they are not the same and not of one kind. -/
def MayPass (a b : String) : Prop :=
  a ≠ b ∧ ¬ (keyStarts "layer" a ∧ keyStarts "layer" b) ∧
    ¬ (keyStarts "objects" a ∧ keyStarts "objects" b)

/-- One change of the layout of lines. -/
inductive LayoutChange : List (List Char) → List (List Char) → Prop where
  /-- A blank line more. -/
  | blankLine (before after : List (List Char)) {line : List Char} (hline : ∀ c ∈ line, isBlank c) :
    LayoutChange (before ++ after) (before ++ line :: after)
  /-- Other blanks in front of a text and behind it, such as a carriage return. -/
  | margins (before after : List (List Char)) (text : List Char)
      {left right left' right' : List Char} (hleft : ∀ c ∈ left, isBlank c)
      (hright : ∀ c ∈ right, isBlank c) (hleft' : ∀ c ∈ left', isBlank c)
      (hright' : ∀ c ∈ right', isBlank c) :
    LayoutChange (before ++ (left ++ text ++ right) :: after)
      (before ++ (left' ++ text ++ right') :: after)
  /-- Two adjacent blocks that change places. Below them the text ends or the next block starts. -/
  | pass (before after : List (List Char)) {a b : String} {block block' : List (List Char)}
      (ha : IsBlock a block) (hb : IsBlock b block')
      (hafter : ∀ line ∈ after.head?, (headerOf? line).isSome)
      (hpass : MayPass (sectionKey a) (sectionKey b)) :
    LayoutChange (before ++ block ++ block' ++ after) (before ++ block' ++ block ++ after)
  /-- A block cut in two, with its header on both pieces. -/
  | split (before after : List (List Char)) {name : String} {header : List Char}
      {body : List (List Char)} (hheader : headerOf? header = some name)
      (hbody : ∀ line ∈ body, headerOf? line = none) :
    LayoutChange (before ++ header :: body ++ after) (before ++ header :: body ++ header :: after)

/-- Two texts differ in their layout only: changes of the layout lead from one to the other. -/
def SameLayout : String → String → Prop :=
  Relation.EqvGen fun text text' => LayoutChange (linesOf text) (linesOf text')

/-! ### Titles that are found alike -/

/-- Two lists of titles have the same titles, and those of one kind in the same order. -/
structure SameTitles (found found' : List (String × String)) : Prop where
  lookup : ∀ key, found.lookup key = found'.lookup key
  starting : ∀ start, start = "layer" ∨ start = "objects" →
    found.filter (keyStarts start ·.1) = found'.filter (keyStarts start ·.1)

theorem SameTitles.refl (found : List (String × String)) : SameTitles found found :=
  ⟨fun _ => rfl, fun _ _ => rfl⟩

/-- Titles that agree still agree after another header. -/
theorem SameTitles.addTitle {found found' : List (String × String)} (h : SameTitles found found')
    (name : String) : SameTitles (addTitle found name) (addTitle found' name) := by
  refine ⟨fun key => by rw [lookup_addTitle, lookup_addTitle, h.lookup], fun start hstart => ?_⟩
  rw [Tilemap.addTitle, Tilemap.addTitle, h.lookup]
  split
  · exact h.starting start hstart
  · rw [List.filter_append, List.filter_append, h.starting start hstart]

theorem SameTitles.addTitles {found found' : List (String × String)} (h : SameTitles found found')
    (items : List Item) : SameTitles (addTitles found items) (addTitles found' items) := by
  induction items generalizing found found' with
  | nil => exact h
  | cons item rest ih =>
    cases item with
    | header name => exact ih (h.addTitle name)
    | line l => exact ih h

/-- Of two keys that may pass each other it does not matter which comes first. -/
theorem sameTitles_swap (found : List (String × String)) {a b : String}
    (h : MayPass (sectionKey a) (sectionKey b)) :
    SameTitles (addTitle (addTitle found a) b) (addTitle (addTitle found b) a) := by
  obtain ⟨hne, hlayer, hobjects⟩ := h
  refine ⟨fun key => ?_, fun start hstart => ?_⟩
  · simp only [lookup_addTitle]
    cases found.lookup key with
    | some title => rfl
    | none =>
      by_cases ha : key = sectionKey a
      · simp [ha, hne]
      · simp [ha]
  · have hkind : ¬ (keyStarts start (sectionKey a) ∧ keyStarts start (sectionKey b)) := by
      rcases hstart with rfl | rfl
      · exact hlayer
      · exact hobjects
    have hfound (name : String) {key : String} (hkey : key ≠ sectionKey name) :
        ((addTitle found name).lookup key).isSome = (found.lookup key).isSome := by
      rw [lookup_addTitle, if_neg hkey, Option.or_none]
    rw [addTitle, hfound a hne.symm, addTitle.eq_def (addTitle found b), hfound b hne, addTitle,
      addTitle]
    -- the order shows only if both keys are new and of the kind
    split <;> split <;> try rfl
    simp only [List.filter_append, List.append_assoc]
    congr 1
    by_cases ha : keyStarts start (sectionKey a)
    · have hb : ¬ keyStarts start (sectionKey b) := fun hb => hkind ⟨ha, hb⟩
      simp [ha, hb]
    · simp [ha]

/-! ### Blocks as items -/

/-- Lines without a header among them are read as lines. -/
theorem exists_lines_of_no_header {body : List (List Char)}
    (h : ∀ line ∈ body, headerOf? line = none) :
    ∃ ls : List Line, itemsOfLines body = ls.map .line := by
  induction body with
  | nil => exact ⟨[], rfl⟩
  | cons line rest ih =>
    obtain ⟨hline, hrest⟩ := List.forall_mem_cons.mp h
    obtain ⟨ls, hls⟩ := ih hrest
    rw [itemsOfLines, List.filterMap_cons, ← itemsOfLines, hls]
    cases hitem : Item.of? 0 line with
    | none => exact ⟨ls, rfl⟩
    | some item =>
      cases item with
      | header name => simp [headerOf?, hitem] at hline
      | line l => exact ⟨l :: ls, rfl⟩

/-- A block is read as its header and lines below it. -/
theorem exists_items_of_isBlock {name : String} {block : List (List Char)}
    (h : IsBlock name block) :
    ∃ ls : List Line, itemsOfLines block = .header name :: ls.map .line := by
  obtain ⟨header, body, rfl, hheader, hbody⟩ := h
  obtain ⟨ls, hls⟩ := exists_lines_of_no_header hbody
  exact ⟨ls, by rw [itemsOfLines_header hheader, hls]⟩

/-- What stands under a header does not depend on what stood above it. -/
theorem keyedLines_of_header {lines : List (List Char)}
    (h : ∀ line ∈ lines.head?, (headerOf? line).isSome) (current current' : String) :
    keyedLines current (itemsOfLines lines) = keyedLines current' (itemsOfLines lines) := by
  cases lines with
  | nil => rfl
  | cons line rest =>
    obtain ⟨name, hname⟩ := Option.isSome_iff_exists.mp (h line rfl)
    rw [itemsOfLines_header hname]
    rfl

/-! ### Each change -/

/-- The same titles and the same lines under each key are all that is needed. -/
theorem itemsAlike_of_titles {items items' : List Item} (made : TileTable → Prop)
    (htitles : SameTitles (titles items) (titles items'))
    (hlines : ∀ key, linesUnder key items = linesUnder key items') :
    ItemsAlike made items items' := by
  refine ⟨htitles.starting, fun key => by rw [hlines], by rw [hlines], fun tiles _ => ?_⟩
  simp only [sectionsStarting_sectionsOf, htitles.starting "layer" (.inl rfl), hlines]

/-- Blocks of sections that do not meet may change places. -/
theorem itemsAlike_pass (made : TileTable → Prop) (before after : List (List Char)) {a b : String}
    {block block' : List (List Char)} (ha : IsBlock a block) (hb : IsBlock b block')
    (hafter : ∀ line ∈ after.head?, (headerOf? line).isSome)
    (hpass : MayPass (sectionKey a) (sectionKey b)) :
    ItemsAlike made (itemsOfLines (before ++ block ++ block' ++ after))
      (itemsOfLines (before ++ block' ++ block ++ after)) := by
  obtain ⟨la, hla⟩ := exists_items_of_isBlock ha
  obtain ⟨lb, hlb⟩ := exists_items_of_isBlock hb
  simp only [itemsOfLines_append, hla, hlb]
  refine itemsAlike_of_titles made ?_ fun key => ?_
  · simp only [titles_eq, addTitles_append, addTitles_header, addTitles_map_line]
    exact (sameTitles_swap _ hpass).addTitles _
  · have hend := keyedLines_of_header hafter (sectionKey b) (sectionKey a)
    simp only [linesUnder, keyedLines_append, keyedLines, keyedLines_map_line, keyAfter_map_line,
      keyAfter_header, List.filter_append, hend, List.append_assoc]
    congr 2
    rw [← List.append_assoc, ← List.append_assoc]
    congr 1
    rw [filter_keyed, filter_keyed]
    by_cases hkey : sectionKey a = key
    · have hnot : ¬ sectionKey b = key := fun h => hpass.1 (hkey.trans h.symm)
      simp [hkey, hnot]
    · simp [hkey]

/-- A section may be split where a line starts by repeating its header. -/
theorem itemsAlike_split (made : TileTable → Prop) (before after : List (List Char))
    {name : String} {header : List Char} {body : List (List Char)}
    (hheader : headerOf? header = some name) (hbody : ∀ line ∈ body, headerOf? line = none) :
    ItemsAlike made (itemsOfLines (before ++ header :: body ++ after))
      (itemsOfLines (before ++ header :: body ++ header :: after)) := by
  obtain ⟨ls, hls⟩ := exists_lines_of_no_header hbody
  simp only [itemsOfLines_append, itemsOfLines_header hheader, hls]
  refine itemsAlike_of_titles made ?_ fun key => ?_
  · have htwice (found : List (String × String)) :
        addTitle (addTitle found name) name = addTitle found name := by
      rw [addTitle, if_pos]
      rw [lookup_addTitle, if_pos rfl]
      cases found.lookup (sectionKey name) <;> rfl
    simp only [titles_eq, addTitles_append, addTitles_header, addTitles_map_line, htwice]
    exact .refl _
  · simp only [linesUnder, keyedLines_append, keyedLines, keyAfter_append, keyAfter_header,
      keyAfter_map_line]

/-- No change of the layout changes what is read. -/
theorem LayoutChange.itemsAlike {lines lines' : List (List Char)} (h : LayoutChange lines lines')
    (made : TileTable → Prop) : ItemsAlike made (itemsOfLines lines) (itemsOfLines lines') := by
  cases h with
  | @blankLine before after line hline =>
    have hnone : Item.of? 0 line = none := by rw [Item.of?, trim_of_blank hline]
    rw [itemsOfLines_append, itemsOfLines_append, itemsOfLines.eq_def (line :: after),
      List.filterMap_cons, hnone]
    exact .refl made _
  | @margins before after text left right left' right' hleft hright hleft' hright' =>
    have hitem : Item.of? 0 (left ++ text ++ right) = Item.of? 0 (left' ++ text ++ right') := by
      rw [Item.of?, Item.of?, trim_margins hleft hright, trim_margins hleft' hright']
    have hlines : itemsOfLines ((left ++ text ++ right) :: after) =
        itemsOfLines ((left' ++ text ++ right') :: after) := by
      rw [itemsOfLines, itemsOfLines, List.filterMap_cons, List.filterMap_cons, hitem]
    rw [itemsOfLines_append, itemsOfLines_append, hlines]
    exact .refl made _
  | pass before after ha hb hafter hpass =>
    exact itemsAlike_pass made before after ha hb hafter hpass
  | split before after hheader hbody => exact itemsAlike_split made before after hheader hbody

/-! ### Main result -/

/-- Texts that differ in their layout only describe the same map, or are refused with errors that
differ at most in the number of the line. -/
theorem compile_of_sameLayout {text text' : String} (h : SameLayout text text')
    (options : CompileOptions) :
    (compile text options).mapError MapError.unnumbered =
      (compile text' options).mapError MapError.unnumbered :=
  compile_of_eqvGen (fun _ _ h => h.itemsAlike _) h

def yardLines : List String := ["[Tiles]", ". = floor", "[Layer]", ". .", "."]

/-- The map text with its sections the other way round, one of them in two pieces with a blank line
between, and a line that is moved in and ends in a carriage return. -/
def looseYardLines : List String :=
  ["[Layer]", ". .", "", "[Layer]", "\t.\r", "[Tiles]", ". = floor"]

theorem compile_of_sameLayout_yard :
    SameLayout (textOf yardLines) (textOf looseYardLines) ∧
      (compile (textOf yardLines) .default).mapError MapError.unnumbered =
        (compile (textOf looseYardLines) .default).mapError MapError.unnumbered := by
  have htiles : IsBlock "Tiles" ["[Tiles]".toList, ". = floor".toList] :=
    ⟨_, _, rfl, by decide, by decide⟩
  have hlayer : IsBlock "Layer" ["[Layer]".toList, ". .".toList, ".".toList] :=
    ⟨_, _, rfl, by decide, by decide⟩
  have hmay : MayPass (sectionKey "Tiles") (sectionKey "Layer") := by
    unfold MayPass
    decide +kernel
  have hpass : SameLayout (textOf yardLines)
      (textOf ["[Layer]", ". .", ".", "[Tiles]", ". = floor"]) := by
    apply eqvGen_textOf (by decide) (by decide) (by decide) (by decide)
    exact .pass [] [] htiles hlayer (by simp) hmay
  have hsplit : SameLayout (textOf ["[Layer]", ". .", ".", "[Tiles]", ". = floor"])
      (textOf ["[Layer]", ". .", "[Layer]", ".", "[Tiles]", ". = floor"]) := by
    apply eqvGen_textOf (by decide) (by decide) (by decide) (by decide)
    exact @LayoutChange.split [] [".".toList, "[Tiles]".toList, ". = floor".toList] "Layer"
      "[Layer]".toList [". .".toList] (by decide) (by decide)
  have hblank : SameLayout (textOf ["[Layer]", ". .", "[Layer]", ".", "[Tiles]", ". = floor"])
      (textOf ["[Layer]", ". .", "", "[Layer]", ".", "[Tiles]", ". = floor"]) := by
    apply eqvGen_textOf (by decide) (by decide) (by decide) (by decide)
    exact @LayoutChange.blankLine ["[Layer]".toList, ". .".toList]
      ["[Layer]".toList, ".".toList, "[Tiles]".toList, ". = floor".toList] [] (by simp)
  have hmargins : SameLayout (textOf ["[Layer]", ". .", "", "[Layer]", ".", "[Tiles]", ". = floor"])
      (textOf looseYardLines) := by
    apply eqvGen_textOf (by decide) (by decide) (by decide) (by decide)
    exact @LayoutChange.margins ["[Layer]".toList, ". .".toList, [], "[Layer]".toList]
      ["[Tiles]".toList, ". = floor".toList] ['.'] [] [] ['\t'] ['\r'] (by simp) (by simp)
      (List.forall_mem_singleton.mpr rfl) (List.forall_mem_singleton.mpr rfl)
  have h : SameLayout (textOf yardLines) (textOf looseYardLines) :=
    hpass.trans _ _ _ (hsplit.trans _ _ _ (hblank.trans _ _ _ hmargins))
  exact ⟨h, compile_of_sameLayout h .default⟩

end Tilemap
