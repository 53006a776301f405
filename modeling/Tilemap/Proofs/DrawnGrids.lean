import Tilemap.Proofs.SourceLines
import Tilemap.Proofs.TileReferences

/-!
# Grids of symbols

A grid of symbols that is written below the header of a layer is that layer
(`compileLayers_gridText`). A row of symbols may look like a comment, or like text with a comment
behind it, or may spell a word for an empty cell. But where a comment could be cut off there is a
`#`; so `#` is a tile, and the whole line is tried first. The whole line reads as its symbols,
whether there are spaces between them or not (`DrawsSymbols.row_eq`), and fits below the rows above
it because these are rows of the grid.
-/

namespace Tilemap

open Text

/-! ### Statement -/

/-- A character that a table binds and that means nothing else in a line: it is no blank, which ends
a word, no colon, which ends a key, and does not start a header. -/
def IsSymbol (tiles : TileTable) (c : Char) : Prop :=
  (tiles.symbol? (String.singleton c)).isSome ∧ ¬ isBlank c ∧ c ≠ ':' ∧ c ≠ '['

/-- At least one row of symbols, and in every row the same number of them, at least one. -/
structure IsGrid (tiles : TileTable) (width : Nat) (grid : List (List Char)) : Prop where
  ne_nil : grid ≠ []
  width_pos : 0 < width
  length : ∀ row ∈ grid, row.length = width
  symbols : ∀ row ∈ grid, ∀ c ∈ row, IsSymbol tiles c

/-- The symbols of a row with a space between them. -/
def spaced (row : List Char) : List Char := [' '].intercalate (row.map fun c => [c])

/-- A line draws a row, with spaces between the symbols or without. -/
inductive Draws (row : List Char) : String → Prop where
  | dense : Draws row (String.ofList row)
  | spaced : Draws row (String.ofList (spaced row))

/-- What the symbols of a row stand for. -/
def TileTable.cells (tiles : TileTable) (row : List Char) : List Cell :=
  row.map fun c => tiles.symbol? (String.singleton c)

/-- The header of a layer, the rows of a grid below it, and `n` empty lines. -/
def gridText (lines : List String) (n : Nat) : String :=
  textOf ("[Layer]" :: (lines ++ List.replicate n ""))

/-! ### Rows with spaces -/

theorem spaced_cons_cons (c d : Char) (row : List Char) :
    spaced (c :: d :: row) = c :: ' ' :: spaced (d :: row) := rfl

theorem mem_spaced {row : List Char} {c : Char} (h : c ∈ spaced row) : c ∈ row ∨ c = ' ' := by
  induction row with
  | nil => cases h
  | cons d row ih =>
    cases row with
    | nil => exact .inl h
    | cons e row =>
      rw [spaced_cons_cons, List.mem_cons, List.mem_cons] at h
      rcases h with rfl | rfl | h
      · exact .inl List.mem_cons_self
      · exact .inr rfl
      · exact (ih h).imp_left (List.mem_cons_of_mem d)

theorem head?_spaced (row : List Char) : (spaced row).head? = row.head? := by
  cases row with
  | nil => rfl
  | cons c row => cases row <;> rfl

theorem trimEnd_spaced {row : List Char} (h : ∀ c ∈ row, ¬ isBlank c) :
    trimEnd (spaced row) = spaced row := by
  induction row with
  | nil => rfl
  | cons c row ih =>
    obtain ⟨hc, hrow⟩ := List.forall_mem_cons.mp h
    cases row with
    | nil => exact trimEnd_cons_of_not_blank hc []
    | cons d row =>
      have hrest := ih hrow
      obtain ⟨s, hs⟩ := List.head?_eq_some_iff.mp (head?_spaced (d :: row))
      rw [spaced_cons_cons, trimEnd_cons_of_not_blank hc, trimEnd, hrest, hs]

theorem words_spaced {row : List Char} (h : ∀ c ∈ row, ¬ isBlank c) :
    words (spaced row) = row.map fun c => [c] := by
  induction row with
  | nil => rfl
  | cons c row ih =>
    obtain ⟨hc, hrow⟩ := List.forall_mem_cons.mp h
    have hword : words [c] = [[c]] := by rw [words, pieces_of_none (by simpa using hc)]; rfl
    cases row with
    | nil => exact hword
    | cons d row =>
      have hspace : isBlank ' ' := by decide
      have happend := words_append_blank hspace [c] (spaced (d :: row))
      rw [hword, ih hrow] at happend
      exact happend

/-! ### Lines that draw rows -/

/-- A symbol stands for its tile and not for an empty cell. -/
theorem IsSymbol.cell?_eq {tiles : TileTable} {c : Char} (h : IsSymbol tiles c) :
    tiles.cell? (String.singleton c) = some (tiles.symbol? (String.singleton c)) := by
  have hword : ¬ emptyWords.contains (String.ofList (asciiLower (String.singleton c).toList)) := by
    intro hmem
    have hlength : ∀ w ∈ emptyWords, w.toList.length ≠ 1 := by decide
    exact hlength _ (List.contains_iff_mem.mp hmem) (by simp [asciiLower])
  obtain ⟨id, hid⟩ := Option.isSome_iff_exists.mp h.1
  rw [TileTable.cell?, if_neg hword, hid]

namespace Draws

variable {row : List Char} {line : String}

theorem mem (h : Draws row line) {c : Char} (hc : c ∈ line.toList) : c ∈ row ∨ c = ' ' := by
  cases h with
  | dense => exact .inl (by simpa using hc)
  | spaced => exact mem_spaced (by simpa using hc)

theorem head?_eq (h : Draws row line) : line.toList.head? = row.head? := by
  cases h with
  | dense => rw [String.toList_ofList]
  | spaced => rw [String.toList_ofList, head?_spaced]

theorem trimEnd_eq (h : Draws row line) (hblank : ∀ c ∈ row, ¬ isBlank c) :
    trimEnd line.toList = line.toList := by
  cases h with
  | dense => rw [String.toList_ofList, trimEnd_of_not_blank hblank]
  | spaced => rw [String.toList_ofList, trimEnd_spaced hblank]

/-- However a row is drawn, its tokens are its symbols. -/
theorem rowTokens_eq (h : Draws row line) (hne : row ≠ []) (hblank : ∀ c ∈ row, ¬ isBlank c) :
    rowTokens line = row.map String.singleton := by
  cases h with
  | dense => rw [rowTokens, String.toList_ofList, words_of_not_blank hne hblank]
  | spaced =>
    rw [rowTokens, String.toList_ofList, words_spaced hblank]
    split
    · rename_i dense heq
      obtain ⟨c, rfl, rfl⟩ := List.map_eq_singleton_iff.mp heq
      rfl
    · rw [List.map_map]
      rfl

end Draws

/-- A line draws a row of symbols, of which there is at least one. -/
structure DrawsSymbols (tiles : TileTable) (row : List Char) (line : String) : Prop where
  draws : Draws row line
  ne_nil : row ≠ []
  symbols : ∀ c ∈ row, IsSymbol tiles c

namespace DrawsSymbols

variable {tiles : TileTable} {row : List Char} {line : String}

theorem not_blank (h : DrawsSymbols tiles row line) : ∀ c ∈ row, ¬ isBlank c :=
  fun c hc => (h.symbols c hc).2.1

theorem notMem (h : DrawsSymbols tiles row line) {c : Char} (hc : ¬ IsSymbol tiles c)
    (hspace : c ≠ ' ') : c ∉ line.toList :=
  fun hmem => (h.draws.mem hmem).elim (fun hrow => hc (h.symbols c hrow)) hspace

theorem exists_cons (h : DrawsSymbols tiles row line) :
    ∃ c r, line.toList = c :: r ∧ IsSymbol tiles c := by
  obtain ⟨c, rest, hrow⟩ := List.exists_cons_of_ne_nil h.ne_nil
  have hhead : line.toList.head? = some c := by rw [h.draws.head?_eq, hrow, List.head?_cons]
  obtain ⟨r, hr⟩ := List.head?_eq_some_iff.mp hhead
  exact ⟨c, r, hr, h.symbols c (hrow ▸ List.mem_cons_self)⟩

theorem trim_eq (h : DrawsSymbols tiles row line) : trim line.toList = line.toList := by
  obtain ⟨c, r, hline, -, hblank, -⟩ := h.exists_cons
  have hstart : trimStart line.toList = line.toList := by
    rw [hline]
    exact List.dropWhile_cons_of_neg hblank
  rw [trim, hstart, h.draws.trimEnd_eq h.not_blank]

theorem isText (h : DrawsSymbols tiles row line) : IsText line.toList := by
  obtain ⟨c, r, hline, -, hblank, -, hbracket⟩ := h.exists_cons
  obtain ⟨r', hr'⟩ := stripCommentChars_cons hblank r
  rw [IsText, h.trim_eq]
  refine ⟨by rw [hline]; exact List.cons_ne_nil c r, ?_⟩
  rintro name ⟨inner, hinner, -⟩
  rw [h.trim_eq, hline, hr'] at hinner
  exact hbracket (List.cons.inj hinner).1

/-- A line that draws a row of symbols reads as that row. -/
theorem row_eq (h : DrawsSymbols tiles row line) : tiles.row line = .ok (tiles.cells row) := by
  have hcells : ∀ c ∈ row, tiles.cell? (String.singleton c) =
      some (tiles.symbol? (String.singleton c)) := fun c hc => (h.symbols c hc).cell?_eq
  rw [TileTable.row, h.draws.rowTokens_eq h.ne_nil h.not_blank, List.mapM_map]
  clear h
  induction row with
  | nil => rfl
  | cons c row ih =>
    obtain ⟨hc, hrow⟩ := List.forall_mem_cons.mp hcells
    rw [List.mapM_cons, ih hrow, Function.comp_apply, hc]
    rfl

end DrawsSymbols

/-! ### Layers that are drawn -/

/-- A line is the next row of a layer if it reads as one that fits, has no colon, and has nothing
that could be a comment unless `#` is a tile. -/
theorem TileLayer.addLine_of_row {tiles : TileTable} {l : TileLayer} {line : Line} {row : List Cell}
    (hrow : tiles.row line.raw = .ok row) (hfits : l.fits row)
    (hcode : tiles.isBound "#" = false → line.code = some line.raw)
    (hcolon : ':' ∉ line.raw.toList) :
    l.addLine tiles line = .ok { l with tiles := l.tiles ++ [row] } := by
  have hadd : l.addRow row = .ok { l with tiles := l.tiles ++ [row] } := by
    rw [addRow, if_pos hfits]
  by_cases hcut : tiles.isBound "#" && line.code ≠ some line.raw
  · have huncut : l.uncutRow? tiles line = some row := by
      rw [uncutRow?, if_pos hcut, hrow]
      exact if_pos hfits
    rw [addLine, huncut]
    exact hadd
  · have huncut : l.uncutRow? tiles line = none := by rw [uncutRow?, if_neg hcut]
    have hraw : line.code = some line.raw := by
      cases hbound : tiles.isBound "#" with
      | false => exact hcode hbound
      | true => simpa [hbound] using hcut
    have hproperty : layerProperty? line.raw = none := by
      rw [layerProperty?, cut?_of_notMem hcolon]
    simp only [addLine, huncut, hraw, hproperty, ite_self, hrow]
    exact hadd

/-- A line that draws a row of symbols is the next row of a layer. -/
theorem DrawsSymbols.addLine {tiles : TileTable} {row : List Char} {line : String}
    (h : DrawsSymbols tiles row line) {l : TileLayer} (hfits : l.fits (tiles.cells row)) :
    l.addLine tiles (.ofSource 0 line.toList) =
      .ok { l with tiles := l.tiles ++ [tiles.cells row] } := by
  have hraw : (Line.ofSource 0 line.toList).raw = line := by
    rw [Line.ofSource, h.trim_eq, String.ofList_toList]
  apply TileLayer.addLine_of_row _ hfits
  · intro hbound
    have hsymbol : ¬ IsSymbol tiles '#' := by
      rintro ⟨hsome, -⟩
      have hsome : (tiles.symbol? "#").isSome := hsome
      rw [TileTable.isBound, hsome] at hbound
      cases hbound
    have hhash : '#' ∉ line.toList := h.notMem hsymbol (by decide)
    have hhead : (trim line.toList).head? ≠ some '#' := by
      rw [h.trim_eq]
      exact fun heq => hhash (List.mem_of_mem_head? heq)
    rw [hraw, Line.ofSource, if_neg hhead, h.trim_eq, stripCommentChars_of_notMem hhash,
      String.ofList_toList]
  · rw [hraw]
    exact h.notMem (fun hcolon => hcolon.2.2.1 rfl) (by decide)
  · rw [hraw]
    exact h.row_eq

variable {tiles : TileTable} {width : Nat} {grid : List (List Char)} {lines : List String}

/-- The lines of a grid, as they are read. -/
def gridLines (lines : List String) : List Line := lines.map fun line => .ofSource 0 line.toList

/-- Rows of one length come below the rows of a layer one after the other. -/
theorem foldlM_addLine (h : List.Forall₂ (DrawsSymbols tiles) grid lines)
    (hlength : ∀ row ∈ grid, row.length = width) (l : TileLayer)
    (hfirst : ∀ first ∈ l.tiles.head?, first.length = width) :
    (gridLines lines).foldlM (TileLayer.addLine tiles) l =
      .ok { l with tiles := l.tiles ++ grid.map tiles.cells } := by
  induction h generalizing l with
  | nil => simp [gridLines, pure, Except.pure]
  | @cons row line grid lines hline _ ih =>
    obtain ⟨hrow, hgrid⟩ := List.forall_mem_cons.mp hlength
    have hcells : (tiles.cells row).length = width := by rw [TileTable.cells, List.length_map, hrow]
    have hfits : l.fits (tiles.cells row) := by
      rw [TileLayer.fits, Option.all_eq_true]
      intro first hf
      simpa [hcells] using hfirst first hf
    -- a row fits if it is as long as the first one, so only the first one has to be kept in view
    have hnext : ∀ first ∈ (l.tiles ++ [tiles.cells row]).head?, first.length = width := by
      cases htiles : l.tiles with
      | nil => simpa using hcells
      | cons first rest => simpa [htiles] using hfirst
    have hrest := ih hgrid { l with tiles := l.tiles ++ [tiles.cells row] } hnext
    rw [List.append_assoc, List.singleton_append] at hrest
    rw [gridLines, List.map_cons, List.foldlM_cons, hline.addLine hfits]
    exact hrest

/-! ### Main result -/

theorem exists_row_of_mem (h : List.Forall₂ (DrawsSymbols tiles) grid lines) :
    ∀ line ∈ lines, ∃ row, DrawsSymbols tiles row line := by
  induction h with
  | nil => simp
  | @cons row line _ _ hline _ ih => exact List.forall_mem_cons.mpr ⟨⟨row, hline⟩, ih⟩

/-- A text of a header and drawn rows is read as these rows below the header. -/
theorem itemsOfLines_gridText (h : List.Forall₂ (DrawsSymbols tiles) grid lines) (n : Nat) :
    itemsOfLines (linesOf (gridText lines n)) =
      .header "Layer" :: (gridLines lines).map .line := by
  have hdraws := exists_row_of_mem h
  have hlines : linesOf (gridText lines n) =
      "[Layer]".toList :: (lines.map String.toList ++ List.replicate n []) := by
    have hnewline : ∀ line ∈ "[Layer]" :: (lines ++ List.replicate n ""), '\n' ∉ line.toList := by
      rw [List.forall_mem_cons, List.forall_mem_append]
      refine ⟨by decide, fun line hline => ?_, fun line hline => ?_⟩
      · obtain ⟨row, hrow⟩ := hdraws line hline
        exact hrow.notMem (fun hsymbol => hsymbol.2.1 (by decide)) (by decide)
      · rw [List.eq_of_mem_replicate hline]
        simp
    rw [gridText, linesOf_textOf (List.cons_ne_nil _ _) hnewline]
    simp
  have hrows : itemsOfLines (lines.map String.toList) = (gridLines lines).map .line := by
    rw [itemsOfLines, List.filterMap_map, gridLines, List.map_map]
    apply List.filterMap_eq_map_iff_forall_eq_some.mpr
    intro line hline
    obtain ⟨row, hrow⟩ := hdraws line hline
    exact Item.of?_of_isText 0 hrow.isText
  have hblank : itemsOfLines (List.replicate n []) = [] := by
    rw [itemsOfLines, List.filterMap_eq_nil_iff]
    intro line hline
    rw [List.eq_of_mem_replicate hline]
    rfl
  have hheader : headerOf? "[Layer]".toList = some "Layer" := by decide +kernel
  rw [hlines, itemsOfLines_header hheader, itemsOfLines_append, hrows, hblank, List.append_nil]

/-- A header of a layer and lines without headers make that layer. -/
theorem sectionsStarting_layer (ls : List Line) :
    sectionsStarting (sectionsOf (.header "Layer" :: ls.map .line)) "layer" =
      [⟨"layer", "Layer", ls⟩] := by
  have hkey : sectionKey "Layer" = "layer" := by decide +kernel
  have htitles : titles (.header "Layer" :: ls.map .line) =
      [(metaKey, "Meta"), ("layer", "Layer")] := by
    rw [titles_eq, addTitles_header, addTitles_map_line, addTitle, hkey]
    decide
  have hlines : linesUnder "layer" (.header "Layer" :: ls.map .line) = ls := by
    rw [linesUnder, keyedLines, hkey, keyedLines_map_line, filter_keyed, if_pos rfl, List.map_map]
    exact List.map_id ls
  have hfilter : [(metaKey, "Meta"), ("layer", "Layer")].filter (keyStarts "layer" ·.1) =
      [("layer", "Layer")] := by decide
  rw [sectionsStarting_sectionsOf, htitles, hfilter, List.map_singleton]
  dsimp only
  rw [hlines]

/-- A section that draws a layer draws it alone. -/
theorem compileLayers_singleton {s : Section} {l : TileLayer}
    (h : compileLayer tiles s 0 = .ok (some l)) : compileLayers tiles [s] = .ok [l] := by
  rw [compileLayers, List.zipIdx_singleton]
  simp only [List.mapM_cons, List.mapM_nil, h]
  show Except.ok (sortTileLayers [l]) = _
  rw [sortTileLayers, List.mergeSort_singleton]

/-- The rows of a grid below the header of a layer draw the grid, and nothing else. -/
theorem compileLayers_gridText (h : IsGrid tiles width grid)
    (hlines : List.Forall₂ Draws grid lines) (n : Nat) :
    ∃ l, compileLayers tiles (sectionsStarting (splitSections (gridText lines n)) "layer") =
        .ok [l] ∧
      l.height = grid.length ∧ l.width = width ∧ l.tiles = grid.map tiles.cells := by
  have hdraws : List.Forall₂ (DrawsSymbols tiles) grid lines := by
    have hrows : ∀ row ∈ grid, row ≠ [] ∧ ∀ c ∈ row, IsSymbol tiles c := fun row hrow =>
      ⟨List.length_pos_iff.mp (h.length row hrow ▸ h.width_pos), h.symbols row hrow⟩
    exact ((List.forall₂_and_left _ _).mpr ⟨hrows, hlines⟩).imp
      fun row line ⟨⟨hne, hsymbols⟩, hline⟩ => ⟨hline, hne, hsymbols⟩
  let s : Section := ⟨"layer", "Layer", gridLines lines⟩
  let l : TileLayer := { TileLayer.start s 0 with tiles := grid.map tiles.cells }
  have hfold : s.lines.foldlM (TileLayer.addLine tiles) (TileLayer.start s 0) = .ok l :=
    foldlM_addLine hdraws h.length (TileLayer.start s 0) (by simp [TileLayer.start])
  have hlayer : compileLayer tiles s 0 = .ok (some l) := by
    have hne : l.tiles.isEmpty = false := by simpa [l] using h.ne_nil
    rw [compileLayer, hfold]
    show Except.ok (if l.tiles.isEmpty then none else some l) = _
    rw [hne, if_neg Bool.false_ne_true]
  refine ⟨l, ?_, List.length_map _, ?_, rfl⟩
  · rw [compileLayers_splitSections, itemsOfLines_gridText hdraws, sectionsStarting_layer]
    exact compileLayers_singleton hlayer
  · obtain ⟨row, rest, hgrid⟩ := List.exists_cons_of_ne_nil h.ne_nil
    simp [TileLayer.width, l, hgrid, TileTable.cells, h.length row (by simp [hgrid])]

def gardenTiles : TileTable :=
  .ofCatalog (Catalog.builtin ++ [.fresh "nettle" "n", .fresh "oak" "o", .fresh "elm" "e",
    .fresh "ash" "a"])

theorem compileLayers_gridText_garden :
    IsGrid gardenTiles 4 ["none".toList, "##a.".toList] ∧
    List.Forall₂ Draws ["none".toList, "##a.".toList] ["none", "# # a ."] ∧
    ∃ l, compileLayers gardenTiles (sectionsStarting
        (splitSections (gridText ["none", "# # a ."] 1)) "layer") = .ok [l] ∧
      l.height = 2 ∧ l.width = 4 ∧
        l.tiles = ["none".toList, "##a.".toList].map gardenTiles.cells := by
  have hgrid : IsGrid gardenTiles 4 ["none".toList, "##a.".toList] := by
    refine ⟨by decide, by decide, by decide, fun row hrow c hc => ?_⟩
    have hall : ["none".toList, "##a.".toList].all fun row => row.all fun c =>
        (gardenTiles.symbol? (String.singleton c)).isSome && !isBlank c && c ≠ ':' && c ≠ '[' := by
      decide +kernel
    have hc := List.all_eq_true.mp (List.all_eq_true.mp hall row hrow) c hc
    simpa [IsSymbol, and_assoc] using hc
  have hlines : List.Forall₂ Draws ["none".toList, "##a.".toList] ["none", "# # a ."] :=
    .cons .dense (.cons .spaced .nil)
  exact ⟨hgrid, hlines, compileLayers_gridText hgrid hlines 1⟩

end Tilemap
