import Tilemap.Proofs.DrawnGrids

/-!
# Walls and comments in a layer

When `#` is a tile, a `#` in a layer is a cell or starts a comment, and nothing but the rest of its
line says which. A line is tried as a whole first, and is a row if all its words are cells and there
are as many of them as in the first row. Otherwise it is read as anywhere else: it is passed over if
it starts with `#`, and is cut off at the first `#` behind a space if not.

So below the first row a line of symbols that starts with `#` and has another width is a comment,
and not an error (`compileLayers_hashLine`). A remark behind a row says nothing to the layer as long
as there is no `#` in the row itself, and takes away a part of the layer if there is one
(`compileLayer_remarked`).
-/

namespace Tilemap

open Text

/-! ### Statements -/

/-- A line that starts with `#` and of which all tokens are symbols. -/
structure IsHashLine (tiles : TileTable) (line : Line) : Prop where
  source : ∃ number text, line = .ofSource number text
  head : line.raw.toList.head? = some '#'
  symbols : ∀ token ∈ rowTokens line.raw, (tiles.symbol? token).isSome

/-- A text with ` # ` and a remark behind it. -/
def withRemark (text remark : List Char) : List Char := text ++ ' ' :: '#' :: ' ' :: remark

/-- A remark that cannot be taken for cells. -/
def IsRemark (tiles : TileTable) (remark : List Char) : Prop :=
  ∃ w ∈ words remark, tiles.cell? (String.ofList w) = none

/-- A line of a text, and what a remark behind it says, if there is one. -/
structure RemarkedLine where
  number : Nat
  text : List Char
  remark : Option (List Char)

namespace RemarkedLine

def bare (r : RemarkedLine) : Line := .ofSource r.number r.text

def line (r : RemarkedLine) : Line :=
  match r.remark with
  | none => r.bare
  | some remark => .ofSource r.number (withRemark r.text remark)

/-- The line is not blank, and a remark behind it is told from cells. -/
structure Reads (tiles : TileTable) (r : RemarkedLine) : Prop where
  not_blank : ∃ c ∈ r.text, ¬ isBlank c
  remark : ∀ remark ∈ r.remark, IsRemark tiles remark

/-- The line draws a row of symbols with a space between them. -/
structure DrawsRow (tiles : TileTable) (r : RemarkedLine) (row : List Char) : Prop where
  text_eq : r.text = spaced row
  ne_nil : row ≠ []
  symbols : ∀ c ∈ row, IsSymbol tiles c

end RemarkedLine

variable {tiles : TileTable}

/-! ### Layers among others -/

/-- The layers of several sections, by one of them. -/
theorem compileLayers_append_cons (pre post : List Section) (s : Section) :
    compileLayers tiles (pre ++ s :: post) = (do
      let above ← pre.zipIdx.mapM fun (s, index) => compileLayer tiles s index
      let layer ← compileLayer tiles s pre.length
      let below ← (post.zipIdx (pre.length + 1)).mapM fun (s, index) => compileLayer tiles s index
      return sortTileLayers ((above ++ layer :: below).filterMap id)) := by
  rw [compileLayers, List.zipIdx_append, List.zipIdx_cons, Nat.zero_add]
  simp only [List.mapM_append, List.mapM_cons, bind_assoc, pure_bind]

/-- What a section draws is among the layers. -/
theorem mem_compileLayers {pre post : List Section} {s : Section} {layers : List TileLayer}
    (h : compileLayers tiles (pre ++ s :: post) = .ok layers) :
    ∃ l, s.lines.foldlM (TileLayer.addLine tiles) (TileLayer.start s pre.length) = .ok l ∧
      (l.tiles ≠ [] → l ∈ layers) := by
  rw [compileLayers_append_cons] at h
  simp only [bind_eq_ok, pure_eq_ok] at h
  obtain ⟨above, -, layer, hlayer, below, -, rfl⟩ := h
  have hfold : ∃ l, s.lines.foldlM (TileLayer.addLine tiles) (.start s pre.length) = .ok l := by
    rw [compileLayer] at hlayer
    obtain ⟨l, hl, -⟩ := bind_eq_ok.mp hlayer
    exact ⟨l, hl⟩
  obtain ⟨l, hl⟩ := hfold
  refine ⟨l, hl, fun hne => ?_⟩
  obtain rfl : layer = some l :=
    Except.ok.inj (hlayer.symm.trans (compileLayer_eq_some.mpr ⟨hl, hne⟩))
  rw [sortTileLayers, (List.mergeSort_perm ..).mem_iff]
  simp

/-! ### What a line does -/

namespace TileLayer

variable {l l' : TileLayer} {line : Line}

/-- A line adds one row at most. -/
theorem tiles_of_addLine (h : l.addLine tiles line = .ok l') :
    l'.tiles = l.tiles ∨ ∃ text row, (text = line.raw ∨ line.code = some text) ∧
      tiles.row text = .ok row ∧ l'.tiles = l.tiles ++ [row] := by
  rcases addLine_eq_ok h with ⟨text, row, htext, hrow, hadd⟩ | ⟨-, key, value, -, -, rfl⟩ | rfl
  · obtain ⟨-, rfl⟩ := addRow_eq_ok.mp hadd
    exact .inr ⟨text, row, htext, hrow, rfl⟩
  · exact .inl (tiles_set l key value)
  · exact .inl rfl

/-- Lines add no more rows than there are lines. -/
theorem exists_tiles_of_foldlM {lines : List Line}
    (h : lines.foldlM (TileLayer.addLine tiles) l = .ok l') :
    ∃ added, l'.tiles = l.tiles ++ added ∧ added.length ≤ lines.length := by
  induction lines generalizing l with
  | nil =>
    obtain rfl := pure_eq_ok.mp h
    exact ⟨[], by simp, Nat.le_refl 0⟩
  | cons line rest ih =>
    rw [List.foldlM_cons] at h
    obtain ⟨next, hnext, h⟩ := bind_eq_ok.mp h
    obtain ⟨added, hadded, hle⟩ := ih h
    rcases tiles_of_addLine hnext with hsame | ⟨-, row, -, -, hrow⟩
    · exact ⟨added, by rw [hadded, hsame], Nat.le_succ_of_le hle⟩
    · exact ⟨row :: added, by rw [hadded, hrow, List.append_assoc, List.singleton_append],
        Nat.succ_le_succ hle⟩

/-- Below the first row, lines only add rows. -/
theorem exists_rows_below {lines : List Line} (hne : l.tiles ≠ [])
    (h : lines.foldlM (TileLayer.addLine tiles) l = .ok l') :
    ∃ below, l' = { l with tiles := l.tiles ++ below } := by
  have hstep : ∀ line ∈ lines, ∀ next next' : TileLayer,
      (next.tiles ≠ [] ∧ ∃ below, next = { l with tiles := l.tiles ++ below }) →
        next.addLine tiles line = .ok next' →
          next'.tiles ≠ [] ∧ ∃ below, next' = { l with tiles := l.tiles ++ below } := by
    rintro line - next next' ⟨hnext, below, rfl⟩ hadd
    have hrow {row : List Cell} (hadd : addRow { l with tiles := l.tiles ++ below } row =
        .ok next') : next'.tiles ≠ [] ∧ ∃ below, next' = { l with tiles := l.tiles ++ below } := by
      obtain ⟨-, rfl⟩ := addRow_eq_ok.mp hadd
      exact ⟨by simp, below ++ [row], by rw [← List.append_assoc]⟩
    rw [addLine] at hadd
    split at hadd
    · exact hrow hadd
    · split at hadd
      · obtain rfl := Except.ok.inj hadd
        exact ⟨hnext, below, rfl⟩
      · rw [if_neg (by simpa using hnext)] at hadd
        dsimp only at hadd
        split at hadd
        · exact hrow hadd
        · cases hadd
  exact (foldlM_preserves hstep ⟨hne, [], by simp⟩ h).2

end TileLayer

section Within

variable {pre post : List Section} {s : Section} {before after : List Line} {line : Line}
  {l next : TileLayer}

/-- What is drawn down to a line stays when the layer goes on. -/
theorem exists_mem_compileLayers
    (hbefore : before.foldlM (TileLayer.addLine tiles) (.start s pre.length) = .ok l)
    (hadd : l.addLine tiles line = .ok next) (hne : next.tiles ≠ []) {layers : List TileLayer}
    (h : compileLayers tiles (pre ++ { s with lines := before ++ line :: after } :: post) =
      .ok layers) :
    ∃ below, { next with tiles := next.tiles ++ below } ∈ layers := by
  obtain ⟨final, hfinal, hmem⟩ := mem_compileLayers h
  have hsplit : (before ++ line :: after).foldlM (TileLayer.addLine tiles) (.start s pre.length) =
      .ok final := hfinal
  rw [List.foldlM_append, hbefore] at hsplit
  obtain ⟨next', hnext', hafter⟩ := bind_eq_ok.mp ((List.foldlM_cons ..).symm.trans hsplit)
  obtain rfl := Except.ok.inj (hadd.symm.trans hnext')
  obtain ⟨below, rfl⟩ := TileLayer.exists_rows_below hne hafter
  exact ⟨below, hmem (by simp [hne])⟩

/-- A line that changes nothing where it stands can be left out there. -/
theorem compileLayers_without
    (hbefore : before.foldlM (TileLayer.addLine tiles) (.start s pre.length) = .ok l)
    (hadd : l.addLine tiles line = .ok l) :
    compileLayers tiles (pre ++ { s with lines := before ++ line :: after } :: post) =
      compileLayers tiles (pre ++ { s with lines := before ++ after } :: post) := by
  have hfold : (before ++ line :: after).foldlM (TileLayer.addLine tiles) (.start s pre.length) =
      (before ++ after).foldlM (TileLayer.addLine tiles) (.start s pre.length) := by
    rw [List.foldlM_append, List.foldlM_append, hbefore]
    show (line :: after).foldlM (TileLayer.addLine tiles) l =
      after.foldlM (TileLayer.addLine tiles) l
    rw [List.foldlM_cons, hadd]
    rfl
  rw [compileLayers_append_cons, compileLayers_append_cons, compileLayer_congr s hfold]

end Within

/-! ### Lines that start with `#` -/

theorem TileLayer.fits_iff {l : TileLayer} {row : List Cell} (hne : l.tiles ≠ []) :
    l.fits row ↔ row.length = l.width := by
  obtain ⟨first, rest, htiles⟩ := List.exists_cons_of_ne_nil hne
  simp [fits, width, htiles, eq_comm]

namespace IsHashLine

variable {line : Line}

theorem code_eq (h : IsHashLine tiles line) : line.code = none := by
  obtain ⟨number, text, rfl⟩ := h.source
  have hhead : (trim text).head? = some '#' := by simpa [Line.ofSource] using h.head
  exact if_pos hhead

/-- A line of symbols has as many cells as symbols. -/
theorem exists_row (h : IsHashLine tiles line) :
    ∃ row, tiles.row line.raw = .ok row ∧ row.length = (rowTokens line.raw).length := by
  have hcell : ∀ token ∈ rowTokens line.raw, ∃ c, tiles.cell? token = some c := by
    intro token htoken
    obtain ⟨id, hid⟩ := Option.isSome_iff_exists.mp (h.symbols token htoken)
    rw [TileTable.cell?, hid]
    split
    · exact ⟨none, rfl⟩
    · exact ⟨some id, rfl⟩
  cases hrow : tiles.row line.raw with
  | ok row => exact ⟨row, rfl, (mapM_eq_ok hrow).1⟩
  | error token =>
    obtain ⟨token', htoken', herror⟩ := exists_of_mapM_eq_error hrow
    obtain ⟨c, hc⟩ := hcell token' htoken'
    rw [hc] at herror
    cases herror

end IsHashLine

/-- Below the first row, a line of symbols that starts with `#` is a row if it has as many of them
as the first row. Otherwise it is a comment: the layers are those without the line. -/
theorem compileLayers_hashLine (pre post : List Section) (s : Section) (before after : List Line)
    {line : Line} {l : TileLayer} (hbound : tiles.isBound "#") (hline : IsHashLine tiles line)
    (hbefore : before.foldlM (TileLayer.addLine tiles) (.start s pre.length) = .ok l)
    (hne : l.tiles ≠ []) :
    ∃ row, tiles.row line.raw = .ok row ∧ row.length = (rowTokens line.raw).length ∧
      (row.length = l.width →
        l.addLine tiles line = .ok { l with tiles := l.tiles ++ [row] } ∧
        ∀ layers, compileLayers tiles
            (pre ++ { s with lines := before ++ line :: after } :: post) = .ok layers →
          ∃ below, { l with tiles := l.tiles ++ row :: below } ∈ layers) ∧
      (row.length ≠ l.width →
        l.addLine tiles line = .ok l ∧
        compileLayers tiles (pre ++ { s with lines := before ++ line :: after } :: post) =
          compileLayers tiles (pre ++ { s with lines := before ++ after } :: post)) := by
  obtain ⟨row, hrow, hlength⟩ := hline.exists_row
  have hadd := TileLayer.addLine_of_hash hbound hline.code_eq hrow l
  refine ⟨row, hrow, hlength, fun hwidth => ?_, fun hwidth => ?_⟩
  · rw [if_pos ((TileLayer.fits_iff hne).mpr hwidth)] at hadd
    refine ⟨hadd, fun layers hlayers => ?_⟩
    obtain ⟨below, hmem⟩ := exists_mem_compileLayers hbefore hadd (by simp) hlayers
    exact ⟨below, by simpa using hmem⟩
  · rw [if_neg fun hfits => hwidth ((TileLayer.fits_iff hne).mp hfits)] at hadd
    exact ⟨hadd, compileLayers_without hbefore hadd⟩

def fenceTiles : TileTable := .ofCatalog .builtin

/-- A layer with three columns and two lines that start with `#`, of which the first is short. -/
def fence : Section where
  key := "layer"
  title := "Layer"
  lines := [.ofSource 2 ". . .".toList, .ofSource 3 "# #".toList, .ofSource 4 "# . #".toList]

theorem compileLayers_hashLine_fence :
    fenceTiles.isBound "#" ∧ IsHashLine fenceTiles (.ofSource 3 "# #".toList) ∧
    IsHashLine fenceTiles (.ofSource 4 "# . #".toList) ∧
    compileLayers fenceTiles [fence] = compileLayers fenceTiles [{ fence with
      lines := [.ofSource 2 ". . .".toList, .ofSource 4 "# . #".toList] }] ∧
    ∃ layers, compileLayers fenceTiles [fence] = .ok layers ∧ ∃ l ∈ layers, ∃ below,
      l.tiles = [some "floor", some "floor", some "floor"] ::
        [some "wall", some "floor", some "wall"] :: below := by
  have hbound : fenceTiles.isBound "#" := by decide
  have hshort : IsHashLine fenceTiles (.ofSource 3 "# #".toList) :=
    ⟨⟨3, _, rfl⟩, by decide +kernel, by decide +kernel⟩
  have hlong : IsHashLine fenceTiles (.ofSource 4 "# . #".toList) :=
    ⟨⟨4, _, rfl⟩, by decide +kernel, by decide +kernel⟩
  let first : TileLayer := { TileLayer.start fence 0 with
    tiles := [[some "floor", some "floor", some "floor"]] }
  have hfirst : [Line.ofSource 2 ". . .".toList].foldlM (TileLayer.addLine fenceTiles)
      (.start fence 0) = .ok first := rfl
  have hne : first.tiles ≠ [] := List.cons_ne_nil _ _
  have hbefore : [Line.ofSource 2 ". . .".toList, .ofSource 3 "# #".toList].foldlM
      (TileLayer.addLine fenceTiles) (.start fence 0) = .ok first := rfl
  obtain ⟨row, hrow, -, -, hcomment⟩ := compileLayers_hashLine [] [] fence _
    [.ofSource 4 "# . #".toList] hbound hshort hfirst hne
  obtain ⟨row', hrow', -, hadded, -⟩ := compileLayers_hashLine [] [] fence _ [] hbound hlong
    hbefore hne
  obtain rfl : row = [some "wall", some "wall"] := Except.ok.inj (hrow.symm.trans rfl)
  obtain rfl : row' = [some "wall", some "floor", some "wall"] :=
    Except.ok.inj (hrow'.symm.trans rfl)
  have hlayers : ∃ layers, compileLayers fenceTiles [fence] = .ok layers := ⟨_, rfl⟩
  obtain ⟨layers, hlayers⟩ := hlayers
  obtain ⟨below, hmem⟩ := (hadded rfl).2 layers hlayers
  exact ⟨hbound, hshort, hlong, (hcomment (by decide)).2, layers, hlayers, _, hmem, below, rfl⟩

/-- A row of walls that is too short is lost, and no error says so. -/
theorem fence_loses_row :
    fenceTiles.isBound "#" ∧ IsHashLine fenceTiles (.ofSource 3 "# #".toList) ∧
    sectionsStarting (splitSections "[Layer]\n. . .\n# #\n# . #") "layer" = [fence] ∧
    (∃ l, [Line.ofSource 2 ". . .".toList].foldlM (TileLayer.addLine fenceTiles)
      (.start fence 0) = .ok l ∧ l.tiles ≠ []) ∧
    ∃ layers, compileLayers fenceTiles [fence] = .ok layers ∧
      ∀ row, fenceTiles.row "# #" = .ok row → ∀ l ∈ layers, row ∉ l.tiles := by
  refine ⟨by decide, ⟨⟨3, _, rfl⟩, by decide +kernel, by decide +kernel⟩, by decide +kernel,
    ⟨_, rfl, List.cons_ne_nil _ _⟩, ?_⟩
  have htiles : (compileLayers fenceTiles [fence]).toOption.map (·.map (·.tiles)) =
      some [[[some "floor", some "floor", some "floor"],
        [some "wall", some "floor", some "wall"]]] := by
    decide +kernel
  obtain ⟨layers, hlayers, htiles⟩ := exists_ok_of_toOption_map htiles
  refine ⟨layers, hlayers, fun row hrow l hl => ?_⟩
  obtain rfl : row = [some "wall", some "wall"] := Except.ok.inj (hrow.symm.trans rfl)
  have hmem : l.tiles ∈ layers.map (·.tiles) := List.mem_map_of_mem hl
  rw [htiles, List.mem_singleton] at hmem
  rw [hmem]
  decide

/-! ### Lines with a remark -/

section Remarks

variable {text remark : List Char} {number : Nat}

/-- A remark behind a line is no part of its code, even where `#` is a tile. -/
theorem code_withRemark (h : ∃ c ∈ text, ¬ isBlank c) :
    (Line.ofSource number (withRemark text remark)).code = (Line.ofSource number text).code := by
  obtain ⟨t, ht, htrim⟩ := exists_trim_append h remark
  have hne := trim_ne_nil h
  have hcode : codeOf? (trim (withRemark text remark)) = codeOf? (trim text) := by
    rw [withRemark, htrim, ht.codeOf?_append (trimEnd_trim text) hne]
  have hne' : trim (withRemark text remark) ≠ [] := by
    rw [withRemark, htrim]
    exact fun hnil => hne (List.append_eq_nil_iff.mp hnil).1
  rw [Line.code_ofSource number hne', hcode, ← Line.code_ofSource number hne]

/-- A line with a remark is no row as a whole. -/
theorem row_withRemark_ne_ok (h : IsRemark tiles remark) (row : List Cell) :
    tiles.row (Line.ofSource number (withRemark text remark)).raw ≠ .ok row := by
  obtain ⟨w, hw, hcell⟩ := h
  have hwords : words (trim (withRemark text remark)) =
      words text ++ (words ['#'] ++ words remark) := by
    have hspace : isBlank ' ' := by decide
    rw [words_trim, withRemark, words_append_blank hspace]
    exact congrArg _ (words_append_blank hspace ['#'] remark)
  apply row_ne_ok
  · have hhash : 0 < (words ['#']).length := List.length_pos_iff.mpr (words_ne_nil (by decide) [])
    have hremark : 0 < (words remark).length := List.length_pos_of_mem hw
    simp only [Line.ofSource, String.toList_ofList, hwords, List.length_append]
    omega
  · refine ⟨w, ?_, hcell⟩
    simp [Line.ofSource, hwords, hw]

/-- With a remark only the code of a line counts. -/
theorem uncutRow?_withRemark (h : IsRemark tiles remark) (l : TileLayer) :
    l.uncutRow? tiles (.ofSource number (withRemark text remark)) = none := by
  rw [TileLayer.uncutRow?]
  split
  · split
    · rename_i row hrow
      exact absurd hrow (row_withRemark_ne_ok h row)
    · rfl
  · rfl

theorem code_of_notMem (hhash : '#' ∉ text) :
    (Line.ofSource number text).code = some (Line.ofSource number text).raw := by
  have htrim : '#' ∉ trim text := fun hmem => hhash (mem_of_mem_trim hmem)
  have hhead : (trim text).head? ≠ some '#' := fun heq => htrim (List.mem_of_mem_head? heq)
  rw [Line.ofSource, if_neg hhead, stripCommentChars_of_notMem htrim]

theorem uncutRow?_of_notMem (hhash : '#' ∉ text) (l : TileLayer) :
    l.uncutRow? tiles (.ofSource number text) = none := by
  rw [TileLayer.uncutRow?, code_of_notMem hhash]
  simp

/-- A remark behind a line without `#` is inert. -/
theorem addLine_withRemark (h : ∃ c ∈ text, ¬ isBlank c) (hhash : '#' ∉ text)
    (hremark : IsRemark tiles remark) (l : TileLayer) :
    l.addLine tiles (.ofSource number (withRemark text remark)) =
      l.addLine tiles (.ofSource number text) := by
  rw [TileLayer.addLine, TileLayer.addLine, uncutRow?_withRemark hremark,
    uncutRow?_of_notMem hhash, code_withRemark h]

end Remarks

/-! ### Rows with a remark -/

theorem spaced_append_cons {row : List Char} (hne : row ≠ []) (c : Char) (rest : List Char) :
    spaced (row ++ c :: rest) = spaced row ++ ' ' :: spaced (c :: rest) := by
  induction row with
  | nil => exact absurd rfl hne
  | cons d row ih =>
    cases row with
    | nil => rfl
    | cons e row =>
      simp only [List.cons_append, spaced_cons_cons] at ih ⊢
      rw [ih (List.cons_ne_nil e row)]

theorem notMem_spaced {row : List Char} {c : Char} (h : c ∉ row) (hspace : c ≠ ' ') :
    c ∉ spaced row :=
  fun hmem => (mem_spaced hmem).elim h hspace

/-- A `#` inside a row is taken for a comment. -/
theorem isTrailing_spaced (right : List Char) : IsTrailing (' ' :: spaced ('#' :: right)) := by
  cases right with
  | nil => exact ⟨[], [], by simp, rfl, rfl⟩
  | cons c right => exact ⟨[], ' ' :: spaced (c :: right), by simp, rfl, rfl⟩

namespace RemarkedLine

variable {r : RemarkedLine} {row : List Char}

/-- What the line is with a remark. -/
theorem Reads.exists_line_eq (h : r.Reads tiles) (hsome : r.remark.isSome) :
    ∃ remark, IsRemark tiles remark ∧ r.line = .ofSource r.number (withRemark r.text remark) := by
  obtain ⟨remark, hremark⟩ := Option.isSome_iff_exists.mp hsome
  exact ⟨remark, h.remark remark hremark, by rw [line, hremark]⟩

/-- A line without `#` is read alike with a remark and without. -/
theorem Reads.addLine_eq (h : r.Reads tiles) (hhash : r.remark.isSome → '#' ∉ r.text)
    (l : TileLayer) : l.addLine tiles r.line = l.addLine tiles r.bare := by
  cases hremark : r.remark with
  | none => rw [line, hremark]
  | some remark =>
    have hsome : r.remark.isSome := by rw [hremark]; rfl
    obtain ⟨remark, hreads, hline⟩ := h.exists_line_eq hsome
    rw [hline]
    exact addLine_withRemark h.not_blank (hhash hsome) hreads l

namespace DrawsRow

theorem drawsSymbols (h : r.DrawsRow tiles row) :
    DrawsSymbols tiles row (String.ofList (spaced row)) :=
  ⟨.spaced, h.ne_nil, h.symbols⟩

/-- What stands in front in a row is drawn with symbols too. -/
theorem drawsSymbols_left {left right : List Char} (h : r.DrawsRow tiles (left ++ right))
    (hne : left ≠ []) : DrawsSymbols tiles left (String.ofList (spaced left)) :=
  ⟨.spaced, hne, fun c hc => h.symbols c (List.mem_append_left right hc)⟩

/-- The code of a row with `#` is what stands before the first one. -/
theorem code_bare {left right : List Char} (h : r.DrawsRow tiles (left ++ '#' :: right))
    (hleft : '#' ∉ left) :
    r.bare.code = if left = [] then none else some (String.ofList (spaced left)) := by
  have htrim : trim (spaced (left ++ '#' :: right)) = spaced (left ++ '#' :: right) := by
    simpa using h.drawsSymbols.trim_eq
  rw [bare, h.text_eq, Line.ofSource, htrim, head?_spaced]
  cases left with
  | nil => rfl
  | cons c left =>
    have hc : c ≠ '#' := fun heq => hleft (heq ▸ List.mem_cons_self)
    have hblank : ∀ d ∈ c :: left, ¬ isBlank d := fun d hd =>
      (h.symbols d (List.mem_append_left _ hd)).2.1
    have hcut : stripCommentChars (spaced (c :: left ++ '#' :: right)) = spaced (c :: left) := by
      rw [spaced_append_cons (List.cons_ne_nil c left),
        (isTrailing_spaced right).stripCommentChars_append (trimEnd_spaced hblank)]
      exact stripCommentChars_of_notMem (notMem_spaced hleft (by decide))
    rw [if_neg (by simpa using hc), if_neg (List.cons_ne_nil c left), hcut]

/-- Of a row with `#` and a remark, what stands before the first `#` is read. -/
theorem addLine_cut {left right : List Char} (h : r.DrawsRow tiles (left ++ '#' :: right))
    (hreads : r.Reads tiles) (hsome : r.remark.isSome) (hleft : '#' ∉ left) (l : TileLayer) :
    l.addLine tiles r.line =
      if left = [] then .ok l else l.addLine tiles (.ofSource r.number (spaced left)) := by
  obtain ⟨remark, hremark, hline⟩ := hreads.exists_line_eq hsome
  have hcode : r.line.code = if left = [] then none else some (String.ofList (spaced left)) := by
    rw [hline, code_withRemark hreads.not_blank]
    exact h.code_bare hleft
  have huncut : l.uncutRow? tiles r.line = none := hline ▸ uncutRow?_withRemark hremark l
  by_cases hne : left = []
  · rw [if_pos hne] at hcode ⊢
    rw [TileLayer.addLine, huncut, hcode]
  · rw [if_neg hne] at hcode ⊢
    have htrim : trim (spaced left) = spaced left := by
      simpa using (h.drawsSymbols_left hne).trim_eq
    have hraw : (Line.ofSource r.number (spaced left)).code =
        some (String.ofList (spaced left)) := by
      rw [code_of_notMem (notMem_spaced hleft (by decide)), Line.ofSource, htrim]
    rw [TileLayer.addLine, TileLayer.addLine, huncut, hcode, hraw,
      uncutRow?_of_notMem (notMem_spaced hleft (by decide))]

/-- A row with `#` and a remark is not read as that row. -/
theorem row_ne (h : r.DrawsRow tiles row) (hreads : r.Reads tiles) (hsome : r.remark.isSome)
    (hhash : '#' ∈ row) {text : String} (htext : text = r.line.raw ∨ r.line.code = some text) :
    tiles.row text ≠ .ok (tiles.cells row) := by
  obtain ⟨remark, hremark, hline⟩ := hreads.exists_line_eq hsome
  obtain ⟨left, right, rfl, hleft⟩ := List.eq_append_cons_of_mem hhash
  rw [hline] at htext
  rcases htext with rfl | hcode
  · exact row_withRemark_ne_ok hremark _
  · rw [code_withRemark hreads.not_blank] at hcode
    have hcode := (h.code_bare hleft).symm.trans hcode
    split at hcode
    · cases hcode
    · rename_i hne
      obtain rfl := Option.some.inj hcode
      intro heq
      have hcells := Except.ok.inj ((h.drawsSymbols_left hne).row_eq.symm.trans heq)
      have hlength : left.length = (left ++ '#' :: right).length := by
        simpa [TileTable.cells] using congrArg List.length hcells
      simp at hlength

end DrawsRow

end RemarkedLine

variable {rows : List RemarkedLine} {grid : List (List Char)}

/-- Lines without `#` are read alike with their remarks and without. -/
theorem foldlM_line (hreads : ∀ r ∈ rows, r.Reads tiles)
    (hhash : ∀ r ∈ rows, r.remark.isSome → '#' ∉ r.text) (l : TileLayer) :
    (rows.map RemarkedLine.line).foldlM (TileLayer.addLine tiles) l =
      (rows.map RemarkedLine.bare).foldlM (TileLayer.addLine tiles) l := by
  induction rows generalizing l with
  | nil => rfl
  | cons r rest ih =>
    obtain ⟨hr, hrest⟩ := List.forall_mem_cons.mp hreads
    obtain ⟨hhash, hhashRest⟩ := List.forall_mem_cons.mp hhash
    rw [List.map_cons, List.map_cons, List.foldlM_cons, List.foldlM_cons, hr.addLine_eq hhash]
    exact bind_congr (ih hrest hhashRest)

/-- Rows are drawn without their remarks, one below the other. -/
theorem foldlM_bare {width : Nat} (hdraws : List.Forall₂ (RemarkedLine.DrawsRow tiles) rows grid)
    (hwidth : ∀ row ∈ grid, row.length = width) {l : TileLayer} (hl : l.tiles = []) :
    (rows.map RemarkedLine.bare).foldlM (TileLayer.addLine tiles) l =
      .ok { l with tiles := grid.map tiles.cells } := by
  have hlines : List.Forall₂ (DrawsSymbols tiles) grid
      (rows.map fun r => String.ofList r.text) := by
    rw [List.forall₂_map_right_iff]
    refine hdraws.flip.imp fun row r h => ?_
    rw [h.text_eq]
    exact h.drawsSymbols
  have hfold := foldlM_addLine hlines hwidth l (by simp [hl])
  rw [hl, List.nil_append, gridLines, List.map_map, List.foldlM_map] at hfold
  simp only [Function.comp_apply, String.toList_ofList] at hfold
  rw [List.foldlM_map]
  exact hfold

/-- Where all lines with their remarks still draw their rows, none of these rows has a `#`. -/
theorem notMem_of_foldlM (hdraws : List.Forall₂ (RemarkedLine.DrawsRow tiles) rows grid)
    (hreads : ∀ r ∈ rows, r.Reads tiles) {l l' : TileLayer}
    (h : (rows.map RemarkedLine.line).foldlM (TileLayer.addLine tiles) l = .ok l')
    (htiles : l'.tiles = l.tiles ++ grid.map tiles.cells) :
    ∀ r ∈ rows, r.remark.isSome → '#' ∉ r.text := by
  induction hdraws generalizing l with
  | nil => simp
  | @cons r row rest grid hrow hrest ih =>
    obtain ⟨hr, hreads⟩ := List.forall_mem_cons.mp hreads
    rw [List.map_cons, List.foldlM_cons] at h
    obtain ⟨next, hnext, h⟩ := bind_eq_ok.mp h
    obtain ⟨added, hadded, hle⟩ := TileLayer.exists_tiles_of_foldlM h
    rw [hadded] at htiles
    rcases TileLayer.tiles_of_addLine hnext with hsame | ⟨text, cells, htext, hcells, hnext⟩
    · -- a line that draws no row leaves too few lines for the rows below it
      rw [hsame, List.append_cancel_left_eq] at htiles
      rw [htiles, List.length_map, List.length_map, hrest.length_eq, List.length_cons] at hle
      exact absurd hle (Nat.not_succ_le_self _)
    · rw [hnext, List.append_assoc, List.append_cancel_left_eq, List.singleton_append,
        List.map_cons, List.cons.injEq] at htiles
      obtain ⟨rfl, rfl⟩ := htiles
      refine List.forall_mem_cons.mpr ⟨fun hsome hhash => ?_, ih hreads h hadded⟩
      rw [hrow.text_eq] at hhash
      have hmem : '#' ∈ row := (mem_spaced hhash).resolve_right (by decide)
      exact hrow.row_ne hr hsome hmem htext hcells

/-- Where rows with remarks make the layer that they make without, none of them has a `#`. -/
theorem notMem_of_compileLayer_eq {s : Section} {index width : Nat} {head : List Line}
    {l : TileLayer} (hhead : head.foldlM (TileLayer.addLine tiles) (.start s index) = .ok l)
    (hl : l.tiles = []) (hdraws : List.Forall₂ (RemarkedLine.DrawsRow tiles) rows grid)
    (hwidth : ∀ row ∈ grid, row.length = width) (hreads : ∀ r ∈ rows, r.Reads tiles)
    (heq : compileLayer tiles { s with lines := head ++ rows.map RemarkedLine.line } index =
      compileLayer tiles { s with lines := head ++ rows.map RemarkedLine.bare } index) :
    ∀ r ∈ rows, r.remark.isSome → '#' ∉ r.text := by
  intro r hr
  have hne : grid.map tiles.cells ≠ [] := by
    have hpos : 0 < grid.length := hdraws.length_eq ▸ List.length_pos_of_mem hr
    simpa using List.length_pos_iff.mp hpos
  have hbare : compileLayer tiles { s with lines := head ++ rows.map RemarkedLine.bare } index =
      .ok (some { l with tiles := grid.map tiles.cells }) := by
    apply compileLayer_eq_some.mpr
    refine ⟨?_, hne⟩
    rw [List.foldlM_append]
    exact bind_eq_ok.mpr ⟨l, hhead, foldlM_bare hdraws hwidth hl⟩
  obtain ⟨hfold, -⟩ := compileLayer_eq_some.mp (heq.trans hbare)
  rw [List.foldlM_append] at hfold
  obtain ⟨l', hl', hfold⟩ := bind_eq_ok.mp hfold
  obtain rfl := Except.ok.inj (hhead.symm.trans hl')
  exact notMem_of_foldlM hdraws hreads hfold (by rw [hl, List.nil_append]) r hr

/-- Remarks behind lines of a layer are inert if these lines have no `#`. A row of symbols that has
one is cut off there, or passed over if it starts with it; so where all lines below the first ones
draw rows of one width, remarks are inert only then. -/
theorem compileLayer_remarked (s : Section) (index : Nat) (head : List Line)
    (hreads : ∀ r ∈ rows, r.Reads tiles) :
    ((∀ r ∈ rows, r.remark.isSome → '#' ∉ r.text) →
      compileLayer tiles { s with lines := head ++ rows.map RemarkedLine.line } index =
        compileLayer tiles { s with lines := head ++ rows.map RemarkedLine.bare } index) ∧
    (∀ r ∈ rows, r.remark.isSome → ∀ left right, r.DrawsRow tiles (left ++ '#' :: right) →
      '#' ∉ left → ∀ l : TileLayer, l.addLine tiles r.line =
        if left = [] then .ok l else l.addLine tiles (.ofSource r.number (spaced left))) ∧
    (∀ l grid width, head.foldlM (TileLayer.addLine tiles) (.start s index) = .ok l →
      l.tiles = [] → List.Forall₂ (RemarkedLine.DrawsRow tiles) rows grid →
      (∀ row ∈ grid, row.length = width) →
      compileLayer tiles { s with lines := head ++ rows.map RemarkedLine.line } index =
        compileLayer tiles { s with lines := head ++ rows.map RemarkedLine.bare } index →
      ∀ r ∈ rows, r.remark.isSome → '#' ∉ r.text) := by
  refine ⟨?_, ?_, ?_⟩
  · intro hhash
    apply compileLayer_congr
    simp only [List.foldlM_append, foldlM_line hreads hhash]
  · intro r hr hsome left right hdraws hleft l
    exact hdraws.addLine_cut (hreads r hr) hsome hleft l
  · intro l grid width hhead hl hdraws hwidth heq
    exact notMem_of_compileLayer_eq hhead hl hdraws hwidth hreads heq

/-- A dense row with a remark behind it, and one with a wall. -/
def porchLines : List RemarkedLine :=
  [⟨3, "...".toList, some "north side".toList⟩, ⟨4, ".#.".toList, none⟩]

def gateLine : RemarkedLine := ⟨2, ". # .".toList, some "gate".toList⟩

theorem reads_gateLine : gateLine.Reads fenceTiles where
  not_blank := ⟨'.', by decide, by decide⟩
  remark := by
    have hgate : IsRemark fenceTiles "gate".toList :=
      ⟨"gate".toList, by decide +kernel, by decide +kernel⟩
    simpa [gateLine] using hgate

theorem drawsRow_gateLine : gateLine.DrawsRow fenceTiles (['.'] ++ '#' :: ['.']) where
  text_eq := rfl
  ne_nil := List.cons_ne_nil _ _
  symbols := by
    have hfloor : IsSymbol fenceTiles '.' := ⟨by decide, by decide, by decide, by decide⟩
    have hwall : IsSymbol fenceTiles '#' := ⟨by decide, by decide, by decide, by decide⟩
    simp [hfloor, hwall]

theorem compileLayer_remarked_porch :
    (∀ r ∈ porchLines, r.Reads fenceTiles) ∧
    compileLayer fenceTiles { fence with
        lines := .ofSource 2 "order: 7".toList :: porchLines.map RemarkedLine.line } 0 =
      compileLayer fenceTiles { fence with
        lines := .ofSource 2 "order: 7".toList :: porchLines.map RemarkedLine.bare } 0 ∧
    (∀ l : TileLayer, l.addLine fenceTiles gateLine.line =
      l.addLine fenceTiles (.ofSource 2 ['.'])) ∧
    compileLayer fenceTiles { fence with lines := [gateLine.line] } 0 ≠
      compileLayer fenceTiles { fence with lines := [gateLine.bare] } 0 := by
  have hnorth : IsRemark fenceTiles "north side".toList :=
    ⟨"north".toList, by decide +kernel, by decide +kernel⟩
  have hporch : ∀ r ∈ porchLines, r.Reads fenceTiles := by
    rw [porchLines, List.forall_mem_cons, List.forall_mem_singleton]
    constructor
    · exact ⟨⟨'.', by decide, by decide⟩, by simpa using hnorth⟩
    · exact ⟨⟨'.', by decide, by decide⟩, by simp⟩
  have hgate : ∀ r ∈ [gateLine], r.Reads fenceTiles := List.forall_mem_singleton.mpr reads_gateLine
  obtain ⟨hinert, -, -⟩ :=
    compileLayer_remarked fence 0 [.ofSource 2 "order: 7".toList] hporch
  obtain ⟨-, hcut, honly⟩ := compileLayer_remarked fence 0 [] hgate
  refine ⟨hporch, hinert (by decide), ?_, ?_⟩
  · intro l
    exact hcut gateLine List.mem_cons_self rfl ['.'] ['.'] drawsRow_gateLine (by decide) l
  · intro heq
    exact honly _ [".#.".toList] 3 rfl rfl (.cons drawsRow_gateLine .nil) (by decide) heq gateLine
      List.mem_cons_self rfl (by decide)

/-- A remark behind a row with a wall takes the wall away. -/
theorem gateLine_loses_wall :
    fenceTiles.isBound "#" ∧ gateLine.Reads fenceTiles ∧
    gateLine.DrawsRow fenceTiles (['.'] ++ '#' :: ['.']) ∧
    (compileLayer fenceTiles { fence with lines := [gateLine.bare] } 0).toOption.map
      (·.map (·.tiles)) = some (some [[some "floor", some "wall", some "floor"]]) ∧
    (compileLayer fenceTiles { fence with lines := [gateLine.line] } 0).toOption.map
      (·.map (·.tiles)) = some (some [[some "floor"]]) :=
  ⟨by decide, reads_gateLine, drawsRow_gateLine, by decide +kernel, by decide +kernel⟩

end Tilemap
