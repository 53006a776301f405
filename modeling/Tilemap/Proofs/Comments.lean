import Tilemap.Layer.Grid
import Tilemap.Proofs.Sections

/-!
# Comments of a map text

A `#` is a comment mark, but also a symbol for a tile, the start of a colour and part of an id.
Still a comment can be told from the rest outside the drawn grids: `compile_of_sameButComments` says
that texts which differ only in comments behind their lines, and in lines that are comments,
describe the same map, or are refused for the same reason.

Below the header of a layer a line that starts with `#` is a row if all of it reads as one, comments
included, and is passed over if not. Such a line is a note (`IsNote`, `isNote_iff`). It takes a
comment like the lines elsewhere as long as it stays a note with it, as any note does that has a
word which stands for nothing (`isNote_of_unknown`). A note that reads as cells, but not as many as
the rows above it have, can be made a row by a comment (`exists_note_made_row`).
-/

namespace Tilemap

open Text

/-! ### Statement -/

/-- The key of the section that goes on after these lines. -/
def keyBelow (lines : List (List Char)) : String := keyAfter metaKey (itemsOfLines lines)

/-- What these lines have in the section that goes on after them. -/
def linesAbove (lines : List (List Char)) : List Line :=
  linesUnder (keyBelow lines) (itemsOfLines lines)

/-- What is drawn of a layer by lines, whatever section they stand in. -/
def TileTable.Draws (tiles : TileTable) (lines : List Line) (l : TileLayer) : Prop :=
  ∃ s index, lines.foldlM (TileLayer.addLine tiles) (.start s index) = .ok l

/-- A trimmed line starts with `#` and is no row below other lines of a layer: `#` is no tile, or
the line does not read as cells, or it has not as many of them as the first row above it. -/
def IsNote (tiles : TileTable) (above : List Line) (raw : List Char) : Prop :=
  raw.head? = some '#' ∧ ∀ l, tiles.Draws above l → tiles.isBound "#" →
    ∀ row, tiles.row (String.ofList raw) = .ok row → ¬ l.fits row

/-- One comment more among lines. What is a note depends on the tiles, which are in a class. -/
inductive CommentChange (made : TileTable → Prop) :
    List (List Char) → List (List Char) → Prop where
  /-- A comment behind a line, which is a header, or outside the layers, or a note that is still one
  with the comment. -/
  | append (before after : List (List Char)) {line right : List Char} (comment : List Char)
      (hline : ∃ c ∈ line, ¬ isBlank c) (hright : ∀ c ∈ right, isBlank c)
      (hplace : (headerOf? line).isSome ∨ keyStarts "layer" (keyBelow before) = false ∨
        ∀ tiles, made tiles → IsNote tiles (linesAbove before) (trim line) ∧
          IsNote tiles (linesAbove before) (trim (line ++ ' ' :: '#' :: ' ' :: comment))) :
    CommentChange made (before ++ (line ++ right) :: after)
      (before ++ (line ++ ' ' :: '#' :: ' ' :: comment) :: after)
  /-- A line that is a comment, outside the layers. In the legend no `=` may come after its `#`. -/
  | insert (before after : List (List Char)) {left : List Char} (comment : List Char)
      (hleft : ∀ c ∈ left, isBlank c) (hplace : keyStarts "layer" (keyBelow before) = false)
      (hlegend : keyBelow before = "tiles" → (trim comment).head? ≠ some '=') :
    CommentChange made (before ++ after) (before ++ (left ++ '#' :: comment) :: after)

/-- Two texts differ in comments only: comments added and taken away lead from one to the other. -/
def SameButComments (options : CompileOptions) : String → String → Prop :=
  Relation.EqvGen fun text text' =>
    CommentChange (fun tiles => tileTableOf text options = .ok tiles) (linesOf text) (linesOf text')

/-! ### Where a comment starts -/

theorem isHexDigit_of_blank {c : Char} (h : isBlank c) : isHexDigit c = false := by
  simpa using @of_blank (!isHexDigit ·) (by decide) c h

theorem ne_hash_of_blank {c : Char} (h : isBlank c) : c ≠ '#' := by
  rintro rfl
  exact absurd h (by decide)

/-- Whether a comment starts does not depend on what stands behind a blank. -/
theorem opensComment_append {c : Char} (h : isBlank c) (s r : List Char) :
    opensComment (s ++ c :: r) = opensComment s := by
  match s with
  | [] => simp [opensComment, ne_hash_of_blank h]
  | [d] =>
    by_cases hd : d = '#'
    · simp [opensComment, hd, isHexDigit_of_blank h]
    · simp [opensComment, hd]
  | d :: e :: s =>
    by_cases hd : d = '#'
    · simp [opensComment, hd]
    · simp [opensComment, hd]

/-- Blanks, of which the last is a space, and a comment. -/
def IsTrailing (t : List Char) : Prop :=
  ∃ gap tail, (∀ c ∈ gap, isBlank c) ∧ opensComment ('#' :: tail) ∧ t = gap ++ ' ' :: '#' :: tail

namespace IsTrailing

variable {t : List Char}

theorem exists_blank (h : IsTrailing t) : ∃ c r, t = c :: r ∧ isBlank c := by
  obtain ⟨gap, tail, hgap, -, rfl⟩ := h
  cases gap with
  | nil => exact ⟨' ', _, rfl, by decide⟩
  | cons c gap => exact ⟨c, _, rfl, hgap c List.mem_cons_self⟩

theorem trimStart_eq (h : IsTrailing t) : ∃ tail, trimStart t = '#' :: tail := by
  obtain ⟨gap, tail, hgap, -, rfl⟩ := h
  exact ⟨tail, by rw [trimStart_of_blank hgap]; rfl⟩

theorem beforeComment?_eq (h : IsTrailing t) :
    ∃ gap, (∀ c ∈ gap, isBlank c) ∧ beforeComment? t = some gap := by
  obtain ⟨gap, tail, hgap, hopens, rfl⟩ := h
  refine ⟨gap ++ [' '], ?_, ?_⟩
  · intro c hc
    rcases List.mem_append.mp hc with hc | hc
    · exact hgap c hc
    · rw [List.mem_singleton.mp hc]
      decide
  · induction gap with
    | nil =>
      rw [List.nil_append, beforeComment?, hopens]
      rfl
    | cons c gap ih =>
      obtain ⟨-, hgap⟩ := List.forall_mem_cons.mp hgap
      -- blanks come next, so no comment starts here
      have hnot : opensComment (gap ++ ' ' :: '#' :: tail) = false := by
        rw [opensComment_append (by decide)]
        cases gap with
        | nil => rfl
        | cons d gap => exact opensComment_append (hgap d List.mem_cons_self) [] gap
      rw [List.cons_append, beforeComment?, hnot, Bool.and_false, if_neg Bool.false_ne_true,
        ih hgap]
      rfl

/-- What stands before the first comment is what stood there, or all of the text. -/
theorem beforeComment?_append (h : IsTrailing t) (s : List Char) :
    ∃ gap, (∀ c ∈ gap, isBlank c) ∧
      beforeComment? (s ++ t) = some ((beforeComment? s).getD (s ++ gap)) := by
  obtain ⟨gap, hgap, ht⟩ := h.beforeComment?_eq
  obtain ⟨c, r, hc, hblank⟩ := h.exists_blank
  refine ⟨gap, hgap, ?_⟩
  induction s with
  | nil => exact ht
  | cons d s ih =>
    have hopens : opensComment (s ++ t) = opensComment s := by rw [hc, opensComment_append hblank]
    rw [List.cons_append, beforeComment?, beforeComment?, hopens, ih]
    split
    · rfl
    · cases beforeComment? s <;> rfl

/-- A comment behind a text takes nothing with it. -/
theorem stripCommentChars_append (h : IsTrailing t) {s : List Char} (hs : trimEnd s = s) :
    stripCommentChars (s ++ t) = stripCommentChars s := by
  obtain ⟨gap, hgap, heq⟩ := h.beforeComment?_append s
  rw [stripCommentChars, stripCommentChars, heq]
  cases beforeComment? s with
  | none => exact (trimEnd_append_blank s hgap).trans hs
  | some before => rfl

/-- The code of a line does not change when a comment is appended. -/
theorem codeOf?_append (h : IsTrailing t) {s : List Char} (hs : trimEnd s = s) (hne : s ≠ []) :
    codeOf? (s ++ t) = codeOf? s := by
  have hstrip := h.stripCommentChars_append hs
  cases s with
  | nil => exact absurd rfl hne
  | cons c r =>
    rw [List.cons_append] at hstrip ⊢
    unfold codeOf?
    by_cases hc : c = '#'
    · subst hc
      rfl
    · simp [hc, hstrip]

theorem head?_trim_append (h : IsTrailing t) (s : List Char) :
    (trim (s ++ t)).head? = some '=' ↔ (trim s).head? = some '=' := by
  by_cases hall : ∀ c ∈ s, isBlank c
  · obtain ⟨tail, htail⟩ := h.trimStart_eq
    rw [head?_trim, trimStart_of_blank hall, htail, trim_of_blank hall]
    simp
  · have hs : ∃ c ∈ s, ¬ isBlank c := by simpa using hall
    rw [head?_trim, head?_trim, trimStart_append hs]
    cases htrim : trimStart s with
    | nil => exact absurd htrim (trimStart_ne_nil hs)
    | cons c r => rfl

end IsTrailing

/-- A comment behind a line stands behind it when both are trimmed. -/
theorem exists_trim_append {line : List Char} (h : ∃ c ∈ line, ¬ isBlank c) (comment : List Char) :
    ∃ t, IsTrailing t ∧ trim (line ++ ' ' :: '#' :: ' ' :: comment) = trim line ++ t := by
  obtain ⟨gap, hgap, hstart⟩ := exists_trimEnd_append (trimStart line)
  rw [← trim] at hstart
  have hopens : opensComment ('#' :: trimEnd (' ' :: comment)) := by
    rw [trimEnd]
    split <;> rfl
  refine ⟨_, ⟨gap, trimEnd (' ' :: comment), hgap, hopens, rfl⟩, ?_⟩
  calc trim (line ++ ' ' :: '#' :: ' ' :: comment)
      = trimEnd ((trimStart line ++ [' ']) ++ '#' :: ' ' :: comment) := by
        rw [trim, trimStart_append h, List.append_assoc]
        rfl
    _ = (trimStart line ++ [' ']) ++ '#' :: trimEnd (' ' :: comment) :=
        trimEnd_append_cons _ (by decide) _
    _ = trim line ++ (gap ++ ' ' :: '#' :: trimEnd (' ' :: comment)) := by
        rw [hstart]
        simp

/-! ### Lines with comments -/

/-- The line that a trimmed text makes. -/
def Line.ofTrimmed (raw : List Char) : Line :=
  ⟨0, String.ofList raw, (codeOf? raw).map String.ofList⟩

/-- What a line is depends on the trimmed line only. -/
theorem item_of_trim {line raw : List Char} (h : trim line = raw) (hne : raw ≠ []) :
    Item.of? 0 line = some (match (codeOf? raw).bind headerName? with
      | some name => .header (String.ofList (trim name))
      | none => .line (.ofTrimmed raw)) := by
  cases raw with
  | nil => exact absurd rfl hne
  | cons c r =>
    simp only [Item.of?, h]
    cases (codeOf? (c :: r)).bind headerName? <;> rfl

theorem codeOf?_hash (rest : List Char) : codeOf? ('#' :: rest) = none := rfl

/-- A line of the legend that starts with `#` defines a tile if `=` comes next, and is a comment if
not. -/
theorem definitionText?_hash (rest : List Char) :
    (Line.ofTrimmed ('#' :: rest)).definitionText? =
      if (trim rest).head? = some '=' then some (String.ofList (stripCommentChars ('#' :: rest)))
      else none := by
  rw [head?_trim]
  simp only [Line.definitionText?, Line.ofTrimmed, String.toList_ofList, Line.uncommented,
    stripComment, codeOf?_hash, Option.map_none]
  cases trimStart rest with
  | nil => rfl
  | cons c r =>
    by_cases hc : c = '='
    · simp [hc]
    · simp [hc]

theorem definitionText?_of_ne_hash {c : Char} (h : c ≠ '#') (rest : List Char) :
    (Line.ofTrimmed (c :: rest)).definitionText? = (Line.ofTrimmed (c :: rest)).code := by
  simp [Line.definitionText?, Line.ofTrimmed, h]

/-- A comment behind a line of the legend changes nothing of its definition, not even if the symbol
is `#`. -/
theorem definitionText?_append {s t : List Char} (h : IsTrailing t) (hs : trimEnd s = s)
    (hne : s ≠ []) :
    (Line.ofTrimmed (s ++ t)).definitionText? = (Line.ofTrimmed s).definitionText? := by
  cases s with
  | nil => exact absurd rfl hne
  | cons c r =>
    by_cases hc : c = '#'
    · subst hc
      have hstrip := h.stripCommentChars_append hs
      rw [List.cons_append] at hstrip ⊢
      simp only [definitionText?_hash, hstrip, h.head?_trim_append]
    · have hcode : (Line.ofTrimmed (c :: r ++ t)).code = (Line.ofTrimmed (c :: r)).code :=
        congrArg (Option.map String.ofList) (h.codeOf?_append hs hne)
      rw [definitionText?_of_ne_hash hc r, ← hcode]
      exact definitionText?_of_ne_hash hc (r ++ t)

/-! ### Lines that layers pass over -/

section

variable {tiles : TileTable} {line : Line} {l : TileLayer}

/-- What a section draws depends on the lines only through what they add up to. -/
theorem compileLayer_congr (s : Section) {lines lines' : List Line}
    {index : Nat} (h : lines.foldlM (TileLayer.addLine tiles) (.start s index) =
      lines'.foldlM (TileLayer.addLine tiles) (.start s index)) :
    compileLayer tiles { s with lines := lines } index =
      compileLayer tiles { s with lines := lines' } index := by
  unfold compileLayer
  exact congrArg (· >>= _) h

/-- Lines that change nothing one by one change nothing together. -/
theorem foldlM_addLine_of_inert {lines : List Line}
    (h : ∀ line ∈ lines, l.addLine tiles line = .ok l) :
    lines.foldlM (TileLayer.addLine tiles) l = .ok l := by
  induction lines with
  | nil => rfl
  | cons line rest ih =>
    obtain ⟨hline, hrest⟩ := List.forall_mem_cons.mp h
    rw [List.foldlM_cons, hline]
    exact ih hrest

/-- Lines may give way to others if none of them changes what is drawn above. -/
theorem compileLayer_of_inert (s : Section) {index : Nat} {above ls ls' : List Line}
    (below : List Line)
    (h : ∀ l, tiles.Draws above l → ∀ line ∈ ls ++ ls', l.addLine tiles line = .ok l) :
    compileLayer tiles { s with lines := above ++ (ls ++ below) } index =
      compileLayer tiles { s with lines := above ++ (ls' ++ below) } index := by
  apply compileLayer_congr
  simp only [List.foldlM_append]
  cases habove : above.foldlM (TileLayer.addLine tiles) (.start s index) with
  | error e => rfl
  | ok l =>
    obtain ⟨hls, hls'⟩ := List.forall_mem_append.mp (h l ⟨s, index, habove⟩)
    change (ls.foldlM (TileLayer.addLine tiles) l >>= _) =
      (ls'.foldlM (TileLayer.addLine tiles) l >>= _)
    rw [foldlM_addLine_of_inert hls, foldlM_addLine_of_inert hls']

/-- A line without code is a row if all of it reads as one that fits, and is passed over if not. -/
theorem TileLayer.addLine_of_hash {row : List Cell} (hbound : tiles.isBound "#")
    (hcode : line.code = none) (hrow : tiles.row line.raw = .ok row) (l : TileLayer) :
    l.addLine tiles line =
      .ok (if l.fits row then { l with tiles := l.tiles ++ [row] } else l) := by
  have huncut : l.uncutRow? tiles line = if l.fits row then some row else none := by
    rw [uncutRow?, if_pos (by simp [hbound, hcode]), hrow]
  rw [addLine, huncut]
  cases hfits : l.fits row with
  | true => exact addRow_eq_ok.mpr ⟨hfits, rfl⟩
  | false =>
    rw [if_neg Bool.false_ne_true, if_neg Bool.false_ne_true, hcode]

/-- A line without code that is no row leaves every layer as it is. -/
theorem addLine_of_no_row (hcode : line.code = none)
    (hrow : tiles.isBound "#" = false ∨ ∀ row, tiles.row line.raw ≠ .ok row) (l : TileLayer) :
    l.addLine tiles line = .ok l := by
  have huncut : l.uncutRow? tiles line = none := by
    rw [TileLayer.uncutRow?]
    rcases hrow with hbound | hrow
    · rw [hbound, Bool.false_and, if_neg Bool.false_ne_true]
    · split
      · split
        · rename_i row heq
          exact absurd heq (hrow row)
        · rfl
      · rfl
  simp only [TileLayer.addLine, huncut, hcode]

/-- A line without code is passed over unless `#` is a tile and all of the line reads as a row that
fits. -/
theorem addLine_eq_self_iff (hcode : line.code = none) : l.addLine tiles line = .ok l ↔
    (tiles.isBound "#" → ∀ row, tiles.row line.raw = .ok row → ¬ l.fits row) := by
  by_cases hbound : tiles.isBound "#"
  · cases hrow : tiles.row line.raw with
    | error token =>
      exact iff_of_true (addLine_of_no_row hcode (.inr (by simp [hrow])) l) (by simp)
    | ok row =>
      rw [TileLayer.addLine_of_hash hbound hcode hrow]
      cases hfits : l.fits row with
      | false => simp [hfits]
      | true =>
        refine iff_of_false (fun heq => ?_) (by simp [hbound, hfits])
        have htiles := congrArg TileLayer.tiles (Except.ok.inj heq)
        simp at htiles
  · have hnot : tiles.isBound "#" = false := by simpa using hbound
    exact iff_of_true (addLine_of_no_row hcode (.inl hnot) l) fun h => absurd h hbound

/-- Notes are the lines with `#` in front that change no layer where they stand. -/
theorem isNote_iff {above : List Line} {raw : List Char}
    (hhead : raw.head? = some '#') : IsNote tiles above raw ↔
      ∀ l, tiles.Draws above l → l.addLine tiles (.ofTrimmed raw) = .ok l := by
  have hcode : (Line.ofTrimmed raw).code = none := by
    obtain ⟨rest, rfl⟩ := List.head?_eq_some_iff.mp hhead
    rfl
  rw [IsNote, and_iff_right hhead]
  exact forall₂_congr fun l _ => (addLine_eq_self_iff hcode).symm

/-- A text of several words, one of which stands for nothing, is no row. -/
theorem row_ne_ok {text : String} (hwords : 2 ≤ (words text.toList).length)
    (hcell : ∃ w ∈ words text.toList, tiles.cell? (String.ofList w) = none) (row : List Cell) :
    tiles.row text ≠ .ok row := by
  intro hrow
  obtain ⟨w, hw, hnone⟩ := hcell
  have htokens : rowTokens text = (words text.toList).map String.ofList := by
    rw [rowTokens]
    split
    · rename_i heq
      rw [heq] at hwords
      exact absurd hwords (by simp)
    · rfl
  have hmem : String.ofList w ∈ rowTokens text := htokens ▸ List.mem_map_of_mem hw
  obtain ⟨c, hc⟩ := exists_ok_of_mapM hrow hmem
  simp [hnone] at hc

/-- Words of which one stands for nothing are a note below any lines. -/
theorem isNote_of_unknown {raw : List Char} (hhead : raw.head? = some '#')
    (hwords : 2 ≤ (words raw).length)
    (hcell : ∃ w ∈ words raw, tiles.cell? (String.ofList w) = none) (above : List Line) :
    IsNote tiles above raw := by
  refine ⟨hhead, fun l _ _ row hrow => ?_⟩
  rw [← String.toList_ofList (l := raw)] at hwords hcell
  exact absurd hrow (row_ne_ok hwords hcell row)

end

/-! ### Each change -/

/-- Lines in one place may give way to others if they agree in their codes, in the legend in their
definitions, and in a layer if all of them change nothing there. -/
theorem itemsAlike_of_lines {made : TileTable → Prop} (before after : List Item)
    (ls ls' : List Line) (hcodes : ls.filterMap Line.code = ls'.filterMap Line.code)
    (hlegend : keyAfter metaKey before = "tiles" →
      ls.filterMap Line.definitionText? = ls'.filterMap Line.definitionText?)
    (hlayer : keyStarts "layer" (keyAfter metaKey before) → ∀ tiles, made tiles →
      ∀ l, tiles.Draws (linesUnder (keyAfter metaKey before) before) l →
        ∀ line ∈ ls ++ ls', l.addLine tiles line = .ok l) :
    ItemsAlike made (before ++ (ls.map .line ++ after)) (before ++ (ls'.map .line ++ after)) := by
  have hunder (key : String) (ls : List Line) :
      linesUnder key (before ++ (ls.map .line ++ after)) =
        linesUnder key before ++ ((if keyAfter metaKey before = key then ls else []) ++
          ((keyedLines (keyAfter metaKey before) after).filter (·.1 = key)).map (·.2)) := by
    simp only [linesUnder, keyedLines_append, keyAfter_map_line, keyedLines_map_line,
      List.filter_append, filter_keyed, List.map_append]
    split <;> simp [Function.comp_def]
  have htitles : titles (before ++ (ls.map .line ++ after)) =
      titles (before ++ (ls'.map .line ++ after)) := by
    simp only [titles_eq, addTitles_append, addTitles_map_line]
  refine ⟨fun start _ => by rw [htitles], fun key => ?_, ?_, fun tiles hmade => ?_⟩
  · simp only [hunder, List.filterMap_append]
    split
    · rw [hcodes]
    · rfl
  · simp only [hunder, List.filterMap_append]
    split
    · rw [hlegend ‹_›]
    · rfl
  · simp only [sectionsStarting_sectionsOf, htitles, hunder]
    by_cases hkey : keyStarts "layer" (keyAfter metaKey before)
    · refine compileLayers_map_congr (fun e index => ?_) _
      obtain ⟨key, title⟩ := e
      dsimp only
      by_cases heq : keyAfter metaKey before = key
      · obtain rfl := heq
        rw [if_pos rfl, if_pos rfl]
        exact compileLayer_of_inert ⟨_, title, []⟩ _ (hlayer hkey tiles hmade)
      · rw [if_neg heq, if_neg heq]
    · -- the lines are in none of the sections
      congr 1
      refine List.map_congr_left fun e hmem => ?_
      obtain ⟨key, title⟩ := e
      have hne : keyAfter metaKey before ≠ key := by
        rintro rfl
        exact hkey (by simpa using (List.mem_filter.mp hmem).2)
      dsimp only
      rw [if_neg hne, if_neg hne]

/-- A comment behind a line is not read. -/
theorem itemsAlike_append {made : TileTable → Prop} (before after : List (List Char))
    {line right : List Char} (comment : List Char) (hline : ∃ c ∈ line, ¬ isBlank c)
    (hright : ∀ c ∈ right, isBlank c)
    (hplace : (headerOf? line).isSome ∨ keyStarts "layer" (keyBelow before) = false ∨
      ∀ tiles, made tiles → IsNote tiles (linesAbove before) (trim line) ∧
        IsNote tiles (linesAbove before) (trim (line ++ ' ' :: '#' :: ' ' :: comment))) :
    ItemsAlike made (itemsOfLines (before ++ (line ++ right) :: after))
      (itemsOfLines (before ++ (line ++ ' ' :: '#' :: ' ' :: comment) :: after)) := by
  have hne : trim line ≠ [] := trim_ne_nil hline
  have hs : trimEnd (trim line) = trim line := trimEnd_trim line
  obtain ⟨t, ht, htrim⟩ := exists_trim_append hline comment
  have hright : trim (line ++ right) = trim line := @trim_margins [] line right (by simp) hright
  have hcode := ht.codeOf?_append hs hne
  have hitem := item_of_trim rfl hne
  have hitem₁ := item_of_trim hright hne
  have hitem₂ := item_of_trim htrim (by simp [hne])
  rw [hcode] at hitem₂
  cases hheader : (codeOf? (trim line)).bind headerName? with
  | some name =>
    rw [hheader] at hitem₁ hitem₂
    rw [itemsOfLines_append, itemsOfLines_append, itemsOfLines_cons hitem₁,
      itemsOfLines_cons hitem₂]
    exact .refl made _
  | none =>
    simp only [hheader] at hitem hitem₁ hitem₂
    rw [itemsOfLines_append, itemsOfLines_append, itemsOfLines_cons hitem₁,
      itemsOfLines_cons hitem₂]
    have hlineCode : (Line.ofTrimmed (trim line ++ t)).code = (Line.ofTrimmed (trim line)).code :=
      congrArg (Option.map String.ofList) hcode
    refine itemsAlike_of_lines _ _ [.ofTrimmed (trim line)] [.ofTrimmed (trim line ++ t)] ?_
      (fun _ => ?_) fun hkey tiles hmade => ?_
    · rw [List.filterMap_cons, List.filterMap_cons, hlineCode]
    · rw [List.filterMap_cons, List.filterMap_cons, definitionText?_append ht hs hne]
    · intro l hl
      have hnotes : IsNote tiles (linesAbove before) (trim line) ∧
          IsNote tiles (linesAbove before) (trim line ++ t) := by
        rcases hplace with hsome | hfree | hnotes
        · simp [headerOf?, hitem] at hsome
        · rw [← keyBelow, hfree] at hkey
          cases hkey
        · exact htrim ▸ hnotes tiles hmade
      simp only [List.singleton_append, List.forall_mem_cons]
      exact ⟨(isNote_iff hnotes.1.1).mp hnotes.1 l hl, (isNote_iff hnotes.2.1).mp hnotes.2 l hl,
        List.forall_mem_nil _⟩

/-- A line that is a comment is not read. -/
theorem itemsAlike_insert {made : TileTable → Prop} (before after : List (List Char))
    {left : List Char} (comment : List Char) (hleft : ∀ c ∈ left, isBlank c)
    (hplace : keyStarts "layer" (keyBelow before) = false)
    (hlegend : keyBelow before = "tiles" → (trim comment).head? ≠ some '=') :
    ItemsAlike made (itemsOfLines (before ++ after))
      (itemsOfLines (before ++ (left ++ '#' :: comment) :: after)) := by
  have htrim : trim (left ++ '#' :: comment) = '#' :: trimEnd comment := by
    rw [trim, trimStart_of_blank hleft]
    exact trimEnd_cons_of_not_blank (by decide) comment
  have hitem := item_of_trim htrim (by simp)
  rw [codeOf?_hash, Option.bind_none] at hitem
  rw [itemsOfLines_append, itemsOfLines_append, itemsOfLines_cons hitem]
  refine itemsAlike_of_lines _ _ [] [.ofTrimmed ('#' :: trimEnd comment)] rfl (fun hkey => ?_)
    fun hkey => ?_
  · have hnone : (Line.ofTrimmed ('#' :: trimEnd comment)).definitionText? = none := by
      rw [definitionText?_hash, trim_trimEnd, if_neg (hlegend hkey)]
    rw [List.filterMap_nil, List.filterMap_cons, hnone]
    rfl
  · rw [← keyBelow, hplace] at hkey
    cases hkey

/-- No change in comments changes what is read. -/
theorem CommentChange.itemsAlike {made : TileTable → Prop} {lines lines' : List (List Char)}
    (h : CommentChange made lines lines') :
    ItemsAlike made (itemsOfLines lines) (itemsOfLines lines') := by
  cases h with
  | append before after comment hline hright hplace =>
    exact itemsAlike_append before after comment hline hright hplace
  | insert before after comment hleft hplace hlegend =>
    exact itemsAlike_insert before after comment hleft hplace hlegend

/-! ### Main result -/

/-- Texts that differ in comments only describe the same map, or are refused with errors that differ
at most in the number of the line. -/
theorem compile_of_sameButComments {text text' : String} {options : CompileOptions}
    (h : SameButComments options text text') :
    (compile text options).mapError MapError.unnumbered =
      (compile text' options).mapError MapError.unnumbered :=
  compile_of_eqvGen (fun _ _ h => h.itemsAlike) h

/-- A map text whose walls are drawn with the comment mark. -/
def shrineLines : List String :=
  ["[Tiles]", "# = wall;color=#ff0000", "[Layer]", "# #", "# of stone", "[Objects]", "lamp@0x0"]

/-- The map text with comments behind a definition, a header and a note, and on a line of its
own. -/
def remarkedShrineLines : List String :=
  ["[Tiles]", "# = wall;color=#ff0000 # brick", "[Layer] # ground", "# #", "# of stone # #",
    "[Objects]", "# of any kind", "lamp@0x0"]

theorem compile_of_sameButComments_shrine :
    SameButComments .default (textOf shrineLines) (textOf remarkedShrineLines) ∧
      (compile (textOf shrineLines) .default).mapError MapError.unnumbered =
        (compile (textOf remarkedShrineLines) .default).mapError MapError.unnumbered := by
  have hdefinition : SameButComments .default (textOf shrineLines)
      (textOf ["[Tiles]", "# = wall;color=#ff0000 # brick", "[Layer]", "# #", "# of stone",
        "[Objects]", "lamp@0x0"]) := by
    apply eqvGen_textOf (by decide) (by decide) (by decide) (by decide)
    exact @CommentChange.append _ ["[Tiles]".toList]
      ["[Layer]".toList, "# #".toList, "# of stone".toList, "[Objects]".toList,
        "lamp@0x0".toList]
      "# = wall;color=#ff0000".toList [] "brick".toList ⟨'#', by decide, by decide⟩ (by simp)
      (.inr (.inl (by decide +kernel)))
  have hheader : SameButComments .default
      (textOf ["[Tiles]", "# = wall;color=#ff0000 # brick", "[Layer]", "# #", "# of stone",
        "[Objects]", "lamp@0x0"])
      (textOf ["[Tiles]", "# = wall;color=#ff0000 # brick", "[Layer] # ground", "# #",
        "# of stone", "[Objects]", "lamp@0x0"]) := by
    apply eqvGen_textOf (by decide) (by decide) (by decide) (by decide)
    exact @CommentChange.append _ ["[Tiles]".toList, "# = wall;color=#ff0000 # brick".toList]
      ["# #".toList, "# of stone".toList, "[Objects]".toList, "lamp@0x0".toList]
      "[Layer]".toList [] "ground".toList ⟨'[', by decide, by decide⟩ (by simp)
      (.inl (by decide))
  have hnote : SameButComments .default
      (textOf ["[Tiles]", "# = wall;color=#ff0000 # brick", "[Layer] # ground", "# #",
        "# of stone", "[Objects]", "lamp@0x0"])
      (textOf ["[Tiles]", "# = wall;color=#ff0000 # brick", "[Layer] # ground", "# #",
        "# of stone # #", "[Objects]", "lamp@0x0"]) := by
    apply eqvGen_textOf (by decide) (by decide) (by decide) (by decide)
    refine @CommentChange.append _ ["[Tiles]".toList, "# = wall;color=#ff0000 # brick".toList,
      "[Layer] # ground".toList, "# #".toList] ["[Objects]".toList, "lamp@0x0".toList]
      "# of stone".toList [] "#".toList ⟨'#', by decide, by decide⟩ (by simp)
      (.inr (.inr fun tiles htiles => ?_))
    have hcell : tiles.cell? "of" = none := by
      have hall : (tileTableOf (textOf ["[Tiles]", "# = wall;color=#ff0000 # brick",
          "[Layer] # ground", "# #", "# of stone", "[Objects]", "lamp@0x0"])
          .default).toOption.map (·.cell? "of") = some none := by decide +kernel
      obtain ⟨tiles', htiles', hcell⟩ := exists_ok_of_toOption_map hall
      obtain rfl := Except.ok.inj (htiles.symm.trans htiles')
      exact hcell
    exact ⟨isNote_of_unknown (by decide) (by decide) ⟨"of".toList, by decide, hcell⟩ _,
      isNote_of_unknown (by decide) (by decide) ⟨"of".toList, by decide, hcell⟩ _⟩
  have hline : SameButComments .default
      (textOf ["[Tiles]", "# = wall;color=#ff0000 # brick", "[Layer] # ground", "# #",
        "# of stone # #", "[Objects]", "lamp@0x0"])
      (textOf remarkedShrineLines) := by
    apply eqvGen_textOf (by decide) (by decide) (by decide) (by decide)
    exact @CommentChange.insert _ ["[Tiles]".toList, "# = wall;color=#ff0000 # brick".toList,
      "[Layer] # ground".toList, "# #".toList, "# of stone # #".toList, "[Objects]".toList]
      ["lamp@0x0".toList] [] " of any kind".toList (by simp) (by decide +kernel)
      (by decide +kernel)
  have h : SameButComments .default (textOf shrineLines) (textOf remarkedShrineLines) :=
    hdefinition.trans _ _ _ (hheader.trans _ _ _ (hnote.trans _ _ _ hline))
  exact ⟨h, compile_of_sameButComments h⟩

/-- A line that starts with `#` below a row of five cells. -/
def hedgeLines : List String := ["[Layer]", ". . . . .", "# . ."]

/-- The line is a note, and a row once it has a comment: it gives the map a second row. -/
theorem exists_note_made_row :
    (∀ tiles, tileTableOf (textOf hedgeLines) .default = .ok tiles →
      IsNote tiles (linesAbove ["[Layer]".toList, ". . . . .".toList]) "# . .".toList) ∧
    (compile (textOf hedgeLines) .default).toOption.map (·.size) = some ⟨5, 1⟩ ∧
    (compile (textOf ["[Layer]", ". . . . .", "# . . # ."]) .default).toOption.map (·.size) =
      some ⟨5, 2⟩ := by
  refine ⟨fun tiles htiles => ?_, by decide +kernel, by decide +kernel⟩
  obtain rfl : tiles = .ofCatalog .builtin := Except.ok.inj (htiles.symm.trans rfl)
  refine ⟨rfl, fun l hdraws _ row hrow => ?_⟩
  obtain rfl : row = [some "wall", some "floor", some "floor"] :=
    Except.ok.inj (hrow.symm.trans rfl)
  obtain ⟨s, index, hl⟩ := hdraws
  obtain rfl : l = { TileLayer.start s index with
      tiles := [[some "floor", some "floor", some "floor", some "floor", some "floor"]] } :=
    Except.ok.inj (hl.symm.trans rfl)
  simp [TileLayer.fits]

end Tilemap
