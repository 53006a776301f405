import Tilemap.Proofs.SourceLines
import Tilemap.Proofs.TileReferences

/-!
# How large a drawn layer can be

A line of a map text adds one row to a layer at most, and a row has no more cells than its line has
characters. So the layers of a text are no larger than the text itself (`within_compileLayers`), and
the numbers of their rows and columns fit 32 bits when the text is shorter than that.
-/

namespace Tilemap

/-! ### Lengths of texts -/

namespace Text

theorem length_le_utf8ByteSize (s : String) : s.toList.length ≤ s.utf8ByteSize := by
  have hchars (cs : List Char) : cs.length ≤ (String.ofList cs).utf8ByteSize := by
    induction cs with
    | nil => simp
    | cons c cs ih =>
      have hsplit : String.ofList (c :: cs) = String.singleton c ++ String.ofList cs := by
        rw [String.singleton_eq_ofList, ← String.ofList_append, List.singleton_append]
      have hpos : 0 < c.utf8Size := c.utf8Size_pos
      rw [hsplit, String.utf8ByteSize_append, String.utf8ByteSize_singleton, List.length_cons]
      omega
  simpa using hchars s.toList

theorem length_flatten_pieces_le (p : Char → Bool) (s : List Char) :
    (pieces p s).flatten.length ≤ s.length := by
  rw [flatten_pieces]
  exact List.length_filter_le _ s

theorem length_le_of_mem_pieces {p : Char → Bool} {s w : List Char} (h : w ∈ pieces p s) :
    w.length ≤ s.length :=
  Nat.le_trans (List.sublist_flatten_of_mem h).length_le (length_flatten_pieces_le p s)

theorem length_pieces_le (p : Char → Bool) (s : List Char) :
    (pieces p s).length ≤ s.length + 1 := by
  induction s with
  | nil => simp [pieces]
  | cons c s ih =>
    obtain ⟨w, ws, hws⟩ := List.exists_cons_of_ne_nil (pieces_ne_nil p s)
    rw [pieces, List.length_cons]
    rw [hws, List.length_cons] at ih
    split
    · simp only [hws, List.length_cons]
      omega
    · simp only [hws, List.length_cons]
      omega

/-- Every word takes a character. -/
theorem length_words_le (s : List Char) : (words s).length ≤ s.length := by
  have hle (ws : List (List Char)) (hne : [] ∉ ws) : ws.length ≤ ws.flatten.length := by
    induction ws with
    | nil => simp
    | cons w ws ih =>
      rw [List.mem_cons, not_or] at hne
      have hpos : 0 < w.length := List.length_pos_iff.mpr (Ne.symm hne.1)
      have hrest := ih hne.2
      rw [List.flatten_cons, List.length_append, List.length_cons]
      omega
  have hflatten : (words s).flatten.length ≤ s.length := by
    rw [words, List.flatten_filter_ne_nil]
    exact length_flatten_pieces_le isBlank s
  exact Nat.le_trans (hle (words s) (by simp [words])) hflatten

theorem length_trimEnd_le (s : List Char) : (trimEnd s).length ≤ s.length := by
  obtain ⟨gap, -, hs⟩ := exists_trimEnd_append s
  have hlength := congrArg List.length hs
  rw [List.length_append] at hlength
  omega

theorem length_trim_le (s : List Char) : (trim s).length ≤ s.length :=
  Nat.le_trans (length_trimEnd_le _) (List.dropWhile_sublist isBlank).length_le

end Text

open Text

theorem length_beforeComment?_le {s before : List Char} (h : beforeComment? s = some before) :
    before.length ≤ s.length := by
  induction s generalizing before with
  | nil => cases h
  | cons c s ih =>
    rw [beforeComment?] at h
    split at h
    · cases h
      simp
    · obtain ⟨before', hbefore, rfl⟩ := Option.map_eq_some_iff.mp h
      exact Nat.succ_le_succ (ih hbefore)

theorem length_stripCommentChars_le (s : List Char) : (stripCommentChars s).length ≤ s.length := by
  rw [stripCommentChars]
  split
  · rename_i before hbefore
    exact Nat.le_trans (length_trimEnd_le before) (length_beforeComment?_le hbefore)
  · exact Nat.le_refl _

/-! ### Lines of a section -/

theorem length_keyedLines_le (current : String) (items : List Item) :
    (keyedLines current items).length ≤ items.length := by
  induction items generalizing current with
  | nil => exact Nat.le_refl 0
  | cons item rest ih =>
    cases item with
    | header name => exact Nat.le_succ_of_le (ih (sectionKey name))
    | line l => exact Nat.succ_le_succ (ih current)

section

variable {text : String} {s : Section}

theorem length_lines_le (hs : s ∈ splitSections text) :
    s.lines.length ≤ text.toList.length + 1 := by
  have hitems : (itemsOf text).length ≤ (pieces (· = '\n') text.toList).length := by
    rw [itemsOf]
    exact Nat.le_trans (List.length_filterMap_le _ _) (by simp)
  rw [lines_of_mem_splitSections hs, linesUnder, List.length_map]
  calc ((keyedLines metaKey (itemsOf text)).filter (·.1 = s.key)).length
      ≤ (keyedLines metaKey (itemsOf text)).length := List.length_filter_le _ _
    _ ≤ (itemsOf text).length := length_keyedLines_le metaKey _
    _ ≤ (pieces (· = '\n') text.toList).length := hitems
    _ ≤ text.toList.length + 1 := length_pieces_le _ _

/-- What is kept of a line is no longer than the text. -/
theorem length_line_le (hs : s ∈ splitSections text) {l : Line} (hl : l ∈ s.lines) {kept : String}
    (hkept : kept = l.raw ∨ l.code = some kept) : kept.toList.length ≤ text.toList.length := by
  rw [lines_of_mem_splitSections hs] at hl
  obtain ⟨i, -, line, hline, -, rfl⟩ := mem_linesUnder_itemsOf.mp hl
  have hraw : (trim line).length ≤ text.toList.length :=
    Nat.le_trans (length_trim_le line) (length_le_of_mem_pieces (List.mem_of_getElem? hline))
  rcases hkept with rfl | hcode
  · simpa [Line.ofSource] using hraw
  · rw [Line.ofSource] at hcode
    dsimp only at hcode
    split at hcode
    · cases hcode
    · obtain rfl := Option.some.inj hcode
      rw [String.toList_ofList]
      exact Nat.le_trans (length_stripCommentChars_le _) hraw

end

/-! ### Rows of a layer -/

theorem length_rowTokens_le (row : String) : (rowTokens row).length ≤ row.toList.length := by
  rw [rowTokens]
  split
  · rename_i dense hdense
    have hmem : dense ∈ words row.toList := by simp [hdense]
    rw [List.length_map]
    exact length_le_of_mem_pieces (List.mem_filter.mp hmem).1
  · rw [List.length_map]
    exact length_words_le row.toList

/-- A row has no more cells than characters. -/
theorem TileTable.length_le_of_row {tiles : TileTable} {text : String} {row : List Cell}
    (h : tiles.row text = .ok row) : row.length ≤ text.toList.length := by
  rw [(mapM_eq_ok h).1]
  exact length_rowTokens_le text

/-- A layer has no more rows and columns than two numbers. -/
structure TileLayer.Within (l : TileLayer) (columns rows : Nat) : Prop where
  columns_le : ∀ row ∈ l.tiles, row.length ≤ columns
  rows_le : l.height ≤ rows

namespace TileLayer.Within

variable {tiles : TileTable} {l l' : TileLayer} {columns rows : Nat}

/-- One line makes a layer one row longer at most, and no wider than the line. -/
theorem addLine {line : Line} (h : l.Within columns rows)
    (hline : ∀ kept, kept = line.raw ∨ line.code = some kept → kept.toList.length ≤ columns)
    (hadd : l.addLine tiles line = .ok l') : l'.Within columns (rows + 1) := by
  rcases addLine_eq_ok hadd with ⟨text, row, htext, hrow, hadd⟩ | ⟨-, key, value, -, -, rfl⟩ | rfl
  · obtain ⟨-, rfl⟩ := addRow_eq_ok.mp hadd
    refine ⟨fun r hr => ?_, by simpa [height] using h.rows_le⟩
    rcases List.mem_append.mp hr with hr | hr
    · exact h.columns_le r hr
    · rw [List.mem_singleton.mp hr]
      exact Nat.le_trans (TileTable.length_le_of_row hrow) (hline text htext)
  · refine ⟨?_, ?_⟩
    · rw [tiles_set]
      exact h.columns_le
    · rw [height, tiles_set]
      exact Nat.le_succ_of_le h.rows_le
  · exact ⟨h.columns_le, Nat.le_succ_of_le h.rows_le⟩

/-- Every line gives room for one row more. -/
theorem foldlM_addLine {lines : List Line} (h : l.Within columns rows)
    (hlines : ∀ line ∈ lines, ∀ kept, kept = line.raw ∨ line.code = some kept →
      kept.toList.length ≤ columns)
    (hfold : lines.foldlM (TileLayer.addLine tiles) l = .ok l') :
    l'.Within columns (rows + lines.length) := by
  induction lines generalizing l rows with
  | nil =>
    obtain rfl := pure_eq_ok.mp hfold
    exact h
  | cons line rest ih =>
    obtain ⟨hline, hrest⟩ := List.forall_mem_cons.mp hlines
    rw [List.foldlM_cons] at hfold
    obtain ⟨next, hnext, hfold⟩ := bind_eq_ok.mp hfold
    have hwithin := ih (h.addLine hline hnext) hrest hfold
    rwa [Nat.add_assoc, Nat.add_comm 1] at hwithin

end TileLayer.Within

/-- The layers of a map text are no larger than the text. -/
theorem within_compileLayers {text : String} {tiles : TileTable} {layers : List TileLayer}
    (h : compileLayers tiles (sectionsStarting (splitSections text) "layer") = .ok layers) :
    ∀ l ∈ layers, l.Within text.toList.length (text.toList.length + 1) := by
  intro l hl
  obtain ⟨s, hs, index, hfold, -⟩ := exists_foldlM_of_mem_compileLayers h hl
  have hs : s ∈ splitSections text := (List.mem_filter.mp hs).1
  have hstart : (TileLayer.start s index).Within text.toList.length 0 :=
    ⟨by simp [TileLayer.start], Nat.le_refl 0⟩
  have hwithin := hstart.foldlM_addLine
    (fun line hline kept hkept => length_line_le hs hline hkept) hfold
  rw [Nat.zero_add] at hwithin
  exact ⟨hwithin.columns_le, Nat.le_trans hwithin.rows_le (length_lines_le hs)⟩

end Tilemap
