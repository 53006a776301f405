import Tilemap.Proofs.LayerOrder
import Tilemap.Proofs.TileReferences

/-!
# Rows of a layer

When `#` is no tile, a layer is read from what the comments of its lines leave. The texts that set
properties come first, and every text below them is a row, whatever it looks like. The rows read
without a mistake when all their tokens mean something and all rows have the same number of them.
`compileLayers_rows` says that this is all there is to it: the sections are accepted exactly if
their rows read, every section with a row is a layer with these rows, and else the error is about
the first row that does not read.

The lines are first reduced to their codes (`foldlM_addLine_of_unbound`) and then to the texts of
the rows (`foldlM_addLine`). These are followed from the top: what has been read is the layer with
the rows so far, and the next text adds its row or is at fault (`addText_eq_ok_iff`,
`addText_eq_error_iff`).
-/

namespace Tilemap

open Text

/-! ### Properties -/

/-- A text is a key, a colon and a value. The key starts with a letter, and has letters, digits,
spaces, `_` and `-` only. -/
def SetsProperty (text : String) (property : String × String) : Prop :=
  ∃ key value, text.toList = key ++ ':' :: value ∧ ':' ∉ key ∧
    (∃ c rest, trim key = c :: rest ∧ c.isAlpha ∧
      ∀ d ∈ rest, d.isAlphanum ∨ d = '_' ∨ d = '-' ∨ d = ' ') ∧
    property = (String.ofList (trim key), String.ofList (trim value))

/-- `SetsProperty` says in words what is read as a property. -/
theorem layerProperty?_eq_some_iff {text : String} {property : String × String} :
    layerProperty? text = some property ↔ SetsProperty text property := by
  have hkey (c : Char) (rest : List Char) :
      (c.isAlpha && rest.all fun d => d.isAlphanum || d = '_' || d = '-' || d = ' ') ↔
        c.isAlpha ∧ ∀ d ∈ rest, d.isAlphanum ∨ d = '_' ∨ d = '-' ∨ d = ' ' := by
    simp [or_assoc]
  constructor
  · intro h
    by_cases hmem : ':' ∈ text.toList
    · obtain ⟨key, value, htext, hcolon⟩ := List.eq_append_cons_of_mem hmem
      rw [layerProperty?, htext, cut?_append hcolon] at h
      dsimp only at h
      split at h
      · rename_i c rest htrim
        rw [Option.ite_none_right_eq_some, hkey, Option.some_inj] at h
        obtain ⟨⟨hc, hrest⟩, rfl⟩ := h
        exact ⟨key, value, htext, hcolon, ⟨c, rest, htrim, hc, hrest⟩, by rw [htrim]⟩
      · cases h
    · rw [layerProperty?, cut?_of_notMem hmem] at h
      cases h
  · rintro ⟨key, value, htext, hcolon, ⟨c, rest, htrim, hc, hrest⟩, rfl⟩
    rw [layerProperty?, htext, cut?_append hcolon]
    simp only [htrim]
    exact if_pos ((hkey c rest).mpr ⟨hc, hrest⟩)

/-- A text sets a property. -/
def IsProperty (text : String) : Prop := ∃ property, SetsProperty text property

theorem isProperty_iff {text : String} : IsProperty text ↔ (layerProperty? text).isSome := by
  simp only [IsProperty, ← layerProperty?_eq_some_iff, Option.isSome_iff_exists]

instance (text : String) : Decidable (IsProperty text) := decidable_of_iff' _ isProperty_iff

/-! ### Statement -/

/-- A word for an empty cell, in capitals or small letters. -/
def IsEmptyWord (token : String) : Prop := String.ofList (asciiLower token.toList) ∈ emptyWords

instance (token : String) : Decidable (IsEmptyWord token) :=
  inferInstanceAs (Decidable (_ ∈ emptyWords))

/-- What a token means: an empty cell, or else what a symbol stands for, or else the type that it is
the id of. -/
inductive TileTable.Means (tiles : TileTable) (token : String) : Cell → Prop where
  | empty : IsEmptyWord token → tiles.Means token none
  | symbol {id : String} : ¬ IsEmptyWord token → tiles.symbol? token = some id →
      tiles.Means token (some id)
  | id : ¬ IsEmptyWord token → tiles.symbol? token = none → token ∈ typeIds tiles.types →
      tiles.Means token (some token)

/-- The cells that texts mean, token by token. -/
def TileTable.ReadsAs (tiles : TileTable) (texts : List String) (rows : List (List Cell)) : Prop :=
  List.Forall₂ (fun text row => List.Forall₂ tiles.Means (rowTokens text) row) texts rows

/-- Texts read as rows: every token means something, and the rows are equally long. -/
structure TileTable.Readable (tiles : TileTable) (texts : List String) : Prop where
  tokens : ∀ text ∈ texts, ∀ token ∈ rowTokens text, ∃ c, tiles.Means token c
  widths : ∀ text ∈ texts, ∀ text' ∈ texts, (rowTokens text).length = (rowTokens text').length

namespace Section

/-- What the comments of the lines leave. -/
def codes (s : Section) : List String := s.lines.filterMap (·.code)

/-- The texts below the leading properties. -/
def rowTexts (s : Section) : List String := s.codes.dropWhile fun code => IsProperty code

def properties (s : Section) : List (String × String) :=
  (s.codes.takeWhile fun code => IsProperty code).filterMap layerProperty?

/-- The layer that a section starts with, with its leading properties set. -/
def settings (s : Section) (index : Nat) : TileLayer :=
  s.properties.foldl (fun l p => l.set p.1 p.2) (.start s index)

/-- A layer has the leading properties of a section and the rows below them. -/
structure DrawnAs (tiles : TileTable) (s : Section) (index : Nat) (l : TileLayer) : Prop where
  settings : l = { s.settings index with tiles := l.tiles }
  rows : tiles.ReadsAs s.rowTexts l.tiles

end Section

/-- What is wrong with a row, given the name of its layer and the rows above it: a token that means
nothing, of which the first counts, or else that it is not as long as the first row. -/
inductive RowError (tiles : TileTable) (layer : String) (above : List String) (text : String) :
    MapError → Prop where
  | unknown {known rest : List String} {token : String} :
      rowTokens text = known ++ token :: rest → (∀ t ∈ known, ∃ c, tiles.Means t c) →
      (¬ ∃ c, tiles.Means token c) →
      RowError tiles layer above text (.unknownTileReference layer (above.length + 1) token)
  | width {first : String} :
      (∀ token ∈ rowTokens text, ∃ c, tiles.Means token c) → above.head? = some first →
      (rowTokens first).length ≠ (rowTokens text).length →
      RowError tiles layer above text (.unequalLayerWidth layer (above.length + 1)
        (rowTokens first).length (rowTokens text).length)

/-- An error is about the first row at fault: the sections before read, and so do the rows above. -/
def FirstRowError (tiles : TileTable) (sections : List Section) (e : MapError) : Prop :=
  ∃ pre s post above text below, sections = pre ++ s :: post ∧
    s.rowTexts = above ++ text :: below ∧ (∀ s' ∈ pre, tiles.Readable s'.rowTexts) ∧
    tiles.Readable above ∧ RowError tiles (s.settings pre.length).id above text e

/-- The layers sorted by order and id, where those that agree in both stay in their order. -/
structure StablySorted (drawn layers : List TileLayer) : Prop where
  perm : layers.Perm drawn
  sorted : layers.Pairwise fun a b => a.order < b.order ∨ a.order = b.order ∧ a.id ≤ b.id
  ties : ∀ order id, layers.filter (fun l => l.order = order ∧ l.id = id) =
    drawn.filter fun l => l.order = order ∧ l.id = id

/-! ### Tokens -/

namespace TileTable

variable {tiles : TileTable} {text token : String}

theorem get?_isSome_iff : (tiles.get? token).isSome ↔ token ∈ typeIds tiles.types := by
  simp [get?, typeIds]

theorem means_iff {c : Cell} : tiles.Means token c ↔ tiles.cell? token = some c := by
  have hword : emptyWords.contains (String.ofList (asciiLower token.toList)) ↔
      IsEmptyWord token := List.contains_iff_mem
  simp only [cell?, hword]
  constructor
  · rintro (hempty | ⟨hword, hsymbol⟩ | ⟨hword, hsymbol, hid⟩)
    · exact if_pos hempty
    · rw [if_neg hword, hsymbol]
    · rw [if_neg hword, hsymbol]
      exact if_pos (get?_isSome_iff.mpr hid)
  · intro h
    split at h
    · rename_i hempty
      obtain rfl := Option.some.inj h
      exact .empty hempty
    · rename_i hword
      split at h
      · rename_i id hsymbol
        obtain rfl := Option.some.inj h
        exact .symbol hword hsymbol
      · rename_i hsymbol
        split at h
        · rename_i hid
          obtain rfl := Option.some.inj h
          exact .id hword hsymbol (get?_isSome_iff.mp hid)
        · cases h

/-- What a row reads for one of its tokens. -/
def readToken (tiles : TileTable) (token : String) : Except String Cell :=
  match tiles.cell? token with
  | some c => .ok c
  | none => .error token

theorem row_eq (tiles : TileTable) (text : String) :
    tiles.row text = (rowTokens text).mapM tiles.readToken := rfl

theorem readToken_eq_ok_iff {c : Cell} :
    tiles.readToken token = .ok c ↔ tiles.Means token c := by
  rw [means_iff, readToken]
  cases tiles.cell? token <;> simp

theorem readToken_eq_error_iff {token' : String} :
    tiles.readToken token = .error token' ↔ token = token' ∧ ¬ ∃ c, tiles.Means token c := by
  simp only [means_iff, readToken]
  cases tiles.cell? token <;> simp

theorem row_eq_ok_iff {row : List Cell} :
    tiles.row text = .ok row ↔ List.Forall₂ tiles.Means (rowTokens text) row := by
  rw [row_eq, mapM_eq_ok_iff]
  simp only [readToken_eq_ok_iff]

/-- A row fails by its first token that means nothing. -/
theorem row_eq_error_iff : tiles.row text = .error token ↔
    ∃ known rest, rowTokens text = known ++ token :: rest ∧
      (∀ t ∈ known, ∃ c, tiles.Means t c) ∧ ¬ ∃ c, tiles.Means token c := by
  rw [row_eq, mapM_eq_error_iff]
  simp only [readToken_eq_ok_iff, readToken_eq_error_iff]
  constructor
  · rintro ⟨known, t, rest, htext, hknown, rfl, hmeans⟩
    exact ⟨known, rest, htext, hknown, hmeans⟩
  · rintro ⟨known, rest, htext, hknown, hmeans⟩
    exact ⟨known, token, rest, htext, hknown, rfl, hmeans⟩

theorem exists_row_iff :
    (∃ row, tiles.row text = .ok row) ↔ ∀ token ∈ rowTokens text, ∃ c, tiles.Means token c := by
  constructor
  · rintro ⟨row, hrow⟩ token htoken
    obtain ⟨c, -, hc⟩ := exists_of_mem_forall₂ (row_eq_ok_iff.mp hrow) htoken
    exact ⟨c, hc⟩
  · intro h
    cases hrow : tiles.row text with
    | ok row => exact ⟨row, rfl⟩
    | error token =>
      obtain ⟨known, rest, htext, -, hmeans⟩ := row_eq_error_iff.mp hrow
      exact absurd (h token (by simp [htext])) hmeans

/-! ### Rows below each other -/

/-- A row can stand below others when it is as long as the first of them. -/
theorem readable_concat_iff {above : List String} : tiles.Readable (above ++ [text]) ↔
    tiles.Readable above ∧ (∀ token ∈ rowTokens text, ∃ c, tiles.Means token c) ∧
      ∀ first ∈ above.head?, (rowTokens first).length = (rowTokens text).length := by
  constructor
  · rintro ⟨htokens, hwidths⟩
    refine ⟨⟨?_, ?_⟩, ?_, ?_⟩
    · intro t ht
      exact htokens t (List.mem_append_left _ ht)
    · intro t ht t' ht'
      exact hwidths t (List.mem_append_left _ ht) t' (List.mem_append_left _ ht')
    · exact htokens text (by simp)
    · intro first hfirst
      exact hwidths first (List.mem_append_left _ (List.mem_of_mem_head? hfirst)) text (by simp)
  · rintro ⟨⟨htokens, hwidths⟩, hmeans, hfirst⟩
    have htext : ∀ t ∈ above, (rowTokens t).length = (rowTokens text).length := by
      intro t ht
      obtain ⟨first, rest, rfl⟩ := List.exists_cons_of_ne_nil (List.ne_nil_of_mem ht)
      rw [hwidths t ht first List.mem_cons_self, hfirst first rfl]
    constructor
    case tokens =>
      simp only [List.forall_mem_append, List.forall_mem_singleton]
      exact ⟨htokens, hmeans⟩
    case widths =>
      simp only [List.forall_mem_append, List.forall_mem_singleton]
      exact ⟨fun t ht => ⟨hwidths t ht, htext t ht⟩, fun t ht => (htext t ht).symm, trivial⟩

theorem readsAs_concat_iff {above : List String} {rows : List (List Cell)} :
    tiles.ReadsAs (above ++ [text]) rows ↔ ∃ rows' row,
      tiles.ReadsAs above rows' ∧ tiles.row text = .ok row ∧ rows = rows' ++ [row] := by
  simp only [row_eq_ok_iff]
  constructor
  · intro h
    have habove := List.forall₂_take_append _ _ _ h.flip
    have htext := List.forall₂_drop_append _ _ _ h.flip
    obtain ⟨row, _, hrow, hnil, heq⟩ := List.forall₂_cons_right_iff.mp htext
    obtain rfl := List.forall₂_nil_right_iff.mp hnil
    exact ⟨_, row, habove.flip, hrow, by rw [← heq, List.take_append_drop]⟩
  · rintro ⟨rows', row, habove, hrow, rfl⟩
    exact List.rel_append habove (.cons hrow .nil)

theorem Readable.exists_readsAs {texts : List String} (h : tiles.Readable texts) :
    ∃ rows, tiles.ReadsAs texts rows := by
  induction texts using List.reverseRecOn with
  | nil => exact ⟨[], .nil⟩
  | append_singleton above text ih =>
    obtain ⟨habove, hmeans, -⟩ := readable_concat_iff.mp h
    obtain ⟨rows, hrows⟩ := ih habove
    obtain ⟨row, hrow⟩ := exists_row_iff.mpr hmeans
    exact ⟨rows ++ [row], readsAs_concat_iff.mpr ⟨rows, row, hrows, hrow, rfl⟩⟩

end TileTable

/-! ### Texts of a layer -/

namespace TileLayer

variable {tiles : TileTable} {l l' : TileLayer} {text : String} {texts : List String}

/-- Adds the row that a text makes. -/
def addText (tiles : TileTable) (l : TileLayer) (text : String) : Except MapError TileLayer :=
  match tiles.row text with
  | .ok row => l.addRow row
  | .error token => .error (.unknownTileReference l.id (l.height + 1) token)

/-- Reads what the comment of a line leaves. -/
def addCode (tiles : TileTable) (l : TileLayer) (code : String) : Except MapError TileLayer :=
  match if l.tiles.isEmpty then layerProperty? code else none with
  | some (key, value) => .ok (l.set key value)
  | none => l.addText tiles code

/-- Where `#` is no tile, nothing but the code of a line counts. -/
theorem foldlM_addLine_of_unbound (hhash : tiles.isBound "#" = false) (lines : List Line) :
    lines.foldlM (addLine tiles) l = (lines.filterMap (·.code)).foldlM (addCode tiles) l := by
  induction lines generalizing l with
  | nil => rfl
  | cons line rest ih =>
    have huncut : l.uncutRow? tiles line = none := by
      rw [uncutRow?, hhash]
      rfl
    cases hcode : line.code with
    | none =>
      rw [List.filterMap_cons_none hcode, List.foldlM_cons, addLine, huncut, hcode]
      exact ih
    | some code =>
      have hadd : l.addLine tiles line = l.addCode tiles code := by
        rw [addLine, huncut, hcode]
        rfl
      rw [List.filterMap_cons_some hcode, List.foldlM_cons, List.foldlM_cons, hadd]
      exact congrArg _ (funext fun _ => ih)

theorem addText_eq_ok_iff : l.addText tiles text = .ok l' ↔
    ∃ row, tiles.row text = .ok row ∧ l.fits row ∧ { l with tiles := l.tiles ++ [row] } = l' := by
  rw [addText]
  cases tiles.row text <;> simp [addRow_eq_ok]

/-- Below a row there are no properties. -/
theorem foldlM_addCode_of_ne_nil (hne : l.tiles ≠ []) :
    texts.foldlM (addCode tiles) l = texts.foldlM (addText tiles) l := by
  induction texts generalizing l with
  | nil => rfl
  | cons text rest ih =>
    have hadd : l.addCode tiles text = l.addText tiles text := by
      rw [addCode, if_neg (by simpa using hne)]
    rw [List.foldlM_cons, List.foldlM_cons, hadd]
    cases hnext : l.addText tiles text with
    | error e => rfl
    | ok next =>
      obtain ⟨row, -, -, rfl⟩ := addText_eq_ok_iff.mp hnext
      exact ih (by simp)

/-- The leading properties are set, and the texts below them are rows. -/
theorem foldlM_addCode (htiles : l.tiles = []) :
    texts.foldlM (addCode tiles) l =
      (texts.dropWhile fun code => IsProperty code).foldlM (addText tiles)
        (((texts.takeWhile fun code => IsProperty code).filterMap layerProperty?).foldl
          (fun l p => l.set p.1 p.2) l) := by
  induction texts generalizing l with
  | nil => rfl
  | cons text rest ih =>
    cases hproperty : layerProperty? text with
    | some p =>
      have hadd : l.addCode tiles text = .ok (l.set p.1 p.2) := by
        rw [addCode, if_pos (by simp [htiles]), hproperty]
      rw [List.dropWhile_cons_of_pos (by simp [isProperty_iff, hproperty]),
        List.takeWhile_cons_of_pos (by simp [isProperty_iff, hproperty]),
        List.filterMap_cons_some hproperty,
        List.foldl_cons, List.foldlM_cons, hadd]
      exact ih (by rw [tiles_set, htiles])
    | none =>
      have hadd : l.addCode tiles text = l.addText tiles text := by
        rw [addCode, hproperty, ite_self]
      rw [List.dropWhile_cons_of_neg (by simp [isProperty_iff, hproperty]),
        List.takeWhile_cons_of_neg (by simp [isProperty_iff, hproperty]), List.filterMap_nil,
        List.foldl_nil,
        List.foldlM_cons, List.foldlM_cons, hadd]
      cases hnext : l.addText tiles text with
      | error e => rfl
      | ok next =>
        obtain ⟨row, -, -, rfl⟩ := addText_eq_ok_iff.mp hnext
        exact foldlM_addCode_of_ne_nil (by simp)

theorem tiles_settings (s : Section) (index : Nat) : (s.settings index).tiles = [] := by
  have hset (properties : List (String × String)) (l : TileLayer) :
      (properties.foldl (fun l p => l.set p.1 p.2) l).tiles = l.tiles := by
    induction properties generalizing l with
    | nil => rfl
    | cons p rest ih => rw [List.foldl_cons, ih, tiles_set]
  exact hset s.properties (.start s index)

/-- Without `#` for a tile, lines draw what their texts say: first properties, then rows. -/
theorem foldlM_addLine (hhash : tiles.isBound "#" = false) (s : Section) (index : Nat) :
    s.lines.foldlM (addLine tiles) (.start s index) =
      s.rowTexts.foldlM (addText tiles) (s.settings index) := by
  rw [foldlM_addLine_of_unbound hhash, foldlM_addCode rfl]
  rfl

/-! ### What has been read -/

variable {above : List String} {rows : List (List Cell)} {e : MapError}

theorem fits_iff_of_readsAs {row : List Cell} (h : tiles.ReadsAs above rows) :
    ({ l with tiles := rows } : TileLayer).fits row ↔
      ∀ first ∈ above.head?, (rowTokens first).length = row.length := by
  cases h with
  | nil => simp [fits]
  | cons hrow _ => simp [fits, hrow.length_eq]

theorem width_of_readsAs (h : tiles.ReadsAs above rows) {first : String}
    (hfirst : above.head? = some first) :
    ({ l with tiles := rows } : TileLayer).width = (rowTokens first).length := by
  cases h with
  | nil => cases hfirst
  | cons hrow _ =>
    obtain rfl := Option.some.inj hfirst
    exact hrow.length_eq.symm

/-- Texts are accepted one below the other if they read as rows, and these are then the layer. -/
theorem foldlM_addText_eq_ok_iff (htiles : l.tiles = []) :
    texts.foldlM (addText tiles) l = .ok l' ↔ tiles.Readable texts ∧
      ∃ rows, tiles.ReadsAs texts rows ∧ { l with tiles := rows } = l' := by
  induction texts using List.reverseRecOn generalizing l' with
  | nil =>
    rw [List.foldlM_nil, pure_eq_ok]
    constructor
    · rintro rfl
      exact ⟨⟨by simp, by simp⟩, [], .nil, by rw [← htiles]⟩
    · rintro ⟨-, rows, hrows, rfl⟩
      obtain rfl := List.forall₂_nil_left_iff.mp hrows
      rw [← htiles]
  | append_singleton above text ih =>
    simp only [List.foldlM_append, List.foldlM_cons, List.foldlM_nil, bind_pure, bind_eq_ok, ih,
      addText_eq_ok_iff, TileTable.readable_concat_iff, TileTable.readsAs_concat_iff]
    constructor
    · rintro ⟨_, ⟨habove, rows, hrows, rfl⟩, row, hrow, hfits, rfl⟩
      have hlength := (TileTable.row_eq_ok_iff.mp hrow).length_eq
      rw [fits_iff_of_readsAs hrows, ← hlength] at hfits
      exact ⟨⟨habove, TileTable.exists_row_iff.mp ⟨row, hrow⟩, hfits⟩, _,
        ⟨rows, row, hrows, hrow, rfl⟩, rfl⟩
    · rintro ⟨⟨habove, -, hfirst⟩, _, ⟨rows, row, hrows, hrow, rfl⟩, rfl⟩
      have hlength := (TileTable.row_eq_ok_iff.mp hrow).length_eq
      refine ⟨_, ⟨habove, rows, hrows, rfl⟩, row, hrow, ?_, rfl⟩
      rw [fits_iff_of_readsAs hrows, ← hlength]
      exact hfirst

/-- A text below rows is refused for what is wrong with it. -/
theorem addText_eq_error_iff (hrows : tiles.ReadsAs above rows) :
    addText tiles { l with tiles := rows } text = .error e ↔ RowError tiles l.id above text e := by
  have hheight : rows.length = above.length := hrows.length_eq.symm
  constructor
  · intro h
    rw [addText] at h
    split at h
    · rename_i row hrow
      have hlength := (TileTable.row_eq_ok_iff.mp hrow).length_eq
      rw [addRow] at h
      split at h
      · cases h
      · rename_i hfits
        rw [fits_iff_of_readsAs hrows, ← hlength] at hfits
        push Not at hfits
        obtain ⟨first, hfirst, hne⟩ := hfits
        rw [width_of_readsAs hrows hfirst, height, hheight, ← hlength] at h
        obtain rfl := Except.error.inj h
        exact .width (TileTable.exists_row_iff.mp ⟨row, hrow⟩) hfirst hne
    · rename_i token hrow
      obtain ⟨known, rest, htext, hknown, hmeans⟩ := TileTable.row_eq_error_iff.mp hrow
      rw [height, hheight] at h
      obtain rfl := Except.error.inj h
      exact .unknown htext hknown hmeans
  · rintro (⟨htext, hknown, hmeans⟩ | ⟨hmeans, hfirst, hne⟩)
    · have hrow := TileTable.row_eq_error_iff.mpr ⟨_, _, htext, hknown, hmeans⟩
      simp only [addText, hrow, height, hheight]
    · obtain ⟨row, hrow⟩ := TileTable.exists_row_iff.mpr hmeans
      have hlength := (TileTable.row_eq_ok_iff.mp hrow).length_eq
      have hfits : ¬ ({ l with tiles := rows } : TileLayer).fits row := by
        rw [fits_iff_of_readsAs hrows, ← hlength]
        exact fun hall => hne (hall _ hfirst)
      simp only [addText, hrow, addRow, if_neg hfits, width_of_readsAs hrows hfirst, height,
        hheight, hlength]

/-- Texts are refused at the first of them that is at fault. -/
theorem foldlM_addText_eq_error_iff (htiles : l.tiles = []) :
    texts.foldlM (addText tiles) l = .error e ↔ ∃ above text below,
      texts = above ++ text :: below ∧ tiles.Readable above ∧ RowError tiles l.id above text e := by
  simp only [foldlM_eq_error_iff, foldlM_addText_eq_ok_iff htiles]
  constructor
  · rintro ⟨above, text, below, _, htexts, ⟨habove, rows, hrows, rfl⟩, htext⟩
    exact ⟨above, text, below, htexts, habove, (addText_eq_error_iff hrows).mp htext⟩
  · rintro ⟨above, text, below, htexts, habove, htext⟩
    obtain ⟨rows, hrows⟩ := habove.exists_readsAs
    exact ⟨above, text, below, _, htexts, ⟨habove, rows, hrows, rfl⟩,
      (addText_eq_error_iff hrows).mpr htext⟩

end TileLayer

/-! ### Layers -/

section Layers

variable {tiles : TileTable} {s : Section} {index : Nat} {e : MapError}

/-- The layer of a section, if there is one. -/
inductive Section.MakesLayer (tiles : TileTable) (s : Section) (index : Nat) :
    Option TileLayer → Prop where
  | none : s.rowTexts = [] → s.MakesLayer tiles index none
  | some {l : TileLayer} : s.rowTexts ≠ [] → s.DrawnAs tiles index l →
      s.MakesLayer tiles index (some l)

/-- A section makes a layer exactly if its texts are readable. -/
theorem compileLayer_eq_ok_iff (hhash : tiles.isBound "#" = false) {made : Option TileLayer} :
    compileLayer tiles s index = .ok made ↔
      tiles.Readable s.rowTexts ∧ s.MakesLayer tiles index made := by
  simp only [compileLayer, TileLayer.foldlM_addLine hhash, bind_eq_ok, pure_eq_ok,
    TileLayer.foldlM_addText_eq_ok_iff (TileLayer.tiles_settings s index)]
  constructor
  · rintro ⟨_, ⟨hread, rows, hrows, rfl⟩, rfl⟩
    cases rows with
    | nil => exact ⟨hread, .none (List.forall₂_nil_right_iff.mp hrows)⟩
    | cons row rows =>
      have hne : s.rowTexts ≠ [] := by
        intro hnil
        rw [hnil] at hrows
        cases hrows
      exact ⟨hread, .some hne ⟨rfl, hrows⟩⟩
  · rintro ⟨hread, (hnil | ⟨hne, hsettings, hrows⟩)⟩
    · exact ⟨_, ⟨hread, [], hnil ▸ .nil, rfl⟩, rfl⟩
    · refine ⟨_, ⟨hread, _, hrows, hsettings.symm⟩, if_neg ?_⟩
      rw [List.isEmpty_iff]
      intro hnil
      rw [hnil] at hrows
      exact hne (List.forall₂_nil_right_iff.mp hrows)

theorem exists_compileLayer_iff (hhash : tiles.isBound "#" = false) :
    (∃ made, compileLayer tiles s index = .ok made) ↔ tiles.Readable s.rowTexts := by
  simp only [compileLayer_eq_ok_iff hhash]
  constructor
  · rintro ⟨-, hread, -⟩
    exact hread
  · intro hread
    by_cases hnil : s.rowTexts = []
    · exact ⟨none, hread, .none hnil⟩
    · obtain ⟨rows, hrows⟩ := hread.exists_readsAs
      exact ⟨some { s.settings index with tiles := rows }, hread, .some hnil ⟨rfl, hrows⟩⟩

/-- A section fails by its first text that is no row below those above it. -/
theorem compileLayer_eq_error_iff (hhash : tiles.isBound "#" = false) :
    compileLayer tiles s index = .error e ↔ ∃ above text below,
      s.rowTexts = above ++ text :: below ∧ tiles.Readable above ∧
        RowError tiles (s.settings index).id above text e := by
  rw [← TileLayer.foldlM_addText_eq_error_iff (TileLayer.tiles_settings s index), compileLayer,
    TileLayer.foldlM_addLine hhash, bind_pure_eq_error]

/-- The sections with a row are the layers. -/
theorem forall₂_drawnAs {numbered : List (Section × Nat)} {made : List (Option TileLayer)}
    (h : List.Forall₂ (fun e l => e.1.MakesLayer tiles e.2 l) numbered made) :
    List.Forall₂ (fun e l => e.1.DrawnAs tiles e.2 l)
      (numbered.filter fun e => e.1.rowTexts ≠ []) (made.filterMap id) := by
  induction h with
  | nil => exact .nil
  | cons hmakes _ ih =>
    cases hmakes with
    | none hnil => simpa [hnil] using ih
    | some hne hdrawn =>
      rw [List.filter_cons_of_pos (by simpa using hne)]
      exact .cons hdrawn ih

end Layers

/-! ### Several layers -/

section Several

variable {tiles : TileTable} {sections : List Section} {e : MapError}

theorem compileLayers_eq_ok_iff {layers : List TileLayer} :
    compileLayers tiles sections = .ok layers ↔ ∃ made,
      (sections.zipIdx.mapM fun p => compileLayer tiles p.1 p.2) = .ok made ∧
        sortTileLayers (made.filterMap id) = layers := by
  rw [compileLayers, bind_eq_ok]
  simp only [pure_eq_ok]

theorem exists_compileLayers_iff (hhash : tiles.isBound "#" = false) :
    (∃ layers, compileLayers tiles sections = .ok layers) ↔
      ∀ s ∈ sections, tiles.Readable s.rowTexts := by
  have hmade : (∃ layers, compileLayers tiles sections = .ok layers) ↔
      ∃ made, (sections.zipIdx.mapM fun p => compileLayer tiles p.1 p.2) = .ok made := by
    simp only [compileLayers_eq_ok_iff]
    rw [exists_comm]
    simp only [exists_and_left, exists_eq', and_true]
  rw [hmade, exists_mapM_eq_ok_iff]
  simp only [exists_compileLayer_iff hhash]
  conv_rhs => rw [← List.zipIdx_map_fst 0 sections, List.forall_mem_map]

/-- The sections with a row are drawn. -/
theorem exists_drawnAs_of_compileLayers (hhash : tiles.isBound "#" = false)
    {layers : List TileLayer} (h : compileLayers tiles sections = .ok layers) :
    ∃ drawn, List.Forall₂ (fun p l => p.1.DrawnAs tiles p.2 l)
        (sections.zipIdx.filter fun p => p.1.rowTexts ≠ []) drawn ∧
      sortTileLayers drawn = layers := by
  obtain ⟨made, hmade, rfl⟩ := compileLayers_eq_ok_iff.mp h
  refine ⟨_, forall₂_drawnAs ?_, rfl⟩
  exact (mapM_eq_ok_iff.mp hmade).imp fun p l hl => ((compileLayer_eq_ok_iff hhash).mp hl).2

/-- Sections fail by the first text at fault in the first section that has one. -/
theorem compileLayers_eq_error_iff (hhash : tiles.isBound "#" = false) :
    compileLayers tiles sections = .error e ↔ FirstRowError tiles sections e := by
  rw [compileLayers, bind_pure_eq_error, mapM_eq_error_iff]
  simp only [exists_compileLayer_iff hhash, compileLayer_eq_error_iff hhash]
  constructor
  · rintro ⟨before, p, after, hsplit, hbefore, above, text, below, htexts, habove, herror⟩
    obtain ⟨pre, later, rfl, rfl, hlater⟩ := List.zipIdx_eq_append_iff.mp hsplit
    obtain ⟨s, post, rfl, rfl, -⟩ := List.zipIdx_eq_cons_iff.mp hlater.symm
    rw [Nat.zero_add] at herror
    refine ⟨pre, s, post, above, text, below, rfl, htexts, ?_, habove, herror⟩
    rw [← List.zipIdx_map_fst 0 pre, List.forall_mem_map]
    exact hbefore
  · rintro ⟨pre, s, post, above, text, below, rfl, htexts, hpre, habove, herror⟩
    refine ⟨pre.zipIdx, (s, pre.length), post.zipIdx (pre.length + 1), ?_, ?_, above, text, below,
      htexts, habove, herror⟩
    · rw [List.zipIdx_append, List.zipIdx_cons, Nat.zero_add]
    · intro p hp
      exact hpre p.1 (List.fst_mem_of_mem_zipIdx hp)

end Several

/-! ### Sorting -/

theorem stablySorted_sortTileLayers (layers : List TileLayer) :
    StablySorted layers (sortTileLayers layers) := by
  constructor
  case perm => exact List.mergeSort_perm ..
  case sorted =>
    refine (pairwise_comesFirst_mergeSort layers).imp fun hfirst => ?_
    simpa [comesFirst] using hfirst
  case ties =>
    intro order id
    exact filter_mergeSort_layers layers order id

/-! ### Main result -/

/-- Where `#` is no tile, layers are accepted exactly if all their rows read. There is then a layer
for every section with a row, and it has the rows of the section; the layers are sorted by order and
id and otherwise stand as their sections do. If the layers are refused, the first row at fault is
the reason. -/
theorem compileLayers_rows {tiles : TileTable} (hhash : tiles.isBound "#" = false)
    (sections : List Section) :
    ((∃ layers, compileLayers tiles sections = .ok layers) ↔
      ∀ s ∈ sections, tiles.Readable s.rowTexts) ∧
    (∀ layers, compileLayers tiles sections = .ok layers → ∃ drawn,
      List.Forall₂ (fun p l => p.1.DrawnAs tiles p.2 l)
        (sections.zipIdx.filter fun p => p.1.rowTexts ≠ []) drawn ∧
      StablySorted drawn layers) ∧
    ∀ e, compileLayers tiles sections = .error e ↔ FirstRowError tiles sections e := by
  refine ⟨exists_compileLayers_iff hhash, ?_, fun e => compileLayers_eq_error_iff hhash⟩
  intro layers h
  obtain ⟨drawn, hdrawn, rfl⟩ := exists_drawnAs_of_compileLayers hhash h
  exact ⟨drawn, hdrawn, stablySorted_sortTileLayers drawn⟩

def orchardTiles : TileTable :=
  .ofCatalog [.fresh "soil" ".", .fresh "tree" "T", .fresh "gate" ":"]

/-- Layers of an orchard. Above the first row `T:.` sets a property that no layer has, and below it
it is a row. One section has no rows, and two layers have one order and id. -/
def orchardSections : List Section :=
  [⟨"layer_trees", "Layer Trees", [⟨2, "id: crowns", some "id: crowns"⟩,
      ⟨3, "order: 2", some "order: 2"⟩, ⟨4, "T:.", some "T:."⟩, ⟨5, "# From the north", none⟩,
      ⟨6, ". T . # a path", some ". T ."⟩, ⟨7, "T:.", some "T:."⟩]⟩,
    ⟨"layer_notes", "Layer Notes", [⟨9, "name: Later", some "name: Later"⟩]⟩,
    ⟨"layer_birds", "Layer Birds", [⟨11, "id: crowns", some "id: crowns"⟩,
      ⟨12, "order: 2", some "order: 2"⟩, ⟨13, "None tree", some "None tree"⟩]⟩,
    ⟨"layer_ground", "Layer Ground", [⟨15, "order: -1", some "order: -1"⟩,
      ⟨16, "...", some "..."⟩]⟩]

/-- A row that is too short, and below it a token that nothing stands for. -/
def raggedSection : Section where
  key := "layer_edge"
  title := "Layer Edge"
  lines := [⟨2, "order: 4", some "order: 4"⟩, ⟨3, "...", some "..."⟩, ⟨4, "# .", none⟩,
    ⟨5, ". T", some ". T"⟩, ⟨6, "?", some "?"⟩]

theorem compileLayers_rows_orchard :
    orchardTiles.isBound "#" = false ∧
    orchardSections.map (·.rowTexts) = [[". T .", "T:."], [], ["None tree"], ["..."]] ∧
    (∃ layers, compileLayers orchardTiles orchardSections = .ok layers ∧
      (∀ s ∈ orchardSections, orchardTiles.Readable s.rowTexts) ∧
      ∃ drawn, List.Forall₂ (fun p l => p.1.DrawnAs orchardTiles p.2 l)
          (orchardSections.zipIdx.filter fun p => p.1.rowTexts ≠ []) drawn ∧
        StablySorted drawn layers) ∧
    FirstRowError orchardTiles (orchardSections ++ [raggedSection])
      (.unequalLayerWidth "layer_edge" 2 3 2) := by
  have hhash : orchardTiles.isBound "#" = false := by decide +kernel
  have horchard : (compileLayers orchardTiles orchardSections).toOption.map (fun _ => ()) =
      some () := by
    decide +kernel
  have hragged : (compileLayers orchardTiles (orchardSections ++ [raggedSection])).map
      (fun _ => ()) = .error (.unequalLayerWidth "layer_edge" 2 3 2) := by
    decide +kernel
  obtain ⟨layers, hlayers, -⟩ := exists_ok_of_toOption_map horchard
  obtain ⟨hread, hdrawn, -⟩ := compileLayers_rows hhash orchardSections
  obtain ⟨-, -, herror⟩ := compileLayers_rows hhash (orchardSections ++ [raggedSection])
  refine ⟨hhash, by decide +kernel, ⟨layers, hlayers, hread.mp ⟨layers, hlayers⟩,
    hdrawn layers hlayers⟩, ?_⟩
  exact (herror _).mp (eq_error_of_map hragged)

end Tilemap
