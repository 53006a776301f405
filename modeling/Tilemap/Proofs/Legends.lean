import Tilemap.Proofs.ErrorLines
import Tilemap.Proofs.TileReferences

/-!
# What the symbols of a legend stand for

A legend is accepted exactly when each of its definitions binds a symbol to an id and no two of them
bind one symbol to different ids (`IsConsistent`). Else it is refused at the first line that may not
follow the lines before it (`Offends`). In the table of an accepted legend a symbol stands for the
id that the legend binds it to, or else for the last tile of the catalog with that symbol
(`StandsFor`).

While a legend is read, the symbols of the table and the symbols that the map itself has bound are
kept apart, for only the latter can conflict. `Legend.Reads` says what both hold after some lines.
The next line keeps it so or offends (`Legend.Reads.add`), and the rest follows by induction on the
lines, the last one first.
-/

namespace Tilemap

open Text

/-! ### Statement -/

/-- A line that starts with `#` and has an `=` behind it, with nothing but blanks in between. -/
def Line.DefinesHash (l : Line) : Prop :=
  ∃ gap rest, l.raw.toList = '#' :: (gap ++ '=' :: rest) ∧ ∀ c ∈ gap, isBlank c

/-- A line is a definition with a text: it defines `#`, or it is no comment. -/
inductive Line.IsDefinition (l : Line) : String → Prop where
  | hash (hhash : l.DefinesHash) : l.IsDefinition l.uncommented
  | code {text : String} (hhash : ¬ l.DefinesHash) (hcode : l.code = some text) :
    l.IsDefinition text

/-- A text binds a symbol, which stands before its first `=`, to an id, which stands behind it up to
the next `;`. Neither of them is blank. -/
def BindsSymbol (text : List Char) (symbol id : String) : Prop :=
  ∃ before rest, text = before ++ '=' :: rest ∧ '=' ∉ before ∧
    trim before ≠ [] ∧ symbol = String.ofList (trim before) ∧
    trim (rest.takeWhile (· ≠ ';')) ≠ [] ∧ id = String.ofList (trim (rest.takeWhile (· ≠ ';')))

/-- A line of a legend binds a symbol to an id. -/
def Line.Binds (l : Line) (symbol id : String) : Prop :=
  ∃ text, l.IsDefinition text ∧ BindsSymbol text.toList symbol id

/-- Every definition binds a symbol, and no two of them bind one symbol to different ids. -/
structure IsConsistent (lines : List Line) : Prop where
  binds : ∀ l ∈ lines, ∀ text, l.IsDefinition text → ∃ symbol id, BindsSymbol text.toList symbol id
  unique : ∀ l ∈ lines, ∀ l' ∈ lines, ∀ symbol id id',
    l.Binds symbol id → l'.Binds symbol id' → id = id'

/-- A line may not follow others, and the error says why. -/
inductive Offends (before : List Line) (l : Line) : MapError → Prop where
  /-- It is a definition and binds nothing. -/
  | malformed {text : String} (hl : l.IsDefinition text)
      (hnone : ∀ symbol id, ¬ BindsSymbol text.toList symbol id) :
    Offends before l (.malformedTileDefinition l.number text)
  /-- One of the others binds its symbol to another id. -/
  | conflict {l' : Line} {symbol existing id : String} (hl' : l' ∈ before)
      (hexisting : l'.Binds symbol existing) (hl : l.Binds symbol id) (hne : existing ≠ id) :
    Offends before l (.conflictingSymbol symbol existing id)

/-- The first line that may not follow those before it. -/
def FirstOffence (lines : List Line) (e : MapError) : Prop :=
  ∃ before l after, lines = before ++ l :: after ∧ IsConsistent before ∧ Offends before l e

/-- The id that a symbol stands for, if any. -/
inductive StandsFor (catalog : Catalog) (lines : List Line) (symbol : String) :
    Option String → Prop where
  | legend {l : Line} {id : String} (hl : l ∈ lines) (hbinds : l.Binds symbol id) :
    StandsFor catalog lines symbol (some id)
  /-- The legend does not bind it, and a tile of the catalog is the last with this symbol. -/
  | catalog {before after : List TileType} {t : TileType}
      (hlines : ∀ l ∈ lines, ∀ id, ¬ l.Binds symbol id) (hsplit : catalog = before ++ t :: after)
      (ht : t.symbol = symbol) (hlast : ∀ t' ∈ after, t'.symbol ≠ symbol) :
    StandsFor catalog lines symbol (some t.id)
  /-- There is no tile at all but the floor. -/
  | floor (hlines : ∀ l ∈ lines, ∀ s id, ¬ l.Binds s id) (hcatalog : catalog = [])
      (hsymbol : symbol = ".") :
    StandsFor catalog lines symbol (some "floor")
  | nothing (hlines : ∀ l ∈ lines, ∀ id, ¬ l.Binds symbol id)
      (hcatalog : ∀ t ∈ catalog, t.symbol ≠ symbol)
      (hfloor : symbol = "." → catalog = [] → ∃ l ∈ lines, ∃ s id, l.Binds s id) :
    StandsFor catalog lines symbol none

/-! ### Definitions -/

/-- A line defines `#` if it starts with it and `=` comes next. -/
theorem Line.definesHash_iff {l : Line} : l.DefinesHash ↔
    ∃ rest rest', l.raw.toList = '#' :: rest ∧ trimStart rest = '=' :: rest' := by
  constructor
  · rintro ⟨gap, rest, hraw, hgap⟩
    refine ⟨gap ++ '=' :: rest, rest, hraw, ?_⟩
    rw [trimStart_of_blank hgap]
    rfl
  · rintro ⟨rest, rest', hraw, htrim⟩
    refine ⟨rest.takeWhile isBlank, rest', ?_, fun c hc => List.mem_takeWhile_imp hc⟩
    rw [hraw, ← htrim, trimStart, List.takeWhile_append_dropWhile]

theorem Line.definitionText?_of_definesHash {l : Line} (h : l.DefinesHash) :
    l.definitionText? = some l.uncommented := by
  obtain ⟨rest, rest', hraw, htrim⟩ := definesHash_iff.mp h
  simp only [definitionText?, hraw, htrim]

theorem Line.definitionText?_of_not_definesHash {l : Line} (h : ¬ l.DefinesHash) :
    l.definitionText? = l.code := by
  rw [definitionText?]
  split
  · rename_i rest hraw
    split
    · rename_i rest' htrim
      exact absurd (definesHash_iff.mpr ⟨rest, rest', hraw, htrim⟩) h
    · rfl
  · rfl

theorem Line.definitionText?_eq_some {l : Line} {text : String} :
    l.definitionText? = some text ↔ l.IsDefinition text := by
  by_cases h : l.DefinesHash
  · rw [definitionText?_of_definesHash h, Option.some.injEq]
    constructor
    · rintro rfl
      exact .hash h
    · intro hl
      cases hl with
      | hash _ => rfl
      | code hhash _ => exact absurd h hhash
  · rw [definitionText?_of_not_definesHash h]
    constructor
    · exact .code h
    · intro hl
      cases hl with
      | hash hhash => exact absurd hhash h
      | code _ hcode => exact hcode

/-- A text binds a symbol if it is read as a definition of it. -/
theorem bindsSymbol_iff {text symbol id : String} : BindsSymbol text.toList symbol id ↔
    ∃ d, TileDefinition.parse? text = some d ∧ d.symbol = symbol ∧ d.id = id := by
  constructor
  · rintro ⟨before, rest, htext, hbefore, hsymbol, rfl, hid, rfl⟩
    obtain ⟨settings, hparse⟩ := TileDefinition.exists_parse?_eq htext hbefore
    rw [if_neg (not_or.mpr ⟨hsymbol, hid⟩)] at hparse
    exact ⟨_, hparse, rfl, rfl⟩
  · rintro ⟨d, hd, rfl, rfl⟩
    by_cases hmem : '=' ∈ text.toList
    · obtain ⟨before, rest, htext, hbefore⟩ := List.eq_append_cons_of_mem hmem
      obtain ⟨settings, hparse⟩ := TileDefinition.exists_parse?_eq htext hbefore
      rw [hd] at hparse
      split at hparse
      · cases hparse
      · rename_i hboth
        obtain ⟨hsymbol, hid⟩ := not_or.mp hboth
        obtain rfl := Option.some.inj hparse
        exact ⟨before, rest, htext, hbefore, hsymbol, rfl, hid, rfl⟩
    · rw [TileDefinition.parse?, cut?_of_notMem hmem] at hd
      cases hd

/-- A text that binds no symbol is malformed. -/
theorem not_bindsSymbol_iff {text : String} :
    (∀ symbol id, ¬ BindsSymbol text.toList symbol id) ↔ TileDefinition.parse? text = none := by
  simp only [bindsSymbol_iff]
  cases TileDefinition.parse? text with
  | none => simp
  | some d => simp

/-- A line binds a symbol to an id if its definition does. -/
theorem Line.binds_iff {l : Line} {symbol id : String} : l.Binds symbol id ↔
    ∃ d, l.definitionText?.bind TileDefinition.parse? = some d ∧ d.symbol = symbol ∧ d.id = id := by
  simp only [Binds, ← definitionText?_eq_some, bindsSymbol_iff, Option.bind_eq_some_iff]
  constructor
  · rintro ⟨text, htext, d, hd, hsymbol, hid⟩
    exact ⟨d, ⟨text, htext, hd⟩, hsymbol, hid⟩
  · rintro ⟨d, ⟨text, htext, hd⟩, hsymbol, hid⟩
    exact ⟨text, htext, d, hd, hsymbol, hid⟩

/-- A line binds one symbol at most. -/
theorem Line.Binds.unique {l : Line} {symbol symbol' id id' : String} (h : l.Binds symbol id)
    (h' : l.Binds symbol' id') : symbol = symbol' ∧ id = id' := by
  obtain ⟨d, hd, rfl, rfl⟩ := Line.binds_iff.mp h
  obtain ⟨d', hd', rfl, rfl⟩ := Line.binds_iff.mp h'
  obtain rfl : d = d' := Option.some.inj (hd.symm.trans hd')
  exact ⟨rfl, rfl⟩

/-! ### Offences -/

section Offences

variable {lines : List Line} {l : Line} {text : String} {e : MapError}

theorem Line.IsDefinition.text_eq {text' : String} (h : l.IsDefinition text')
    (htext : l.definitionText? = some text) : text' = text :=
  Option.some.inj ((Line.definitionText?_eq_some.mpr h).symm.trans htext)

theorem not_offends_of_none (htext : l.definitionText? = none) : ¬ Offends lines l e := by
  have hnot (text : String) : ¬ l.IsDefinition text := by
    simp [← Line.definitionText?_eq_some, htext]
  intro h
  cases h with
  | malformed hl _ => exact hnot _ hl
  | conflict _ _ hl _ =>
    obtain ⟨text, hl, -⟩ := hl
    exact hnot text hl

/-- A definition that binds nothing offends whatever stands before it. -/
theorem offends_iff_of_malformed (htext : l.definitionText? = some text)
    (hparse : TileDefinition.parse? text = none) :
    Offends lines l e ↔ e = .malformedTileDefinition l.number text := by
  have hnone := not_bindsSymbol_iff.mpr hparse
  constructor
  · intro h
    cases h with
    | malformed hl _ => rw [hl.text_eq htext]
    | conflict _ _ hl _ =>
      obtain ⟨text', hl, hbinds⟩ := hl
      exact absurd (hl.text_eq htext ▸ hbinds) (hnone _ _)
  · rintro rfl
    exact .malformed (Line.definitionText?_eq_some.mp htext) hnone

/-- A definition that binds a symbol offends a line that binds it to another id. -/
theorem offends_iff_of_parse? {d : TileDefinition} (htext : l.definitionText? = some text)
    (hparse : TileDefinition.parse? text = some d) :
    Offends lines l e ↔ ∃ existing, (∃ l' ∈ lines, l'.Binds d.symbol existing) ∧
      existing ≠ d.id ∧ e = .conflictingSymbol d.symbol existing d.id := by
  have hd : l.Binds d.symbol d.id := Line.binds_iff.mpr ⟨d, by rw [htext]; exact hparse, rfl, rfl⟩
  constructor
  · intro h
    cases h with
    | malformed hl hnone =>
      rw [hl.text_eq htext, not_bindsSymbol_iff, hparse] at hnone
      cases hnone
    | conflict hl' hexisting hl hne =>
      obtain ⟨rfl, rfl⟩ := hl.unique hd
      exact ⟨_, ⟨_, hl', hexisting⟩, hne, rfl⟩
  · rintro ⟨existing, ⟨l', hl', hexisting⟩, hne, rfl⟩
    exact .conflict hl' hexisting hd hne

end Offences

/-! ### Consistent legends -/

theorem isConsistent_nil : IsConsistent [] := ⟨by simp, by simp⟩

/-- A consistent legend stays so with one more line unless that line offends. -/
theorem isConsistent_concat {lines : List Line} {l : Line} :
    IsConsistent (lines ++ [l]) ↔ IsConsistent lines ∧ ∀ e, ¬ Offends lines l e := by
  constructor
  · intro h
    have hl : l ∈ lines ++ [l] := by simp
    have hmem : ∀ l' ∈ lines, l' ∈ lines ++ [l] := fun l' hl' => List.mem_append_left _ hl'
    refine ⟨⟨fun l' hl' => h.binds l' (hmem l' hl'), ?_⟩, ?_⟩
    · intro l₁ h₁ l₂ h₂
      exact h.unique l₁ (hmem l₁ h₁) l₂ (hmem l₂ h₂)
    · intro e hoffends
      cases hoffends with
      | malformed htext hnone =>
        obtain ⟨symbol, id, hbinds⟩ := h.binds l hl _ htext
        exact hnone symbol id hbinds
      | conflict hl' hexisting hbinds hne =>
        exact hne (h.unique _ (hmem _ hl') l hl _ _ _ hexisting hbinds)
  · rintro ⟨h, hnot⟩
    have hconflict : ∀ l' ∈ lines, ∀ symbol id id', l'.Binds symbol id → l.Binds symbol id' →
        id = id' := by
      intro l' hl' symbol id id' hexisting hbinds
      by_contra hne
      exact hnot _ (.conflict hl' hexisting hbinds hne)
    refine ⟨fun l' hl' text htext => ?_, fun l₁ hl₁ l₂ hl₂ symbol id id' hid hid' => ?_⟩
    · rcases List.mem_append.mp hl' with hl' | hl'
      · exact h.binds l' hl' text htext
      · obtain rfl := List.mem_singleton.mp hl'
        by_contra hnone
        refine hnot _ (.malformed htext fun symbol id hbinds => ?_)
        exact hnone ⟨symbol, id, hbinds⟩
    · rcases List.mem_append.mp hl₁ with h₁ | h₁ <;> rcases List.mem_append.mp hl₂ with h₂ | h₂
      · exact h.unique l₁ h₁ l₂ h₂ symbol id id' hid hid'
      · obtain rfl := List.mem_singleton.mp h₂
        exact hconflict l₁ h₁ symbol id id' hid hid'
      · obtain rfl := List.mem_singleton.mp h₁
        exact (hconflict l₂ h₂ symbol id' id hid' hid).symm
      · obtain rfl := List.mem_singleton.mp h₁
        obtain rfl := List.mem_singleton.mp h₂
        exact (hid.unique hid').2

/-! ### Reading a legend -/

/-- The tables after some lines: the map has bound the symbols of these lines, all other symbols are
those of the catalog, and there are types as soon as there is a tile or a definition. -/
structure Legend.Reads (catalog : Catalog) (lines : List Line) (legend : Legend) : Prop where
  bound (symbol id : String) :
    legend.bound.get? symbol = some id ↔ ∃ l ∈ lines, l.Binds symbol id
  symbols (symbol : String) : legend.table.symbol? symbol =
    (legend.bound.get? symbol).or ((TileTable.ofCatalog catalog).symbol? symbol)
  types : legend.table.types = [] ↔ catalog = [] ∧ ∀ l ∈ lines, ∀ symbol id, ¬ l.Binds symbol id

/-- The legend before its first line. -/
def Legend.start (catalog : Catalog) : Legend := ⟨.ofCatalog catalog, .empty⟩

theorem Legend.reads_start (catalog : Catalog) : (start catalog).Reads catalog [] where
  bound symbol id := by simp [start]
  symbols symbol := by simp [start]
  types := by simp [start, TileTable.ofCatalog]

theorem upsertType_ne_nil (types : List TileType) (t : TileType) : upsertType types t ≠ [] := by
  cases types with
  | nil => simp [upsertType]
  | cons u rest =>
    rw [upsertType]
    split <;> simp

@[simp] theorem TileType.id_set (t : TileType) (key value : String) :
    (t.set key value).id = t.id := by
  rw [set]
  split <;> rfl

/-- A field that no setting touches stays as it is. -/
theorem foldl_set_of_set {β : Type} (get : TileType → β)
    (hset : ∀ t key value, get (t.set key value) = get t) (settings : List (String × String))
    (t : TileType) : get (settings.foldl (fun t (key, value) => t.set key value) t) = get t := by
  induction settings generalizing t with
  | nil => rfl
  | cons setting rest ih => rw [List.foldl_cons, ih, hset]

/-- The type that a definition makes has the id of the definition. -/
theorem TileTable.id_apply (t : TileTable) (d : TileDefinition) :
    (d.apply (t.get? d.id)).id = d.id := by
  rw [TileDefinition.apply, foldl_set_of_set (·.id) TileType.id_set]
  cases hknown : t.get? d.id with
  | none => rfl
  | some u => simpa using List.find?_some hknown

namespace Legend.Reads

variable {catalog : Catalog} {lines : List Line} {legend legend' : Legend} {l : Line}

/-- A line that binds no symbol leaves the tables as they are. -/
theorem concat (h : legend.Reads catalog lines) (hl : ∀ symbol id, ¬ l.Binds symbol id) :
    legend.Reads catalog (lines ++ [l]) where
  bound symbol id := by simp [h.bound, hl]
  symbols := h.symbols
  types := by
    rw [h.types]
    simp [hl, or_imp, forall_and]

/-- A line that binds a symbol as the lines before it do, or anew, goes into both tables. -/
theorem bind (h : legend.Reads catalog lines) {d : TileDefinition} (hl : l.Binds d.symbol d.id)
    (hbound : ∀ id, legend.bound.get? d.symbol = some id → id = d.id) :
    Legend.Reads catalog (lines ++ [l])
      ⟨legend.table.bind d.symbol (d.apply (legend.table.get? d.id)),
        legend.bound.insert d.symbol d.id⟩ where
  bound symbol id := by
    have hbinds : l.Binds symbol id ↔ symbol = d.symbol ∧ id = d.id := by
      constructor
      · exact fun hbinds => hbinds.unique hl
      · rintro ⟨rfl, rfl⟩
        exact hl
    simp only [List.mem_append, List.mem_singleton, or_and_right, exists_or, exists_eq_left,
      ← h.bound, hbinds, SortedMap.get?_insert]
    by_cases hsymbol : symbol = d.symbol
    · subst hsymbol
      simp only [if_true, Option.some.injEq, true_and]
      constructor
      · rintro rfl
        exact .inr rfl
      · rintro (hid | rfl)
        · exact (hbound id hid).symm
        · rfl
    · simp [hsymbol]
  symbols symbol := by
    rw [TileTable.symbol?, TileTable.bind, legend.table.id_apply, SortedMap.get?_insert,
      SortedMap.get?_insert]
    split
    · rfl
    · exact h.symbols symbol
  types := by
    constructor
    · intro hnil
      exact absurd hnil (upsertType_ne_nil _ _)
    · rintro ⟨-, hnone⟩
      exact absurd hl (hnone l (by simp) d.symbol d.id)

/-- The next line is added and does not offend, or it offends in one way and is refused for that. -/
theorem add (h : legend.Reads catalog lines) (l : Line) :
    (∃ legend', legend.add l = .ok legend' ∧ legend'.Reads catalog (lines ++ [l]) ∧
      ∀ e, ¬ Offends lines l e) ∨
    ∃ e, legend.add l = .error e ∧ ∀ e', Offends lines l e' ↔ e' = e := by
  cases htext : l.definitionText? with
  | none =>
    refine .inl ⟨legend, by simp only [Legend.add, htext], h.concat ?_, ?_⟩
    · simp [Line.binds_iff, htext]
    · exact fun e => not_offends_of_none htext
  | some text =>
    cases hparse : TileDefinition.parse? text with
    | none =>
      refine .inr ⟨.malformedTileDefinition l.number text, ?_, ?_⟩
      · simp only [Legend.add, htext, hparse]
      · exact fun e => offends_iff_of_malformed htext hparse
    | some d =>
      have hd : l.Binds d.symbol d.id :=
        Line.binds_iff.mpr ⟨d, by rw [htext]; exact hparse, rfl, rfl⟩
      have hoffends (e : MapError) : Offends lines l e ↔ ∃ existing,
          legend.bound.get? d.symbol = some existing ∧ existing ≠ d.id ∧
            e = .conflictingSymbol d.symbol existing d.id := by
        simp only [h.bound, offends_iff_of_parse? htext hparse]
      by_cases hbound : (legend.bound.get? d.symbol).getD d.id = d.id
      · refine .inl ⟨_, ?_, h.bind hd fun id hid => by rwa [hid] at hbound, ?_⟩
        · simp only [Legend.add, htext, hparse, hbound, if_true]
        · intro e he
          obtain ⟨existing, hexisting, hne, -⟩ := (hoffends e).mp he
          rw [hexisting] at hbound
          exact hne hbound
      · -- only a symbol that is bound already can have another id
        obtain ⟨existing, hexisting⟩ : ∃ existing, legend.bound.get? d.symbol = some existing := by
          cases hnone : legend.bound.get? d.symbol with
          | none => simp [hnone] at hbound
          | some existing => exact ⟨existing, rfl⟩
        have hne : existing ≠ d.id := by rwa [hexisting] at hbound
        refine .inr ⟨.conflictingSymbol d.symbol existing d.id, ?_, fun e => ?_⟩
        · simp only [Legend.add, htext, hparse, hexisting, Option.getD_some, if_neg hne]
        · simp [hoffends, hexisting, hne]

end Legend.Reads

variable {catalog : Catalog} {lines : List Line} {legend : Legend} {e : MapError}

/-- A consistent legend is read to its end, any other is refused. -/
theorem Legend.foldlM_add (catalog : Catalog) (lines : List Line) :
    (∃ legend, lines.foldlM Legend.add (start catalog) = .ok legend ∧
      legend.Reads catalog lines ∧ IsConsistent lines) ∨
    ∃ e, lines.foldlM Legend.add (start catalog) = .error e ∧ ¬ IsConsistent lines := by
  induction lines using List.reverseRecOn with
  | nil => exact .inl ⟨start catalog, rfl, reads_start catalog, isConsistent_nil⟩
  | append_singleton before l ih =>
    simp only [List.foldlM_append, isConsistent_concat]
    rcases ih with ⟨legend, hlegend, hreads, hconsistent⟩ | ⟨e, he, hnot⟩
    · have hlast : [l].foldlM Legend.add legend = legend.add l := by simp
      rw [hlegend]
      rcases hreads.add l with ⟨legend', hadd, hreads', hoffends⟩ | ⟨e, hadd, hoffends⟩
      · exact .inl ⟨legend', hlast.trans hadd, hreads', hconsistent, hoffends⟩
      · exact .inr ⟨e, hlast.trans hadd, fun h => h.2 e ((hoffends e).mpr rfl)⟩
    · rw [he]
      exact .inr ⟨e, rfl, fun h => hnot h.1⟩

/-- Lines that are accepted are consistent, and the table says what they say. -/
theorem Legend.reads_of_foldlM (h : lines.foldlM Legend.add (start catalog) = .ok legend) :
    legend.Reads catalog lines ∧ IsConsistent lines := by
  rcases foldlM_add catalog lines with ⟨legend', hlegend', hreads⟩ | ⟨e, he, -⟩
  · obtain rfl : legend = legend' := Except.ok.inj (h.symm.trans hlegend')
    exact hreads
  · rw [he] at h
    cases h

/-- A legend is accepted exactly if it is consistent. -/
theorem Legend.exists_foldlM_iff (catalog : Catalog) (lines : List Line) :
    (∃ legend, lines.foldlM Legend.add (start catalog) = .ok legend) ↔ IsConsistent lines := by
  constructor
  · rintro ⟨legend, hlegend⟩
    exact (reads_of_foldlM hlegend).2
  · intro h
    rcases foldlM_add catalog lines with ⟨legend, hlegend, -⟩ | ⟨e, -, hnot⟩
    · exact ⟨legend, hlegend⟩
    · exact absurd h hnot

/-- A legend is refused at the first line that offends. -/
theorem Legend.foldlM_eq_error_iff_firstOffence (catalog : Catalog) :
    lines.foldlM Legend.add (start catalog) = .error e ↔ FirstOffence lines e := by
  rw [foldlM_eq_error_iff]
  constructor
  · rintro ⟨before, l, after, legend, rfl, hlegend, hadd⟩
    obtain ⟨hreads, hconsistent⟩ := reads_of_foldlM hlegend
    refine ⟨before, l, after, rfl, hconsistent, ?_⟩
    rcases hreads.add l with ⟨legend', hadd', -⟩ | ⟨e', hadd', hoffends⟩
    · rw [hadd] at hadd'
      cases hadd'
    · rw [hadd] at hadd'
      exact (hoffends e).mpr (Except.error.inj hadd')
  · rintro ⟨before, l, after, rfl, hconsistent, hoffends⟩
    obtain ⟨legend, hlegend⟩ := (exists_foldlM_iff catalog before).mpr hconsistent
    refine ⟨before, l, after, legend, rfl, hlegend, ?_⟩
    rcases (reads_of_foldlM hlegend).1.add l with ⟨-, -, -, hnot⟩ | ⟨e', hadd, hall⟩
    · exact absurd hoffends (hnot e)
    · rw [hadd, (hall e).mp hoffends]

/-! ### The finished table -/

/-- The table with the floor colour of the map, if it has one. -/
def TileTable.painted (t : TileTable) (colour : Option String) : TileTable :=
  match colour with
  | some colour => t.paintFloors colour
  | none => t

/-- The table of a map is that of its legend, painted, with a floor if there is nothing else. -/
theorem resolveTiles_eq (catalog : Catalog) (lines : List Line) (colour : Option String) :
    resolveTiles catalog lines colour = (lines.foldlM Legend.add (.start catalog)).map
      fun legend => (legend.table.painted colour).orDefaultFloor := by
  rw [resolveTiles, Legend.start]
  cases lines.foldlM Legend.add ⟨.ofCatalog catalog, .empty⟩ <;> rfl

/-- Colours change no symbol. -/
theorem TileTable.symbol?_painted (t : TileTable) (colour : Option String) (symbol : String) :
    (t.painted colour).symbol? symbol = t.symbol? symbol := by
  cases colour <;> rfl

theorem TileTable.types_painted (t : TileTable) (colour : Option String) :
    (t.painted colour).types = [] ↔ t.types = [] := by
  cases colour with
  | none => rfl
  | some colour => simp [painted, paintFloors]

/-- A table without types has the floor for its only symbol. -/
theorem TileTable.symbol?_orDefaultFloor (t : TileTable) (symbol : String) :
    t.orDefaultFloor.symbol? symbol =
      if t.types = [] ∧ symbol = "." then some "floor" else t.symbol? symbol := by
  rw [orDefaultFloor]
  by_cases htypes : t.types = []
  · simp [htypes, symbol?, TileTable.bind, TileType.defaultFloor]
  · simp [htypes]

/-- A symbol of the catalog stands for the last tile with it. -/
theorem TileTable.symbol?_ofCatalog_eq_some {symbol id : String} :
    (ofCatalog catalog).symbol? symbol = some id ↔ ∃ before t after,
      catalog = before ++ t :: after ∧ (t.symbol = symbol ∧ t.id = id) ∧
        ∀ t' ∈ after, t'.symbol ≠ symbol := by
  simp only [symbol?, ofCatalog, SortedMap.get?_ofList_map_eq_some, Prod.mk.injEq]

theorem TileTable.symbol?_ofCatalog_eq_none {symbol : String} :
    (ofCatalog catalog).symbol? symbol = none ↔ ∀ t ∈ catalog, t.symbol ≠ symbol := by
  simp [symbol?, ofCatalog, SortedMap.get?_ofList_eq_none]

/-- What a symbol stands for in the end is what the last line or the catalog binds it to. -/
theorem Legend.Reads.standsFor (h : legend.Reads catalog lines) (colour : Option String)
    (symbol : String) :
    StandsFor catalog lines symbol
      ((legend.table.painted colour).orDefaultFloor.symbol? symbol) := by
  simp only [TileTable.symbol?_orDefaultFloor, TileTable.types_painted, TileTable.symbol?_painted,
    h.symbols]
  have hunbound (hnone : legend.bound.get? symbol = none) :
      ∀ l ∈ lines, ∀ id, ¬ l.Binds symbol id := by
    intro l hl id hbinds
    rw [(h.bound symbol id).mpr ⟨l, hl, hbinds⟩] at hnone
    cases hnone
  split
  · rename_i hfloor
    obtain ⟨hcatalog, hlines⟩ := h.types.mp hfloor.1
    exact .floor hlines hcatalog hfloor.2
  · rename_i hfloor
    cases hbound : legend.bound.get? symbol with
    | some id =>
      obtain ⟨l, hl, hbinds⟩ := (h.bound symbol id).mp hbound
      exact .legend hl hbinds
    | none =>
      rw [Option.none_or]
      cases hcatalog : (TileTable.ofCatalog catalog).symbol? symbol with
      | some id =>
        obtain ⟨before, t, after, hsplit, ⟨ht, rfl⟩, hlast⟩ :=
          TileTable.symbol?_ofCatalog_eq_some.mp hcatalog
        exact .catalog (hunbound hbound) hsplit ht hlast
      | none =>
        refine .nothing (hunbound hbound) (TileTable.symbol?_ofCatalog_eq_none.mp hcatalog) ?_
        intro hsymbol hnil
        by_contra hlines
        push Not at hlines
        exact hfloor ⟨h.types.mpr ⟨hnil, hlines⟩, hsymbol⟩

/-! ### Main result -/

/-- A legend is accepted if it is consistent, and is refused at its first offence if it is not. The
symbols of an accepted legend are those of its lines and, apart from these, those of the catalog,
and all of them stand for types of the table. -/
theorem legends_resolve (catalog : Catalog) (lines : List Line) (colour : Option String) :
    ((∃ tiles, resolveTiles catalog lines colour = .ok tiles) ↔ IsConsistent lines) ∧
    (∀ e, resolveTiles catalog lines colour = .error e ↔ FirstOffence lines e) ∧
    ∀ tiles, resolveTiles catalog lines colour = .ok tiles →
      (∀ symbol, StandsFor catalog lines symbol (tiles.symbol? symbol)) ∧
      ∀ symbol id, tiles.symbol? symbol = some id → ∃ t, tiles.get? id = some t := by
  refine ⟨?_, fun e => ?_, fun tiles h => ⟨fun symbol => ?_, fun symbol id hid => ?_⟩⟩
  · rw [← Legend.exists_foldlM_iff catalog, resolveTiles_eq]
    cases lines.foldlM Legend.add (.start catalog) with
    | error e => simp [Except.map]
    | ok legend => simp [Except.map]
  · rw [← Legend.foldlM_eq_error_iff_firstOffence catalog, resolveTiles_eq]
    cases lines.foldlM Legend.add (.start catalog) with
    | error e' => simp [Except.map]
    | ok legend => simp [Except.map]
  · rw [resolveTiles_eq] at h
    cases hlegend : lines.foldlM Legend.add (.start catalog) with
    | error e => simp [hlegend, Except.map] at h
    | ok legend =>
      rw [hlegend] at h
      obtain rfl := Except.ok.inj h
      exact (Legend.reads_of_foldlM hlegend).1.standsFor colour symbol
  · obtain ⟨t, ht, rfl⟩ := List.mem_map.mp (sound_resolveTiles h symbol id hid)
    rw [← Option.isSome_iff_exists, TileTable.get?, List.find?_isSome]
    exact ⟨t, ht, by simp⟩

/-- A legend with a comment, with a hedge in place of the wall of the catalog, and with a symbol
that is bound twice to one id. -/
def pondLegend : List Line :=
  legendLines (textOf
    ["[Tiles]", "# = hedge;solid # not a wall", "# water", "o = pond", "o = pond;solid"])

/-- The same legend, but the symbol is bound to another id at last. -/
def poolLegend : List Line := pondLegend ++ [.ofSource 6 "o = pool".toList]

theorem legends_resolve_pond :
    (∃ tiles, resolveTiles .builtin pondLegend none = .ok tiles ∧
      ["#", "o", "~", "?"].map tiles.symbol? = [some "hedge", some "pond", some "water", none] ∧
      (∀ symbol, StandsFor .builtin pondLegend symbol (tiles.symbol? symbol)) ∧
      ∀ symbol id, tiles.symbol? symbol = some id → ∃ t, tiles.get? id = some t) ∧
    resolveTiles .builtin poolLegend none = .error (.conflictingSymbol "o" "pond" "pool") ∧
      FirstOffence poolLegend (.conflictingSymbol "o" "pond" "pool") := by
  have hpond : (resolveTiles .builtin pondLegend none).toOption.map
      (["#", "o", "~", "?"].map ·.symbol?) =
        some [some "hedge", some "pond", some "water", none] := by
    decide +kernel
  have hpool : (resolveTiles .builtin poolLegend none).map (fun _ => ()) =
      .error (.conflictingSymbol "o" "pond" "pool") := by
    decide +kernel
  obtain ⟨tiles, htiles, hsymbols⟩ := exists_ok_of_toOption_map hpond
  have hpool := eq_error_of_map hpool
  refine ⟨⟨tiles, htiles, hsymbols, ?_⟩, hpool, ?_⟩
  · exact (legends_resolve .builtin pondLegend none).2.2 tiles htiles
  · exact ((legends_resolve .builtin poolLegend none).2.1 _).mp hpool

end Tilemap
