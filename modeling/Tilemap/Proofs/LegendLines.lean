import Tilemap.Proofs.Legends

/-!
# What a line of a legend defines

A definition binds a symbol to an id, and behind the id come its settings (`DefinesTile`): each
stands behind a `;` and is a key with a value, or a key alone, or blank. A text is read as a
definition exactly when it has this form, and what is read is what the form says
(`definesTile_iff`). So an accepted legend defines, line by line, a list of tiles (`IsLegend`).
-/

namespace Tilemap

open Text

/-! ### Statement -/

/-- The settings behind the id. A key alone says `true`. -/
inductive IsSettings : List Char → List (String × String) → Prop where
  | nil : IsSettings [] []
  | blank {gap rest : List Char} {settings : List (String × String)}
      (hgap : ∀ c ∈ gap, isBlank c) (hrest : IsSettings rest settings) :
    IsSettings (';' :: (gap ++ rest)) settings
  | value {key value rest : List Char} {settings : List (String × String)}
      (hkey : '=' ∉ key) (hmark : ';' ∉ key) (hmark' : ';' ∉ value)
      (hrest : IsSettings rest settings) :
    IsSettings (';' :: (key ++ '=' :: value ++ rest))
      ((String.ofList (trim key), String.ofList (trim value)) :: settings)
  | flag {key rest : List Char} {settings : List (String × String)}
      (hkey : '=' ∉ key) (hmark : ';' ∉ key) (hne : trim key ≠ [])
      (hrest : IsSettings rest settings) :
    IsSettings (';' :: (key ++ rest)) ((String.ofList (trim key), "true") :: settings)

/-- The text of a definition. -/
inductive DefinesTile : List Char → TileDefinition → Prop where
  | intro {symbol id rest : List Char} {settings : List (String × String)}
      (hsymbol : '=' ∉ symbol) (hmark : ';' ∉ id) (hne : trim symbol ≠ []) (hne' : trim id ≠ [])
      (hsettings : IsSettings rest settings) :
    DefinesTile (symbol ++ '=' :: (id ++ rest))
      ⟨String.ofList (trim symbol), String.ofList (trim id), settings⟩

/-- A line of a legend defines a tile. -/
def Line.Defines (l : Line) (d : TileDefinition) : Prop :=
  ∃ text, l.IsDefinition text ∧ DefinesTile text.toList d

/-- The tiles that the lines of a legend define. A line that is no definition is a comment. -/
inductive IsLegend : List Line → List TileDefinition → Prop where
  | nil : IsLegend [] []
  | comment {l : Line} {lines : List Line} {ds : List TileDefinition}
      (hl : ∀ text, ¬ l.IsDefinition text) (hlines : IsLegend lines ds) : IsLegend (l :: lines) ds
  | definition {l : Line} {d : TileDefinition} {lines : List Line} {ds : List TileDefinition}
      (hl : l.Defines d) (hlines : IsLegend lines ds) : IsLegend (l :: lines) (d :: ds)

/-! ### Settings -/

theorem settingsOf_cons_of_blank {w : List Char} (h : trim w = []) (ws : List (List Char)) :
    settingsOf (w :: ws) = settingsOf ws := by
  simp [settingsOf, h]

theorem settingsOf_cons {w : List Char} (h : trim w ≠ []) (ws : List (List Char)) :
    settingsOf (w :: ws) = TileDefinition.setting (trim w) :: settingsOf ws := by
  simp [settingsOf, h]

theorem setting_of_notMem {w : List Char} (h : '=' ∉ w) :
    TileDefinition.setting (trim w) = (String.ofList (trim w), "true") := by
  rw [TileDefinition.setting, cut?_of_notMem fun hmem => h (mem_of_mem_trim hmem)]

/-- A key with a value stays one when the blanks around them are cut off. -/
theorem setting_append {key : List Char} (h : '=' ∉ key) (value : List Char) :
    TileDefinition.setting (trim (key ++ '=' :: value)) =
      (String.ofList (trim key), String.ofList (trim value)) := by
  have hstart : '=' ∉ trimStart key := fun hmem => h ((List.dropWhile_suffix _).subset hmem)
  rw [trim_append_cons _ (by decide), TileDefinition.setting, cut?_append hstart]
  simp only [trim_trimStart, trim_trimEnd]

theorem trim_append_eq_ne_nil (key value : List Char) : trim (key ++ '=' :: value) ≠ [] :=
  trim_ne_nil ⟨'=', by simp, by decide⟩

/-- Pieces with a `;` before each are settings, and say what they say alone. -/
theorem isSettings_settingsOf {ws : List (List Char)} (h : ∀ w ∈ ws, ';' ∉ w) :
    IsSettings (ws.flatMap (';' :: ·)) (settingsOf ws) := by
  induction ws with
  | nil => exact .nil
  | cons w ws ih =>
    obtain ⟨hw, hws⟩ := List.forall_mem_cons.mp h
    rw [List.flatMap_cons, List.cons_append]
    by_cases hblank : trim w = []
    · rw [settingsOf_cons_of_blank hblank]
      refine .blank (fun c hc => ?_) (ih hws)
      by_contra hnot
      exact trim_ne_nil ⟨c, hc, hnot⟩ hblank
    · rw [settingsOf_cons hblank]
      by_cases hmem : '=' ∈ w
      · obtain ⟨key, value, rfl, hkey⟩ := List.eq_append_cons_of_mem hmem
        rw [List.mem_append, List.mem_cons, not_or, not_or] at hw
        rw [setting_append hkey]
        exact .value hkey hw.1 hw.2.2 (ih hws)
      · rw [setting_of_notMem hmem]
        exact .flag hmem hw hblank (ih hws)

/-- Settings fall into pieces that say the same. -/
theorem IsSettings.exists_pieces {rest : List Char} {settings : List (String × String)}
    (h : IsSettings rest settings) :
    ∃ ws : List (List Char), rest = ws.flatMap (';' :: ·) ∧ (∀ w ∈ ws, ';' ∉ w) ∧
      settingsOf ws = settings := by
  induction h with
  | nil => exact ⟨[], rfl, by simp, rfl⟩
  | blank hgap hrest ih =>
    rename_i gap rest settings
    obtain ⟨ws, rfl, hws, rfl⟩ := ih
    have hgap' : ';' ∉ gap := fun hmem => absurd (hgap ';' hmem) (by decide)
    exact ⟨gap :: ws, by simp, List.forall_mem_cons.mpr ⟨hgap', hws⟩,
      settingsOf_cons_of_blank (trim_of_blank hgap) ws⟩
  | value hkey hmark hmark' hrest ih =>
    rename_i key value rest settings
    obtain ⟨ws, rfl, hws, rfl⟩ := ih
    have hw : ';' ∉ key ++ '=' :: value := by simp [hmark, hmark']
    refine ⟨(key ++ '=' :: value) :: ws, by simp, List.forall_mem_cons.mpr ⟨hw, hws⟩, ?_⟩
    rw [settingsOf_cons (trim_append_eq_ne_nil key value), setting_append hkey]
  | flag hkey hmark hne hrest ih =>
    rename_i key rest settings
    obtain ⟨ws, rfl, hws, rfl⟩ := ih
    refine ⟨key :: ws, by simp, List.forall_mem_cons.mpr ⟨hmark, hws⟩, ?_⟩
    rw [settingsOf_cons hne, setting_of_notMem hkey]

/-! ### Definitions -/

/-- A text is read as a definition if it has the form of one, and says what the form says. -/
theorem definesTile_iff {text : String} {d : TileDefinition} :
    DefinesTile text.toList d ↔ TileDefinition.parse? text = some d := by
  constructor
  · intro h
    generalize htext : text.toList = chars at h
    cases h with
    | intro hsymbol hmark hne hne' hsettings =>
      rename_i symbol id rest settings
      obtain ⟨ws, rfl, hws, rfl⟩ := hsettings.exists_pieces
      have hall : ∀ w ∈ id :: ws, ';' ∉ w := List.forall_mem_cons.mpr ⟨hmark, hws⟩
      rw [TileDefinition.parse?_eq htext hsymbol hall, if_neg (by simp [hne, hne'])]
  · intro h
    by_cases hmem : '=' ∈ text.toList
    · obtain ⟨symbol, rest, htext, hsymbol⟩ := List.eq_append_cons_of_mem hmem
      obtain ⟨id, ws, -, rfl, hws⟩ := exists_pieces_eq ';' rest
      rw [TileDefinition.parse?_eq htext hsymbol hws] at h
      split at h
      · cases h
      · rename_i hboth
        obtain ⟨hne, hne'⟩ := not_or.mp hboth
        obtain rfl := Option.some.inj h
        obtain ⟨hid, hws⟩ := List.forall_mem_cons.mp hws
        rw [htext]
        exact .intro hsymbol hid hne hne' (isSettings_settingsOf hws)
    · rw [TileDefinition.parse?, cut?_of_notMem hmem] at h
      cases h

/-- A line defines what is read from its text. -/
theorem Line.defines_iff {l : Line} {d : TileDefinition} :
    l.Defines d ↔ l.definitionText?.bind TileDefinition.parse? = some d := by
  simp only [Defines, definesTile_iff, ← definitionText?_eq_some, Option.bind_eq_some_iff]

/-! ### Legends -/

/-- A legend defines one list of tiles. -/
theorem IsLegend.eq_filterMap {lines : List Line} {ds : List TileDefinition}
    (h : IsLegend lines ds) :
    lines.filterMap (fun l => l.definitionText?.bind TileDefinition.parse?) = ds := by
  induction h with
  | nil => rfl
  | comment hl hlines ih =>
    rename_i l lines ds
    have hnone : l.definitionText? = none :=
      Option.eq_none_iff_forall_not_mem.mpr fun text htext =>
        hl text (Line.definitionText?_eq_some.mp htext)
    have hskip : l.definitionText?.bind TileDefinition.parse? = none := by rw [hnone]; rfl
    simp only [List.filterMap_cons, hskip, ih]
  | definition hl hlines ih =>
    simp only [List.filterMap_cons, Line.defines_iff.mp hl, ih]

/-- What a line adds to the table: nothing if it is a comment, or else the tile that it defines. -/
theorem Legend.of_add {legend legend' : Legend} {l : Line} (h : legend.add l = .ok legend') :
    (∀ text, ¬ l.IsDefinition text) ∧ legend' = legend ∨
    ∃ d, l.Defines d ∧
      legend'.table = legend.table.bind d.symbol (d.apply (legend.table.get? d.id)) := by
  rcases add_eq_ok h with ⟨htext, rfl⟩ | ⟨d, hd, rfl⟩
  · exact .inl ⟨fun text hl => by simp [Line.definitionText?_eq_some.mpr hl] at htext, rfl⟩
  · exact .inr ⟨d, Line.defines_iff.mpr hd, rfl⟩

end Tilemap
