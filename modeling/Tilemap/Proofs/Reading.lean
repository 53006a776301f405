import Tilemap.Proofs.Stages

/-!
# What is read of a map text

No stage reads all that a section holds. The head and the objects are read from the code of the
lines, the legend from the texts of its definitions, and only a drawn grid from a line as it is
written. The number of a line gets into errors and nowhere else. So `compile_of_sameReading`: if two
texts agree in what is read of them (`SameReading`), they describe the same map, or are refused with
errors that differ at most in the line number.
-/

namespace Tilemap

/-! ### Errors without line numbers -/

/-- The error with every line number set to zero. -/
def MapError.unnumbered : MapError → MapError
  | .malformedObjectLine section_ entry _ content reason =>
    .malformedObjectLine section_ entry 0 content reason
  | .malformedTileDefinition _ content => .malformedTileDefinition 0 content
  | e => e

/-- What is done to an error may be done to that of every step. -/
theorem mapError_bind {ε ε' α β : Type} (g : ε → ε') (x : Except ε α) (f : α → Except ε β) :
    (x >>= f).mapError g = x.mapError g >>= fun a => (f a).mapError g := by
  cases x <;> rfl

/-- What is done to the error of a loop may be done to that of every round. -/
theorem mapError_foldlM {ε ε' α β : Type} (g : ε → ε') (f : β → α → Except ε β) (l : List α)
    (b : β) : (l.foldlM f b).mapError g = l.foldlM (fun b a => (f b a).mapError g) b := by
  induction l generalizing b with
  | nil => rfl
  | cons a rest ih => simp only [List.foldlM_cons, mapError_bind, ih]

/-- After two steps with the same result, only what follows a success matters. -/
theorem mapError_bind_congr {ε ε' α β : Type} {g : ε → ε'} {x y : Except ε α}
    {f f' : α → Except ε β} (hxy : x.mapError g = y.mapError g)
    (hf : ∀ a, x = .ok a → (f a).mapError g = (f' a).mapError g) :
    (x >>= f).mapError g = (y >>= f').mapError g := by
  rw [mapError_bind, mapError_bind, ← hxy]
  cases x with
  | error e => rfl
  | ok a => exact hf a rfl

/-! ### Lines of which only the code is known -/

/-- A line that is nothing but a code, without a place in a text. -/
def Line.ofCode (code : String) : Line := ⟨0, "", some code⟩

/-- A section of which only the codes of its lines are known. -/
def Section.bare (s : Section) : Section :=
  { s with lines := (s.lines.filterMap Line.code).map Line.ofCode }

theorem codeLines_eq (s : Section) :
    s.codeLines.map (·.2) = s.lines.filterMap Line.code := by
  rw [Section.codeLines, List.map_filterMap]
  congr 1
  funext l
  cases l.code <;> rfl

theorem codeLines_bare (s : Section) :
    s.bare.codeLines = s.codeLines.map fun p => (Line.ofCode p.2, p.2) := by
  have hcode : (fun l : Line => l.code.map (l, ·)) ∘ Line.ofCode =
      some ∘ fun code => (Line.ofCode code, code) := rfl
  rw [Section.codeLines, Section.bare, List.filterMap_map, hcode, List.filterMap_eq_map,
    ← codeLines_eq, List.map_map]
  rfl

/-! ### The stages -/

theorem ofSection_eq (s : Section) :
    MetaTable.ofSection s = ⟨(s.lines.filterMap Line.code).filterMap MetaEntry.parse?⟩ := by
  rw [← codeLines_eq, List.filterMap_map]
  rfl

/-- But for the number of a line in an error, a definition is read from its text only. -/
theorem Legend.mapError_add (legend : Legend) (l : Line) :
    (legend.add l).mapError MapError.unnumbered =
      match l.definitionText? with
      | none => .ok legend
      | some text => (legend.add (.ofCode text)).mapError MapError.unnumbered := by
  have hofCode (text : String) : (Line.ofCode text).definitionText? = some text := rfl
  cases htext : l.definitionText? with
  | none => simp only [add, htext]; rfl
  | some text =>
    simp only [add, htext, hofCode]
    cases TileDefinition.parse? text with
    | none => rfl
    | some d => rfl

/-- The table of tiles depends on the texts of the definitions only. -/
theorem mapError_resolveTiles (catalog : Catalog) (lines : List Line)
    (floorColour : Option String) :
    (resolveTiles catalog lines floorColour).mapError MapError.unnumbered =
      (resolveTiles catalog ((lines.filterMap Line.definitionText?).map .ofCode)
        floorColour).mapError MapError.unnumbered := by
  have hlines (legend : Legend) :
      lines.foldlM (fun legend l => (legend.add l).mapError MapError.unnumbered) legend =
        ((lines.filterMap Line.definitionText?).map Line.ofCode).foldlM
          (fun legend l => (legend.add l).mapError MapError.unnumbered) legend := by
    induction lines generalizing legend with
    | nil => rfl
    | cons l rest ih =>
      rw [List.foldlM_cons, Legend.mapError_add, List.filterMap_cons]
      cases l.definitionText? with
      | none => exact ih legend
      | some text =>
        simp only [List.map_cons, List.foldlM_cons]
        exact bind_congr fun legend' => ih legend'
  simp only [resolveTiles, mapError_bind, mapError_foldlM, hlines]

/-- The objects of lines depend on their codes only. -/
theorem mapError_placeLines (key : String) (ids : IdAllocator)
    (lines : List ((Line × String) × Nat)) :
    (placeLines key ids lines).mapError MapError.unnumbered =
      (placeLines key ids (lines.map fun p => ((Line.ofCode p.1.2, p.1.2), p.2))).mapError
        MapError.unnumbered := by
  induction lines generalizing ids with
  | nil => rfl
  | cons head rest ih =>
    obtain ⟨⟨line, code⟩, entry⟩ := head
    simp only [List.map_cons, placeLines]
    cases ObjectLine.parse code with
    | error reason => rfl
    | ok l => simp only [mapError_bind, ih]

/-- The object layers of sections depend on the codes of their lines only. -/
theorem mapError_compileObjectLayersFrom (ids : IdAllocator) (sections : List (Section × Nat)) :
    (compileObjectLayersFrom ids sections).mapError MapError.unnumbered =
      (compileObjectLayersFrom ids (sections.map fun p => (p.1.bare, p.2))).mapError
        MapError.unnumbered := by
  induction sections generalizing ids with
  | nil => rfl
  | cons head rest ih =>
    obtain ⟨s, order⟩ := head
    have hcodes : s.bare.codeLines.zipIdx 1 =
        (s.codeLines.zipIdx 1).map fun p => ((Line.ofCode p.1.2, p.1.2), p.2) := by
      rw [codeLines_bare, List.zipIdx_map]
      rfl
    have hlines : (placeLines s.key ids (s.codeLines.zipIdx 1)).mapError MapError.unnumbered =
        (placeLines s.bare.key ids (s.bare.codeLines.zipIdx 1)).mapError MapError.unnumbered := by
      rw [hcodes]
      exact mapError_placeLines s.key ids (s.codeLines.zipIdx 1)
    simp only [List.map_cons, compileObjectLayersFrom, mapError_bind, hlines, ih]
    rfl

/-- But for the number of a line in an error, objects are read from the code of their lines only. -/
theorem mapError_compileObjectLayers (ids : IdAllocator) (sections : List Section) :
    (compileObjectLayers ids sections).mapError MapError.unnumbered =
      (compileObjectLayers ids (sections.map Section.bare)).mapError MapError.unnumbered := by
  rw [compileObjectLayers, compileObjectLayers, mapError_compileObjectLayersFrom, List.zipIdx_map]
  rfl

/-! ### Texts that are read alike -/

/-- The table of tiles that a map text makes. -/
def tileTableOf (text : String) (options : CompileOptions) : Except MapError TileTable :=
  resolveTiles options.catalog (legendLines text) ((headOf text).get? ["floorColour", "floorColor"])

/-- Two texts agree in what is read of them. Whether grids agree is asked only with the tiles that
the texts make, since what a drawn line says depends on them. -/
structure SameReading (options : CompileOptions) (text text' : String) : Prop where
  head : headOf text = headOf text'
  legend : (legendLines text).filterMap Line.definitionText? =
    (legendLines text').filterMap Line.definitionText?
  layers : ∀ tiles, tileTableOf text options = .ok tiles →
    compileLayers tiles (sectionsStarting (splitSections text) "layer") =
      compileLayers tiles (sectionsStarting (splitSections text') "layer")
  objects : (sectionsStarting (splitSections text) "objects").map Section.bare =
    (sectionsStarting (splitSections text') "objects").map Section.bare

/-- Texts that are read alike describe the same map or are refused for the same reason. -/
theorem compile_of_sameReading {options : CompileOptions} {text text' : String}
    (h : SameReading options text text') :
    (compile text options).mapError MapError.unnumbered =
      (compile text' options).mapError MapError.unnumbered := by
  have hhead := h.head
  unfold compile
  simp only [headOf] at hhead
  have htiles : (tileTableOf text options).mapError MapError.unnumbered =
      (tileTableOf text' options).mapError MapError.unnumbered := by
    rw [tileTableOf, tileTableOf, mapError_resolveTiles, h.legend, h.head, ← mapError_resolveTiles]
  refine mapError_bind_congr htiles fun tiles hok => ?_
  simp only
  rw [h.layers tiles hok, hhead]
  refine mapError_bind_congr rfl fun layers _ => ?_
  refine mapError_bind_congr rfl fun built _ => ?_
  refine mapError_bind_congr ?_ fun _ _ => rfl
  rw [mapError_compileObjectLayers, h.objects, ← mapError_compileObjectLayers]

end Tilemap
