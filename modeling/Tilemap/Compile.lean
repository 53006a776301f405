import Tilemap.File.Basic
import Tilemap.Layer.Grid
import Tilemap.MapModel
import Tilemap.MetaTable
import Tilemap.ObjectLine

/-!
# Compiling a map text

The map that a text describes. Tiles come first, then layers, then doors and objects, which share
their ids, and the first error among them is the one that is told.
-/

namespace Tilemap

open Text

/-- What a map takes from outside of its text. -/
structure CompileOptions where
  catalog : Catalog
  /-- Where the text comes from; it names a map without an id. -/
  sourcePath : Option String

/-- The options when nothing is said: the tiles of the catalog, and a text from nowhere. -/
def CompileOptions.default : CompileOptions := ⟨Catalog.builtin, none⟩

/-- The id of a map that has none and comes from nowhere. -/
def fallbackMapId : String := "map"

/-- The id of a map: the one it gives itself, or else the name of its file. -/
def resolveMapId (explicit sourcePath : Option String) : String :=
  ((explicit.bind nonBlank?).or ((sourcePath.bind Path.stem?).bind nonBlank?)).getD fallbackMapId

/-- The keys of the head that have a meaning of their own. -/
def knownKeys : List String :=
  ["id", "title", "name", "biome", "description", "dimensions", "size", "startingPoint",
    "spawnPoint", "spawn", "doorPosition", "doorIn", "doorOut", "borderColour", "borderColor",
    "soundscape", "floorColour", "floorColor"]

/-- The map that a text describes. -/
def compile (text : String) (options : CompileOptions) : Except MapError MapModel := do
  let sections := splitSections text
  let head : MetaTable := ((findSection? sections metaKey).map MetaTable.ofSection).getD ⟨[]⟩
  let tiles ← resolveTiles options.catalog
    (((findSection? sections "tiles").map Section.lines).getD [])
    (head.get? ["floorColour", "floorColor"])
  let layers ← compileLayers tiles (sectionsStarting sections "layer")
  let mapId := resolveMapId (head.get? ["id"]) options.sourcePath
  let ((doors, doorObjects), ids) ← buildDoors
    (outboundEntries (head.get? ["doorOut"]) (head.get? ["doorPosition"]))
    (((head.get? ["doorIn"]).map splitDoorEntries).getD []) mapId .empty
  let (objectLayers, _) ← compileObjectLayers ids (sectionsStarting sections "objects")
  MapParts.assemble {
    id := mapId
    name := head.get? ["title", "name"]
    biome := head.get? ["biome"]
    description := head.get? ["description"]
    size := (head.get? ["dimensions", "size"]).bind Size.parse?
    spawn := ["startingPoint", "spawnPoint", "spawn"].findSome? fun key =>
      (head.get? [key]).bind Position.parse?
    spawnPoints := .empty
    tileTypes := tiles.types
    layers
    objectLayers
    objects := doorObjects ++ objectLayers.flatMap (·.objects)
    doors
    theme := ⟨head.get? ["borderColour", "borderColor"], head.get? ["soundscape"]⟩
    sourcePath := options.sourcePath
    extra := head.extra knownKeys }

end Tilemap
