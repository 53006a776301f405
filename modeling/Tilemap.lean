import Tilemap.File.Tree
import Tilemap.Main
import Tilemap.Proofs.DoorsAndObjects
import Tilemap.Proofs.MapJson
import Tilemap.Proofs.Layout
import Tilemap.Proofs.TileReferences
import Tilemap.Proofs.Comments
import Tilemap.Proofs.FileTrees
import Tilemap.Proofs.Outputs
import Tilemap.Proofs.UnitInterval
import Tilemap.Proofs.LayerFloats
import Tilemap.Proofs.OutputDirectory
import Tilemap.Proofs.PublicView
import Tilemap.Proofs.Interactions
import Tilemap.Proofs.DoorIds
import Tilemap.Proofs.SourceLines
import Tilemap.Proofs.ErrorLines
import Tilemap.Proofs.HeadSpelling
import Tilemap.Proofs.DrawnGrids
import Tilemap.Proofs.Collisions
import Tilemap.Proofs.LayerExtents
import Tilemap.Proofs.MapGeometry
import Tilemap.Proofs.Clamping
import Tilemap.Proofs.TemplateJson
import Tilemap.Proofs.DirectoryListing
import Tilemap.Proofs.Legends
import Tilemap.Proofs.HashLines
import Tilemap.Proofs.TemplateScans
import Tilemap.Proofs.RegistryRuns
import Tilemap.Proofs.ObjectLines
import Tilemap.Proofs.DoorLists
import Tilemap.Proofs.DeclaredTypes
import Tilemap.Proofs.HeadSettings
import Tilemap.Proofs.OlderDoors
import Tilemap.Proofs.LayerOrder
import Tilemap.Proofs.Groups
import Tilemap.Proofs.Gids
import Tilemap.Proofs.AskedOrders
import Tilemap.Proofs.SpawnSpellings
import Tilemap.Proofs.LayerLimits
import Tilemap.Proofs.UnnamedTiles
import Tilemap.Proofs.Bags
import Tilemap.Proofs.TileProperties
import Tilemap.Proofs.SpawnPoints
import Tilemap.Proofs.NullValues
import Tilemap.Proofs.OwnInteractions
import Tilemap.Proofs.EventMetadata
import Tilemap.Proofs.LayerRows
import Tilemap.Proofs.CamelCase
import Tilemap.Proofs.UnknownKeys
import Tilemap.Proofs.SectionKeys
import Tilemap.Proofs.TrailingComments
import Tilemap.Proofs.PositionTexts
import Tilemap.Proofs.CamelCaseTwice
