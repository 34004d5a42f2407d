import RiggedScene.Archive.Crc32
import RiggedScene.Archive.Gzip
import RiggedScene.Archive.Inflate
import RiggedScene.Armature.Basic
import RiggedScene.Armature.Posing
import RiggedScene.Armature.ScenePose
import RiggedScene.Command
import RiggedScene.Config
import RiggedScene.Content.Channel
import RiggedScene.Content.Geometry
import RiggedScene.Content.Image
import RiggedScene.Content.Library
import RiggedScene.Content.Material
import RiggedScene.Content.Modifier
import RiggedScene.Content.Node
import RiggedScene.Content.UvSet
import RiggedScene.Diagnostic
import RiggedScene.Document.Basic
import RiggedScene.Document.Loading
import RiggedScene.Document.Record
import RiggedScene.Error
import RiggedScene.Formula
import RiggedScene.Import.Build
import RiggedScene.Import.Report
import RiggedScene.Import.Scene
import RiggedScene.Indexed
import RiggedScene.Json.Basic
import RiggedScene.Json.Record
import RiggedScene.Json.Token
import RiggedScene.Json.Tree
import RiggedScene.Keyed
import RiggedScene.Mesh.Basic
import RiggedScene.Mesh.Buffer
import RiggedScene.Mesh.Edge
import RiggedScene.Mesh.Normal
import RiggedScene.Morph.Application
import RiggedScene.Morph.Commit
import RiggedScene.Morph.Rig
import RiggedScene.Numeric.Binary64
import RiggedScene.Numeric.Decimal
import RiggedScene.Numeric.Literal
import RiggedScene.Reference
import RiggedScene.Shading
import RiggedScene.Space.Axis
import RiggedScene.Space.Bone
import RiggedScene.Space.Matrix
import RiggedScene.Space.Remap
import RiggedScene.Space.Transform
import RiggedScene.Space.Units
import RiggedScene.Space.Vector
import RiggedScene.Storage.Disk
import RiggedScene.Storage.Source
import RiggedScene.Storage.Store
import RiggedScene.Storage.Text
import RiggedScene.Text.Graphic
import RiggedScene.Text.Latin1
import RiggedScene.Text.LowerCase
import RiggedScene.Text.Path
import RiggedScene.Text.Percent
import RiggedScene.Text.Quoted
import RiggedScene.Text.Split
import RiggedScene.Text.Utf8
import RiggedScene.Weights
import RiggedScene.Main
import RiggedScene.Proofs.Formula
import RiggedScene.Proofs.Keyed
import RiggedScene.Proofs.Morph.Frame
import RiggedScene.Proofs.Morph.DriveGraph
import RiggedScene.Proofs.Morph.Rollback
import RiggedScene.Proofs.Armature.Hierarchy
import RiggedScene.Proofs.Armature.Posing
import RiggedScene.Proofs.Morph.Commitment
import RiggedScene.Proofs.Morph.PoseFrame
import RiggedScene.Proofs.Mesh.InRange
import RiggedScene.Proofs.Document.Bound
import RiggedScene.Proofs.Document.LookUp
import RiggedScene.Proofs.Document.Nesting
import RiggedScene.Proofs.Document.Acyclic
import RiggedScene.Proofs.Document.Recall
import RiggedScene.Proofs.Morph.Writes
import RiggedScene.Proofs.Morph.Rerun
import RiggedScene.Proofs.Armature.Committing
import RiggedScene.Proofs.Armature.Overwrite
import RiggedScene.Proofs.Morph.Slider
import RiggedScene.Proofs.Reference.Canonical
import RiggedScene.Proofs.Morph.Registered
import RiggedScene.Proofs.Morph.DrivingPath
import RiggedScene.Proofs.Morph.Independent
import RiggedScene.Proofs.Document.Yields
import RiggedScene.Proofs.Import.Making
import RiggedScene.Proofs.Import.Prepared
import RiggedScene.Proofs.Import.Modified
import RiggedScene.Proofs.Import.Modifiers
import RiggedScene.Proofs.Import.Skeleton
import RiggedScene.Proofs.Armature.Sources
import RiggedScene.Proofs.Import.RestPose
import RiggedScene.Proofs.Morph.Footprint
import RiggedScene.Proofs.Armature.Calls
import RiggedScene.Proofs.Import.Frame
import RiggedScene.Proofs.Import.Furnishing
import RiggedScene.Proofs.Import.Materials
import RiggedScene.Proofs.Import.Siblings
import RiggedScene.Proofs.Mesh.Groups
import RiggedScene.Proofs.Import.Groups
import RiggedScene.Proofs.Import.Bindings
import RiggedScene.Proofs.Expression
import RiggedScene.Proofs.Morph.Spelling
import RiggedScene.Proofs.Document.Visits
import RiggedScene.Proofs.Document.Openings
import RiggedScene.Proofs.Morph.Totals
import RiggedScene.Proofs.Morph.Written
import RiggedScene.Proofs.Morph.Faults
import RiggedScene.Proofs.Morph.Joining
import RiggedScene.Proofs.Numeric.Order
import RiggedScene.Proofs.Weights
import RiggedScene.Proofs.Armature.InPlace
import RiggedScene.Proofs.Armature.Relaying
import RiggedScene.Proofs.Armature.ScenePose
import RiggedScene.Proofs.Mesh.ShapeKeys
import RiggedScene.Proofs.Mesh.Assigned
import RiggedScene.Proofs.Mesh.EdgeFaces
import RiggedScene.Proofs.Mesh.Sharp
import RiggedScene.Proofs.Mesh.Triangles
import RiggedScene.Proofs.Content.Layers
import RiggedScene.Proofs.Content.Extras
import RiggedScene.Proofs.Mesh.UvLayers
import RiggedScene.Proofs.Import.Rooted
import RiggedScene.Proofs.Text.Path
import RiggedScene.Proofs.Storage.MorphFiles
import RiggedScene.Proofs.Storage.Repair
import RiggedScene.Proofs.Collections
