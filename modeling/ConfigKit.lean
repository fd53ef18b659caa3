import ConfigKit.Text.Blank
import ConfigKit.Text.Quoted
import ConfigKit.Text.Utf8
import ConfigKit.Number.Basic
import ConfigKit.Event
import ConfigKit.FieldMap.Family
import ConfigKit.KeyedSet
import ConfigKit.Json.Fault
import ConfigKit.Json.Reader
import ConfigKit.Datum.Shape
import ConfigKit.Json.Decode
import ConfigKit.Condition.Basic
import ConfigKit.Condition.Environment
import ConfigKit.Yaml.Tree
import ConfigKit.Condition.Solve
import ConfigKit.Yaml.Normalize
import ConfigKit.Document.Basic
import ConfigKit.Document.File
import ConfigKit.FileTree.Directory
import ConfigKit.FileTree.Listing
import ConfigKit.Number.Reading
import ConfigKit.Proofs.Condition.Grammar
import ConfigKit.Proofs.Condition.Truth
import ConfigKit.Proofs.Condition.RoundTrip
import ConfigKit.Proofs.FieldMap.LastWins
import ConfigKit.Proofs.KeyedSet.History
import ConfigKit.Proofs.Yaml.NormalForm
import ConfigKit.Proofs.Condition.Observation
import ConfigKit.Proofs.Condition.ProcessRun
import ConfigKit.Proofs.FileTree.Approach
import ConfigKit.Proofs.FileTree.Modes
import ConfigKit.Proofs.FileTree.NamedPath
import ConfigKit.Proofs.FileTree.Steps
import ConfigKit.Proofs.FileTree.Creation
import ConfigKit.Proofs.FileTree.Removal
import ConfigKit.Proofs.FileTree.Outcomes
import ConfigKit.Proofs.FileTree.NewDirectories
import ConfigKit.Proofs.FileTree.Deletion
import ConfigKit.Proofs.FileTree.EmptyDirectory
import ConfigKit.Proofs.Json.Scalars
import ConfigKit.Proofs.Json.RoundTrip
import ConfigKit.Proofs.Json.Containers
import ConfigKit.Proofs.Document.JsonRoundTrip
import ConfigKit.Proofs.Json.Images
import ConfigKit.Proofs.Document.FileReading
import ConfigKit.Proofs.KeyedSet.Construction
import ConfigKit.Proofs.Document.Calls
import ConfigKit.Proofs.Document.Refusals
import ConfigKit.Proofs.FileTree.LinkFree
import ConfigKit.Proofs.Document.JsonFiles
import ConfigKit.Proofs.FileTree.Absence
import ConfigKit.Proofs.Document.Announcements
import ConfigKit.Proofs.Condition.Decomposition
import ConfigKit.Proofs.FieldMap.Provenance
import ConfigKit.Proofs.KeyedSet.Rebuilding
import ConfigKit.Proofs.KeyedSet.Reordering
import ConfigKit.Proofs.FileTree.PathEnd
import ConfigKit.Proofs.FileTree.Search
import ConfigKit.Proofs.Json.Lists
import ConfigKit.Proofs.Document.KeyedSets
import ConfigKit.Proofs.Text.LossyDecoding
import ConfigKit.Proofs.Document.Passwords
import ConfigKit.Proofs.Document.FileWriting
import ConfigKit.Proofs.Document.Deliveries
import ConfigKit.Proofs.Yaml.Embedding
import ConfigKit.Proofs.Json.Layouts
import ConfigKit.Proofs.Document.JsonLayouts
import ConfigKit.Proofs.Yaml.FlowTokens
import ConfigKit.Proofs.Yaml.FlowNodes
import ConfigKit.Proofs.Yaml.FlowValues
import ConfigKit.Proofs.Json.Texts
import ConfigKit.Proofs.Document.JsonAsYaml
import ConfigKit.Proofs.Condition.Stages
import ConfigKit.Proofs.FieldMap.Copying
import ConfigKit.Proofs.FieldMap.DistinctKeys
import ConfigKit.Proofs.Yaml.KeyPlaces
import ConfigKit.Proofs.Yaml.LostEntries
import ConfigKit.Proofs.Yaml.Tags
import ConfigKit.Proofs.Results
import ConfigKit.Document.Pattern
import ConfigKit.Proofs.FieldMap.Filtering
import ConfigKit.Proofs.Json.Patterns
import ConfigKit.Proofs.Document.Patterns
import ConfigKit.Proofs.Document.PrettyText
import ConfigKit.Proofs.Condition.Patterns
