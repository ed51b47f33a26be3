import Workbench.Compile.Emission
import Workbench.Compile.Imports
import Workbench.Compile.Options
import Workbench.Compile.Program
import Workbench.Compile.Result
import Workbench.Compile.RuntimeCheck
import Workbench.Compile.Script
import Workbench.Compile.Transform
import Workbench.Config
import Workbench.Decimal.Notation
import Workbench.Decimal.Shortest
import Workbench.Diagnostic.Basic
import Workbench.Diagnostic.Render
import Workbench.FileSystem.Basic
import Workbench.FileSystem.Directories
import Workbench.FileSystem.Encoding
import Workbench.FileSystem.Error
import Workbench.FileSystem.Listing
import Workbench.FileSystem.Tree
import Workbench.Glob.Match
import Workbench.Glob.Pattern
import Workbench.Host.Bridge
import Workbench.Host.Dialogue
import Workbench.Host.Request
import Workbench.Host.Resolver
import Workbench.Json.Cursor
import Workbench.Json.Number
import Workbench.Json.Record
import Workbench.Json.Skip
import Workbench.Json.Text
import Workbench.Library.Load
import Workbench.NameTable
import Workbench.Package.Fetch
import Workbench.Package.Manifest
import Workbench.Package.Reference
import Workbench.Path.Basic
import Workbench.Path.Spelling
import Workbench.Proofs.Compile.Caret
import Workbench.Proofs.Compile.Checks
import Workbench.Proofs.Compile.Imports
import Workbench.Proofs.Compile.RemainingChecks
import Workbench.Proofs.Compile.Repetition
import Workbench.Proofs.Compile.Watching
import Workbench.Proofs.Config.Accepted
import Workbench.Proofs.Config.Usable
import Workbench.Proofs.Diagnostic.Rendering
import Workbench.Proofs.FileSystem.Addition
import Workbench.Proofs.FileSystem.Confinement
import Workbench.Proofs.FileSystem.Content
import Workbench.Proofs.FileSystem.Growth
import Workbench.Proofs.FileSystem.Locality
import Workbench.Proofs.FileSystem.PathTable
import Workbench.Proofs.FileSystem.Storing
import Workbench.Proofs.FileSystem.View
import Workbench.Proofs.Host.Bridge
import Workbench.Proofs.Host.Inclusion
import Workbench.Proofs.Host.Listing
import Workbench.Proofs.Host.Modes
import Workbench.Proofs.Host.ModuleNames
import Workbench.Proofs.Library.Closure
import Workbench.Proofs.Library.Installed
import Workbench.Proofs.Library.Loading
import Workbench.Proofs.Library.Placement
import Workbench.Proofs.Library.References
import Workbench.Proofs.Library.Requests
import Workbench.Proofs.Package.Fetching
import Workbench.Proofs.Package.Independence
import Workbench.Proofs.Package.Placement
import Workbench.Proofs.Package.Requests
import Workbench.Proofs.Package.Residue
import Workbench.Proofs.Package.Resolution
import Workbench.Proofs.Path.Canonical
import Workbench.Proofs.Path.Lineage
import Workbench.Proofs.Path.Resolution
import Workbench.Proofs.Remote.Settlement
import Workbench.Proofs.Session.Advance
import Workbench.Proofs.Session.Durability
import Workbench.Proofs.Session.EditorFile
import Workbench.Proofs.Session.Equipment
import Workbench.Proofs.Session.Faithful
import Workbench.Proofs.Session.Finality
import Workbench.Proofs.Session.Interleaving
import Workbench.Proofs.Session.Stretch
import Workbench.Proofs.Session.Territory
import Workbench.Proofs.Session.Tickets
import Workbench.Proofs.Session.Transparency
import Workbench.Proofs.Session.Workspace
import Workbench.Proofs.Text.Cutting
import Workbench.Proofs.Text.Lines
import Workbench.Proofs.Url.Directories
import Workbench.Proofs.Url.Naming
import Workbench.Proofs.Url.References
import Workbench.Remote.Progress
import Workbench.Remote.Response
import Workbench.Session.Basic
import Workbench.Session.Compile
import Workbench.Session.Invocation
import Workbench.Session.Plugin
import Workbench.Session.Task
import Workbench.Text.CharacterClass
import Workbench.Text.CombiningClass
import Workbench.Text.Composed
import Workbench.Text.Composite
import Workbench.Text.Direction
import Workbench.Text.Joining
import Workbench.Text.Mark
import Workbench.Text.Pieces
import Workbench.Text.Printable
import Workbench.Url.Address
import Workbench.Url.Basic
import Workbench.Url.Domain
import Workbench.Url.DomainCharacter
import Workbench.Url.DomainMapping
import Workbench.Url.Parse
import Workbench.Url.PathText
import Workbench.Url.Percent
import Workbench.Url.Punycode
import Workbench.Url.Scheme
