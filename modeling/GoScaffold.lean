import GoScaffold.Artifact.Basic
import GoScaffold.Artifact.Domain
import GoScaffold.Artifact.Repository
import GoScaffold.Artifact.Server
import GoScaffold.Artifact.Service
import GoScaffold.Audit
import GoScaffold.Bundled
import GoScaffold.Bundled.ContractTests
import GoScaffold.Bundled.Domain
import GoScaffold.Bundled.Dto
import GoScaffold.Bundled.Events
import GoScaffold.Bundled.MainServer
import GoScaffold.Bundled.MockRepo
import GoScaffold.Bundled.MongoHelpers
import GoScaffold.Bundled.MongoRepo
import GoScaffold.Bundled.RepoPort
import GoScaffold.Bundled.Service
import GoScaffold.Bundled.ServiceCached
import GoScaffold.Bundled.ServiceImpl
import GoScaffold.Bundled.StubRepo
import GoScaffold.Command
import GoScaffold.Contract
import GoScaffold.Dict
import GoScaffold.Digest
import GoScaffold.Document.Basic
import GoScaffold.Document.Reading
import GoScaffold.Emission
import GoScaffold.Error
import GoScaffold.Family
import GoScaffold.FileTree
import GoScaffold.Flow.Basic
import GoScaffold.Flow.Lowering
import GoScaffold.Formatter
import GoScaffold.Go.Grammar
import GoScaffold.Go.Source
import GoScaffold.Go.Token
import GoScaffold.Go.Token.Lexer
import GoScaffold.GoType
import GoScaffold.Import
import GoScaffold.Json.Basic
import GoScaffold.Json.Numeral
import GoScaffold.Json.Printer
import GoScaffold.Json.Reader
import GoScaffold.Main
import GoScaffold.Model.Endpoint
import GoScaffold.Model.Entity
import GoScaffold.Model.Field
import GoScaffold.Model.Projection
import GoScaffold.Model.Repository
import GoScaffold.Model.Service
import GoScaffold.Name
import GoScaffold.Number.Binary64
import GoScaffold.Number.Scientific
import GoScaffold.Number.Shortest
import GoScaffold.Number.Width
import GoScaffold.Override
import GoScaffold.Proofs.Artifact.TransferObjects
import GoScaffold.Proofs.Artifact.Wiring
import GoScaffold.Proofs.Dict
import GoScaffold.Proofs.Emission.Fixpoint
import GoScaffold.Proofs.Emission.Prefix
import GoScaffold.Proofs.Emission.Preservation
import GoScaffold.Proofs.FileTree
import GoScaffold.Proofs.Flow.Dependencies
import GoScaffold.Proofs.Flow.Normalization
import GoScaffold.Proofs.Flow.Provenance
import GoScaffold.Proofs.Model.Projection
import GoScaffold.Proofs.Model.Reordering
import GoScaffold.Proofs.Region.Body
import GoScaffold.Proofs.Region.Frame
import GoScaffold.Proofs.Region.Marker
import GoScaffold.Proofs.Region.Merge
import GoScaffold.Proofs.Region.Scan
import GoScaffold.Proofs.ServiceOrder
import GoScaffold.Proofs.Text.Bytes
import GoScaffold.Proofs.Text.Line
import GoScaffold.Region
import GoScaffold.Schema.Basic
import GoScaffold.Schema.Decode
import GoScaffold.Schema.Encode
import GoScaffold.Schema.Hash
import GoScaffold.Schema.Source
import GoScaffold.Schema.Version
import GoScaffold.ServiceOrder
import GoScaffold.Settings
import GoScaffold.Settings.Description
import GoScaffold.Signature
import GoScaffold.Stamp
import GoScaffold.Template.Basic
import GoScaffold.Template.Helper
import GoScaffold.Template.Parser
import GoScaffold.Template.Render
import GoScaffold.Template.Source
import GoScaffold.Template.Token
import GoScaffold.Template.Token.Lexer
import GoScaffold.Template.Value
import GoScaffold.Text.Blank
import GoScaffold.Text.Case
import GoScaffold.Text.Line
import GoScaffold.Text.Property.Alphanumeric
import GoScaffold.Text.Property.CaseMapping
import GoScaffold.Text.Property.Cased
import GoScaffold.Text.Property.Identifier
import GoScaffold.Text.Property.Ranges
import GoScaffold.Text.Property.Unprintable
import GoScaffold.Text.Property.WordCharacter
import GoScaffold.Text.Quoted
import GoScaffold.Text.Substring
import GoScaffold.Whitespace
import GoScaffold.Yaml.Cursor
import GoScaffold.Yaml.Node
import GoScaffold.Yaml.Plain
import GoScaffold.Yaml.Reader
import GoScaffold.Yaml.ScalarText
import GoScaffold.Yaml.Token
import GoScaffold.Yaml.Token.Lexer
import GoScaffold.Proofs.Artifact.Layouts
import GoScaffold.Proofs.Json.RoundTrip
import GoScaffold.Proofs.Document.Restoring
import GoScaffold.Proofs.Schema.RoundTrip
import GoScaffold.Proofs.Artifact.RepositoryTemplates
import GoScaffold.Proofs.Template.Execution
import GoScaffold.Proofs.Artifact.RepositoryTexts
import GoScaffold.Proofs.Artifact.AdapterTexts
import GoScaffold.Proofs.Artifact.RepositoryMethods
import GoScaffold.Proofs.Artifact.Paths
import GoScaffold.Proofs.Artifact.AdapterImports
import GoScaffold.Proofs.Artifact.DomainTemplates
import GoScaffold.Proofs.Artifact.DomainTexts
import GoScaffold.Proofs.Artifact.DomainTypes
import GoScaffold.Proofs.Emission.Collisions
import GoScaffold.Proofs.Emission.Independence
import GoScaffold.Proofs.Import
import GoScaffold.Proofs.Template.Routines
import GoScaffold.Proofs.Audit
import GoScaffold.Proofs.Artifact.ImplementationAudit
import GoScaffold.Proofs.Flow.Queries
import GoScaffold.Proofs.Flow.RepositoryCalls
import GoScaffold.Proofs.Flow.Branches
import GoScaffold.Proofs.Flow.Outline
import GoScaffold.Proofs.Flow.Scoping
import GoScaffold.Proofs.Flow.Restoration
import GoScaffold.Proofs.Flow.Layout
import GoScaffold.Proofs.Flow.Coverage
import GoScaffold.Proofs.ServiceDependencies
import GoScaffold.Proofs.Text.Nesting
import GoScaffold.Proofs.Flow.Nesting
import GoScaffold.Proofs.Text.ByteOrder
import GoScaffold.Proofs.DependencyFaults
import GoScaffold.Proofs.CanonicalOrder
import GoScaffold.Proofs.Whitespace.KeptRows
import GoScaffold.Proofs.Whitespace.NormalForm
import GoScaffold.Proofs.Name
import GoScaffold.Proofs.GoType
import GoScaffold.Proofs.Name.Letters
import GoScaffold.Proofs.Name.Stability
import GoScaffold.Proofs.Artifact.ItemTypes
import GoScaffold.Proofs.Artifact.PortTypes
import GoScaffold.Proofs.ReturnedValues
import GoScaffold.Proofs.Text.Case
import GoScaffold.Proofs.Json.ReadBack
import GoScaffold.Proofs.Contract.CaseNames
import GoScaffold.Proofs.Artifact.PortTexts
import GoScaffold.Proofs.Contract.Bodies
import GoScaffold.Proofs.Contract.Keys
import GoScaffold.Proofs.Text.Literal
import GoScaffold.Proofs.Model.Annotations
import GoScaffold.Proofs.Name.Boundaries
import GoScaffold.Proofs.Artifact.DocumentKeys
import GoScaffold.Proofs.Artifact.ServerTemplate
import GoScaffold.Proofs.Artifact.ServerTexts
import GoScaffold.Proofs.Artifact.EventRoutes
import GoScaffold.Proofs.FirstSight
import GoScaffold.Proofs.Audit.History
import GoScaffold.Proofs.Import.Joining
import GoScaffold.Proofs.Number.Decimal
import GoScaffold.Proofs.Flow.SwitchLabels
import GoScaffold.Proofs.Region.Extraction
