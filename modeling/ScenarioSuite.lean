import ScenarioSuite.Address.Basic
import ScenarioSuite.Address.Domain.Alphabet
import ScenarioSuite.Address.Domain.Direction
import ScenarioSuite.Address.Domain.Joiner
import ScenarioSuite.Address.Domain.Label
import ScenarioSuite.Address.Domain.Punycode
import ScenarioSuite.Address.Host
import ScenarioSuite.Capture.Directive
import ScenarioSuite.Capture.Extraction
import ScenarioSuite.Capture.Selector
import ScenarioSuite.CommandLine.Help
import ScenarioSuite.CommandLine.Invocation
import ScenarioSuite.CommandLine.Output
import ScenarioSuite.CommandLine.Parameter
import ScenarioSuite.CommandLine.Plan
import ScenarioSuite.CommandLine.Scan
import ScenarioSuite.Config
import ScenarioSuite.Decimal.Notation
import ScenarioSuite.Decimal.Shortest
import ScenarioSuite.Dict
import ScenarioSuite.Duration
import ScenarioSuite.Environment.Basic
import ScenarioSuite.Environment.File
import ScenarioSuite.Files.Path
import ScenarioSuite.Files.Tree
import ScenarioSuite.Http.Client
import ScenarioSuite.Http.Headers
import ScenarioSuite.Http.Message
import ScenarioSuite.Http.Method
import ScenarioSuite.Http.Status
import ScenarioSuite.Http.Target
import ScenarioSuite.Instant
import ScenarioSuite.Json.Basic
import ScenarioSuite.Json.Cursor
import ScenarioSuite.Json.Decode
import ScenarioSuite.Json.Parse
import ScenarioSuite.Json.Path
import ScenarioSuite.Json.Printer
import ScenarioSuite.Json.Reader
import ScenarioSuite.Main
import ScenarioSuite.Scenario.Assertion
import ScenarioSuite.Scenario.Definition
import ScenarioSuite.Scenario.Login
import ScenarioSuite.Scenario.Report
import ScenarioSuite.Scenario.Run
import ScenarioSuite.Scenario.Teardown
import ScenarioSuite.Scenario.Template
import ScenarioSuite.Schema.Basic
import ScenarioSuite.Schema.Mismatch
import ScenarioSuite.Store
import ScenarioSuite.Suite.Discovery
import ScenarioSuite.Suite.Load
import ScenarioSuite.Suite.Report
import ScenarioSuite.Suite.Runner
import ScenarioSuite.Template.Segment
import ScenarioSuite.Template.Substitution
import ScenarioSuite.Text.Blank
import ScenarioSuite.Text.Fold
import ScenarioSuite.Text.Printable
import ScenarioSuite.Text.Quoted
import ScenarioSuite.Text.Utf8
import ScenarioSuite.Yaml.Cursor
import ScenarioSuite.Yaml.Decode
import ScenarioSuite.Yaml.Fault
import ScenarioSuite.Yaml.Node
import ScenarioSuite.Yaml.Reader
import ScenarioSuite.Yaml.Scalar
import ScenarioSuite.Yaml.Tag
import ScenarioSuite.Yaml.Text.Block
import ScenarioSuite.Yaml.Text.Gap
import ScenarioSuite.Yaml.Text.Plain
import ScenarioSuite.Yaml.Text.Quoted
import ScenarioSuite.Yaml.Token
import ScenarioSuite.Yaml.Value
import ScenarioSuite.Proofs.Outcome
import ScenarioSuite.Proofs.References
import ScenarioSuite.Proofs.Rendering
import ScenarioSuite.Proofs.Exchange
import ScenarioSuite.Proofs.Lifecycle
import ScenarioSuite.Proofs.Sequence
import ScenarioSuite.Proofs.Visibility
import ScenarioSuite.Proofs.Noninterference
import ScenarioSuite.Proofs.Commutation
import ScenarioSuite.Proofs.Places
import ScenarioSuite.Proofs.Discovery
import ScenarioSuite.Proofs.EnvironmentFiles
import ScenarioSuite.Proofs.JsonReading
import ScenarioSuite.Proofs.JsonText
import ScenarioSuite.Proofs.StructuredBody
import ScenarioSuite.Proofs.Loading
import ScenarioSuite.Proofs.Seeding
import ScenarioSuite.Proofs.Trimming
import ScenarioSuite.Proofs.DirectivePattern
import ScenarioSuite.Proofs.DirectiveText
import ScenarioSuite.Proofs.DirectiveGrammar
import ScenarioSuite.Proofs.Records
import ScenarioSuite.Proofs.Reencoding
import ScenarioSuite.Proofs.JsonSource
import ScenarioSuite.Proofs.SourceReading
import ScenarioSuite.Proofs.SourceSkipping
import ScenarioSuite.Proofs.SourceScalars
import ScenarioSuite.Proofs.FlowLexing
import ScenarioSuite.Proofs.SourceTokens
import ScenarioSuite.Proofs.SourceNodes
import ScenarioSuite.Proofs.SourceNumbers
import ScenarioSuite.Proofs.SourceMeaning
import ScenarioSuite.Proofs.SourceSchemas
import ScenarioSuite.Proofs.FiniteReals
import ScenarioSuite.Proofs.SourceReals
import ScenarioSuite.Proofs.JsonFiles
import ScenarioSuite.Proofs.Segmentation
import ScenarioSuite.Proofs.PlainValues
import ScenarioSuite.Proofs.Selection
import ScenarioSuite.Proofs.Locations
import ScenarioSuite.Proofs.CapturePrefix
import ScenarioSuite.Proofs.WrittenPaths
import ScenarioSuite.Proofs.RelativeAddresses
import ScenarioSuite.Proofs.FilledPlaces
import ScenarioSuite.Proofs.SortedValues
import ScenarioSuite.Proofs.EnvironmentFormat
import ScenarioSuite.Proofs.SharedVariables
import ScenarioSuite.Proofs.TextSkipping
import ScenarioSuite.Proofs.SchemaTexts
import ScenarioSuite.Proofs.LoginTokens
import ScenarioSuite.Proofs.EnvironmentTexts
import ScenarioSuite.Proofs.Settings
import ScenarioSuite.Proofs.HeaderWrites
import ScenarioSuite.Proofs.Brackets
import ScenarioSuite.Proofs.Parents
import ScenarioSuite.Proofs.EnvironmentSearch
