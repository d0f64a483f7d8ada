import ServiceCatalog.Arguments
import ServiceCatalog.Client
import ServiceCatalog.Command
import ServiceCatalog.CommandLine.Options
import ServiceCatalog.CommandLine.Parser
import ServiceCatalog.CommandLine.Setting
import ServiceCatalog.CommandLine.Usage
import ServiceCatalog.Config.Load
import ServiceCatalog.Config.Profile
import ServiceCatalog.Connection.Fault
import ServiceCatalog.Connection.Material
import ServiceCatalog.Connection.Settings
import ServiceCatalog.Connection.Tls
import ServiceCatalog.Decimal.Binary64
import ServiceCatalog.Decimal.Shortest
import ServiceCatalog.Diagnostic
import ServiceCatalog.Dispatch
import ServiceCatalog.Duration
import ServiceCatalog.Endpoint
import ServiceCatalog.Environment
import ServiceCatalog.Failure
import ServiceCatalog.Files
import ServiceCatalog.Http.Client
import ServiceCatalog.Http.Exchange
import ServiceCatalog.Http.Header
import ServiceCatalog.Http.Response
import ServiceCatalog.Invocation
import ServiceCatalog.Json.Basic
import ServiceCatalog.Json.Numeral
import ServiceCatalog.Json.Printer
import ServiceCatalog.Json.Reader
import ServiceCatalog.Json.Record
import ServiceCatalog.Main
import ServiceCatalog.Operation
import ServiceCatalog.Output
import ServiceCatalog.Output.Format
import ServiceCatalog.Output.Message
import ServiceCatalog.Output.Payload
import ServiceCatalog.Output.Tabular
import ServiceCatalog.Pem.Der
import ServiceCatalog.Pem.Material
import ServiceCatalog.Pem.Section
import ServiceCatalog.Program
import ServiceCatalog.RemoteError
import ServiceCatalog.Request.Create
import ServiceCatalog.Request.Existing
import ServiceCatalog.Service.Attributes
import ServiceCatalog.Service.ConfigFile
import ServiceCatalog.Service.Credentials
import ServiceCatalog.Service.Identity
import ServiceCatalog.Service.Kind
import ServiceCatalog.Service.Member
import ServiceCatalog.Service.Resources
import ServiceCatalog.ServiceError
import ServiceCatalog.Table
import ServiceCatalog.Text.Alphanumeric
import ServiceCatalog.Text.AlphanumericTable
import ServiceCatalog.Text.Base64
import ServiceCatalog.Text.Blank
import ServiceCatalog.Text.Decimal
import ServiceCatalog.Text.Expansion
import ServiceCatalog.Text.Lowercase
import ServiceCatalog.Text.LowercaseTable
import ServiceCatalog.Text.Quoted
import ServiceCatalog.Text.QuotedTable
import ServiceCatalog.Text.Utf8
import ServiceCatalog.Text.Width
import ServiceCatalog.Text.WidthTable
import ServiceCatalog.Toml.Reader
import ServiceCatalog.Toml.Scalar
import ServiceCatalog.Toml.Value
import ServiceCatalog.Url.Account
import ServiceCatalog.Url.Basic
import ServiceCatalog.Url.Host
import ServiceCatalog.Url.Parser
import ServiceCatalog.Url.Percent
import ServiceCatalog.Version
import ServiceCatalog.Violation
import ServiceCatalog.Wait.Budget
import ServiceCatalog.Wait.Event
import ServiceCatalog.Wait.Poller
import ServiceCatalog.Wait.Spinner
import ServiceCatalog.Yaml.Printer
import ServiceCatalog.Yaml.Resolution
import ServiceCatalog.Yaml.Scalar
import ServiceCatalog.Proofs.Wait.Ticks
import ServiceCatalog.Proofs.Wait.Run
import ServiceCatalog.Proofs.Wait.Trace
import ServiceCatalog.Proofs.Request.Create
import ServiceCatalog.Proofs.Invocation
import ServiceCatalog.Proofs.Connection.Tls
import ServiceCatalog.Proofs.Connection.Secured
import ServiceCatalog.Proofs.Rules
import ServiceCatalog.Proofs.Deletion
import ServiceCatalog.Proofs.Dispatch
import ServiceCatalog.Proofs.Http.Creation
import ServiceCatalog.Proofs.Text.Digits
import ServiceCatalog.Proofs.Text.Blank
import ServiceCatalog.Proofs.Text.Utf8
import ServiceCatalog.Proofs.Json.Numeral
import ServiceCatalog.Proofs.Json.Text
import ServiceCatalog.Proofs.Json.Written
import ServiceCatalog.Proofs.Json.Reader
import ServiceCatalog.Proofs.Yaml.Reader
import ServiceCatalog.Proofs.Yaml.Double
import ServiceCatalog.Proofs.Yaml.Single
import ServiceCatalog.Proofs.Yaml.Literal
import ServiceCatalog.Proofs.Yaml.Scalar
import ServiceCatalog.Proofs.Yaml.Block
import ServiceCatalog.Proofs.Output.Payload
import ServiceCatalog.Proofs.Output.Shown
import ServiceCatalog.Proofs.Retained
import ServiceCatalog.Proofs.Passwords
import ServiceCatalog.Proofs.Execution
import ServiceCatalog.Proofs.Url.Host
import ServiceCatalog.Proofs.Url.Authority
import ServiceCatalog.Proofs.Url.Path
import ServiceCatalog.Proofs.Connection.ClusterAddress
import ServiceCatalog.Proofs.Connection.Underneath
import ServiceCatalog.Proofs.Padding
import ServiceCatalog.Proofs.Dependence
import ServiceCatalog.Proofs.Text.Encoding
import ServiceCatalog.Proofs.Json.Sorted
import ServiceCatalog.Proofs.Json.Record
import ServiceCatalog.Proofs.Wire
import ServiceCatalog.Proofs.Request.Unambiguous
import ServiceCatalog.Proofs.Http.Answers
import ServiceCatalog.Proofs.Http.Deletion
import ServiceCatalog.Proofs.Wait.States
import ServiceCatalog.Proofs.CommandLine.Written
import ServiceCatalog.Proofs.CommandLine.Layers
import ServiceCatalog.Proofs.CommandLine.Precedence
import ServiceCatalog.Proofs.CommandLine.Blanks
import ServiceCatalog.Proofs.Toml.Passage
import ServiceCatalog.Proofs.Toml.Characters
import ServiceCatalog.Proofs.Toml.Quoted
import ServiceCatalog.Proofs.Toml.Tokens
import ServiceCatalog.Proofs.Toml.Grammar
import ServiceCatalog.Proofs.Toml.Texts
import ServiceCatalog.Proofs.Toml.Filled
import ServiceCatalog.Proofs.Toml.Places
import ServiceCatalog.Proofs.Toml.Expanded
import ServiceCatalog.Proofs.Toml.Substitution
import ServiceCatalog.Proofs.Config.References
import ServiceCatalog.Proofs.Config.Variables
import ServiceCatalog.Proofs.Config.Plain
import ServiceCatalog.Proofs.Named
import ServiceCatalog.Proofs.Results
import ServiceCatalog.Proofs.Request.Steps
import ServiceCatalog.Proofs.Text.Octets
import ServiceCatalog.Proofs.Connection.GivenAddress
import ServiceCatalog.Proofs.Toml.Reordered
import ServiceCatalog.Proofs.Toml.Lines
import ServiceCatalog.Proofs.Toml.Sections
import ServiceCatalog.Proofs.Config.Order
import ServiceCatalog.Proofs.Config.Selection
import ServiceCatalog.Proofs.Json.Extent
import ServiceCatalog.Proofs.Http.ErrorText
import ServiceCatalog.Proofs.Text.Lowercase
import ServiceCatalog.Proofs.Spelling
import ServiceCatalog.Proofs.Output.Members
import ServiceCatalog.Proofs.Output.Services
