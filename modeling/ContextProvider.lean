import ContextProvider.Assembly
import ContextProvider.Backend.Basic
import ContextProvider.Backend.Fixture
import ContextProvider.Backend.Join
import ContextProvider.Backend.Kind
import ContextProvider.Backend.Live
import ContextProvider.Backend.Observation
import ContextProvider.Backend.Random
import ContextProvider.Backend.Search
import ContextProvider.Backend.Static
import ContextProvider.Client.Exchange
import ContextProvider.Client.Observation
import ContextProvider.Client.Reply
import ContextProvider.Client.Search
import ContextProvider.Client.Status
import ContextProvider.Entity
import ContextProvider.Envelope.Basic
import ContextProvider.Envelope.Wire
import ContextProvider.Json.Basic
import ContextProvider.Json.Numeric
import ContextProvider.Json.Printer
import ContextProvider.Json.Record
import ContextProvider.Json.Tree
import ContextProvider.Main
import ContextProvider.Mapping.Basic
import ContextProvider.Mapping.Reader
import ContextProvider.Mapping.Selector
import ContextProvider.Number.Decimal
import ContextProvider.Number.Double
import ContextProvider.Number.Radix
import ContextProvider.Number.Shortest
import ContextProvider.Query
import ContextProvider.QueryError
import ContextProvider.Route.Preset
import ContextProvider.Route.RequestTarget
import ContextProvider.Route.Server
import ContextProvider.Route.Table
import ContextProvider.Service.CommandLine
import ContextProvider.Service.Config
import ContextProvider.Service.Message
import ContextProvider.Service.Setup
import ContextProvider.Text.Base64
import ContextProvider.Text.Blank
import ContextProvider.Text.CharTable
import ContextProvider.Text.Charset
import ContextProvider.Text.Combining
import ContextProvider.Text.Composed
import ContextProvider.Text.Percent
import ContextProvider.Text.Pieces
import ContextProvider.Text.Printable
import ContextProvider.Text.Quoted
import ContextProvider.Text.Utf8
import ContextProvider.Toml.Basic
import ContextProvider.Toml.Document
import ContextProvider.Toml.Moment
import ContextProvider.Toml.Numeral
import ContextProvider.Toml.Quoted
import ContextProvider.Toml.Reader
import ContextProvider.Toml.Record
import ContextProvider.Url.Address
import ContextProvider.Url.Basic
import ContextProvider.Url.Domain.Basic
import ContextProvider.Url.Domain.Direction
import ContextProvider.Url.Domain.Joining
import ContextProvider.Url.Domain.Mapping
import ContextProvider.Url.Encoding
import ContextProvider.Url.Form
import ContextProvider.Url.Host
import ContextProvider.Url.Path
import ContextProvider.Url.Punycode
import ContextProvider.Url.Reader
import ContextProvider.Url.Sendable
import ContextProvider.Value
import ContextProvider.Proofs.Text.Separation
import ContextProvider.Proofs.Text.Utf8
import ContextProvider.Proofs.Text.Percent
import ContextProvider.Proofs.Mapping.Units
import ContextProvider.Proofs.Mapping.Grammar
import ContextProvider.Proofs.Mapping.WrittenForm
import ContextProvider.Proofs.Backend.Schedule
import ContextProvider.Proofs.Backend.Traversal
import ContextProvider.Proofs.Query.Course
import ContextProvider.Proofs.Query.Completeness
import ContextProvider.Proofs.Backend.Live
import ContextProvider.Proofs.Backend.Contract
import ContextProvider.Proofs.Query.Consistency
import ContextProvider.Proofs.Query.Precedence
import ContextProvider.Proofs.Client.Failure
import ContextProvider.Proofs.Query.Confidentiality
import ContextProvider.Proofs.Backend.Completion
import ContextProvider.Proofs.Route.Table
import ContextProvider.Proofs.Route.Server
import ContextProvider.Proofs.Url.Path
import ContextProvider.Proofs.Url.Sendable
import ContextProvider.Proofs.Service.Setup
import ContextProvider.Proofs.Client.Location
import ContextProvider.Proofs.Number.Double
import ContextProvider.Proofs.Json.Range
import ContextProvider.Proofs.Backend.Fixture
import ContextProvider.Proofs.Backend.Values
import ContextProvider.Proofs.Query.Typing
import ContextProvider.Proofs.Backend.Pointwise
import ContextProvider.Proofs.Query.Independence
import ContextProvider.Proofs.Json.Grammar
import ContextProvider.Proofs.Json.Recognition
import ContextProvider.Proofs.Json.Record
import ContextProvider.Proofs.Query.Echo
import ContextProvider.Proofs.Number.Digits
import ContextProvider.Proofs.Json.Printed
import ContextProvider.Proofs.Envelope.RoundTrip
import ContextProvider.Proofs.Url.Form
import ContextProvider.Proofs.Client.Request
import ContextProvider.Proofs.Client.Term
import ContextProvider.Proofs.Backend.Static
import ContextProvider.Proofs.Backend.Search
import ContextProvider.Proofs.Client.Place
import ContextProvider.Proofs.Mapping.Refusal
import ContextProvider.Proofs.Backend.Observation
import ContextProvider.Proofs.Number.Decimal
import ContextProvider.Proofs.Number.Magnitude
import ContextProvider.Proofs.Backend.Coercion
import ContextProvider.Proofs.Client.Answer
import ContextProvider.Proofs.Client.Conditions
import ContextProvider.Proofs.Query.Log
import ContextProvider.Proofs.Backend.Reach
import ContextProvider.Proofs.Toml.Record
import ContextProvider.Proofs.Service.Sections
import ContextProvider.Proofs.Service.Settings
import ContextProvider.Proofs.Number.Nearest
import ContextProvider.Proofs.Backend.Random
import ContextProvider.Proofs.Client.Message
import ContextProvider.Proofs.Route.Dispatch
