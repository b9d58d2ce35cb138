import ChatTurn.Aggregator
import ChatTurn.Cli.Options
import ChatTurn.Cli.Run
import ChatTurn.Codec.Event
import ChatTurn.Codec.Message
import ChatTurn.Codec.Remote
import ChatTurn.Codec.Request
import ChatTurn.Codec.Tool
import ChatTurn.Config.Basic
import ChatTurn.Config.Placeholder
import ChatTurn.Config.Reader
import ChatTurn.Double.Basic
import ChatTurn.Double.Decimal
import ChatTurn.Double.Shortest
import ChatTurn.Error
import ChatTurn.Event
import ChatTurn.Json.Node
import ChatTurn.Json.Number
import ChatTurn.Json.Parser
import ChatTurn.Json.Reader
import ChatTurn.Json.Writer
import ChatTurn.Lifecycle
import ChatTurn.Main
import ChatTurn.Message
import ChatTurn.Ordered
import ChatTurn.Output.Decoder
import ChatTurn.Output.Token
import ChatTurn.Pattern.Automaton.Chars
import ChatTurn.Pattern.Automaton.Growth
import ChatTurn.Pattern.Automaton.Size
import ChatTurn.Pattern.Automaton.Words
import ChatTurn.Pattern.Basic
import ChatTurn.Pattern.Class
import ChatTurn.Pattern.Fault
import ChatTurn.Pattern.Normal
import ChatTurn.Pattern.Parser
import ChatTurn.Proofs.Aggregator.Acceptance
import ChatTurn.Proofs.Aggregator.Bookkeeping
import ChatTurn.Proofs.Aggregator.Conservation
import ChatTurn.Proofs.Aggregator.Content
import ChatTurn.Proofs.Aggregator.Delivery
import ChatTurn.Proofs.Aggregator.Drain
import ChatTurn.Proofs.Aggregator.Emission
import ChatTurn.Proofs.Aggregator.Ids
import ChatTurn.Proofs.Aggregator.Journal
import ChatTurn.Proofs.Aggregator.Ledger
import ChatTurn.Proofs.Aggregator.Order
import ChatTurn.Proofs.Aggregator.Pairing
import ChatTurn.Proofs.Aggregator.Recovery
import ChatTurn.Proofs.Aggregator.Regrouping
import ChatTurn.Proofs.Aggregator.Renaming
import ChatTurn.Proofs.Codec.Argument
import ChatTurn.Proofs.Codec.Built
import ChatTurn.Proofs.Codec.Event
import ChatTurn.Proofs.Codec.Message
import ChatTurn.Proofs.Codec.Record
import ChatTurn.Proofs.Codec.Request
import ChatTurn.Proofs.Codec.Tool
import ChatTurn.Proofs.Config.Expansion
import ChatTurn.Proofs.Config.Field
import ChatTurn.Proofs.Config.Placeholder
import ChatTurn.Proofs.Config.Quoted
import ChatTurn.Proofs.Config.Verbatim
import ChatTurn.Proofs.Double.Value
import ChatTurn.Proofs.Event.CallText
import ChatTurn.Proofs.Event.Open
import ChatTurn.Proofs.History
import ChatTurn.Proofs.Json.Double
import ChatTurn.Proofs.Json.Locality
import ChatTurn.Proofs.Json.Number
import ChatTurn.Proofs.Json.Value
import ChatTurn.Proofs.Json.Writing
import ChatTurn.Proofs.Ordered
import ChatTurn.Proofs.Outcomes
import ChatTurn.Proofs.Output.Agreement
import ChatTurn.Proofs.Output.ControlTokens
import ChatTurn.Proofs.Output.Cuts
import ChatTurn.Proofs.Output.Holding
import ChatTurn.Proofs.Output.Operation
import ChatTurn.Proofs.Output.Outcome
import ChatTurn.Proofs.Output.PartialTag
import ChatTurn.Proofs.Output.Protocol
import ChatTurn.Proofs.Output.Reached
import ChatTurn.Proofs.Output.Tokenizing
import ChatTurn.Proofs.Provider.Alone
import ChatTurn.Proofs.Provider.Answer
import ChatTurn.Proofs.Provider.Command
import ChatTurn.Proofs.Provider.Configured
import ChatTurn.Proofs.Provider.Lifecycle
import ChatTurn.Proofs.Provider.Registration
import ChatTurn.Proofs.Provider.Selection
import ChatTurn.Proofs.Provider.Sharing
import ChatTurn.Proofs.Remote.Balance
import ChatTurn.Proofs.Remote.Ending
import ChatTurn.Proofs.Remote.Gathering
import ChatTurn.Proofs.Remote.Outbound
import ChatTurn.Proofs.Remote.Reassembly
import ChatTurn.Proofs.Remote.Renaming
import ChatTurn.Proofs.Remote.Resolution
import ChatTurn.Proofs.Remote.RoundTrip
import ChatTurn.Proofs.Request.Validation
import ChatTurn.Proofs.Request.WellFormed
import ChatTurn.Proofs.Scripted.Isolation
import ChatTurn.Proofs.Scripted.Life
import ChatTurn.Proofs.Scripted.Reading
import ChatTurn.Proofs.Scripted.Renaming
import ChatTurn.Proofs.Scripted.Spending
import ChatTurn.Proofs.Scripted.StopToken
import ChatTurn.Proofs.Scripted.Turn
import ChatTurn.Proofs.Text.Occurrence
import ChatTurn.Proofs.Text.Splicing
import ChatTurn.Proofs.Text.Split
import ChatTurn.Proofs.Text.Trim
import ChatTurn.Proofs.Toml.Difference
import ChatTurn.Proofs.Toml.Gap
import ChatTurn.Proofs.Toml.Locality
import ChatTurn.Proofs.Toml.Readers
import ChatTurn.Proofs.Toml.Record
import ChatTurn.Proofs.Toml.Steps
import ChatTurn.Proofs.Tool.Balance
import ChatTurn.Proofs.Tool.Decomposition
import ChatTurn.Proofs.Tool.Expression
import ChatTurn.Proofs.Tool.FunctionTag
import ChatTurn.Proofs.Tool.JsonText
import ChatTurn.Proofs.Tool.Reading
import ChatTurn.Proofs.Tool.Same
import ChatTurn.Proofs.Tool.Spelling
import ChatTurn.Proofs.Tool.Splitting
import ChatTurn.Proofs.Tool.WrittenJson
import ChatTurn.Proofs.Tool.WrittenTag
import ChatTurn.Provider.Basic
import ChatTurn.Provider.Configured
import ChatTurn.Provider.Handle
import ChatTurn.Provider.Registry
import ChatTurn.Provider.Sharing
import ChatTurn.Remote.EventStream
import ChatTurn.Remote.Outbound
import ChatTurn.Remote.Reply
import ChatTurn.Remote.Service
import ChatTurn.Remote.Status
import ChatTurn.Remote.Turn
import ChatTurn.Remote.Wire
import ChatTurn.Request
import ChatTurn.Scripted.Basic
import ChatTurn.Scripted.Generation
import ChatTurn.Scripted.Interleaving
import ChatTurn.Scripted.Pool
import ChatTurn.Scripted.Provider
import ChatTurn.Text.Quoted
import ChatTurn.Text.Search
import ChatTurn.Text.Split
import ChatTurn.Text.Utf16
import ChatTurn.Text.Utf8
import ChatTurn.Text.White
import ChatTurn.Toml.Parser
import ChatTurn.Toml.Scalar
import ChatTurn.Toml.Value
import ChatTurn.Tool.Argument
import ChatTurn.Tool.Call
import ChatTurn.Tool.CallExpression
import ChatTurn.Tool.CallText
import ChatTurn.Tool.Definition
import ChatTurn.Tool.Fault
import ChatTurn.Tool.FunctionTag
import ChatTurn.Tool.JsonCall
import ChatTurn.Tool.Literal
import ChatTurn.Tool.Name
import ChatTurn.Unicode.Age
import ChatTurn.Unicode.Break
import ChatTurn.Unicode.Case
import ChatTurn.Unicode.Category
import ChatTurn.Unicode.CharSet
import ChatTurn.Unicode.Composition
import ChatTurn.Unicode.Encoding
import ChatTurn.Unicode.Property
import ChatTurn.Unicode.Script
import ChatTurn.Unicode.Shift
import ChatTurn.Url.Basic
import ChatTurn.Url.Domain.Alphabet
import ChatTurn.Url.Domain.Basic
import ChatTurn.Url.Domain.Direction
import ChatTurn.Url.Domain.Joiner
import ChatTurn.Url.Domain.Label
import ChatTurn.Url.Domain.Mapping
import ChatTurn.Url.Host
import ChatTurn.Url.Punycode
