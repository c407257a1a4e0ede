import RpcTransport.Config.Basic
import RpcTransport.Config.Duration
import RpcTransport.Config.Text
import RpcTransport.Decimal.Shortest
import RpcTransport.Endpoint.Basic
import RpcTransport.Endpoint.Http
import RpcTransport.Endpoint.Loading
import RpcTransport.Endpoint.Transport
import RpcTransport.Gathering.Correlation
import RpcTransport.Gathering.Schedule
import RpcTransport.Gathering.Window
import RpcTransport.Json.Basic
import RpcTransport.Json.Fault
import RpcTransport.Json.Lexical
import RpcTransport.Json.Numeral
import RpcTransport.Json.Printer
import RpcTransport.Json.Quoted
import RpcTransport.Json.Reader
import RpcTransport.Json.Record
import RpcTransport.Json.Shape
import RpcTransport.Json.Skim
import RpcTransport.Message.CallId
import RpcTransport.Message.Envelope
import RpcTransport.Message.Method
import RpcTransport.Message.Request
import RpcTransport.Message.ResultType
import RpcTransport.Message.RpcError
import RpcTransport.Proofs.Config.Limits
import RpcTransport.Proofs.Config.Overlay
import RpcTransport.Proofs.Gathering.Assignment
import RpcTransport.Proofs.Gathering.Clock
import RpcTransport.Proofs.Gathering.Correlation
import RpcTransport.Proofs.Gathering.Cutting
import RpcTransport.Proofs.Gathering.Entitlement
import RpcTransport.Proofs.Gathering.Failures
import RpcTransport.Proofs.Gathering.Isolation
import RpcTransport.Proofs.Gathering.Ledger
import RpcTransport.Proofs.Gathering.Punctuality
import RpcTransport.Proofs.Gathering.Splitting
import RpcTransport.Proofs.Gathering.Timeline
import RpcTransport.Proofs.Gathering.Transparency
import RpcTransport.Proofs.Gathering.Waiting
import RpcTransport.Proofs.Json.ArrayText
import RpcTransport.Proofs.Json.Canonical
import RpcTransport.Proofs.Json.Drafts
import RpcTransport.Proofs.Json.Elements
import RpcTransport.Proofs.Json.Embedding
import RpcTransport.Proofs.Json.Faithful
import RpcTransport.Proofs.Json.Grammar
import RpcTransport.Proofs.Json.Lexical
import RpcTransport.Proofs.Json.Lookups
import RpcTransport.Proofs.Json.Outcomes
import RpcTransport.Proofs.Json.Reading
import RpcTransport.Proofs.Json.Recognition
import RpcTransport.Proofs.Json.Roundtrip
import RpcTransport.Proofs.Json.Shapes
import RpcTransport.Proofs.Json.Skimming
import RpcTransport.Proofs.Json.Truncation
import RpcTransport.Proofs.Json.Writing
import RpcTransport.Proofs.Json.Written
import RpcTransport.Proofs.Message.Acceptance
import RpcTransport.Proofs.Message.Batches
import RpcTransport.Proofs.Message.Kinds
import RpcTransport.Proofs.Message.Members
import RpcTransport.Proofs.Message.Notifications
import RpcTransport.Proofs.Message.Replies
import RpcTransport.Proofs.Message.Requests
import RpcTransport.Proofs.Message.Results
import RpcTransport.Proofs.Message.Rewriting
import RpcTransport.Proofs.Session.Answers
import RpcTransport.Proofs.Session.Calls
import RpcTransport.Proofs.Session.Commuting
import RpcTransport.Proofs.Session.Delivery
import RpcTransport.Proofs.Session.FeedHistory
import RpcTransport.Proofs.Session.Frames
import RpcTransport.Proofs.Session.Leaving
import RpcTransport.Proofs.Session.Lifecycle
import RpcTransport.Proofs.Session.Reachability
import RpcTransport.Proofs.Session.Registrations
import RpcTransport.Proofs.Session.RegistryHistory
import RpcTransport.Proofs.Session.Routing
import RpcTransport.Proofs.Session.Starts
import RpcTransport.Proofs.Session.Subscribing
import RpcTransport.Proofs.Session.Subscriptions
import RpcTransport.Proofs.Session.Teardown
import RpcTransport.Proofs.Session.Unsubscribing
import RpcTransport.Proofs.Text.Utf8
import RpcTransport.RateLimit
import RpcTransport.Session.Basic
import RpcTransport.Session.CallRegistry
import RpcTransport.Session.Dial
import RpcTransport.Session.FeedActs
import RpcTransport.Session.Feeds
import RpcTransport.Session.Mailbox
import RpcTransport.Session.RegistryActs
import RpcTransport.Session.Run
import RpcTransport.Text.Ascii
import RpcTransport.Text.CharClass
import RpcTransport.Text.CodeTable
import RpcTransport.Text.Composition
import RpcTransport.Text.Direction
import RpcTransport.Text.Escaped
import RpcTransport.Text.Folding
import RpcTransport.Text.Folding.Table
import RpcTransport.Text.Joining
import RpcTransport.Text.Utf8
import RpcTransport.TransportError
import RpcTransport.Url.Address
import RpcTransport.Url.Basic
import RpcTransport.Url.Domain
import RpcTransport.Url.Fault
import RpcTransport.Url.Host
import RpcTransport.Url.Percent
import RpcTransport.Url.Punycode
import RpcTransport.Url.Uri
