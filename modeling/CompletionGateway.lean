import CompletionGateway.Address
import CompletionGateway.Admission.Controller
import CompletionGateway.Admission.LocalWindow
import CompletionGateway.Admission.SharedWindow
import CompletionGateway.Association
import CompletionGateway.Cache.ExpiringMap
import CompletionGateway.Cache.Fingerprint
import CompletionGateway.Cache.KeyValue
import CompletionGateway.Cache.ResponseCache
import CompletionGateway.Calendar
import CompletionGateway.CommandLine.Arguments
import CompletionGateway.CommandLine.Commands
import CompletionGateway.CommandLine.Enclosure
import CompletionGateway.CommandLine.Help
import CompletionGateway.Completion.Basic
import CompletionGateway.Completion.Client
import CompletionGateway.Completion.Forwarding
import CompletionGateway.Completion.Wire
import CompletionGateway.Conversation.Basic
import CompletionGateway.Conversation.Wire
import CompletionGateway.Digest
import CompletionGateway.EventStream.Decoder
import CompletionGateway.EventStream.Emitter
import CompletionGateway.Failure
import CompletionGateway.Gateway.Collaborators
import CompletionGateway.Gateway.Handler
import CompletionGateway.Gateway.Opening
import CompletionGateway.Gateway.Rehearsal
import CompletionGateway.Gateway.Reply
import CompletionGateway.Gateway.Route
import CompletionGateway.Gateway.Service
import CompletionGateway.Http.MediaType
import CompletionGateway.Http.Message
import CompletionGateway.Http.UrlEncoding
import CompletionGateway.Json.Decode
import CompletionGateway.Json.Lookup
import CompletionGateway.Json.Numeral
import CompletionGateway.Json.Tree
import CompletionGateway.Json.Value
import CompletionGateway.Main
import CompletionGateway.Numeric.Binary
import CompletionGateway.Numeric.Decimal
import CompletionGateway.Pipeline.Context
import CompletionGateway.Pipeline.Orchestrator
import CompletionGateway.Pipeline.Program
import CompletionGateway.Pipeline.Prompt
import CompletionGateway.Proofs.Address
import CompletionGateway.Proofs.Admission.Containment
import CompletionGateway.Proofs.Admission.Expiry
import CompletionGateway.Proofs.Admission.LocalWindow
import CompletionGateway.Proofs.Admission.Occupancy
import CompletionGateway.Proofs.Admission.Reckoning
import CompletionGateway.Proofs.Admission.SetServer
import CompletionGateway.Proofs.Admission.SharedWindow
import CompletionGateway.Proofs.Association
import CompletionGateway.Proofs.Cache.Eviction
import CompletionGateway.Proofs.Cache.ExpiringMap
import CompletionGateway.Proofs.Cache.Fingerprint
import CompletionGateway.Proofs.Cache.Preimages
import CompletionGateway.Proofs.Cache.Sharing
import CompletionGateway.Proofs.Calendar
import CompletionGateway.Proofs.Completion.BoundedReading
import CompletionGateway.Proofs.Completion.Cuts
import CompletionGateway.Proofs.Completion.Feeds
import CompletionGateway.Proofs.Completion.Legibility
import CompletionGateway.Proofs.Completion.SinkContract
import CompletionGateway.Proofs.Completion.Snippets
import CompletionGateway.Proofs.EventStream.Bodies
import CompletionGateway.Proofs.EventStream.Framing
import CompletionGateway.Proofs.EventStream.Lines
import CompletionGateway.Proofs.EventStream.Overlong
import CompletionGateway.Proofs.EventStream.Pushes
import CompletionGateway.Proofs.EventStream.Reuse
import CompletionGateway.Proofs.Gateway.Accounting
import CompletionGateway.Proofs.Gateway.Authority
import CompletionGateway.Proofs.Gateway.Delivery
import CompletionGateway.Proofs.Gateway.Discretion
import CompletionGateway.Proofs.Gateway.StreamEnd
import CompletionGateway.Proofs.Gateway.StreamFidelity
import CompletionGateway.Proofs.Gateway.Unmetered
import CompletionGateway.Proofs.Json.Numbers
import CompletionGateway.Proofs.Json.Printable
import CompletionGateway.Proofs.Json.Readings
import CompletionGateway.Proofs.Json.Reals
import CompletionGateway.Proofs.Json.Records
import CompletionGateway.Proofs.Json.Strings
import CompletionGateway.Proofs.Json.Text
import CompletionGateway.Proofs.Numeric.Magnitudes
import CompletionGateway.Proofs.Numeric.Places
import CompletionGateway.Proofs.Pipeline.BrokenCache
import CompletionGateway.Proofs.Pipeline.CachedAnswers
import CompletionGateway.Proofs.Pipeline.Concurrency
import CompletionGateway.Proofs.Pipeline.Courses
import CompletionGateway.Proofs.Pipeline.Failures
import CompletionGateway.Proofs.Pipeline.History
import CompletionGateway.Proofs.Pipeline.Isolation
import CompletionGateway.Proofs.Pipeline.LostRecords
import CompletionGateway.Proofs.Pipeline.PathAgreement
import CompletionGateway.Proofs.Pipeline.Preparation
import CompletionGateway.Proofs.Pipeline.Relaying
import CompletionGateway.Proofs.Pipeline.Transcript
import CompletionGateway.Proofs.Program.Handing
import CompletionGateway.Proofs.Program.Interleavings
import CompletionGateway.Proofs.Program.Likeness
import CompletionGateway.Proofs.Program.Lockstep
import CompletionGateway.Proofs.Program.Parts
import CompletionGateway.Proofs.Program.Runs
import CompletionGateway.Proofs.Settings.Loading
import CompletionGateway.Proofs.Settings.Secrecy
import CompletionGateway.Proofs.Store.Agreement
import CompletionGateway.Proofs.Store.Beginnings
import CompletionGateway.Proofs.Store.FailedWrites
import CompletionGateway.Proofs.Store.Ledger
import CompletionGateway.Proofs.Store.Listings
import CompletionGateway.Proofs.Store.Memory
import CompletionGateway.Proofs.Store.Relational
import CompletionGateway.Proofs.Store.Timestamps
import CompletionGateway.Proofs.Store.Transactions
import CompletionGateway.Proofs.Text.Lossy
import CompletionGateway.Proofs.Text.Utf8
import CompletionGateway.Proofs.Time
import CompletionGateway.Proofs.Uuid
import CompletionGateway.Settings.Basic
import CompletionGateway.Settings.Environment
import CompletionGateway.Settings.Failure
import CompletionGateway.Settings.Load
import CompletionGateway.Settings.Reader
import CompletionGateway.Settings.Report
import CompletionGateway.Settings.Template
import CompletionGateway.Settings.Validation
import CompletionGateway.Settings.Wire
import CompletionGateway.Store.Conversations
import CompletionGateway.Store.Memory
import CompletionGateway.Store.Relational
import CompletionGateway.Text.Blank
import CompletionGateway.Text.Quoted
import CompletionGateway.Text.Unprintable
import CompletionGateway.Text.Utf8
import CompletionGateway.Time
import CompletionGateway.Toml.Document
import CompletionGateway.Toml.Parser
import CompletionGateway.Uuid
