import SessionRecorder.Assoc
import SessionRecorder.Bytes.Basic
import SessionRecorder.Bytes.Hex
import SessionRecorder.Catalog
import SessionRecorder.Contexts
import SessionRecorder.Decimal.Binary
import SessionRecorder.Decimal.Double
import SessionRecorder.Decimal.Layout
import SessionRecorder.Decimal.Reading
import SessionRecorder.Decimal.Shortest
import SessionRecorder.Decimal.Stepwise
import SessionRecorder.Deduplicator
import SessionRecorder.Digest.Blake3
import SessionRecorder.Digest.Sha256
import SessionRecorder.Digest.Words
import SessionRecorder.Duration
import SessionRecorder.Glob.Basic
import SessionRecorder.Glob.Expression
import SessionRecorder.Glob.Parser
import SessionRecorder.Glob.Scope
import SessionRecorder.HookResult
import SessionRecorder.Json.Basic
import SessionRecorder.Json.Decode
import SessionRecorder.Json.Merge
import SessionRecorder.Json.Parser
import SessionRecorder.Json.Printer
import SessionRecorder.Lineage
import SessionRecorder.Log
import SessionRecorder.Mount
import SessionRecorder.Msgpack.Basic
import SessionRecorder.Msgpack.Display
import SessionRecorder.Msgpack.Json
import SessionRecorder.Msgpack.Reader
import SessionRecorder.Msgpack.Writer
import SessionRecorder.Outbox
import SessionRecorder.Payload
import SessionRecorder.Pipeline
import SessionRecorder.Record.ContextMetadata
import SessionRecorder.Record.Envelope
import SessionRecorder.Record.Identity
import SessionRecorder.Record.Item
import SessionRecorder.Registry.Bundle
import SessionRecorder.Registry.Publisher
import SessionRecorder.Registry.Schema
import SessionRecorder.RetryBuffer
import SessionRecorder.Router.Basic
import SessionRecorder.Router.Decisions
import SessionRecorder.Router.Failure
import SessionRecorder.Router.Handling
import SessionRecorder.Settings.Basic
import SessionRecorder.Settings.Environment
import SessionRecorder.Settings.Load
import SessionRecorder.Store.Basic
import SessionRecorder.Store.Client
import SessionRecorder.Store.Error
import SessionRecorder.Store.Memory
import SessionRecorder.Store.Network
import SessionRecorder.Store.Scripted
import SessionRecorder.Subscription
import SessionRecorder.Text.Blank
import SessionRecorder.Text.CaseTable
import SessionRecorder.Text.Casing
import SessionRecorder.Text.Printable
import SessionRecorder.Text.Quoted
import SessionRecorder.Text.Ranges
import SessionRecorder.Text.Search
import SessionRecorder.Text.Utf8
import SessionRecorder.Turn.Accumulator
import SessionRecorder.Turn.Basic
import SessionRecorder.Turn.Signal
import SessionRecorder.Turn.Usage
import SessionRecorder.Uuid
import SessionRecorder.Wire.Append
import SessionRecorder.Wire.Error
import SessionRecorder.Wire.Frame
import SessionRecorder.WordInt
import SessionRecorder.Proofs.Ledger
import SessionRecorder.Proofs.Work
import SessionRecorder.Proofs.Conservation
import SessionRecorder.Proofs.Submissions
import SessionRecorder.Proofs.Calm
import SessionRecorder.Proofs.Recovery
import SessionRecorder.Proofs.SessionLogs
import SessionRecorder.Proofs.Frames
import SessionRecorder.Proofs.LossyPeer
import SessionRecorder.Proofs.LossyClient
import SessionRecorder.Proofs.ExactlyOnce
import SessionRecorder.Proofs.Msgpack.Locality
import SessionRecorder.Proofs.Msgpack.Written
import SessionRecorder.Proofs.Payloads
import SessionRecorder.Proofs.ConnectionState
import SessionRecorder.Proofs.AnsweringPeer
import SessionRecorder.Proofs.Attribution
import SessionRecorder.Proofs.Outages
import SessionRecorder.Proofs.Variants
import SessionRecorder.Proofs.Overlong
import SessionRecorder.Proofs.Blocked
import SessionRecorder.Proofs.Conformance
import SessionRecorder.Proofs.EventConformance
import SessionRecorder.Proofs.ItemConformance
import SessionRecorder.Proofs.ToolCalls
import SessionRecorder.Proofs.ParallelCalls
import SessionRecorder.Proofs.ClientTraffic
import SessionRecorder.Proofs.TappedClient
import SessionRecorder.Proofs.Replays
import SessionRecorder.Proofs.Msgpack.Injective
import SessionRecorder.Proofs.EventPayloads
import SessionRecorder.Proofs.EventKeys
import SessionRecorder.Proofs.Flushes
import SessionRecorder.Proofs.Spellings
import SessionRecorder.Proofs.Overrides
import SessionRecorder.Proofs.Msgpack.JsonImage
import SessionRecorder.Proofs.Msgpack.LongText
import SessionRecorder.Proofs.EventReadBack
import SessionRecorder.Proofs.StoreIndependence
import SessionRecorder.Proofs.BufferHistory
import SessionRecorder.Proofs.StoreUse
import SessionRecorder.Proofs.SetUp
import SessionRecorder.Proofs.Orphans
import SessionRecorder.Proofs.SettingsRoundTrip
import SessionRecorder.Proofs.Draining
import SessionRecorder.Proofs.CleanUp
import SessionRecorder.Proofs.FrameStream
import SessionRecorder.Proofs.RequestBodies
import SessionRecorder.Proofs.NetworkViews
import SessionRecorder.Proofs.TracedClient
import SessionRecorder.Proofs.OutgoingFrames
import SessionRecorder.Proofs.FrameCodec
import SessionRecorder.Proofs.AppendBodies
import SessionRecorder.Proofs.Msgpack.Canonical
import SessionRecorder.Proofs.CanonicalPayloads
import SessionRecorder.Proofs.LossyText
import SessionRecorder.Proofs.CheckedReads
import SessionRecorder.Proofs.CheckedClient
import SessionRecorder.Proofs.KnownVariants
import SessionRecorder.Proofs.HighWaterMarks
import SessionRecorder.Proofs.UsageReports
import SessionRecorder.Proofs.OwnMembers
import SessionRecorder.Proofs.Latency
import SessionRecorder.Proofs.MergedPaths
import SessionRecorder.Proofs.SubscribedEvents
import SessionRecorder.Proofs.TurnReadBack
import SessionRecorder.Proofs.EnvelopeSizes
import SessionRecorder.Proofs.StoreHistories
import SessionRecorder.Proofs.RecordedEnvironment
import SessionRecorder.Proofs.KeptTexts
import SessionRecorder.Proofs.Separators
import SessionRecorder.Proofs.ItemIds
import SessionRecorder.Proofs.AgentNames
