import ObservationFeed.Client.Basic
import ObservationFeed.Client.CleanupTimer
import ObservationFeed.Client.Deferred
import ObservationFeed.Client.Emission
import ObservationFeed.Client.Place
import ObservationFeed.Client.RequestLine
import ObservationFeed.Client.Stream
import ObservationFeed.Client.Subscription
import ObservationFeed.Clock
import ObservationFeed.Config
import ObservationFeed.Config.Document
import ObservationFeed.Double
import ObservationFeed.Double.Nearest
import ObservationFeed.Double.Shortest
import ObservationFeed.Engine.Failure
import ObservationFeed.Engine.Gauge
import ObservationFeed.Engine.GaugeWorld
import ObservationFeed.Engine.LogFilter
import ObservationFeed.Engine.Record
import ObservationFeed.Engine.Report
import ObservationFeed.Engine.Run
import ObservationFeed.Hex
import ObservationFeed.Identity
import ObservationFeed.Interval
import ObservationFeed.Json.Basic
import ObservationFeed.Json.Number
import ObservationFeed.Json.Record
import ObservationFeed.KeyedList
import ObservationFeed.Link
import ObservationFeed.Location
import ObservationFeed.Mailbox
import ObservationFeed.Main
import ObservationFeed.Observation.Attribute
import ObservationFeed.Observation.Recorder
import ObservationFeed.Observation.Snapshot
import ObservationFeed.Observation.Summary
import ObservationFeed.Pattern.Basic
import ObservationFeed.Pattern.Reader
import ObservationFeed.Pattern.Validity
import ObservationFeed.Proofs.KeyedList
import ObservationFeed.Proofs.Server.Exchange
import ObservationFeed.Pump
import ObservationFeed.Server.Host
import ObservationFeed.Server.Limits
import ObservationFeed.Server.Registrar
import ObservationFeed.Server.Registration
import ObservationFeed.Server.ScriptedWorld
import ObservationFeed.Server.Sessions
import ObservationFeed.Server.Sweep
import ObservationFeed.Server.Table
import ObservationFeed.Site
import ObservationFeed.SortedMap
import ObservationFeed.SyncError
import ObservationFeed.Text.Alphanumeric
import ObservationFeed.Text.Bytes
import ObservationFeed.Text.Space
import ObservationFeed.Tick
import ObservationFeed.Wire.Error
import ObservationFeed.Wire.Field
import ObservationFeed.Wire.Reader
import ObservationFeed.Wire.Request
import ObservationFeed.Wire.Response
import ObservationFeed.Wire.Varint
import ObservationFeed.Yaml.Cursor
import ObservationFeed.Yaml.Node
import ObservationFeed.Yaml.Scalar
import ObservationFeed.Yaml.Tag
import ObservationFeed.Yaml.Token
import ObservationFeed.Yaml.Value
import ObservationFeed.Proofs.Server.Admission
import ObservationFeed.Proofs.Server.SweepSpec
import ObservationFeed.Proofs.Server.Census
import ObservationFeed.Proofs.Server.FlatRegistrar
import ObservationFeed.Proofs.Server.FlatSweep
import ObservationFeed.Proofs.Server.Refinement
import ObservationFeed.Proofs.Server.Finding
import ObservationFeed.Proofs.Server.Turns
import ObservationFeed.Proofs.Server.Schedule
import ObservationFeed.Proofs.Server.Lease
import ObservationFeed.Proofs.Server.OneShots
import ObservationFeed.Proofs.Server.Entitlement
import ObservationFeed.Proofs.Wire.Reads
import ObservationFeed.Proofs.Wire.Varint
import ObservationFeed.Proofs.Wire.Field
import ObservationFeed.Proofs.SortedMap
import ObservationFeed.Proofs.Wire.Response
import ObservationFeed.Proofs.Wire.Consumption
import ObservationFeed.Proofs.Wire.Request
import ObservationFeed.Proofs.Wire.Canonical
import ObservationFeed.Proofs.Wire.Form
import ObservationFeed.Proofs.Wire.Acceptance
import ObservationFeed.Proofs.Wire.Streaming
import ObservationFeed.Proofs.Client.CleanupTimer
import ObservationFeed.Proofs.Client.Subscription
import ObservationFeed.Proofs.Client.Place
import ObservationFeed.Proofs.Client.Run
import ObservationFeed.Proofs.Client.PlaceTasks
import ObservationFeed.Proofs.Client.Effect
import ObservationFeed.Proofs.Client.Fit
import ObservationFeed.Proofs.Client.Chores
import ObservationFeed.Proofs.Client.Refusals
import ObservationFeed.Proofs.Client.IdleClose
import ObservationFeed.Proofs.Client.Standing
import ObservationFeed.Proofs.Client.Outline
import ObservationFeed.Proofs.Client.Shown
import ObservationFeed.Proofs.Client.Follows
import ObservationFeed.Proofs.Client.Course
import ObservationFeed.Proofs.Client.Grammar
import ObservationFeed.Proofs.Agreement
import ObservationFeed.Proofs.Keepalive
import ObservationFeed.Proofs.Client.Accounts
import ObservationFeed.Proofs.Client.Representation
import ObservationFeed.Proofs.Settings
import ObservationFeed.Proofs.Mailbox
import ObservationFeed.Proofs.Server.NextSweep
import ObservationFeed.Proofs.Server.Respects
import ObservationFeed.Proofs.Server.Realm
import ObservationFeed.Proofs.Server.Interference
import ObservationFeed.Proofs.Client.Dormant
import ObservationFeed.Proofs.Client.Independence
import ObservationFeed.Proofs.Client.Passing
import ObservationFeed.Proofs.Server.Expiry
import ObservationFeed.Proofs.Server.Deliveries
import ObservationFeed.Proofs.Server.Stamps
import ObservationFeed.Proofs.Client.AnyOrder
import ObservationFeed.Proofs.Server.Balance
import ObservationFeed.Proofs.Server.Isolation
import ObservationFeed.Proofs.Client.TimerRuns
import ObservationFeed.Proofs.Client.Intake
import ObservationFeed.Proofs.Client.TickOrder
import ObservationFeed.Proofs.Client.Acts
import ObservationFeed.Proofs.Client.Traces
import ObservationFeed.Proofs.Client.Answering
import ObservationFeed.Proofs.Client.Moves
import ObservationFeed.Proofs.Client.Handover
import ObservationFeed.Proofs.Client.Verdict
import ObservationFeed.Proofs.Client.Answers
import ObservationFeed.Proofs.Client.Delivery
import ObservationFeed.Proofs.Client.Teardown
import ObservationFeed.Proofs.Client.AtOnce
import ObservationFeed.Proofs.Client.RefusedSends
import ObservationFeed.Proofs.Client.LostKeepalive
import ObservationFeed.Proofs.Recorder
import ObservationFeed.Proofs.Server.Pace
import ObservationFeed.Proofs.Sinks
import ObservationFeed.Proofs.Pump
import ObservationFeed.Proofs.Hex
import ObservationFeed.Proofs.Identity
import ObservationFeed.Proofs.Wire.Groups
