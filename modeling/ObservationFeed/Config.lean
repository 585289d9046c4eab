import ObservationFeed.Double

/-!
# Configuration

The settings of servers, clients, logging and the demonstration, with their
usual values, and the rules that settings have to keep.
-/

namespace ObservationFeed

/-- Settings of a server. -/
structure ServerConfig where
  /-- Ticks between two sweeps. -/
  tickInterval : UInt32 := 20
  /-- Ticks a registration lasts without renewal. -/
  maxAgeTicks : UInt64 := 1800
  /-- The distance from which requests are refused, along each horizontal axis. -/
  interactionRange : Double := ⟨0x4044000000000000⟩
  deriving DecidableEq, Repr, Inhabited

/-- Settings of a client. -/
structure ClientConfig where
  /-- Milliseconds for which a subscription outlasts the last interest in it. -/
  subscriptionTimeoutMs : UInt64 := 500
  /-- Milliseconds a tick takes. -/
  tickDurationMs : UInt64 := 50
  deriving DecidableEq, Repr, Inhabited

/-- Settings of the log. -/
structure LoggingConfig where
  /-- Which messages are shown. -/
  level : String := "info"
  /-- Whether each message is a line of JSON. -/
  json : Bool := false
  deriving DecidableEq, Repr, Inhabited

/-- Settings of the demonstration. -/
structure EngineConfig where
  /-- Ticks to run for. -/
  runTicks : UInt64 := 200
  /-- The interval of the subscription. -/
  subscribeInterval : UInt32 := 20
  /-- The number of gauges in the world. -/
  gaugeCount : UInt32 := 3
  deriving DecidableEq, Repr, Inhabited

/-- All settings. -/
structure Config where
  server : ServerConfig := {}
  client : ClientConfig := {}
  logging : LoggingConfig := {}
  engine : EngineConfig := {}
  deriving DecidableEq, Repr, Inhabited

/-- The largest 64-bit number, at which products of settings stop. -/
abbrev maxUInt64 : Nat := 18446744073709551615

namespace Config

/-- A rule that settings break. -/
inductive Violation where
  | tickInterval
  | maxAgeTicks
  | interactionRange
  | tickDuration
  | subscribeInterval
  deriving DecidableEq, Repr

def Violation.reason : Violation → String
  | tickInterval => "server.tick_interval must be at least 1"
  | maxAgeTicks => "server.max_age_ticks must be at least 1"
  | interactionRange => "server.interaction_range must be a positive number"
  | tickDuration => "client.tick_duration_ms must be at least 1"
  | subscribeInterval => "engine.subscribe_interval must be at least 1"

/-- Whether a range is a finite number above zero. -/
def positiveRange (range : Double) : Bool :=
  range.isFinite && 0 < range.toFloat

def violation? (c : Config) : Option Violation :=
  if c.server.tickInterval = 0 then some .tickInterval
  else if c.server.maxAgeTicks = 0 then some .maxAgeTicks
  else if !positiveRange c.server.interactionRange then some .interactionRange
  else if c.client.tickDurationMs = 0 then some .tickDuration
  else if c.engine.subscribeInterval = 0 then some .subscribeInterval
  else none

/-- Milliseconds between two renewals of a subscription: two thirds of the time a registration
lasts, where each product stops at the largest 64-bit number. -/
def keepaliveMs (c : Config) : Nat :=
  let ticks := min (c.server.maxAgeTicks.toNat * 2) maxUInt64 / 3
  min (ticks * c.client.tickDurationMs.toNat) maxUInt64

end Config

end ObservationFeed
