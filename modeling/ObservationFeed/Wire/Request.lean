import ObservationFeed.Wire.Field

/-!
# Requests

What a client asks of the server about one location, and its layout:

    location | tag | interval, for tags 2 and 3 | client tick

The tags are 0 for stop, 1 for a single observation, 2 for a keepalive and 3
for the start of a subscription.
-/

namespace ObservationFeed

/-- What a client asks for. -/
inductive RequestKind where
  /-- Forget the client's registration. -/
  | stop
  /-- Send one observation. -/
  | single
  /-- Renew a subscription, perhaps with another interval. -/
  | keepalive (every : Interval)
  /-- Begin a subscription, or begin it again. -/
  | start (every : Interval)
  deriving DecidableEq, Repr

namespace RequestKind

def tag : RequestKind → UInt8
  | stop => 0
  | single => 1
  | keepalive _ => 2
  | start _ => 3

def interval? : RequestKind → Option Interval
  | stop => none
  | single => none
  | keepalive every => some every
  | start every => some every

end RequestKind

/-- A message from a client to the server. -/
structure Request where
  location : Location
  kind : RequestKind
  clientTick : Option Int64
  deriving DecidableEq, Repr

namespace Request

/-- A request that tells no client tick. -/
def untimed (location : Location) (kind : RequestKind) : Request := ⟨location, kind, none⟩

end Request

namespace Wire

/-- Writes a kind: its tag, and its interval if it has one. -/
def writeKind (kind : RequestKind) : Bytes :=
  kind.tag ::
    match kind.interval? with
    | none => []
    | some every => Varint.write32 (UInt32.ofNat every.ticks).toInt32

def writeRequest (r : Request) : Except Error Bytes := do
  let location ← writeLocation r.location
  let tick ← writeTick r.clientTick
  return location ++ writeKind r.kind ++ tick

/-- Reads an interval, which has to be in range. -/
def readInterval : Reader Interval := do
  let n ← Varint.read32 "tick interval"
  match (if 0 ≤ n.toInt then Interval.ofNat? n.toInt.toNat else none) with
  | some every => return every
  | none => Reader.fail (.invalidInterval n.toInt)

def readKind : Reader RequestKind := do
  let tag ← Reader.byte "request type"
  if tag = 0 then return .stop
  else if tag = 1 then return .single
  else if tag = 2 then return .keepalive (← readInterval)
  else if tag = 3 then return .start (← readInterval)
  else Reader.fail (.unknownRequestTag tag)

def readRequest : Reader Request := do
  let location ← readLocation
  let kind ← readKind
  let tick ← readTick "client_tick"
  return ⟨location, kind, tick⟩

/-- The request that a whole message holds. -/
def requestOfBytes : Bytes → Except Error Request := Reader.exactly readRequest

end Wire

end ObservationFeed
