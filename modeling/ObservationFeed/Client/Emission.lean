import ObservationFeed.Client.Deferred
import ObservationFeed.Observation.Snapshot
import ObservationFeed.Wire.Request

/-!
# What a client lets out

The messages that an operation tries to send, each with the transport's
verdict, and the calls that it answers.
-/

namespace ObservationFeed.Client

/-- Why the transport refuses a message about a location, if it does. -/
abbrev Transport := RequestKind → Option TransportError

/-- A message that was handed to the transport. -/
structure Attempt where
  kind : RequestKind
  /-- Why the transport refused the message, if it did. -/
  refusal : Option TransportError
  deriving DecidableEq, Repr

/-- The answer of a call. -/
structure Return where
  call : Nat
  result : Except SyncError Snapshot

/-- What an operation lets out. -/
structure Emission where
  attempts : List Attempt
  returns : List Return

namespace Emission

def none : Emission := ⟨[], []⟩

/-- What two operations let out, one after the other. -/
def append (a b : Emission) : Emission := ⟨a.attempts ++ b.attempts, a.returns ++ b.returns⟩

instance : Append Emission := ⟨append⟩

/-- The messages that the transport took. -/
def sent (e : Emission) : List RequestKind :=
  (e.attempts.filter fun a => a.refusal.isNone).map (·.kind)

end Emission

/-- A caller that waits for an observation. -/
structure Caller where
  call : Nat
  /-- Whether the caller is counted among those parked on a live subscription. -/
  parked : Bool
  deriving DecidableEq, Repr

/-- A value that is awaited, and the callers that wait for it.  They are answered when it is
settled. -/
structure Awaited where
  value : Deferred Snapshot
  callers : List Caller
  deriving DecidableEq, Repr

namespace Awaited

/-- A value for which nobody waits yet. -/
def fresh : Awaited := ⟨.pending, []⟩

def join (a : Awaited) (call : Nat) (parked : Bool) : Awaited :=
  { a with callers := a.callers ++ [⟨call, parked⟩] }

def leave (a : Awaited) (call : Nat) : Awaited :=
  { a with callers := a.callers.filter (·.call ≠ call) }

def has (a : Awaited) (call : Nat) : Bool := a.callers.any (·.call = call)

def hasParked (a : Awaited) (call : Nat) : Bool := a.callers.any fun c => c.call = call && c.parked

def parkedCount (a : Awaited) : Nat := (a.callers.filter (·.parked)).length

/-- The calls counted as parked. -/
def parkedCalls (a : Awaited) : List Nat := (a.callers.filter (·.parked)).map (·.call)

/-- The value with those of its callers that are not parked. -/
def unparked (a : Awaited) : Awaited := { a with callers := a.callers.filter (!·.parked) }

/-- Settles the value, which answers the callers. -/
def settle (a : Awaited) (outcome : Deferred Snapshot) : Awaited × List Return :=
  let (_, value) := outcome.settle a.value
  match value.result? with
  | some result => (⟨value, []⟩, a.callers.map fun c => ⟨c.call, result⟩)
  | none => ({ a with value }, [])

end Awaited

end ObservationFeed.Client
