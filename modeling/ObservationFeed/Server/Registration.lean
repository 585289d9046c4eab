import ObservationFeed.Identity
import ObservationFeed.Interval
import ObservationFeed.Tick

/-!
# Registrations

The server's record of one client's interest in one location.  A registration
is due at the first sweep after its update mark and dropped at the first sweep
after its expiry mark.  One that is to fire once starts with both marks behind
it, so that the next sweep fires it and drops it.
-/

namespace ObservationFeed.Server

/-- How often a registration fires. -/
inductive UpdateInterval where
  | every (interval : Interval)
  | never
  deriving DecidableEq, Repr

namespace UpdateInterval

def text : UpdateInterval → String
  | every interval => "every " ++ interval.text
  | never => "once"

end UpdateInterval

/-- One client's interest in one location. -/
structure Registration where
  client : ClientId
  interval : UpdateInterval
  /-- The last tick at which the registration is not yet due. -/
  nextUpdate : Tick
  /-- The last tick at which the registration is not yet expired. -/
  expiry : Tick
  deriving DecidableEq, Repr

namespace Registration

/-- Fires once, at the next sweep. -/
def single (client : ClientId) (now : Tick) : Registration :=
  ⟨client, .never, now.pred, now.pred⟩

/-- Fires every interval, the first time one interval from now. -/
def subscription (client : ClientId) (every : Interval) (now : Tick) (maxAge : Nat) :
    Registration :=
  ⟨client, .every every, now.add every.ticks, now.add maxAge⟩

/-- Whether the tick is past the expiry mark. -/
def isExpired (r : Registration) (now : Tick) : Bool := r.expiry.count < now.count

/-- Whether the tick is past the update mark. -/
def isDue (r : Registration) (now : Tick) : Bool := r.nextUpdate.count < now.count

def fired (r : Registration) (now : Tick) : Registration :=
  match r.interval with
  | .every interval => { r with nextUpdate := now.add interval.ticks }
  | .never => { r with nextUpdate := .last }

/-- Fires the registration if it is due. -/
def poll (r : Registration) (now : Tick) : Bool × Registration :=
  if r.isDue now then (true, r.fired now) else (false, r)

/-- Takes up an interval and starts the expiry window again.  The next firing comes no later than
it was going to. -/
def renew (r : Registration) (every : Interval) (now : Tick) (maxAge : Nat) : Registration :=
  { r with
    interval := .every every
    nextUpdate := r.nextUpdate.earlier (now.add every.ticks)
    expiry := now.add maxAge }

/-- Makes the registration due at the next sweep. -/
def hasten (r : Registration) (now : Tick) : Registration :=
  { r with nextUpdate := r.nextUpdate.earlier now.pred }

end Registration

end ObservationFeed.Server
