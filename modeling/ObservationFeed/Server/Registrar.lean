import ObservationFeed.Config
import ObservationFeed.Server.Sweep
import ObservationFeed.Wire.Request

/-!
# Registrars

The server of one world.  It files what its clients ask for, refuses clients
that may not observe a location, and sweeps its registrations once every so
many ticks.  A refused request drops the registration there was, as a stop
does.
-/

namespace ObservationFeed.Server

/-- The server of one world. -/
structure Registrar where
  limits : Limits
  /-- Ticks a registration lasts without renewal. -/
  maxAge : Nat
  /-- Ticks between two sweeps. -/
  tickInterval : Nat
  /-- Ticks to skip before the next sweep. -/
  cooldown : Nat
  table : Table
  deriving DecidableEq, Repr

namespace Registrar

/-- A server without registrations whose first tick sweeps. -/
def ofConfig (config : ServerConfig) : Registrar where
  limits := ⟨config.interactionRange⟩
  maxAge := config.maxAgeTicks.toNat
  tickInterval := max config.tickInterval.toNat 1
  cooldown := 0
  table := .empty

/-! ## Requests -/

variable {σ : Type}

/-- Drops a registration, and tells whether there was one. -/
def stop (r : Registrar) (client : ClientId) (location : Location) : Bool × Registrar :=
  ((r.table.find? client location).isSome,
    { r with table := r.table.remove client location })

/-- Files a change to a registration if the client passes the checks, and else drops the
registration.  Tells whether the client passed. -/
def request (r : Registrar) (world : World σ) (checks : Checks) (client : ClientId)
    (location : Location) (change : Tick → Option Registration → Registration) :
    StateM σ (Bool × Registrar) := do
  if ← r.limits.canInteract world client location checks then
    let now ← world.currentTick
    return (true, { r with table := r.table.update client location (change now) })
  else
    return (false, (r.stop client location).2)

/-- The registration that a request for one observation leaves. -/
def singleChange (client : ClientId) (now : Tick) : Option Registration → Registration
  | none => .single client now
  | some registration => registration.hasten now

/-- The registration that a subscription or its renewal leaves. -/
def subscribeChange (maxAge : Nat) (client : ClientId) (every : Interval) (now : Tick) :
    Option Registration → Registration
  | none => .subscription client every now maxAge
  | some registration => registration.renew every now maxAge

/-- Asks for one observation at the next sweep. -/
def single (r : Registrar) (world : World σ) (client : ClientId) (location : Location) :
    StateM σ (Bool × Registrar) :=
  r.request world .all client location (singleChange client)

/-- Begins a subscription.  The container need not be there yet. -/
def start (r : Registrar) (world : World σ) (client : ClientId) (location : Location)
    (every : Interval) : StateM σ (Bool × Registrar) :=
  r.request world .relaxed client location (subscribeChange r.maxAge client every)

/-- Renews a subscription, or begins it if it is not known. -/
def keepalive (r : Registrar) (world : World σ) (client : ClientId) (location : Location)
    (every : Interval) : StateM σ (Bool × Registrar) :=
  r.request world .all client location (subscribeChange r.maxAge client every)

/-- Does what a message asks.  Tells whether the client has a registration afterwards. -/
def handle (r : Registrar) (world : World σ) (client : ClientId) (message : Request) :
    StateM σ (Bool × Registrar) :=
  match message.kind with
  | .stop => return (false, (r.stop client message.location).2)
  | .single => r.single world client message.location
  | .start every => r.start world client message.location every
  | .keepalive every => r.keepalive world client message.location every

/-! ## Ticks -/

/-- Changes the ticks between two sweeps.  The next sweep comes no later than it was going to. -/
def setTickInterval (r : Registrar) (ticks : Nat) : Registrar :=
  { r with tickInterval := max ticks 1, cooldown := min r.cooldown (max ticks 1) }

/-- Makes the next tick sweep. -/
def clearCooldown (r : Registrar) : Registrar := { r with cooldown := 0 }

/-- Lets one tick pass, which sweeps if no tick is left to skip. -/
def tick (r : Registrar) (host : Host σ) (now : Tick) : StateM σ (Option SweepReport × Registrar) :=
  if r.cooldown = 0 then do
    let (table, report) ← Sweep.run host r.limits now r.table
    return (some report, { r with cooldown := r.tickInterval - 1, table })
  else return (none, { r with cooldown := r.cooldown - 1 })

/-- Lets one tick pass at the tick the world is at. -/
def tickWorld (r : Registrar) (host : Host σ) : StateM σ (Option SweepReport × Registrar) := do
  r.tick host (← host.currentTick)

/-- Drops all registrations, and tells how many there were. -/
def clear (r : Registrar) : Nat × Registrar :=
  (r.table.registrationCount, { r with table := .empty })

end Registrar

end ObservationFeed.Server
