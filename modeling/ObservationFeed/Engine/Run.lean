import ObservationFeed.Engine.Failure
import ObservationFeed.Engine.GaugeWorld
import ObservationFeed.Engine.Record
import ObservationFeed.Link

/-!
# Runs of the demonstration

One client next to the first of a row of gauges.  It asks for one observation
of that gauge, gives up after some sweeps if none comes, and then subscribes to
the last gauge until the ticks are over.

The run has its own clock, that of the link between client and server.  The
first tick comes at once.
-/

namespace ObservationFeed.Engine

open Client Server

/-- What the client is at. -/
inductive Stage where
  /-- It waits for one observation until a deadline. -/
  | asked (call : CallHandle) (deadline : Nat)
  | subscribed (stream : StreamHandle)
  deriving DecidableEq, Repr

/-- A run and what it has recorded. -/
structure Run where
  config : Config
  client : ClientId
  /-- The gauge that is subscribed to. -/
  watched : Location
  link : Link GaugeWorld
  stage : Stage
  updates : Nat
  records : List Record

/-- A part of a run, which may fail. -/
abbrev Part := ExceptT EngineError (StateM Run)

namespace Run

/-- The name of the partition with the gauges. -/
def partition : String := "overworld"

/-- Sweeps after which an answer is no longer waited for. -/
def patienceSweeps : Nat := 4

/-- Milliseconds for which an answer is waited for.  A time too long to be counted is replaced by
five seconds. -/
def patience (config : Config) : Nat :=
  let ticks := min (config.server.tickInterval.toNat * patienceSweeps) 4294967295
  let ms := config.client.tickDurationMs.toNat * ticks
  if ms / 1000 ≤ maxUInt64 then ms else 5000

/-! ## Records -/

def record (level : Level) (message : String) (fields : List (String × FieldValue)) : Part Unit :=
  modify fun r => { r with records := r.records ++ [⟨level, message, fields⟩] }

def pointFields (p : Point) : List (String × FieldValue) :=
  [("long", p.long?.elim .absent fun n => .number n.toInt),
    ("double", p.double?.elim .absent .double)]

def recordSnapshot (message : String) (l : Location) (s : Snapshot) : Part Unit :=
  s.sources.toList.forM fun (source, points) => points.toList.forM fun (attributes, point) =>
    record .info message ([("location", .text l.text), ("source", .text source.text),
      ("attributes", .number attributes.length)] ++ pointFields point)

/-! ## The client -/

/-- Goes on with the link in another state, and tells what passed. -/
def proceed (change : Link GaugeWorld → Link GaugeWorld × List Passage) : Part (List Passage) :=
  modifyGet fun r =>
    let (link, passages) := change r.link
    (passages, { r with link })

def perform {α : Type} (op : Client → Network → Outcome α) : Part (Option α) :=
  modifyGet fun r =>
    match r.link.perform GaugeWorld.world r.client op with
    | some (answer, link, _) => (some answer, { r with link })
    | none => (none, r)

/-- The answer of a call among what passed. -/
def answer? (call : CallHandle) (passages : List Passage) : Option (Except SyncError Snapshot) :=
  passages.findSome? fun
    | .emitted _ entry =>
      if entry.location = call.location then
        (entry.emission.returns.find? (·.call = call.number)).map (·.result)
      else none
    | .sent .. => none

def subscribe : Part Unit := do
  let r ← get
  let ticks := r.config.engine.subscribeInterval.toNat
  let some every := Interval.ofNat? ticks | throw (.wire (.invalidInterval ticks))
  match ← perform (·.subscribe · r.watched every) with
  | none => throw (.sync .closed)
  | some (.error e) => throw (.sync e)
  | some (.ok stream) =>
    record .info "Subscribed" [("location", .text r.watched.text), ("interval", .text every.text)]
    modify fun r => { r with stage := .subscribed stream }

/-- Takes up the newest value of the subscription. -/
def takeUpdate (stream : StreamHandle) : Part Unit := do
  match ← perform fun c _ => let (found, c) := c.poll stream; ⟨c, [], found⟩ with
  | some (.value snapshot) =>
    modify fun r => { r with updates := r.updates + 1 }
    recordSnapshot "Subscription update" stream.subscription.location snapshot
  | _ => return ()

def attend (passages : List Passage) : Part Unit := do
  let r ← get
  match r.stage with
  | .subscribed stream => takeUpdate stream
  | .asked call deadline =>
    match answer? call passages with
    | some (.ok snapshot) =>
      recordSnapshot "Single observation received" call.location snapshot
      subscribe
    | some (.error e) =>
      record .warn "single observation failed"
        [("location", .text call.location.text), ("error", .text e.message)]
      subscribe
    | none =>
      if deadline ≤ r.link.now then
        record .warn "single observation timed out" [("location", .text call.location.text)]
        subscribe
      else return ()

/-! ## Time -/

def wait (ms : Nat) : Part Unit := do
  attend (← proceed (·.advance GaugeWorld.world ms))

/-- Lets one tick pass in the world and for the server. -/
def tick : Part Unit := do
  let step (r : Registrar) : StateM (Site GaugeWorld Wire.Bytes) (Option SweepReport × Registrar) := do
    modify fun site => site.setWorld site.world.advance.2
    r.tickWorld (Link.host GaugeWorld.world)
  attend (← proceed fun link => (link.serve GaugeWorld.world step).2)

/-- Lets ticks pass, one every so many milliseconds. -/
def ticks (ms : Nat) : Nat → Part Unit
  | 0 => return ()
  | count + 1 => do
    wait ms
    tick
    ticks ms count

/-- Gives up waiting for an answer when its time is over. -/
def outwait : Part Unit := do
  let r ← get
  match r.stage with
  | .asked _ deadline => wait (deadline - r.link.now)
  | .subscribed _ => return ()

/-! ## The whole run -/

/-- A run at its beginning, and the number of its gauges. -/
def begin? (config : Config) (client : ClientId) (noise : Noise) : Option (Run × Nat) := do
  let world := GaugeWorld.build partition config.engine.gaugeCount.toNat noise
  let locations := world.locations
  let first ← locations.head?
  let watched ← locations.getLast?
  let world := world.place client ⟨partition, first.block.center⟩
  let link : Link GaugeWorld := .ofConfig config.server config [client] world
  let (call, link, _) ← link.perform GaugeWorld.world client (·.request · first)
  return (⟨config, client, watched, link, .asked call (patience config), 0, []⟩, locations.length)

/-- All that happens in a run once it has begun. -/
def whole (gauges : Nat) : Part Unit := do
  let r ← get
  record .info "Demo world created"
    [("gauges", .number gauges), ("client", .text r.client.text)]
  let count := r.config.engine.runTicks.toNat
  if 0 < count then
    tick
    ticks r.config.client.tickDurationMs.toNat (count - 1)
  outwait
  record .info "Tick loop finished"
    [("ticks", .number count), ("updates", .number (← get).updates)]
  match ← perform (·.close ·) with
  | some (.error e) => throw (.sync e)
  | _ => return ()

def run (config : Config) (client : ClientId) (noise : Noise) :
    List Record × Except EngineError Unit :=
  match begin? config client noise with
  | none => ([], .error .noGauges)
  | some (start, gauges) =>
    let (result, last) := (whole gauges).run.run start
    (last.records, result)

end Run

end ObservationFeed.Engine
