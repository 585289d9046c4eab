import ObservationFeed.Client.Place
import ObservationFeed.Config
import ObservationFeed.KeyedList

/-!
# Clients

The requesting side of one connection.  A client is the product of its places:
what happens at one location depends on that location's place, on the clock,
and on whether the client has been closed or let go.

Every operation lets the tasks that it has woken run before it returns.  Time
passes in `advance` alone, which stops at every moment at which a task wakes.
`accept`, `depart` and `shut` are operations without the tasks.
-/

namespace ObservationFeed

open Client KeyedList

/-- The requesting side of one connection. -/
structure Client where
  now : Nat
  /-- Milliseconds between two keepalives. -/
  period : Nat
  /-- Milliseconds for which a subscription outlasts the last interest in it. -/
  window : Nat
  closed : Bool
  /-- Whether the client was let go, which ends its subscriptions but not the streams on them. -/
  released : Bool
  places : List (Location × Place)
  deriving DecidableEq, Repr

namespace Client

/-- Why the transport refuses messages about each location, if it does. -/
abbrev Network := Location → Transport

/-- A call of a client. -/
structure CallHandle where
  location : Location
  number : Nat
  deriving DecidableEq, Repr

/-- A subscription of a client. -/
structure SubscriptionHandle where
  location : Location
  number : Nat
  deriving DecidableEq, Repr

/-- A stream of a client. -/
structure StreamHandle where
  subscription : SubscriptionHandle
  number : Nat
  deriving DecidableEq, Repr

/-- What was let out about a location, and when. -/
structure LogEntry where
  time : Nat
  location : Location
  emission : Emission

/-- A client after an operation, what the operation let out, and its answer. -/
structure Outcome (α : Type) where
  client : Client
  log : List LogEntry
  answer : α

def ofConfig (config : Config) : Client where
  now := 0
  period := config.keepaliveMs
  window := config.client.subscriptionTimeoutMs.toNat
  closed := false
  released := false
  places := []

/-- A client can only be made where its tasks can run. -/
def create (config : Config) (runtime : Bool) : Except SyncError Client :=
  if runtime then .ok (ofConfig config) else .error .noRuntime

/-- When the client acts, and its two periods. -/
def timing (c : Client) : Timing := ⟨c.now, c.period, c.window⟩

def place (c : Client) (l : Location) : Place := (find? l c.places).getD .empty

def setPlace (c : Client) (l : Location) (p : Place) : Client :=
  { c with places := put l p c.places }

/-- Performs a step at a place and lets the tasks there run. -/
def atPlace {α : Type} (c : Client) (net : Network) (l : Location) (step : Step α) : Outcome α :=
  let (p, more) := step.place.runTasks c.timing (net l)
  ⟨c.setPlace l p, [⟨c.now, l, step.emission ++ more⟩], step.answer⟩

/-- The number of locations where something is pending. -/
def pendingCount (c : Client) : Nat := (c.places.filter fun e => e.2.pending.isSome).length

def hasCallers (c : Client) : Bool := c.places.any fun e => e.2.hasCallers

def subscription? (c : Client) (h : SubscriptionHandle) : Option Subscription :=
  (c.place h.location).subscription? h.number

def live? (c : Client) (l : Location) : Option SubscriptionHandle :=
  (c.place l).live?.map fun (number, _) => ⟨l, number⟩

def subscriptions (c : Client) : List (Location × Subscription) :=
  c.places.filterMap fun (l, p) => p.live?.map fun (_, s) => (l, s)

/-! ## Operations -/

/-- Asks for one observation of a location.  The answer comes in the log, now or later. -/
def request (c : Client) (net : Network) (l : Location) : Outcome CallHandle :=
  let step := if c.closed then (c.place l).refuse .closed
    else (c.place l).request c.timing (net l)
  let outcome := c.atPlace net l step
  ⟨outcome.client, outcome.log, ⟨l, outcome.answer⟩⟩

/-- Gives up a call, and tells whether it had no answer. -/
def abort (c : Client) (net : Network) (call : CallHandle) : Outcome Bool :=
  let p := c.place call.location
  c.atPlace net call.location ⟨p.abort c.timing call.number, .none, p.isWaiting call.number⟩

def subscribe (c : Client) (net : Network) (l : Location) (every : Interval) :
    Outcome (Except SyncError StreamHandle) :=
  if c.closed then ⟨c, [], .error .closed⟩
  else
    let outcome := c.atPlace net l ((c.place l).subscribe c.timing (net l) every)
    ⟨outcome.client, outcome.log,
      outcome.answer.map fun (number, stream) => ⟨⟨l, number⟩, stream⟩⟩

def poll (c : Client) (h : StreamHandle) : Poll Snapshot × Client :=
  match (c.place h.subscription.location).poll h.subscription.number h.number with
  | some (found, p) => (found, c.setPlace h.subscription.location p)
  | none => (.finished, c)

/-- Drops a stream, and tells whether there was one. -/
def detach (c : Client) (net : Network) (h : StreamHandle) : Outcome Bool :=
  let l := h.subscription.location
  let (was, p) := (c.place l).detach c.timing h.subscription.number h.number
  c.atPlace net l ⟨p, .none, was⟩

/-- Closes a subscription for everyone. -/
def closeSubscription (c : Client) (net : Network) (h : SubscriptionHandle) :
    Outcome (Except SyncError Unit) :=
  c.atPlace net h.location ((c.place h.location).closeSubscription (net h.location) h.number)

/-- Closes the subscription of a stream for everyone and drops the stream. -/
def leave (c : Client) (net : Network) (h : StreamHandle) : Outcome (Except SyncError Unit) :=
  let closed := c.closeSubscription net h.subscription
  let dropped := closed.client.detach net h
  ⟨dropped.client, closed.log ++ dropped.log, closed.answer⟩

/-- Hands a response to whatever is pending at its location, and tells whether something was. -/
def respond (c : Client) (net : Network) (response : Response) : Outcome (Except SyncError Bool) :=
  if c.closed then ⟨c, [], .error .closed⟩
  else
    let l := response.location
    c.atPlace net l ((c.place l).respond c.timing (net l) response)

/-- Closes the live subscription of a location, and tells whether there was one. -/
def unsubscribe (c : Client) (net : Network) (l : Location) : Outcome (Except SyncError Bool) :=
  if c.closed then ⟨c, [], .error .closed⟩
  else c.atPlace net l ((c.place l).unsubscribe (net l))

/-! ## The end of a client -/

/-- Gives up what is pending at some locations, and collects the failures. -/
def closePlaces (net : Network) : List Location → Client → Client × List LogEntry × List SyncError
  | [], c => (c, [], [])
  | l :: rest, c =>
    let outcome := c.atPlace net l ((c.place l).close (net l))
    let (c, log, failures) := closePlaces net rest outcome.client
    let failures := match outcome.answer with
      | .ok () => failures
      | .error e => e :: failures
    (c, outcome.log ++ log, failures)

/-- What a client that was closed answers, by what failed and by what is pending still. -/
def closingAnswer (c : Client) (failures : List SyncError) : Except SyncError Unit :=
  let remaining := c.pendingCount
  if remaining = 0 then SyncError.collect failures
  else .error (.tableNotEmpty remaining failures)

/-- Gives up everything that is pending.  The second time nothing happens. -/
def close (c : Client) (net : Network) : Outcome (Except SyncError Unit) :=
  if c.closed then ⟨c, [], .ok ()⟩
  else
    let (c, log, failures) := closePlaces net (keys c.places) { c with closed := true }
    ⟨c, log, c.closingAnswer failures⟩

/-- Lets the tasks at some locations do what they can do now. -/
def runTasksAt (net : Network) : List Location → Client → Client × List LogEntry
  | [], c => (c, [])
  | l :: rest, c =>
    let (p, emission) := (c.place l).runTasks c.timing (net l)
    let (c, log) := runTasksAt net rest (c.setPlace l p)
    (c, ⟨c.now, l, emission⟩ :: log)

/-- Lets all tasks do what they can do now. -/
def runTasks (c : Client) (net : Network) : Client × List LogEntry :=
  runTasksAt net (keys c.places) c

/-- Lets go of a client that no call waits for. -/
def release (c : Client) (net : Network) : Client × List LogEntry :=
  { c with
    released := true
    places := c.places.map fun e => (e.1, e.2.endScopes) : Client }.runTasks net

/-! ## One thing at a time

What an operation does before any task runs.  Then whoever is ready goes on in any order. -/

/-- Hands over a response, whose parked callers go on later. -/
def accept (c : Client) (net : Network) (response : Response) : Outcome (Except SyncError Bool) :=
  if c.closed then ⟨c, [], .error .closed⟩
  else
    let l := response.location
    let step := (c.place l).accept c.timing (net l) response
    ⟨c.setPlace l step.place, [⟨c.now, l, step.emission⟩], step.answer⟩

/-- A caller that a subscription has answered goes on.  Where the scope has ended that may be what it
finds first. -/
def depart (c : Client) (h : SubscriptionHandle) (call : Nat) (cancelled : Bool) :
    Client × List LogEntry :=
  let l := h.location
  let taken := (c.subscription? h).bind fun s => s.takes? call cancelled
  (c.setPlace l ((c.place l).depart c.timing h.number call), [⟨c.now, l, ⟨[], taken.toList⟩⟩])

def failure? : Except SyncError Unit → Option SyncError
  | .ok () => none
  | .error e => some e

/-- Gives up everything that is pending. -/
def shut (c : Client) (net : Network) : Outcome (Except SyncError Unit) :=
  if c.closed then ⟨c, [], .ok ()⟩
  else
    let steps := c.places.map fun e => (e.1, e.2.close (net e.1))
    let log := steps.map fun e => ⟨c.now, e.1, e.2.emission⟩
    let failures := steps.filterMap fun e => failure? e.2.answer
    let c := { c with closed := true, places := steps.map fun e => (e.1, e.2.place) }
    ⟨c, log, c.closingAnswer failures⟩

/-! ## Time -/

def nextWake? (c : Client) : Option Nat := (c.places.filterMap fun e => e.2.nextWake?).min?

/-- Moves the clock, never back, and lets the tasks run that are due. -/
def wakeAt (c : Client) (net : Network) (time : Nat) : Client × List LogEntry :=
  { c with now := max c.now time }.runTasks net

/-- Lets time pass up to a moment, with at most a number of stops on the way. -/
def advanceWithin (net : Network) (moment : Nat) : Nat → Client → Client × List LogEntry
  | 0, c => ({ c with now := moment }, [])
  | fuel + 1, c =>
    match c.nextWake? with
    | none => ({ c with now := moment }, [])
    | some time =>
      if moment < time then ({ c with now := moment }, [])
      else
        let (c, log) := c.wakeAt net time
        let (c, more) := advanceWithin net moment fuel c
        (c, log ++ more)

/-- Lets time pass.  Every stop on the way is at a later moment than the one before if keepalives
are apart in time, so there is at most one for each millisecond. -/
def advance (c : Client) (net : Network) (ms : Nat) : Client × List LogEntry :=
  advanceWithin net (c.now + ms) (ms + 1) c

end Client

end ObservationFeed
