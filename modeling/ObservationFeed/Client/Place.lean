import ObservationFeed.Client.Subscription
import ObservationFeed.Location
import ObservationFeed.Wire.Response

/-!
# Places

All that a client knows of one location: what is pending there, and the
subscriptions that it has opened there.  At most one thing is pending: a
one-shot call whose answer several callers may share, or a live subscription.

A refused message changes nothing.  A one-shot call that is followed by a
subscription becomes part of it, and its answer is the subscription's first
value.
-/

namespace ObservationFeed.Client

/-- What is pending at a location. -/
inductive Pending where
  /-- A one-shot call. -/
  | single (awaited : Awaited)
  /-- A subscription, given by its number among those opened here. -/
  | subscription (number : Nat)
  deriving DecidableEq, Repr

/-- All that a client knows of one location. -/
structure Place where
  pending : Option Pending
  /-- The subscriptions opened here, in order. -/
  opened : List Subscription
  /-- The number of the next call. -/
  nextCall : Nat
  deriving DecidableEq, Repr

/-- When a client acts, and how long its subscriptions go between keepalives and outlast the last
interest in them. -/
structure Timing where
  now : Nat
  period : Nat
  window : Nat
  deriving DecidableEq, Repr

/-- A place after an operation, what the operation let out, and its answer. -/
structure Step (α : Type) where
  place : Place
  emission : Emission
  answer : α

namespace Place

def empty : Place := ⟨none, [], 0⟩

def subscription? (p : Place) (number : Nat) : Option Subscription := p.opened[number]?

/-- The live subscription with its number. -/
def live? (p : Place) : Option (Nat × Subscription) :=
  match p.pending with
  | some (.subscription number) => (p.subscription? number).map fun s => (number, s)
  | _ => none

def set (p : Place) (number : Nat) (s : Subscription) : Place :=
  { p with opened := p.opened.set number s }

/-- Drops the entry of a subscription, unless another thing is pending by now. -/
def unlist (p : Place) (number : Nat) : Place :=
  { p with pending := if p.pending = some (.subscription number) then none else p.pending }

/-! ## Calls -/

/-- Sends a one-shot request for a call. -/
def sendSingle (p : Place) (transport : Transport) (call : Nat) : Place × Emission :=
  let attempt : Attempt := ⟨.single, transport .single⟩
  match attempt.refusal with
  | some e => (p, ⟨[attempt], [⟨call, .error (.transport e)⟩]⟩)
  | none =>
    ({ p with pending := some (.single (Awaited.fresh.join call false)) }, ⟨[attempt], []⟩)

/-- Asks for one observation, under the number that is answered. -/
def request (p : Place) (t : Timing) (transport : Transport) : Step Nat :=
  let call := p.nextCall
  let p := { p with nextCall := call + 1 }
  let parked := p.live?.bind fun (number, s) =>
    (s.park? t.now call).map fun s => p.set number s
  match p.pending, parked with
  | some (.single awaited), _ =>
    ⟨{ p with pending := some (.single (awaited.join call false)) }, .none, call⟩
  | _, some p => ⟨p, .none, call⟩
  | _, none =>
    let (p, emission) := p.sendSingle transport call
    ⟨p, emission, call⟩

/-- Answers a call at once. -/
def refuse (p : Place) (e : SyncError) : Step Nat :=
  ⟨{ p with nextCall := p.nextCall + 1 }, ⟨[], [⟨p.nextCall, .error e⟩]⟩, p.nextCall⟩

def isWaiting (p : Place) (call : Nat) : Bool :=
  (match p.pending with
    | some (.single awaited) => awaited.has call
    | _ => false) || p.opened.any fun s => s.next.has call

def abort (p : Place) (t : Timing) (call : Nat) : Place :=
  { p with
    pending := match p.pending with
      | some (.single awaited) => some (.single (awaited.leave call))
      | other => other
    opened := p.opened.map fun s => s.abort t.now call }

def hasCallers (p : Place) : Bool :=
  (match p.pending with
    | some (.single awaited) => !awaited.callers.isEmpty
    | _ => false) || p.opened.any fun s => !s.next.callers.isEmpty || !s.answered.isEmpty

/-! ## Subscriptions -/

/-- Opens a subscription, to which a pending one-shot call is handed over. -/
def openSubscription (p : Place) (t : Timing) (transport : Transport) (every : Interval) :
    Step (Except SyncError (Nat × Nat)) :=
  let kind := RequestKind.start every
  let attempt : Attempt := ⟨kind, transport kind⟩
  match attempt.refusal with
  | some e => ⟨p, ⟨[attempt], []⟩, .error (.transport e)⟩
  | none =>
    let first := match p.pending with
      | some (.single awaited) => some awaited
      | _ => none
    let number := p.opened.length
    match (Subscription.begin t.now t.period t.window every first).attach? t.now with
    | none => ⟨p, ⟨[attempt], []⟩, .error .closed⟩
    | some (stream, s) =>
      ⟨{ p with pending := some (.subscription number), opened := p.opened ++ [s] },
        ⟨[attempt], []⟩, .ok (number, stream)⟩

/-- Attaches a stream to the live subscription, or to one opened for it.  Answers the numbers of
the subscription and of the stream. -/
def subscribe (p : Place) (t : Timing) (transport : Transport) (every : Interval) :
    Step (Except SyncError (Nat × Nat)) :=
  match p.live?.bind fun (number, s) => (s.attach? t.now).map fun a => (number, a) with
  | some (number, stream, s) => ⟨p.set number s, .none, .ok (number, stream)⟩
  | none => p.openSubscription t transport every

/-- Drops a stream, and tells whether it was attached. -/
def detach (p : Place) (t : Timing) (number stream : Nat) : Bool × Place :=
  match p.subscription? number with
  | some s => (s.streams.any (·.1 = stream), p.set number (s.detach t.now stream))
  | none => (false, p)

def poll (p : Place) (number stream : Nat) : Option (Poll Snapshot × Place) :=
  (p.subscription? number).bind fun s =>
    (s.poll? stream).map fun (found, s) => (found, p.set number s)

/-- Why the last message of a list was refused, if it was. -/
def refusal (e : Emission) : Except SyncError Unit :=
  match e.attempts.getLast?.bind (·.refusal) with
  | some cause => .error (.transport cause)
  | none => .ok ()

/-- Closes a subscription and drops its entry. -/
def closeSubscription (p : Place) (transport : Transport) (number : Nat) :
    Step (Except SyncError Unit) :=
  match p.subscription? number with
  | none => ⟨p, .none, .ok ()⟩
  | some s =>
    let (closed, emission) := s.close transport
    let p := p.set number closed
    ⟨if s.liveness.closed then p else p.unlist number, emission, refusal emission⟩

/-- Closes the live subscription, and tells whether there was one. -/
def unsubscribe (p : Place) (transport : Transport) : Step (Except SyncError Bool) :=
  match p.pending with
  | some (.subscription number) =>
    let step := { p with pending := none }.closeSubscription transport number
    ⟨step.place, step.emission, step.answer.map fun _ => true⟩
  | _ => ⟨p, .none, .ok false⟩

/-! ## Responses -/

/-- Hands a response to whatever is pending, and tells whether something was.  It is said how an
open subscription hears it. -/
def hand (p : Place) (transport : Transport) (response : Response)
    (hear : Subscription → Subscription × List Return) : Step (Except SyncError Bool) :=
  match p.pending with
  | none => ⟨p, .none, .ok false⟩
  | some (.single awaited) =>
    let (_, returns) := awaited.settle (.completed response.snapshot)
    ⟨{ p with pending := none }, ⟨[], returns⟩, .ok true⟩
  | some (.subscription number) =>
    match p.subscription? number with
    | none => ⟨p, .none, .ok false⟩
    | some s =>
      if s.isClosed then
        let (s, emission) := s.close transport
        ⟨{ p with pending := none }.set number s, emission,
          .error (.subscriptionClosed response.location)⟩
      else
        let (s, returns) := hear s
        ⟨p.set number s, ⟨[], returns⟩, .ok true⟩

/-- Hands over a response, whose callers go on later. -/
def accept (p : Place) (t : Timing) (transport : Transport) (response : Response) :
    Step (Except SyncError Bool) :=
  p.hand transport response fun s => s.accept t.now response.snapshot response.serverTick

/-- Hands over a response, whose callers go on at once. -/
def respond (p : Place) (t : Timing) (transport : Transport) (response : Response) :
    Step (Except SyncError Bool) :=
  p.hand transport response fun s => s.publish t.now response.snapshot response.serverTick

/-- The place after a caller of a subscription has gone on. -/
def depart (p : Place) (t : Timing) (number call : Nat) : Place :=
  match p.subscription? number with
  | some s => p.set number (s.depart t.now call)
  | none => p

/-! ## The end of the client -/

/-- Gives up what is pending, when the client closes. -/
def close (p : Place) (transport : Transport) : Step (Except SyncError Unit) :=
  match p.pending with
  | none => ⟨p, .none, .ok ()⟩
  | some (.single awaited) =>
    let (_, returns) := awaited.settle .cancelled
    ⟨{ p with pending := none }, ⟨[], returns⟩, .ok ()⟩
  | some (.subscription number) =>
    { p with pending := none }.closeSubscription transport number

/-- Ends the scopes of all subscriptions, when the client is let go. -/
def endScopes (p : Place) : Place :=
  { p with pending := none, opened := p.opened.map Subscription.endScope }

/-! ## Tasks -/

/-- The entry of a subscription is dropped when the subscription has closed itself. -/
def settleEntry (p : Place) (number : Nat) (before after : Subscription) : Place :=
  if !before.liveness.closed && after.liveness.closed then p.unlist number else p

/-- Lets the tasks of the first subscriptions do what they can do now. -/
def runTasksUpTo (t : Timing) (transport : Transport) : Nat → Place → Place × Emission
  | 0, p => (p, .none)
  | number + 1, p =>
    let (p, a) := runTasksUpTo t transport number p
    match p.subscription? number with
    | none => (p, a)
    | some before =>
      let (after, b) := before.runTasks t.now t.period transport
      ((p.set number after).settleEntry number before after, a ++ b)

/-- Lets the tasks of all subscriptions do what they can do now. -/
def runTasks (p : Place) (t : Timing) (transport : Transport) : Place × Emission :=
  runTasksUpTo t transport p.opened.length p

def nextWake? (p : Place) : Option Nat := (p.opened.filterMap Subscription.nextWake?).min?

end Place

end ObservationFeed.Client
