import ObservationFeed.Client.CleanupTimer
import ObservationFeed.Client.Emission
import ObservationFeed.Client.Stream

/-!
# Subscriptions

A live subscription to one location.  Someone is interested in it as long as a
stream is attached, a caller is parked on its next value, or the one-shot call
that it was opened from has no answer.  When interest ends the cleanup timer is
armed, when it comes back the timer is disarmed, and when the timer fires the
subscription closes itself.

A parked caller is interested until it goes on.  A response provides it with its
value; if the subscription closes before it goes on, it may go on with the end of
the scope instead.

Two tasks run in the subscription's scope: the keepalive, which renews the
server's registration every period and sends the final stop when the scope has
ended, and the tasks of the timer.  The stop is sent once, whoever gets there
first.  When a keepalive is refused the subscription closes without a stop.
-/

namespace ObservationFeed.Client

/-- Who is interested in a subscription. -/
structure Liveness where
  /-- Streams attached. -/
  consumers : Nat
  /-- Callers parked on the next value that have not gone on. -/
  waiters : Nat
  /-- Whether the call that the subscription was opened from has no answer. -/
  promoted : Bool
  /-- Whether the subscription was closed, after which nothing here changes. -/
  closed : Bool
  deriving DecidableEq, Repr

def Liveness.isLive (l : Liveness) : Bool := 0 < l.consumers || 0 < l.waiters || l.promoted

/-- A parked caller that was provided with its value. -/
structure Answered where
  call : Nat
  snapshot : Snapshot
  deriving DecidableEq, Repr

/-- A subscription to one location. -/
structure Subscription where
  interval : Interval
  /-- The next value, and the callers that wait for it. -/
  next : Awaited
  /-- The callers that were provided with their values and have not gone on. -/
  answered : List Answered
  /-- The tick of the last applied response that had one. -/
  highest : Option Int64
  feed : Feed Snapshot
  liveness : Liveness
  timer : CleanupTimer
  /-- Whether the scope of the subscription's tasks has ended. -/
  ended : Bool
  /-- Whether the final stop was sent, or is not to be. -/
  stopSent : Bool
  /-- When the keepalive task wakes, absent once the task is over. -/
  keepalive : Option Nat
  /-- The streams attached, under their numbers. -/
  streams : List (Nat × Stream)
  /-- The number of the next stream. -/
  nextStream : Nat
  deriving DecidableEq, Repr

namespace Subscription

/-- A subscription whose start was just sent.  A pending call hands over its value. -/
def begin (now period window : Nat) (interval : Interval) (first : Option Awaited) :
    Subscription where
  interval
  next := first.getD .fresh
  answered := []
  highest := none
  feed := .empty
  liveness := ⟨0, 0, first.isSome, false⟩
  timer := .ofWindow window
  ended := false
  stopSent := false
  keepalive := some (now + period)
  streams := []
  nextStream := 0

/-- Whether the subscription has closed. -/
def isClosed (s : Subscription) : Bool := s.ended || s.liveness.closed

/-! ## Interest -/

/-- Changes who is interested, and arms or disarms the timer at the edges.  Once the subscription
is closed nothing changes. -/
def updateLiveness (s : Subscription) (now : Nat) (change : Liveness → Liveness) : Subscription :=
  if s.liveness.closed then s
  else
    let liveness := change s.liveness
    let timer :=
      match s.liveness.isLive, liveness.isLive with
      | true, false => s.timer.arm now 0
      | false, true => s.timer.disarm
      | _, _ => s.timer
    { s with liveness, timer }

/-- Attaches a stream, unless the subscription is closed, and returns its number. -/
def attach? (s : Subscription) (now : Nat) : Option (Nat × Subscription) :=
  if s.liveness.closed then none
  else
    let s := s.updateLiveness now fun l => { l with consumers := l.consumers + 1 }
    some (s.nextStream,
      { s with streams := s.streams ++ [(s.nextStream, .begin s.feed)]
               nextStream := s.nextStream + 1 })

def detach (s : Subscription) (now number : Nat) : Subscription :=
  if s.streams.any (·.1 = number) then
    { s with streams := s.streams.filter (·.1 ≠ number) }.updateLiveness now fun l =>
      { l with consumers := l.consumers - 1 }
  else s

def poll? (s : Subscription) (number : Nat) : Option (Poll Snapshot × Subscription) :=
  (s.streams.lookup number).map fun stream =>
    let (found, stream) := stream.poll s.feed s.ended
    (found, { s with streams := s.streams.map fun e => if e.1 = number then (number, stream) else e })

/-- Parks a caller on the next value, unless the subscription is closed. -/
def park? (s : Subscription) (now call : Nat) : Option Subscription :=
  if s.liveness.closed then none
  else
    some { s.updateLiveness now fun l => { l with waiters := l.waiters + 1 } with
      next := s.next.join call true }

/-- The subscription after some parked callers have gone. -/
def unpark (s : Subscription) (now count : Nat) : Subscription :=
  s.updateLiveness now fun l => { l with waiters := l.waiters - count }

/-- The subscription after a caller that was answered has gone. -/
def depart (s : Subscription) (now call : Nat) : Subscription :=
  if s.answered.any (·.call = call) then
    { s with answered := s.answered.eraseP (·.call = call) }.unpark now 1
  else s

/-- What a caller that was answered goes on with, which may be the end of the scope once it has
come. -/
def takes? (s : Subscription) (call : Nat) (cancelled : Bool) : Option Return :=
  (s.answered.find? (·.call = call)).map fun a =>
    ⟨call, if cancelled && s.ended then .error .cancelled else .ok a.snapshot⟩

/-- Gives up a caller that waits for the next value. -/
def forgo (s : Subscription) (now call : Nat) : Subscription :=
  let parked := s.next.hasParked call
  let s := { s with next := s.next.leave call }
  if parked then s.unpark now 1 else s

/-- Gives up a caller that waits for the next value or has not gone on with it. -/
def abort (s : Subscription) (now call : Nat) : Subscription := (s.forgo now call).depart now call

/-! ## Values -/

/-- Whether a response is older than one already applied. -/
def isStale (s : Subscription) (tick : Option Int64) : Bool :=
  match tick, s.highest with
  | some tick, some highest => tick < highest
  | _, _ => false

/-- Applies a response unless it is stale: publishes the value and provides the callers with it.
Those that are parked count until they go on. -/
def accept (s : Subscription) (now : Nat) (snapshot : Snapshot) (tick : Option Int64) :
    Subscription × List Return :=
  if s.isStale tick then (s, [])
  else
    let (_, returns) := s.next.unparked.settle (.completed snapshot)
    let s :=
      { s with
        next := .fresh
        answered := s.answered ++ s.next.parkedCalls.map (Answered.mk · snapshot)
        highest := tick.or s.highest
        feed := s.feed.publish snapshot }
    (s.updateLiveness now fun l => { l with promoted := false }, returns)

/-- Applies a response unless it is stale, where every caller that it answers goes on at once. -/
def publish (s : Subscription) (now : Nat) (snapshot : Snapshot) (tick : Option Int64) :
    Subscription × List Return :=
  if s.isStale tick then (s, [])
  else
    let parked := s.next.parkedCount
    let (_, returns) := s.next.settle (.completed snapshot)
    let s :=
      { s with next := .fresh, highest := tick.or s.highest, feed := s.feed.publish snapshot }
    ((s.updateLiveness now fun l => { l with promoted := false }).unpark now parked, returns)

/-! ## Closing -/

/-- Sends the final stop if it was not sent before. -/
def sendStop (s : Subscription) (transport : Transport) : Subscription × Emission :=
  if s.stopSent then (s, .none)
  else ({ s with stopSent := true }, ⟨[⟨.stop, transport .stop⟩], []⟩)

/-- Ends the scope, gives up the next value and sends the final stop. -/
def teardown (s : Subscription) (transport : Transport) : Subscription × Emission :=
  let (next, returns) := s.next.settle .cancelled
  let (s, emission) := { s with ended := true, timer := s.timer.disarm, next }.sendStop transport
  (s, ⟨[], returns⟩ ++ emission)

/-- Closes the subscription, which does nothing the second time. -/
def close (s : Subscription) (transport : Transport) : Subscription × Emission :=
  if s.liveness.closed then (s, .none)
  else { s with liveness := { s.liveness with closed := true } }.teardown transport

/-- The end of the scope from outside, when the client is let go. -/
def endScope (s : Subscription) : Subscription := { s with ended := true }

/-! ## Tasks -/

/-- What the timer does when it fires: closes the subscription if nobody is interested. -/
def onIdle (s : Subscription) (transport : Transport) : Subscription × Emission :=
  if s.liveness.isLive then (s, .none) else s.close transport

/-- The keepalive task wakes at or after its time and renews the registration. -/
def keepaliveWakes? (s : Subscription) (now period : Nat) (transport : Transport) :
    Option (Subscription × Emission) :=
  match s.keepalive with
  | none => none
  | some time =>
    if now < time then none
    else
      let kind := RequestKind.keepalive s.interval
      let attempt : Emission := ⟨[⟨kind, transport kind⟩], []⟩
      match transport kind with
      | none => some ({ s with keepalive := some (now + period) }, attempt)
      | some _ =>
        let (s, emission) := { s with keepalive := none, stopSent := true }.close transport
        some (s, attempt ++ emission)

/-- The keepalive task sees the end of its scope and sends the final stop. -/
def keepaliveEnds? (s : Subscription) (transport : Transport) : Option (Subscription × Emission) :=
  if s.ended && s.keepalive.isSome then
    some ({ s with keepalive := none }.sendStop transport)
  else none

/-- Makes every move of the timer's tasks that is possible now. -/
def runTimer (s : Subscription) (now : Nat) (transport : Transport) : Subscription × Emission :=
  let (fired, timer) := s.timer.settle now fun _ => s.ended
  let s := { s with timer }
  if fired then s.onIdle transport else (s, .none)

/-- Lets every task do what it can do now, the end of the scope before the time. -/
def runTasks (s : Subscription) (now period : Nat) (transport : Transport) :
    Subscription × Emission :=
  let (s, a) := if s.ended then (s, .none)
    else (s.keepaliveWakes? now period transport).getD (s, .none)
  let (s, b) := s.runTimer now transport
  let (s, c) := (s.keepaliveEnds? transport).getD (s, .none)
  (s, a ++ b ++ c)

def nextWake? (s : Subscription) : Option Nat :=
  (s.keepalive.toList ++ s.timer.nextWake?.toList).min?

end Subscription

end ObservationFeed.Client
