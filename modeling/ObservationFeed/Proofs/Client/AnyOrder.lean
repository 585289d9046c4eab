import ObservationFeed.Proofs.Client.Subscription

/-!
# Tasks in any order

The tasks of a subscription go on in any order, mixed with the passing of time
and with whatever is done to the subscription from outside.  The keepalive task
waits for the end of its scope and for its time, and goes on with either once
both have come.

The stop is sent once.  What can still follow it is one keepalive: the
subscription is closed and its stop is sent, the keepalive task has slept long
enough by its next turn, and goes on with that instead of with the end of its
scope.  If no task is kept waiting, this takes a subscription that is closed at
the very moment at which its keepalive is due.
-/

namespace ObservationFeed

namespace CleanupTimer

variable {t t' : CleanupTimer} {now i : Nat} {ended : Nat → Bool} {fired : Bool}

theorem wake_of_fires (moves : t.move? now ended i = some (true, t')) :
    t.wake? now i = some (true, t') := by
  simp only [move?, Option.or_eq_some_iff, Option.map_eq_some_iff] at moves
  rcases moves with ⟨_, _, quiet⟩ | ⟨-, ⟨_, _, quiet⟩ | ⟨-, wakes⟩⟩
  · cases quiet
  · cases quiet
  · exact wakes

theorem move_of_quiet (moves : t.move? now ended i = some (false, t')) :
    t.read? i = some t' ∨ t.abandon? ended i = some t' ∨ t.wake? now i = some (false, t') := by
  simp only [move?, Option.or_eq_some_iff, Option.map_eq_some_iff] at moves
  rcases moves with ⟨_, reads, same⟩ | ⟨-, ⟨_, abandons, same⟩ | ⟨-, wakes⟩⟩
  · cases same
    exact .inl reads
  · cases same
    exact .inr (.inl abandons)
  · exact .inr (.inr wakes)

/-- A move never adds a task, and the one that fires ends its task. -/
theorem tasks_of_move (single : t.tasks.length ≤ 1)
    (moves : t.move? now ended i = some (fired, t')) :
    t'.tasks.length ≤ 1 ∧ (fired = true → t'.tasks = []) := by
  match tasks : t.tasks, single, i with
  | [], _, i => simp [move?, read?, abandon?, wake?, tasks] at moves
  | [task], _, i + 1 => simp [move?, read?, abandon?, wake?, tasks] at moves
  | [.reading scope], _, 0 =>
    cases armed : t.deadline with
    | none =>
      rw [move_reading_none tasks armed] at moves
      cases moves
      simp
    | some d =>
      rw [move_reading_some tasks armed] at moves
      cases moves
      simp
  | [.sleeping scope target], _, 0 =>
    simp only [move?, read?, abandon?, wake?, tasks, List.getElem?_cons_zero] at moves
    grind [finish]

end CleanupTimer

namespace Client

theorem Emission.sent_append (a b : Emission) : (a ++ b).sent = a.sent ++ b.sent := by
  simp [Emission.sent]

namespace Subscription

/-! ## What can happen -/

/-- A turn of the keepalive task.  It goes round its loop by any branch that is ready, until it
sleeps or is over. -/
inductive KeepaliveTurn (now period : Nat) (transport : Transport) :
    Subscription → Subscription → Emission → Prop where
  | gone {s : Subscription} : s.keepalive = none → KeepaliveTurn now period transport s s .none
  | sleeps {s : Subscription} {wake : Nat} : s.ended = false → s.keepalive = some wake →
      now < wake → KeepaliveTurn now period transport s s .none
  | ends {s s' : Subscription} {e : Emission} : s.keepaliveEnds? transport = some (s', e) →
      KeepaliveTurn now period transport s s' e
  | renews {s t s' : Subscription} {e e' : Emission} :
      s.keepaliveWakes? now period transport = some (t, e) →
      KeepaliveTurn now period transport t s' e' →
      KeepaliveTurn now period transport s s' (e ++ e')

/-- No task has anything to do before a time. -/
def restsUntil (s : Subscription) (time : Nat) : Bool :=
  (s.keepalive.all fun wake => !s.ended && time ≤ wake) &&
    s.timer.tasks.all fun
      | .reading _ => false
      | .sleeping _ target => !s.ended && time ≤ target

/-- One thing that happens to a subscription.  If the tasks are prompt, time passes only while none
has anything to do. -/
inductive Happens (prompt : Prop) (period : Nat) (transport : Transport) :
    Nat → Subscription → Nat → Subscription → Emission → Prop where
  | passes {now later : Nat} {s : Subscription} : now ≤ later →
      (prompt → s.restsUntil later = true) → Happens prompt period transport now s later s .none
  | attaches {now stream : Nat} {s s' : Subscription} : s.attach? now = some (stream, s') →
      Happens prompt period transport now s now s' .none
  | detaches {now : Nat} {s : Subscription} (stream : Nat) :
      Happens prompt period transport now s now (s.detach now stream) .none
  | polls {now stream : Nat} {s s' : Subscription} {found : Poll Snapshot} :
      s.poll? stream = some (found, s') → Happens prompt period transport now s now s' .none
  | parks {now call : Nat} {s s' : Subscription} : s.park? now call = some s' →
      Happens prompt period transport now s now s' .none
  | aborts {now : Nat} {s : Subscription} (call : Nat) :
      Happens prompt period transport now s now (s.abort now call) .none
  | publishes {now : Nat} {s : Subscription} (snapshot : Snapshot) (tick : Option Int64) :
      Happens prompt period transport now s now (s.publish now snapshot tick).1
        ⟨[], (s.publish now snapshot tick).2⟩
  | closes {now : Nat} {s : Subscription} :
      Happens prompt period transport now s now (s.close transport).1 (s.close transport).2
  | scopeEnds {now : Nat} {s : Subscription} :
      Happens prompt period transport now s now s.endScope .none
  | timerReads {now : Nat} {s : Subscription} {timer : CleanupTimer} (i : Nat) :
      s.timer.read? i = some timer →
      Happens prompt period transport now s now { s with timer } .none
  | timerAbandons {now : Nat} {s : Subscription} {timer : CleanupTimer} (i : Nat) :
      s.timer.abandon? (fun _ => s.ended) i = some timer →
      Happens prompt period transport now s now { s with timer } .none
  | timerWakes {now : Nat} {s : Subscription} {timer : CleanupTimer} (i : Nat) :
      s.timer.wake? now i = some (false, timer) →
      Happens prompt period transport now s now { s with timer } .none
  | timerFires {now : Nat} {s : Subscription} {timer : CleanupTimer} (i : Nat) :
      s.timer.wake? now i = some (true, timer) →
      Happens prompt period transport now s now
        (({ s with timer } : Subscription).onIdle transport).1
        (({ s with timer } : Subscription).onIdle transport).2
  | keepaliveTurns {now : Nat} {s s' : Subscription} {e : Emission} :
      KeepaliveTurn now period transport s s' e → Happens prompt period transport now s now s' e

/-- The messages that the transport takes at a time. -/
def sentAt (now : Nat) (e : Emission) : List (Nat × RequestKind) :=
  e.sent.map fun kind => (now, kind)

@[simp] theorem sentAt_none (now : Nat) : sentAt now .none = [] := rfl

theorem sentAt_append (now : Nat) (a b : Emission) :
    sentAt now (a ++ b) = sentAt now a ++ sentAt now b := by
  simp [sentAt, Emission.sent_append]

/-- A time, the state of a subscription, and what it has sent by then. -/
inductive Unfolds (prompt : Prop) (period : Nat) (transport : Transport) (opened : Nat)
    (start : Subscription) : Nat → Subscription → List (Nat × RequestKind) → Prop where
  | begins : Unfolds prompt period transport opened start opened start []
  | goesOn {now later : Nat} {s s' : Subscription} {log : List (Nat × RequestKind)}
      {e : Emission} : Unfolds prompt period transport opened start now s log →
      Happens prompt period transport now s later s' e →
      Unfolds prompt period transport opened start later s' (log ++ sentAt later e)

/-! ## One of the orders -/

section RunTasks

variable {prompt : Prop} {period opened now : Nat} {transport : Transport}
  {start s s' : Subscription} {log : List (Nat × RequestKind)}

theorem Unfolds.stays (run : Unfolds prompt period transport opened start now s log) :
    Unfolds prompt period transport opened start now s (log ++ sentAt now .none) := by
  rwa [sentAt_none, List.append_nil]

theorem Unfolds.quietly (run : Unfolds prompt period transport opened start now s log)
    (happens : Happens prompt period transport now s now s' .none) :
    Unfolds prompt period transport opened start now s' log := by
  have next := run.goesOn happens
  rwa [sentAt_none, List.append_nil] at next

/-- The moves of a timer with one task at most are moves of the subscription, and the one that fires
is the last of them. -/
theorem Unfolds.settles (run : Unfolds prompt period transport opened start now s log)
    (single : s.timer.tasks.length ≤ 1) (fuel : Nat) :
    let settled := CleanupTimer.settleWithin now (fun _ => s.ended) fuel s.timer
    let left : Subscription := { s with timer := settled.2 }
    let after := if settled.1 then left.onIdle transport else (left, .none)
    Unfolds prompt period transport opened start now after.1 (log ++ sentAt now after.2) := by
  induction fuel generalizing s with
  | zero => exact run.stays
  | succ fuel ih =>
    rw [CleanupTimer.settleWithin]
    cases found : (List.range s.timer.tasks.length).findSome?
        (s.timer.move? now fun _ => s.ended) with
    | none => exact run.stays
    | some moved =>
      obtain ⟨fired, timer⟩ := moved
      obtain ⟨i, -, moves⟩ := List.exists_of_findSome?_eq_some found
      obtain ⟨fewer, spent⟩ := CleanupTimer.tasks_of_move single moves
      cases fired with
      | true =>
        -- The task that fires was the only one, so there is nothing left to settle.
        simp only [CleanupTimer.settleWithin_nil fuel (spent rfl), Bool.true_or, if_true]
        exact run.goesOn (.timerFires i (CleanupTimer.wake_of_fires moves))
      | false =>
        have moved : Unfolds prompt period transport opened start now { s with timer } log := by
          rcases CleanupTimer.move_of_quiet moves with reads | abandons | wakes
          · exact run.quietly (.timerReads i reads)
          · exact run.quietly (.timerAbandons i abandons)
          · exact run.quietly (.timerWakes i wakes)
        exact ih moved fewer

theorem Unfolds.runTimer (run : Unfolds prompt period transport opened start now s log)
    (single : s.timer.tasks.length ≤ 1) :
    Unfolds prompt period transport opened start now (s.runTimer now transport).1
      (log ++ sentAt now (s.runTimer now transport).2) := run.settles single _

theorem close_leaves (s : Subscription) (transport : Transport) :
    (s.close transport).1.keepalive = s.keepalive ∧
      (s.close transport).1.timer.tasks = s.timer.tasks := by
  unfold close
  split
  · exact ⟨rfl, rfl⟩
  · unfold teardown sendStop
    cases stopped : s.stopSent <;> exact ⟨rfl, rfl⟩

/-- If the keepalive task wakes, it then sleeps for a period or is over. -/
theorem keepaliveTurn_of_wakes (goesOn : s.ended = false) (positive : 0 < period)
    {e : Emission} (wakes : s.keepaliveWakes? now period transport = some (s', e)) :
    KeepaliveTurn now period transport s s' e ∧ s'.timer.tasks = s.timer.tasks := by
  rw [← Emission.append_none e]
  have woken := wakes
  unfold keepaliveWakes? at woken
  cases asleep : s.keepalive with
  | none => simp [asleep] at woken
  | some wake =>
    simp only [asleep] at woken
    split at woken
    · cases woken
    · split at woken
      · cases woken
        exact ⟨.renews wakes (.sleeps goesOn rfl (by omega)), rfl⟩
      · cases woken
        obtain ⟨gone, tasks⟩ :=
          close_leaves { s with keepalive := none, stopSent := true } transport
        exact ⟨.renews wakes (.gone gone), tasks⟩

theorem Unfolds.renews (run : Unfolds prompt period transport opened start now s log)
    (positive : 0 < period) :
    let woken := if s.ended then (s, Emission.none)
      else (s.keepaliveWakes? now period transport).getD (s, .none)
    Unfolds prompt period transport opened start now woken.1 (log ++ sentAt now woken.2) ∧
      woken.1.timer.tasks = s.timer.tasks := by
  cases goesOn : s.ended with
  | true => exact ⟨run.stays, rfl⟩
  | false =>
    cases wakes : s.keepaliveWakes? now period transport with
    | none => exact ⟨run.stays, rfl⟩
    | some woken =>
      obtain ⟨turn, tasks⟩ := keepaliveTurn_of_wakes goesOn positive wakes
      exact ⟨run.goesOn (.keepaliveTurns turn), tasks⟩

theorem Unfolds.ends (run : Unfolds prompt period transport opened start now s log) :
    let gone := (s.keepaliveEnds? transport).getD (s, .none)
    Unfolds prompt period transport opened start now gone.1 (log ++ sentAt now gone.2) := by
  cases ends : s.keepaliveEnds? transport with
  | none => exact run.stays
  | some gone => exact run.goesOn (.keepaliveTurns (.ends ends))

/-- The order in which the tasks are run is one of the orders in which they can go on. -/
theorem Unfolds.runTasks (run : Unfolds prompt period transport opened start now s log)
    (single : s.timer.tasks.length ≤ 1) (positive : 0 < period) :
    Unfolds prompt period transport opened start now (s.runTasks now period transport).1
      (log ++ sentAt now (s.runTasks now period transport).2) := by
  obtain ⟨renewed, tasks⟩ := run.renews positive
  have gone := (renewed.runTimer (tasks ▸ single)).ends
  rw [Subscription.runTasks, sentAt_append, sentAt_append, ← List.append_assoc,
    ← List.append_assoc]
  exact gone

end RunTasks

/-! ## What makes a difference -/

/-- The keepalive task sees no difference, but that its scope may have ended. -/
structure Steady (s s' : Subscription) : Prop where
  interval : s'.interval = s.interval
  keepalive : s'.keepalive = s.keepalive
  stopSent : s'.stopSent = s.stopSent
  ended : s.ended = true → s'.ended = true

/-- What anything but the keepalive task does and sends. -/
inductive Effect (s : Subscription) : Subscription → List RequestKind → Prop where
  | steady {s' : Subscription} : Steady s s' → Effect s s' []
  | stops {s' : Subscription} : s.stopSent = false → s'.interval = s.interval →
      s'.keepalive = s.keepalive → s'.stopSent = true → s'.ended = true → Effect s s' [.stop]

theorem Steady.refl (s : Subscription) : Steady s s := ⟨rfl, rfl, rfl, id⟩

theorem Steady.trans {a b c : Subscription} (first : Steady a b) (second : Steady b c) :
    Steady a c where
  interval := second.interval.trans first.interval
  keepalive := second.keepalive.trans first.keepalive
  stopSent := second.stopSent.trans first.stopSent
  ended := second.ended ∘ first.ended

theorem steady_updateLiveness (s : Subscription) (now : Nat) (change : Liveness → Liveness) :
    Steady s (s.updateLiveness now change) := by
  unfold updateLiveness
  split
  · exact .refl s
  · exact ⟨rfl, rfl, rfl, id⟩

theorem steady_attach {s s' : Subscription} {now stream : Nat}
    (attaches : s.attach? now = some (stream, s')) : Steady s s' := by
  unfold attach? at attaches
  split at attaches
  · cases attaches
  · cases attaches
    exact (steady_updateLiveness s now _).trans ⟨rfl, rfl, rfl, id⟩

theorem steady_detach (s : Subscription) (now stream : Nat) : Steady s (s.detach now stream) := by
  unfold detach
  split
  · refine Steady.trans ?_ (steady_updateLiveness _ now _)
    exact ⟨rfl, rfl, rfl, id⟩
  · exact .refl s

theorem steady_poll {s s' : Subscription} {stream : Nat} {found : Poll Snapshot}
    (polls : s.poll? stream = some (found, s')) : Steady s s' := by
  obtain ⟨_, _, same⟩ := Option.map_eq_some_iff.mp polls
  cases same
  exact ⟨rfl, rfl, rfl, id⟩

theorem steady_park {s s' : Subscription} {now call : Nat} (parks : s.park? now call = some s') :
    Steady s s' := by
  unfold park? at parks
  split at parks
  · cases parks
  · cases parks
    exact (steady_updateLiveness s now _).trans ⟨rfl, rfl, rfl, id⟩

theorem steady_depart (s : Subscription) (now call : Nat) : Steady s (s.depart now call) := by
  unfold depart
  split
  · refine Steady.trans ?_ (steady_updateLiveness _ now _)
    exact ⟨rfl, rfl, rfl, id⟩
  · exact .refl s

theorem steady_forgo (s : Subscription) (now call : Nat) : Steady s (s.forgo now call) := by
  have left : Steady s { s with next := s.next.leave call } := ⟨rfl, rfl, rfl, id⟩
  unfold forgo
  simp only
  split
  · exact left.trans (steady_updateLiveness _ now _)
  · exact left

theorem steady_abort (s : Subscription) (now call : Nat) : Steady s (s.abort now call) :=
  (steady_forgo s now call).trans (steady_depart _ now call)

theorem steady_publish (s : Subscription) (now : Nat) (snapshot : Snapshot) (tick : Option Int64) :
    Steady s (s.publish now snapshot tick).1 := by
  unfold publish
  split
  · exact .refl s
  · have applied : Steady s { s with
        next := .fresh, highest := tick.or s.highest, feed := s.feed.publish snapshot } :=
      ⟨rfl, rfl, rfl, id⟩
    simp only [unpark]
    exact applied.trans ((steady_updateLiveness _ now _).trans (steady_updateLiveness _ now _))

variable {transport : Transport}

theorem effect_close (works : transport .stop = none) (s : Subscription) :
    Effect s (s.close transport).1 (s.close transport).2.sent := by
  unfold close
  split
  · exact .steady (.refl s)
  · unfold teardown sendStop
    cases stopped : s.stopSent with
    | true => exact .steady ⟨rfl, rfl, stopped.symm, fun _ => rfl⟩
    | false =>
      simp only [Bool.false_eq_true, if_false, works]
      exact .stops stopped rfl rfl rfl rfl

theorem Effect.of_steady {a b c : Subscription} {kinds : List RequestKind} (steady : Steady a b)
    (effect : Effect b c kinds) : Effect a c kinds := by
  cases effect with
  | steady later => exact .steady (steady.trans later)
  | stops unsent interval keepalive sent ended =>
    exact .stops (steady.stopSent ▸ unsent) (interval.trans steady.interval)
      (keepalive.trans steady.keepalive) sent ended

theorem effect_onIdle (works : transport .stop = none) (s : Subscription) :
    Effect s (s.onIdle transport).1 (s.onIdle transport).2.sent := by
  unfold onIdle
  split
  · exact .steady (.refl s)
  · exact effect_close works s

/-- Anything that happens lets time pass, is a turn of the keepalive task, or has an effect of its
own. -/
theorem Happens.cases {prompt : Prop} {period now later : Nat} {s s' : Subscription} {e : Emission}
    (happens : Happens prompt period transport now s later s' e) (works : transport .stop = none) :
    (now ≤ later ∧ (prompt → s.restsUntil later = true) ∧ s' = s ∧ e = .none) ∨
    (later = now ∧ KeepaliveTurn now period transport s s' e) ∨
    (later = now ∧ Effect s s' e.sent) := by
  cases happens with
  | passes order rests => exact .inl ⟨order, rests, rfl, rfl⟩
  | keepaliveTurns turn => exact .inr (.inl ⟨rfl, turn⟩)
  | attaches attaches => exact .inr (.inr ⟨rfl, .steady (steady_attach attaches)⟩)
  | detaches stream => exact .inr (.inr ⟨rfl, .steady (steady_detach s now stream)⟩)
  | polls polls => exact .inr (.inr ⟨rfl, .steady (steady_poll polls)⟩)
  | parks parks => exact .inr (.inr ⟨rfl, .steady (steady_park parks)⟩)
  | aborts call => exact .inr (.inr ⟨rfl, .steady (steady_abort s now call)⟩)
  | publishes snapshot tick =>
    exact .inr (.inr ⟨rfl, .steady (steady_publish s now snapshot tick)⟩)
  | closes => exact .inr (.inr ⟨rfl, effect_close works s⟩)
  | scopeEnds => exact .inr (.inr ⟨rfl, .steady ⟨rfl, rfl, rfl, fun _ => rfl⟩⟩)
  | timerReads | timerAbandons | timerWakes =>
    exact .inr (.inr ⟨rfl, .steady ⟨rfl, rfl, rfl, id⟩⟩)
  | timerFires =>
    refine .inr (.inr ⟨rfl, .of_steady ?_ (effect_onIdle works _)⟩)
    exact ⟨rfl, rfl, rfl, id⟩

/-! ## The keepalive task -/

/-- The task sends the stop if it was not sent before, and is over. -/
theorem keepaliveEnds?_some {s s' : Subscription} {e : Emission} (works : transport .stop = none)
    (ends : s.keepaliveEnds? transport = some (s', e)) :
    s.keepalive.isSome = true ∧ s'.keepalive = none ∧ s'.stopSent = true ∧
      e.sent = if s.stopSent then [] else [.stop] := by
  unfold keepaliveEnds? at ends
  split at ends
  · next ready =>
    have running := (Bool.and_eq_true _ _ ▸ ready).2
    unfold sendStop at ends
    cases stopped : s.stopSent with
    | true =>
      simp only [stopped, if_true, Option.some.injEq, Prod.mk.injEq] at ends
      obtain ⟨rfl, rfl⟩ := ends
      exact ⟨running, rfl, rfl, rfl⟩
    | false =>
      simp only [stopped, Bool.false_eq_true, if_false, works, Option.some.injEq,
        Prod.mk.injEq] at ends
      obtain ⟨rfl, rfl⟩ := ends
      exact ⟨running, rfl, rfl, rfl⟩
  · cases ends

/-- The task renews the registration once its time has come, and sleeps again. -/
theorem keepaliveWakes?_some {now period : Nat} {s s' : Subscription} {e : Emission}
    (works : transport (.keepalive s.interval) = none)
    (wakes : s.keepaliveWakes? now period transport = some (s', e)) :
    (∃ wake, s.keepalive = some wake ∧ wake ≤ now) ∧
      s' = { s with keepalive := some (now + period) } ∧ e.sent = [.keepalive s.interval] := by
  unfold keepaliveWakes? at wakes
  cases sleeping : s.keepalive with
  | none => simp [sleeping] at wakes
  | some wake =>
    simp only [sleeping, works] at wakes
    split at wakes
    · cases wakes
    · next awake =>
      cases wakes
      exact ⟨⟨wake, rfl, Nat.not_lt.mp awake⟩, rfl, rfl⟩

/-- After a keepalive that follows the stop the task has not slept, so it sees the end of its scope
in the same turn. -/
theorem KeepaliveTurn.last {now period : Nat} {s s' : Subscription} {e : Emission}
    (turn : KeepaliveTurn now period transport s s' e) (works : ∀ kind, transport kind = none)
    (positive : 0 < period) (ended : s.ended = true) (stopped : s.stopSent = true)
    (renewed : s.keepalive = some (now + period)) :
    s'.keepalive = none ∧ s'.stopSent = true ∧ e.sent = [] := by
  cases turn with
  | gone none => rw [renewed] at none; cases none
  | sleeps goesOn => rw [ended] at goesOn; cases goesOn
  | ends ends =>
    obtain ⟨-, gone, sent, nothing⟩ := keepaliveEnds?_some (works _) ends
    rw [stopped, if_pos rfl] at nothing
    exact ⟨gone, sent, nothing⟩
  | renews wakes =>
    obtain ⟨⟨wake, sleeping, come⟩, -⟩ := keepaliveWakes?_some (works _) wakes
    rw [renewed, Option.some_inj] at sleeping
    omega

/-! ## What was sent -/

/-- The time at which the keepalive task wakes after some keepalives, the first period counting from
the opening. -/
def wakesAfter (opened period : Nat) (renewals : List (Nat × RequestKind)) : Nat :=
  (renewals.getLast?.map (·.1)).getD opened + period

/-- What can follow a stop: nothing, or one keepalive after a whole sleep, of which prompt tasks
leave only the chance that the sleep was over at the moment of the stop. -/
def Late (prompt : Prop) (every : Interval) (stop wake : Nat) (late : List (Nat × RequestKind)) :
    Prop :=
  late = [] ∨ ∃ now, late = [(now, .keepalive every)] ∧ stop ≤ now ∧ wake ≤ now ∧
    (prompt → now = stop ∧ stop = wake)

/-- How far a subscription has come: the registration is renewed, or the stop is sent and the task
has yet to see the end of its scope, or the task is over. -/
inductive Stage (prompt : Prop) (opened period : Nat) (every : Interval) :
    Nat → Subscription → List (Nat × RequestKind) → Prop where
  | renewing {now : Nat} {s : Subscription} {renewals : List (Nat × RequestKind)} :
      (∀ m ∈ renewals, m.2 = .keepalive every) → s.interval = every → s.stopSent = false →
      s.keepalive = some (wakesAfter opened period renewals) →
      (prompt → now ≤ wakesAfter opened period renewals) →
      Stage prompt opened period every now s renewals
  | stopped {now stop : Nat} {s : Subscription} {renewals : List (Nat × RequestKind)} :
      (∀ m ∈ renewals, m.2 = .keepalive every) → s.interval = every → s.stopSent = true →
      s.ended = true → s.keepalive = some (wakesAfter opened period renewals) → stop ≤ now →
      (prompt → now = stop ∧ stop ≤ wakesAfter opened period renewals) →
      Stage prompt opened period every now s (renewals ++ [(stop, .stop)])
  | gone {now stop : Nat} {s : Subscription} {renewals late : List (Nat × RequestKind)} :
      (∀ m ∈ renewals, m.2 = .keepalive every) → s.stopSent = true → s.keepalive = none →
      Late prompt every stop (wakesAfter opened period renewals) late →
      Stage prompt opened period every now s (renewals ++ (stop, .stop) :: late)

section Stages

variable {prompt : Prop} {opened period now : Nat} {every : Interval} {s s' : Subscription}
  {log : List (Nat × RequestKind)} {e : Emission}

theorem Stage.passes (stage : Stage prompt opened period every now s log) {later : Nat}
    (order : now ≤ later) (rests : prompt → s.restsUntil later = true) :
    Stage prompt opened period every later s log := by
  have resting {wake : Nat} (sleeping : s.keepalive = some wake) (isPrompt : prompt) :
      s.ended = false ∧ later ≤ wake := by
    have rests := rests isPrompt
    simp only [restsUntil, sleeping, Option.all_some, Bool.and_eq_true, Bool.not_eq_true',
      decide_eq_true_eq] at rests
    exact rests.1
  cases stage with
  | renewing renews interval unsent sleeping near =>
    exact .renewing renews interval unsent sleeping fun isPrompt => (resting sleeping isPrompt).2
  | stopped renews interval sent ended sleeping since near =>
    -- A prompt task has seen the end of its scope before time passes.
    refine .stopped renews interval sent ended sleeping (Nat.le_trans since order)
      fun isPrompt => ?_
    rw [(resting sleeping isPrompt).1] at ended
    cases ended
  | gone renews sent none late => exact .gone renews sent none late

theorem Stage.effect (stage : Stage prompt opened period every now s log)
    {kinds : List RequestKind} (effect : Effect s s' kinds) :
    Stage prompt opened period every now s' (log ++ kinds.map fun kind => (now, kind)) := by
  cases effect with
  | steady steady =>
    obtain ⟨interval', keepalive', stopSent', ended'⟩ := steady
    rw [List.map_nil, List.append_nil]
    cases stage with
    | renewing renews interval unsent sleeping near =>
      exact .renewing renews (interval'.trans interval) (stopSent'.trans unsent)
        (keepalive'.trans sleeping) near
    | stopped renews interval sent ended sleeping since near =>
      exact .stopped renews (interval'.trans interval) (stopSent'.trans sent) (ended' ended)
        (keepalive'.trans sleeping) since near
    | gone renews sent none late =>
      exact .gone renews (stopSent'.trans sent) (keepalive'.trans none) late
  | stops unsent interval' keepalive' sent' ended' =>
    cases stage with
    | renewing renews interval _ sleeping near =>
      exact .stopped renews (interval'.trans interval) sent' ended' (keepalive'.trans sleeping)
        (Nat.le_refl now) fun isPrompt => ⟨rfl, near isPrompt⟩
    | stopped _ _ sent | gone _ sent => rw [unsent] at sent; cases sent

theorem Stage.turns (stage : Stage prompt opened period every now s log)
    (works : ∀ kind, transport kind = none) (positive : 0 < period)
    (turn : KeepaliveTurn now period transport s s' e) :
    Stage prompt opened period every now s' (log ++ sentAt now e) := by
  induction turn generalizing log with
  | gone | sleeps => exact (List.append_nil log).symm ▸ stage
  | ends ends =>
    obtain ⟨running, gone, sent', told⟩ := keepaliveEnds?_some (works _) ends
    rw [sentAt, told]
    cases stage with
    | renewing renews _ unsent =>
      rw [unsent]
      exact .gone renews sent' gone (.inl rfl)
    | stopped renews _ sent =>
      rw [sent, if_pos rfl, List.map_nil, List.append_nil]
      exact .gone renews sent' gone (.inl rfl)
    | gone _ _ none => rw [none] at running; cases running
  | renews wakes rest ih =>
    obtain ⟨⟨wake, asleep, come⟩, rfl, told⟩ := keepaliveWakes?_some (works _) wakes
    rw [sentAt_append, sentAt, told, ← List.append_assoc]
    cases stage with
    | renewing renews interval unsent sleeping near =>
      -- The task has not seen an end yet, and goes round its loop.
      refine ih (.renewing ?_ interval unsent ?_ fun _ => ?_)
      · rw [interval]
        exact List.forall_mem_append.mpr ⟨renews, by simp⟩
      · simp [wakesAfter]
      · simp [wakesAfter]
    | stopped renews interval sent ended sleeping since near =>
      -- This is the one keepalive that follows the stop.
      obtain ⟨gone, sent', nothing⟩ := rest.last works positive ended sent rfl
      rw [sleeping, Option.some_inj] at asleep
      rw [sentAt, nothing, List.map_nil, List.append_nil, List.append_assoc, interval]
      refine .gone renews sent' gone (.inr ⟨now, rfl, since, asleep ▸ come, fun isPrompt => ?_⟩)
      obtain ⟨same, before⟩ := near isPrompt
      omega
    | gone _ _ none => rw [none] at asleep; cases asleep

/-- A stop with none before it and none after it divides a log in one way. -/
theorem divided_at_stop {a b before after : List (Nat × RequestKind)} {stop time : Nat}
    (first : ∀ m ∈ a, m.2 ≠ .stop) (last : ∀ m ∈ b, m.2 ≠ .stop)
    (split : a ++ (stop, .stop) :: b = before ++ (time, .stop) :: after) :
    a = before ∧ stop = time ∧ b = after := by
  rcases List.append_eq_append_iff.mp split with ⟨front, rfl, here⟩ | ⟨back, rfl, here⟩
  · cases front with
    | nil =>
      cases here
      exact ⟨(List.append_nil a).symm, rfl, rfl⟩
    | cons m front =>
      cases here
      exact absurd rfl (last (time, .stop) (by simp))
  · cases back with
    | nil =>
      cases here
      exact ⟨List.append_nil before, rfl, rfl⟩
    | cons m back =>
      cases here
      exact absurd rfl (first (time, .stop) (by simp))

theorem Late.renewals {stop wake : Nat} (late : Late prompt every stop wake log) :
    ∀ m ∈ log, m.2 = .keepalive every := by
  rcases late with rfl | ⟨_, rfl, -⟩ <;> simp

theorem Stage.divided (stage : Stage prompt opened period every now s log) {stop : Nat}
    {before after : List (Nat × RequestKind)} (split : log = before ++ (stop, .stop) :: after) :
    Late prompt every stop (wakesAfter opened period before) after := by
  have unstopped {renewals : List (Nat × RequestKind)}
      (renews : ∀ m ∈ renewals, m.2 = .keepalive every) : ∀ m ∈ renewals, m.2 ≠ .stop := by
    intro m member same
    cases (renews m member).symm.trans same
  cases stage with
  | renewing renews => exact absurd rfl (unstopped renews (stop, .stop) (by simp [split]))
  | stopped renews =>
    obtain ⟨-, -, rfl⟩ := divided_at_stop (unstopped renews) (by simp) split
    exact .inl rfl
  | gone renews _ _ late =>
    obtain ⟨rfl, rfl, rfl⟩ := divided_at_stop (unstopped renews) (unstopped late.renewals) split
    exact late

end Stages

/-! ## Runs -/

variable {prompt : Prop} {opened period window now : Nat} {every : Interval}
  {first : Option Awaited} {s : Subscription} {log : List (Nat × RequestKind)}

theorem Unfolds.stage
    (run : Unfolds prompt period transport opened (begin opened period window every first) now s
      log)
    (works : ∀ kind, transport kind = none) (positive : 0 < period) :
    Stage prompt opened period every now s log := by
  induction run with
  | begins =>
    refine .renewing (by simp) rfl rfl rfl fun _ => ?_
    simp [wakesAfter]
  | goesOn _ happens ih =>
    rcases happens.cases (works _) with ⟨order, rests, rfl, rfl⟩ | ⟨rfl, turn⟩ | ⟨rfl, effect⟩
    · exact (List.append_nil _).symm ▸ ih.passes order rests
    · exact ih.turns works positive turn
    · exact ih.effect effect

/-- Whatever is done to a subscription and in whatever order its tasks go on, over a transport that
works the stop is sent once, and nothing is sent after it but at most one keepalive.  That one comes
a whole period or more after the keepalive before it.  If the tasks are prompt, it comes at the
moment of the stop, and the sleep was over at that very moment. -/
theorem one_keepalive_after_stop
    (run : Unfolds prompt period transport opened (begin opened period window every first) now s
      log)
    (works : ∀ kind, transport kind = none) (positive : 0 < period) {stop : Nat}
    {before after : List (Nat × RequestKind)} (split : log = before ++ (stop, .stop) :: after) :
    after = [] ∨ ∃ late, after = [(late, .keepalive every)] ∧ stop ≤ late ∧
      wakesAfter opened period before ≤ late ∧
      (prompt → late = stop ∧ stop = wakesAfter opened period before) :=
  (run.stage works positive).divided split

/-- A subscription is closed by hand between two keepalives, and its keepalive task is kept waiting
until after the second is due. -/
theorem one_keepalive_after_stop_of_late_turn :
    let every : Interval := .clamp 20
    let before : List (Nat × RequestKind) := [(60, .keepalive every)]
    let after : List (Nat × RequestKind) := [(130, .keepalive every)]
    ∃ s, Unfolds False 60 (fun _ => none) 0 (begin 0 60 500 every none) 130 s
        (before ++ (100, .stop) :: after) ∧
      (after = [] ∨ ∃ late, after = [(late, .keepalive every)] ∧ 100 ≤ late ∧
        wakesAfter 0 60 before ≤ late ∧
        (False → late = 100 ∧ 100 = wakesAfter 0 60 before)) := by
  intro every before after
  let opened := begin 0 60 500 every none
  let renewed : Subscription := { opened with keepalive := some 120 }
  let closed := (renewed.close fun _ => none).1
  have run : Unfolds False 60 (fun _ => none) 0 opened 0 opened [] := .begins
  have run : Unfolds False 60 (fun _ => none) 0 opened 60 opened [] :=
    run.goesOn (.passes (by decide) nofun)
  have run : Unfolds False 60 (fun _ => none) 0 opened 60 renewed before :=
    run.goesOn (.keepaliveTurns (.renews rfl (.sleeps rfl rfl (by decide))))
  have run : Unfolds False 60 (fun _ => none) 0 opened 100 renewed before :=
    run.goesOn (.passes (by decide) nofun)
  have run : Unfolds False 60 (fun _ => none) 0 opened 100 closed (before ++ [(100, .stop)]) :=
    run.goesOn .closes
  have run : Unfolds False 60 (fun _ => none) 0 opened 130 closed (before ++ [(100, .stop)]) :=
    run.goesOn (.passes (by decide) nofun)
  have run := run.goesOn (.keepaliveTurns (.renews rfl (.ends rfl)))
  exact ⟨_, run, one_keepalive_after_stop run (fun _ => rfl) (by decide) rfl⟩

/-- A stream is dropped after 20 of the 60 milliseconds between keepalives.  The window of the timer
is over with the second of these sleeps, the timer's task goes first, and the keepalive task goes on
with its own time: it sends a keepalive after the stop. -/
theorem keepalive_after_stop :
    let every : Interval := .clamp 20
    ∃ s, Unfolds True 60 (fun _ => none) 0 (begin 0 60 100 every none) 120 s
      [(60, .keepalive every), (120, .stop), (120, .keepalive every)] := by
  intro every
  let opened := begin 0 60 100 every none
  let watched : Subscription :=
    { opened with
      liveness := ⟨1, 0, false, false⟩, streams := [(0, .begin opened.feed)], nextStream := 1 }
  let dropped : Subscription :=
    { opened with nextStream := 1, timer := ⟨100, some 120, true, [.reading 0]⟩ }
  let asleep : Subscription := { dropped with timer := ⟨100, some 120, true, [.sleeping 0 120]⟩ }
  let renewed : Subscription := { asleep with keepalive := some 120 }
  let closed := (({ renewed with timer := ⟨100, none, false, []⟩ } : Subscription).onIdle
    (fun _ => none)).1
  have run : Unfolds True 60 (fun _ => none) 0 opened 0 opened [] := .begins
  have run : Unfolds True 60 (fun _ => none) 0 opened 0 watched [] :=
    run.goesOn (.attaches rfl)
  have run : Unfolds True 60 (fun _ => none) 0 opened 20 watched [] :=
    run.goesOn (.passes (by decide) fun _ => rfl)
  have run : Unfolds True 60 (fun _ => none) 0 opened 20 dropped [] :=
    run.goesOn (.detaches 0)
  have run : Unfolds True 60 (fun _ => none) 0 opened 20 asleep [] :=
    run.goesOn (.timerReads 0 rfl)
  have run : Unfolds True 60 (fun _ => none) 0 opened 60 asleep [] :=
    run.goesOn (.passes (by decide) fun _ => rfl)
  have run : Unfolds True 60 (fun _ => none) 0 opened 60 renewed [(60, .keepalive every)] :=
    run.goesOn (.keepaliveTurns (.renews rfl (.sleeps rfl rfl (by decide))))
  have run : Unfolds True 60 (fun _ => none) 0 opened 120 renewed [(60, .keepalive every)] :=
    run.goesOn (.passes (by decide) fun _ => rfl)
  have run : Unfolds True 60 (fun _ => none) 0 opened 120 closed
      [(60, .keepalive every), (120, .stop)] := run.goesOn (.timerFires 0 rfl)
  exact ⟨_, run.goesOn (.keepaliveTurns (.renews rfl (.ends rfl)))⟩

end Subscription

end Client

end ObservationFeed
