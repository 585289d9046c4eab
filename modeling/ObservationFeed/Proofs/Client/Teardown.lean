import ObservationFeed.Proofs.Client.TickOrder
import ObservationFeed.Proofs.Client.Traces

/-!
# Closing a client

A close gives up everything that is pending, sends one stop for each open
subscription, and reports the stops that were refused.  It waits for no task.
After it every subscription is hushed: it has closed, its stop is noted and nobody
waits for it.  The client opens no other.

A task that goes on afterwards finds the end of its scope, and nothing is left to
do for it.  There is one exception.  A keepalive whose time has come may go on with
its time although its scope has ended: it renews the registration once more, after
the stop, before it comes to its end.
-/

namespace ObservationFeed.Client

open KeyedList Subscription Place

/-! ## Hushed subscriptions -/

namespace Subscription

/-- Closed, with the stop noted and nobody waiting. -/
structure Hushed (s : Subscription) : Prop where
  closed : s.liveness.closed = true
  ended : s.ended = true
  stopped : s.stopSent = true
  nobody : s.next.callers = []

variable {s s' : Subscription} {now period : Nat} {transport : Transport}

theorem Hushed.spent (hushed : Hushed s) : Spent s := ⟨hushed.ended, hushed.stopped⟩

theorem updateLiveness_closed (closed : s.liveness.closed = true) (now : Nat)
    (change : Liveness → Liveness) : s.updateLiveness now change = s := by
  rw [updateLiveness, if_pos closed]

theorem close_closed (closed : s.liveness.closed = true) (transport : Transport) :
    s.close transport = (s, .none) := by
  rw [Subscription.close, if_pos closed]

theorem Hushed.depart (hushed : Hushed s) (now call : Nat) :
    Hushed (s.depart now call) ∧ (s.depart now call).keepalive = s.keepalive := by
  rw [Subscription.depart]
  split
  · rw [unpark, updateLiveness_closed (by exact hushed.closed)]
    exact ⟨⟨hushed.closed, hushed.ended, hushed.stopped, hushed.nobody⟩, rfl⟩
  · exact ⟨hushed, rfl⟩

/-- No act gets a message out of a hushed subscription, or wakes its keepalive. -/
theorem Hushed.undergo (hushed : Hushed s) (now : Nat) (transport : Transport) (a : Act) :
    Hushed (s.undergo now transport a).1 ∧
      (s.undergo now transport a).1.keepalive = s.keepalive ∧
      (s.undergo now transport a).2.attempts = [] := by
  cases a with
  | nothing => exact ⟨hushed, rfl, rfl⟩
  | attach =>
    rw [Subscription.undergo, attach?, if_pos hushed.closed]
    exact ⟨hushed, rfl, rfl⟩
  | detach stream =>
    rw [Subscription.undergo, Subscription.detach]
    split
    · rw [updateLiveness_closed (by exact hushed.closed)]
      exact ⟨⟨hushed.closed, hushed.ended, hushed.stopped, hushed.nobody⟩, rfl, rfl⟩
    · exact ⟨hushed, rfl, rfl⟩
  | poll stream =>
    rw [Subscription.undergo]
    cases polled : s.poll? stream with
    | none => exact ⟨hushed, rfl, rfl⟩
    | some result =>
      obtain ⟨_, _, rfl⟩ := Option.map_eq_some_iff.mp polled
      exact ⟨⟨hushed.closed, hushed.ended, hushed.stopped, hushed.nobody⟩, rfl, rfl⟩
  | park call =>
    rw [Subscription.undergo, park?, if_pos hushed.closed]
    exact ⟨hushed, rfl, rfl⟩
  | giveUp call =>
    have unparked : s.next.hasParked call = false := by
      rw [Awaited.hasParked, hushed.nobody]
      rfl
    have left : (s.next.leave call).callers = [] := by
      rw [Awaited.leave, hushed.nobody]
      rfl
    have forgone : Hushed { s with next := s.next.leave call } :=
      ⟨hushed.closed, hushed.ended, hushed.stopped, left⟩
    simp only [Subscription.undergo, Subscription.abort, forgo, unparked, Bool.false_eq_true,
      if_false]
    obtain ⟨still, asleep⟩ := forgone.depart now call
    exact ⟨still, asleep, rfl⟩
  | hear response =>
    rw [Subscription.undergo, if_pos hushed.spent.isClosed, close_closed hushed.closed]
    exact ⟨hushed, rfl, rfl⟩
  | accept response =>
    rw [Subscription.undergo, if_pos hushed.spent.isClosed, close_closed hushed.closed]
    exact ⟨hushed, rfl, rfl⟩
  | depart call cancelled =>
    obtain ⟨still, asleep⟩ := hushed.depart now call
    exact ⟨still, asleep, rfl⟩
  | close =>
    rw [Subscription.undergo, close_closed hushed.closed]
    exact ⟨hushed, rfl, rfl⟩
  | endScope => exact ⟨⟨hushed.closed, rfl, hushed.stopped, hushed.nobody⟩, rfl, rfl⟩

/-- The tasks of a hushed subscription can change their own state only. -/
theorem Hushed.tasks (hushed : Hushed s) (keepalive : Option Nat) (timer : CleanupTimer) :
    Hushed { s with keepalive, timer } :=
  ⟨hushed.closed, hushed.ended, hushed.stopped, hushed.nobody⟩

theorem Hushed.onIdle (hushed : Hushed s) (transport : Transport) :
    s.onIdle transport = (s, .none) := by
  rw [Subscription.onIdle]
  split
  · rfl
  · exact close_closed hushed.closed transport

theorem Hushed.runTimer (hushed : Hushed s) (now : Nat) (transport : Transport) :
    s.runTimer now transport =
      ({ s with timer := (s.timer.settle now fun _ => s.ended).2 }, .none) := by
  rw [Subscription.runTimer]
  generalize s.timer.settle now (fun _ => s.ended) = result
  obtain ⟨fired, timer⟩ := result
  cases fired with
  | false => rfl
  | true => exact (hushed.tasks s.keepalive timer).onIdle transport

theorem Hushed.runTasks (hushed : Hushed s) (now period : Nat) (transport : Transport) :
    ∃ timer, s.runTasks now period transport = ({ s with keepalive := none, timer }, .none) := by
  -- The scope has ended, so the keepalive does not wake, and it finds the stop noted.
  obtain ⟨rests, quiet⟩ := (hushed.tasks s.keepalive
    (s.timer.settle now fun _ => s.ended).2).spent.ends transport
  refine ⟨(s.timer.settle now fun _ => s.ended).2, ?_⟩
  rw [Subscription.runTasks, if_pos hushed.ended]
  simp only [hushed.runTimer, quiet, Emission.append_none]
  exact congrArg (Prod.mk · Emission.none) rests

/-- What a keepalive does that wakes although its scope has ended: it renews the registration once
more, and if the next sleep takes any time it comes to its end. -/
structure Belated (s : Subscription) (now period : Nat) (transport : Transport)
    (result : Subscription × Emission) : Prop where
  due : ∃ time, s.keepalive = some time ∧ time ≤ now
  emission : result.2 =
    ⟨[⟨.keepalive s.interval, transport (.keepalive s.interval)⟩], []⟩
  last : 0 < period → result.1.keepalive = none

theorem Hushed.renews (hushed : Hushed s) {result : Subscription × Emission}
    (renews : s.renews? now period transport = some result) :
    Hushed result.1 ∧ Belated s now period transport result := by
  obtain ⟨woken, wakes, rfl⟩ := Option.map_eq_some_iff.mp renews
  -- The wake sends the keepalive.
  obtain ⟨due, still, sent⟩ : (∃ time, s.keepalive = some time ∧ time ≤ now) ∧ Hushed woken.1 ∧
      woken.2 = ⟨[⟨.keepalive s.interval, transport (.keepalive s.interval)⟩], []⟩ := by
    rw [keepaliveWakes?] at wakes
    split at wakes
    · cases wakes
    · next time sleeps =>
      split at wakes
      · cases wakes
      · next due =>
        refine ⟨⟨time, sleeps, Nat.le_of_not_lt due⟩, ?_⟩
        simp only at wakes
        split at wakes
        · cases wakes
          exact ⟨hushed.tasks _ s.timer, rfl⟩
        · rw [close_closed (by exact hushed.closed)] at wakes
          cases wakes
          exact ⟨⟨hushed.closed, hushed.ended, rfl, hushed.nobody⟩, rfl⟩
  -- What is left of the turn finds the stop noted.
  obtain ⟨rests, quiet⟩ := still.spent.ends transport
  have rested := still.tasks none woken.1.timer
  simp only
  split
  · refine ⟨by rw [rests]; exact rested, due, ?_, fun _ => by rw [rests]⟩
    simp only [quiet, Emission.append_none, sent]
  · next never => exact ⟨still, due, by rw [Emission.append_none, sent], (absurd · never)⟩

/-- Nor does any single chore let anything out, unless it is a keepalive that is due. -/
theorem Hushed.work (hushed : Hushed s) {chore : Chore} {result : Subscription × Emission}
    (works : s.work? now period transport chore = some result) :
    Hushed result.1 ∧ (s.keepalive = none → result.1.keepalive = none) ∧
      (result.2 = .none ∨ chore = .renew ∧ Belated s now period transport result) := by
  cases chore with
  | renew =>
    obtain ⟨still, belated⟩ := hushed.renews works
    obtain ⟨time, sleeps, -⟩ := belated.due
    refine ⟨still, fun asleep => ?_, .inr ⟨rfl, belated⟩⟩
    cases asleep.symm.trans sleeps
  | conclude =>
    rw [work?] at works
    obtain ⟨rests, quiet⟩ := hushed.spent.ends transport
    rw [works, Option.getD_some] at rests quiet
    rw [rests]
    exact ⟨hushed.tasks none s.timer, fun _ => rfl, .inl quiet⟩
  | read task | abandon task =>
    obtain ⟨timer, -, rfl⟩ := Option.map_eq_some_iff.mp works
    exact ⟨hushed.tasks s.keepalive timer, id, .inl rfl⟩
  | wake task =>
    obtain ⟨⟨fired, timer⟩, -, rfl⟩ := Option.map_eq_some_iff.mp works
    have still := hushed.tasks s.keepalive timer
    cases fired with
    | false => exact ⟨still, id, .inl rfl⟩
    | true =>
      simp only [if_true, still.onIdle]
      exact ⟨still, id, .inl trivial⟩

end Subscription

/-- A keepalive of a subscription wakes in a move, at its time or after it. -/
structure Record.Renews (r : Record) (h : SubscriptionHandle) (s : Subscription) : Prop where
  found : r.client.subscription? h = some s
  move : r.move = .chore h .renew
  due : ∃ time, s.keepalive = some time ∧ time ≤ r.client.now

namespace Subscription

variable {s : Subscription}

/-- A move gets no message out of a hushed subscription, unless its keepalive is belated. -/
theorem Hushed.undergoes (hushed : Hushed s) (net : Network) (c : Client) (h : SubscriptionHandle)
    (m : Move) :
    Hushed (c.undergoes net h s m).1 ∧
      (s.keepalive = none → (c.undergoes net h s m).1.keepalive = none) ∧
      ((c.undergoes net h s m).2.attempts = [] ∨ m = .chore h .renew ∧
        Belated s c.now c.period (net h.location) (c.undergoes net h s m)) := by
  cases m with
  | event e =>
    obtain ⟨still, keepalive, quiet⟩ :=
      hushed.undergo c.now (net h.location) (c.acts h.location e h.number)
    simp only [Client.undergoes]
    split
    · obtain ⟨timer, run⟩ := still.runTasks (e.time c) c.period (net h.location)
      simp only [run, Emission.append_none]
      exact ⟨still.tasks none timer, fun _ => trivial, .inl quiet⟩
    · exact ⟨still, keepalive.trans, .inl quiet⟩
  | operation l e =>
    simp only [Client.undergoes]
    split
    · obtain ⟨still, keepalive, quiet⟩ :=
        hushed.undergo c.now (net h.location) (c.acts h.location e h.number)
      exact ⟨still, keepalive.trans, .inl quiet⟩
    · exact ⟨hushed, id, .inl rfl⟩
  | chore other chore =>
    rw [Client.undergoes]
    split
    · next same =>
      subst same
      cases works : s.work? c.now c.period (net other.location) chore with
      | none => exact ⟨hushed, id, .inl rfl⟩
      | some result =>
        obtain ⟨still, keepalive, quiet⟩ := hushed.work works
        refine ⟨still, keepalive, quiet.imp (congrArg Emission.attempts) ?_⟩
        rintro ⟨rfl, belated⟩
        exact ⟨rfl, belated⟩
    · exact ⟨hushed, id, .inl rfl⟩
  | hear | depart | shut =>
    obtain ⟨still, keepalive, quiet⟩ := hushed.undergo c.now (net h.location) (Record.act ⟨c, net, _⟩ h)
    exact ⟨still, keepalive.trans, .inl quiet⟩

/-- Hushed, with the keepalive at its end. -/
structure AtRest (s : Subscription) : Prop extends Hushed s where
  asleep : s.keepalive = none

/-- Nothing that can happen gets a message out of a subscription at rest. -/
theorem AtRest.undergoes (rest : AtRest s) (net : Network) (c : Client) (h : SubscriptionHandle)
    (m : Move) :
    AtRest (c.undergoes net h s m).1 ∧ (c.undergoes net h s m).2.attempts = [] := by
  obtain ⟨still, keepalive, quiet | ⟨-, belated⟩⟩ := rest.toHushed.undergoes net c h m
  · exact ⟨⟨still, keepalive rest.asleep⟩, quiet⟩
  · obtain ⟨time, sleeps, -⟩ := belated.due
    cases rest.asleep.symm.trans sleeps

/-- Its tasks let out nothing at all. -/
theorem AtRest.work (rest : AtRest s) {now period : Nat} {transport : Transport} {chore : Chore}
    {result : Subscription × Emission} (works : s.work? now period transport chore = some result) :
    result.2 = .none := by
  obtain ⟨-, -, quiet | ⟨-, belated⟩⟩ := rest.toHushed.work works
  · exact quiet
  · obtain ⟨time, sleeps, -⟩ := belated.due
    cases rest.asleep.symm.trans sleeps

end Subscription

/-! ## Where a subscription is hushed -/

namespace Subscription

variable {s s' : Subscription} {now : Nat} {transport : Transport}

theorem ended_updateLiveness (s : Subscription) (now : Nat) (change : Liveness → Liveness) :
    (s.updateLiveness now change).ended = s.ended := by
  rw [updateLiveness]
  split <;> rfl

theorem ended_publish (s : Subscription) (now : Nat) (snapshot : Snapshot) (tick : Option Int64) :
    (s.publish now snapshot tick).1.ended = s.ended := by
  rw [Subscription.publish]
  split
  · rfl
  · exact (ended_updateLiveness ..).trans (ended_updateLiveness ..)

theorem ended_accept (s : Subscription) (now : Nat) (snapshot : Snapshot) (tick : Option Int64) :
    (s.accept now snapshot tick).1.ended = s.ended := by
  rw [Subscription.accept]
  split
  · rfl
  · exact ended_updateLiveness ..

theorem ended_depart (s : Subscription) (now call : Nat) : (s.depart now call).ended = s.ended := by
  rw [Subscription.depart]
  split
  · exact ended_updateLiveness { s with answered := s.answered.eraseP (·.call = call) } now _
  · rfl

/-- A scope ends where the subscription is closed or its scope is ended, and nowhere else. -/
theorem ended_undergo (s : Subscription) (now : Nat) (transport : Transport) (a : Act) :
    a = .endScope ∨ (s.undergo now transport a).1 = (s.close transport).1 ∨
      (s.undergo now transport a).1.ended = s.ended := by
  cases a with
  | nothing => exact .inr (.inr rfl)
  | attach =>
    rw [Subscription.undergo, attach?]
    split
    · exact .inr (.inr rfl)
    · exact .inr (.inr (ended_updateLiveness s now fun l => { l with consumers := l.consumers + 1 }))
  | detach stream =>
    rw [Subscription.undergo, Subscription.detach]
    split
    · exact .inr (.inr (ended_updateLiveness _ now _))
    · exact .inr (.inr rfl)
  | poll stream =>
    rw [Subscription.undergo]
    cases polled : s.poll? stream with
    | none => exact .inr (.inr rfl)
    | some result =>
      obtain ⟨_, _, rfl⟩ := Option.map_eq_some_iff.mp polled
      exact .inr (.inr rfl)
  | park call =>
    rw [Subscription.undergo, park?]
    split
    · exact .inr (.inr rfl)
    · exact .inr (.inr (ended_updateLiveness s now fun l => { l with waiters := l.waiters + 1 }))
  | giveUp call =>
    rw [Subscription.undergo, Subscription.abort, ended_depart, forgo]
    split
    · exact .inr (.inr (ended_updateLiveness { s with next := s.next.leave call } now _))
    · exact .inr (.inr rfl)
  | hear response =>
    rw [Subscription.undergo]
    split
    · exact .inr (.inl rfl)
    · exact .inr (.inr (ended_publish ..))
  | accept response =>
    rw [Subscription.undergo]
    split
    · exact .inr (.inl rfl)
    · exact .inr (.inr (ended_accept ..))
  | depart call cancelled => exact .inr (.inr (ended_depart ..))
  | close => exact .inr (.inl rfl)
  | endScope => exact .inl rfl

/-- Tasks leave nobody waiting for a subscription that they close, or that has closed. -/
theorem Toiled.lapsed (toiled : Toiled s s')
    (lapsed : s.ended = true → s.liveness.closed = true ∧ s.next.callers = [])
    (ended : s'.ended = true) : s'.liveness.closed = true ∧ s'.next.callers = [] := by
  cases toiled with
  | goesOn => exact lapsed ended
  | closes => exact ⟨rfl, Awaited.callers_cancel s.next⟩

end Subscription

variable {c : Client} {net : Network} {past : List Record} {h : SubscriptionHandle}
  {s : Subscription} {m : Move} {l : Location}

theorem Record.act_ne_endScope (goesOn : ¬ m.Ends) (h : SubscriptionHandle) :
    Record.act ⟨c, net, m⟩ h ≠ .endScope := by
  cases m with
  | event e =>
    refine acts_ne_endScope ?_ h.number
    rintro rfl
    exact goesOn trivial
  | operation l e =>
    simp only [Record.act]
    split
    · refine acts_ne_endScope ?_ h.number
      rintro rfl
      exact goesOn trivial
    · exact fun same => by cases same
  | chore => exact fun same => by cases same
  | hear =>
    refine unless_ne ?_ (unless_ne ?_ ?_ _) _
    all_goals exact fun same => by cases same
  | depart =>
    refine unless_ne ?_ ?_ _
    all_goals exact fun same => by cases same
  | shut => exact absurd trivial goesOn

/-- As long as a client is neither closed nor let go, a subscription that has ended has closed, and
its stop is noted. -/
theorem Lives.hushed (lives : Lives past c) (found : c.subscription? h = some s)
    (ended : s.ended = true) : Hushed s := by
  induction lives generalizing s with
  | start config => cases found
  | move past c net m lives goesOn ih =>
    have consistent := lives.consistent
    have lapsed : s.liveness.closed = true ∧ s.next.callers = [] := by
      cases before : c.subscription? h with
      | none =>
        rcases absent_make consistent.distinct before net m with still | ⟨-, every, _, opened, toiled⟩
        · cases still.symm.trans found
        · cases opened.symm.trans found
          refine toiled.lapsed (fun ended => ?_) ended
          have goesOn : ((c.place h.location).newest c.timing every).ended = false :=
            ended_updateLiveness ..
          cases goesOn.symm.trans ended
      | some older =>
        cases (subscription?_make consistent.distinct before net m).symm.trans found
        refine (undergoes_toiled net c h older m).lapsed (fun ended => ?_) ended
        rcases (consistent.fit h.location).sound.each h.number older before with isOpen | spent
        · rcases ended_undergo older c.now (net h.location) (Record.act ⟨c, net, m⟩ h) with
            scope | closes | same
          · exact absurd scope (Record.act_ne_endScope goesOn h)
          · have closes' := closes_close isOpen.unclosed isOpen.awaited (net h.location)
            rw [closes]
            exact ⟨closes'.closed, closes'.callers⟩
          · cases (same.trans isOpen.goesOn).symm.trans ended
        · obtain ⟨still, -, -⟩ := (ih before spent.ended).undergo c.now (net h.location)
            (Record.act ⟨c, net, m⟩ h)
          exact ⟨still.closed, still.nobody⟩
    -- What has ended is over, so its stop is noted.
    have sound := ((Lives.move past c net m lives goesOn).consistent.fit h.location).sound
    rcases sound.each h.number s found with isOpen | spent
    · cases isOpen.goesOn.symm.trans ended
    · exact ⟨lapsed.1, ended, spent.stopped, lapsed.2⟩

/-! ## Closing a place -/

namespace Place

variable {p : Place} {born : Nat → Bool}

/-- What a close attempts at a place. -/
def farewell (p : Place) (transport : Transport) : List Attempt :=
  if p.live?.isSome then [⟨.stop, transport .stop⟩] else []

/-- Closing an open subscription sends its stop and cancels the calls that wait for it, whether or not
the stop is taken. -/
theorem close_open {born : Bool} {s : Subscription} (isOpen : Open born s) (transport : Transport) :
    (s.close transport).2 =
      ⟨[⟨.stop, transport .stop⟩], answerAll (.error .cancelled) s.next.calls⟩ := by
  simp only [Subscription.close, isOpen.unclosed, teardown, sendStop, isOpen.unstopped,
    Awaited.settle_pending isOpen.awaited .cancelled rfl, Bool.false_eq_true, if_false]
  exact congrArg _ (List.append_nil _)

/-- What comes of closing a place: nothing is pending, every subscription is hushed, what was pending
is stopped and its calls are cancelled, and the answer is that of the stop. -/
structure Dismissed (p : Place) (transport : Transport) (step : Step (Except SyncError Unit)) :
    Prop where
  vacant : step.place.pending = none
  hushed : ∀ n s, step.place.subscription? n = some s → Hushed s
  emission : step.emission = ⟨p.farewell transport, answerAll (.error .cancelled) p.calls⟩
  answer : step.answer = refusal step.emission

theorem Sound.dismissed (sound : p.Sound born)
    (hushed : ∀ n s, p.subscription? n = some s → s.ended = true → Hushed s)
    (transport : Transport) : p.Dismissed transport (p.close transport) := by
  -- What is not pending is over already.
  have others (n : Nat) (s : Subscription) (found : p.subscription? n = some s)
      (other : p.pending ≠ some (.subscription n)) : Hushed s :=
    hushed n s found (sound.spent found other).ended
  cases pending : p.pending with
  | none =>
    have live : p.live? = none := by rw [live?, pending]
    have nobody : p.calls = [] := by rw [calls, pending]
    rw [Place.close, pending]
    refine ⟨pending, fun n s found => others n s found (by rw [pending]; simp), ?_, rfl⟩
    rw [farewell, live, nobody]
    rfl
  | some what =>
    cases what with
    | single awaited =>
      have live : p.live? = none := by rw [live?, pending]
      have waiting : p.calls = awaited.calls := by rw [calls, pending]
      have settled := Awaited.settle_pending (sound.single awaited pending).awaited .cancelled rfl
      simp only [Place.close, pending, settled]
      refine ⟨rfl, fun n s found => others n s found (by rw [pending]; simp), ?_, rfl⟩
      rw [farewell, live, waiting]
      rfl
    | subscription n =>
      obtain ⟨s, found, isOpen⟩ := sound.pendingOpen pending
      have live : p.live? = some (n, s) := live?_eq_some.mpr ⟨pending, found⟩
      have waiting : p.calls = s.next.calls := by rw [calls, pending]; simp only [found]
      have closes := closes_close isOpen.unclosed isOpen.awaited transport
      have there : ({ p with pending := none } : Place).subscription? n = some s := found
      simp only [Place.close, pending, Place.closeSubscription, there, isOpen.unclosed,
        Bool.false_eq_true, if_false]
      refine ⟨?_, fun m after found' => ?_, ?_, rfl⟩
      · simp [unlist, Place.set]
      · have looked : (p.set n (s.close transport).1).subscription? m = some after := found'
        rw [subscription?_set found] at looked
        split at looked
        · cases looked
          exact ⟨closes.closed, closes.spent.ended, closes.spent.stopped, closes.callers⟩
        · next other =>
          refine others m after looked fun also => ?_
          rw [pending] at also
          cases also
          exact other rfl
      · rw [farewell, live, waiting]
        exact close_open isOpen transport

/-- Where every subscription is hushed the tasks let out nothing, and the keepalives come to an end. -/
theorem runTasks_hushed (hushed : ∀ n s, p.subscription? n = some s → Hushed s) (t : Timing)
    (transport : Transport) :
    (p.runTasks t transport).2 = .none ∧ ∀ n s, (p.runTasks t transport).1.subscription? n = some s →
      AtRest s := by
  refine ⟨Emission.ext_part fun β part nothing append => ?_, fun n s' there => ?_⟩
  · rw [Place.runTasks, part_runTasksUpTo t transport part nothing append, nothing]
    refine List.flatMap_eq_nil_iff.mpr fun n _ => ?_
    cases found : p.subscription? n with
    | none => rfl
    | some s =>
      obtain ⟨timer, run⟩ := (hushed n s found).runTasks t.now t.period transport
      simp only [Option.map_some, Option.getD_some, ran, run]
      exact nothing
  · rw [subscription?_runTasks] at there
    obtain ⟨s, found, rfl⟩ := Option.map_eq_some_iff.mp there
    obtain ⟨timer, run⟩ := (hushed n s found).runTasks t.now t.period transport
    rw [ran, run]
    exact ⟨(hushed n s found).tasks none timer, rfl⟩

end Place

/-! ## Closing all places -/

/-- Why the transport refused messages, in the order in which it did. -/
def refusals (log : List LogEntry) : List TransportError :=
  (log.flatMap (·.emission.attempts)).filterMap (·.refusal)

/-- What a close answers when some stops were refused. -/
def closeAnswer : List TransportError → Except SyncError Unit
  | [] => .ok ()
  | [cause] => .error (.transport cause)
  | first :: suppressed => .error (.teardown (.transport first) (suppressed.map .transport))

theorem collect_refusals (causes : List TransportError) :
    SyncError.collect (causes.map .transport) = closeAnswer causes := by
  match causes with
  | [] | [_] | _ :: _ :: _ => rfl

theorem refusals_cons (entry : LogEntry) (rest : List LogEntry) :
    refusals (entry :: rest) =
      entry.emission.attempts.filterMap (·.refusal) ++ refusals rest := by
  rw [refusals, List.flatMap_cons, List.filterMap_append]
  rfl

/-- What is asked of the places before a close. -/
def Closable (c : Client) (l : Location) : Prop :=
  ∃ born, (c.place l).Sound born ∧
    ∀ n s, (c.place l).subscription? n = some s → s.ended = true → Hushed s

theorem Closable.dismissed (closable : Closable c l) (transport : Transport) :
    (c.place l).Dismissed transport ((c.place l).close transport) := by
  obtain ⟨born, sound, hushed⟩ := closable
  exact sound.dismissed hushed transport

/-- A place keeps a failure exactly if its stop is refused. -/
theorem failure_dismissed {p : Place} {transport : Transport} {step : Step (Except SyncError Unit)}
    (dismissed : p.Dismissed transport step) :
    (failure? step.answer).toList =
      (step.emission.attempts.filterMap (·.refusal)).map .transport := by
  rw [dismissed.answer, dismissed.emission, farewell]
  cases p.live?.isSome with
  | false => rfl
  | true =>
    cases refusal : transport .stop with
    | none => simp [Place.refusal, failure?]
    | some cause => simp [Place.refusal, failure?]

/-- The failures of a close are the refusals that its log tells, in the same order. -/
theorem failures_dismissed (net : Network) (time : Nat) {entries : List (Location × Place)}
    (dismissed : ∀ e ∈ entries, e.2.Dismissed (net e.1) (e.2.close (net e.1))) :
    (entries.map fun e => (e.1, e.2.close (net e.1))).filterMap (fun e => failure? e.2.answer) =
      (refusals ((entries.map fun e => (e.1, e.2.close (net e.1))).map fun e =>
        ⟨time, e.1, e.2.emission⟩)).map .transport := by
  induction entries with
  | nil => rfl
  | cons e rest ih =>
    obtain ⟨first, later⟩ := List.forall_mem_cons.mp dismissed
    simp only [List.map_cons, refusals_cons, List.map_append, ← failure_dismissed first, ← ih later]
    rw [List.filterMap_cons]
    cases failure? (e.2.close (net e.1)).answer <;> rfl

theorem emissionAt_entries {entries : List (Location × Place)} (distinct : Distinct entries)
    (time : Nat) (emitted : Location → Place → Emission) (l : Location) :
    emissionAt l (entries.map fun e => ⟨time, e.1, emitted e.1 e.2⟩) =
      ((find? l entries).map (emitted l)).getD .none := by
  induction entries with
  | nil => rfl
  | cons e rest ih =>
    obtain ⟨absent, distinct⟩ := distinct_cons.mp distinct
    rw [List.map_cons, emissionAt_cons, find?_cons, ih distinct]
    by_cases here : e.1 = l
    · subst here
      rw [if_pos rfl, if_pos rfl, find?_eq_none.mpr absent]
      exact Emission.append_none _
    · rw [if_neg here, if_neg here]
      rfl

/-- What is let out at each location where a client is closed is what closing the place lets out. -/
theorem emissionAt_shut (distinct : Distinct c.places) (unclosed : c.closed = false) (net : Network)
    (l : Location) : emissionAt l (c.shut net).log = ((c.place l).close (net l)).emission := by
  have log : (c.shut net).log = c.places.map fun e =>
      ⟨c.now, e.1, (e.2.close (net e.1)).emission⟩ := by
    rw [Client.shut, unclosed]
    exact List.map_map
  rw [log, emissionAt_entries distinct c.now fun l p => (p.close (net l)).emission, Client.place]
  cases find? l c.places <;> rfl

/-! ## After a close -/

/-- Closed, with every subscription hushed. -/
structure Silenced (c : Client) : Prop where
  closed : c.closed = true
  distinct : Distinct c.places
  hushed : ∀ h s, c.subscription? h = some s → Hushed s

theorem closed_make (closed : c.closed = true) (net : Network) (m : Move) :
    (c.make net m).closed = true := by
  rcases closed_make_or net c m with same | rfl | rfl
  · exact same.trans closed
  · have still : c.step net .close = (c, []) := by
      rw [Client.step, Client.close, if_pos closed]
      rfl
    rw [make, still]
    exact closed
  · rw [make, Client.shut, if_pos closed]
    exact closed

theorem period_make (c : Client) (net : Network) (m : Move) : (c.make net m).period = c.period := by
  cases m with
  | event e => exact congrArg Timing.period (step_framed net c e).timing
  | operation | chore | depart => rfl
  | hear response => exact (sameBut_accept c net response).period
  | shut =>
    rw [make, Client.shut]
    split <;> rfl

/-- A closed client opens nothing. -/
theorem Silenced.before (silenced : Silenced c) {s' : Subscription}
    (there : (c.make net m).subscription? h = some s') :
    ∃ s, c.subscription? h = some s ∧ s' = (c.undergoes net h s m).1 := by
  cases found : c.subscription? h with
  | none =>
    rcases absent_make silenced.distinct found net m with still | ⟨unclosed, -⟩
    · cases still.symm.trans there
    · cases silenced.closed.symm.trans unclosed
  | some s =>
    cases (subscription?_make silenced.distinct found net m).symm.trans there
    exact ⟨s, rfl, rfl⟩

theorem Silenced.make (silenced : Silenced c) (net : Network) (m : Move) :
    Silenced (c.make net m) where
  closed := closed_make silenced.closed net m
  distinct := distinct_make silenced.distinct net m
  hushed h s' there := by
    obtain ⟨s, found, rfl⟩ := silenced.before there
    exact ((silenced.hushed h s found).undergoes net c h m).1

/-- What a silenced client attempts is the keepalive of a subscription that wakes. -/
theorem Silenced.emits (silenced : Silenced c) (net : Network) (l : Location) (m : Move) :
    (c.emits net l m).attempts = [] ∨ ∃ n s, Record.Renews ⟨c, net, m⟩ ⟨l, n⟩ s ∧
      (c.emits net l m).attempts = [⟨.keepalive s.interval, net l (.keepalive s.interval)⟩] := by
  by_cases quiet : (c.emits net l m).attempts = []
  · exact .inl quiet
  · obtain ⟨a, member⟩ := List.exists_mem_of_ne_nil _ quiet
    rcases attempts_emits silenced.distinct member with ⟨n, s, found, voiced⟩ | ⟨unclosed, -⟩
    · obtain ⟨-, -, nothing | ⟨rfl, belated⟩⟩ :=
        (silenced.hushed ⟨l, n⟩ s found).undergoes net c ⟨l, n⟩ m
      · rw [nothing] at voiced
        cases voiced
      · refine .inr ⟨n, s, ⟨found, rfl, belated.due⟩, ?_⟩
        have sent := congrArg Emission.attempts belated.emission
        rw [undergoes, if_pos rfl] at sent
        rw [Client.emits, if_pos rfl, found, Option.bind_some]
        refine Eq.trans ?_ sent
        cases s.work? c.now c.period (net l) .renew <;> rfl
    · cases silenced.closed.symm.trans unclosed

/-- A keepalive that is late is the last of its subscription, if there is any time between two. -/
theorem Silenced.renews_last (silenced : Silenced c) (slow : 0 < c.period) {s : Subscription}
    (renews : Record.Renews ⟨c, net, m⟩ h s) :
    ∃ s', (c.make net m).subscription? h = some s' ∧ s'.keepalive = none := by
  obtain ⟨found, rfl, time, sleeps, due⟩ := renews
  refine ⟨_, subscription?_make silenced.distinct found net (.chore h .renew), ?_⟩
  have wakes : s.keepaliveWakes? c.now c.period (net h.location) ≠ none := by
    rw [keepaliveWakes?, sleeps]
    simp only [Nat.not_lt.mpr due, if_false]
    split <;> simp
  cases worked : s.work? c.now c.period (net h.location) .renew with
  | none => exact absurd (Option.map_eq_none_iff.mp worked) wakes
  | some result =>
    rw [undergoes, if_pos rfl, worked]
    exact ((silenced.hushed h s found).renews worked).2.last slow

theorem Silenced.keepalive_make (silenced : Silenced c) (net : Network) (m : Move)
    (ended : ∃ s, c.subscription? h = some s ∧ s.keepalive = none) :
    ∃ s, (c.make net m).subscription? h = some s ∧ s.keepalive = none := by
  obtain ⟨s, found, asleep⟩ := ended
  obtain ⟨-, keepalive, -⟩ := (silenced.hushed h s found).undergoes net c h m
  exact ⟨_, subscription?_make silenced.distinct found net m, keepalive asleep⟩

/-- What holds of a client after any history of one that is silenced. -/
theorem Leads.silenced {start : Client} {later : List Record} (leads : Leads start later c)
    (silenced : Silenced start) :
    Silenced c ∧ c.period = start.period ∧ ∀ r ∈ later, ∀ l,
      (r.client.emits r.net l r.move).attempts = [] ∨ ∃ n s, r.Renews ⟨l, n⟩ s ∧
        (r.client.emits r.net l r.move).attempts =
          [⟨.keepalive s.interval, r.net l (.keepalive s.interval)⟩] := by
  induction leads with
  | here => exact ⟨silenced, rfl, fun r member => by cases member⟩
  | move later c net m leads ih =>
    obtain ⟨silenced, period, each⟩ := ih
    exact ⟨silenced.make net m, (period_make c net m).trans period,
      List.forall_mem_cons.mpr ⟨fun l => silenced.emits net l m, each⟩⟩

/-- Once a keepalive was late it is over, so that no other one follows. -/
theorem Leads.renews_once {start : Client} {later : List Record} (leads : Leads start later c)
    (silenced : Silenced start) (slow : 0 < start.period) (h : SubscriptionHandle) :
    (later.Pairwise fun b a => ∀ s s', a.Renews h s → ¬ b.Renews h s') ∧
      ∀ a ∈ later, ∀ s, a.Renews h s → ∃ s', c.subscription? h = some s' ∧ s'.keepalive = none := by
  induction leads with
  | here => exact ⟨List.Pairwise.nil, fun a member => by cases member⟩
  | move later c net m leads ih =>
    obtain ⟨once, ended⟩ := ih
    obtain ⟨silent, period, -⟩ := leads.silenced silenced
    refine ⟨List.pairwise_cons.mpr ⟨fun a member s s' first second => ?_, once⟩,
      List.forall_mem_cons.mpr ⟨fun s renews => ?_, fun a member s renews => ?_⟩⟩
    · -- The keepalive was over before the second one.
      obtain ⟨there, found, asleep⟩ := ended a member s first
      obtain ⟨time, sleeps, -⟩ := second.due
      cases found.symm.trans second.found
      cases asleep.symm.trans sleeps
    · exact silent.renews_last (period.symm ▸ slow) renews
    · exact silent.keepalive_make net m (ended a member s renews)

/-- What a client answers once it has been closed. -/
structure Refuses (c : Client) : Prop where
  request : ∀ net l, returnsAt l (c.request net l).log =
    [⟨(c.request net l).answer.number, .error .closed⟩]
  subscribe : ∀ net l every, (c.subscribe net l every).answer = .error .closed
  respond : ∀ net response, (c.respond net response).answer = .error .closed
  accept : ∀ net response, c.accept net response = ⟨c, [], .error .closed⟩
  unsubscribe : ∀ net l, (c.unsubscribe net l).answer = .error .closed
  close : ∀ net, c.close net = ⟨c, [], .ok ()⟩
  shut : ∀ net, c.shut net = ⟨c, [], .ok ()⟩

theorem returnsAt_single (time : Nat) (l : Location) (emission : Emission) :
    returnsAt l [⟨time, l, emission⟩] = emission.returns := by
  simp [returnsAt]

theorem Silenced.refuses (silenced : Silenced c) : Refuses c where
  request net l := by
    have hushed : ∀ n s, ((c.place l).refuse .closed).place.subscription? n = some s → Hushed s :=
      fun n s found => silenced.hushed ⟨l, n⟩ s found
    have quiet := (runTasks_hushed hushed c.timing (net l)).1
    rw [answer_request]
    simp only [Client.request, silenced.closed, if_true, atPlace, quiet, Emission.append_none,
      returnsAt_single]
    rfl
  subscribe net l every := by rw [Client.subscribe, if_pos silenced.closed]
  respond net response := by rw [Client.respond, if_pos silenced.closed]
  accept net response := by rw [Client.accept, if_pos silenced.closed]
  unsubscribe net l := by rw [Client.unsubscribe, if_pos silenced.closed]
  close net := by rw [Client.close, if_pos silenced.closed]
  shut net := by rw [Client.shut, if_pos silenced.closed]

/-! ## A close -/

theorem Lives.closable (lives : Lives past c) (l : Location) : Closable c l :=
  ⟨_, (lives.consistent.fit l).sound, fun n _ found ended => lives.hushed (h := ⟨l, n⟩) found ended⟩

/-- What a close does at each location. -/
theorem Lives.shut_at (lives : Lives past c) (net : Network) (l : Location) :
    (c.shut net).client.place l = ((c.place l).close (net l)).place ∧
      emissionAt l (c.shut net).log =
        ⟨(c.place l).farewell (net l), answerAll (.error .cancelled) (c.place l).calls⟩ := by
  refine ⟨(place_shut c net l).trans (if_pos lives.unclosed), ?_⟩
  rw [emissionAt_shut lives.consistent.distinct lives.unclosed]
  exact ((lives.closable l).dismissed (net l)).emission

theorem Lives.silenced_shut (lives : Lives past c) (net : Network) :
    Silenced (c.shut net).client where
  closed := by
    rw [Client.shut, lives.unclosed]
    rfl
  distinct := distinct_make lives.consistent.distinct net .shut
  hushed h s found := by
    rw [subscription?, (lives.shut_at net h.location).1] at found
    exact ((lives.closable h.location).dismissed (net h.location)).hushed h.number s found

theorem pendingCount_eq_zero (distinct : Distinct c.places)
    (vacant : ∀ l, (c.place l).pending = none) : c.pendingCount = 0 := by
  have nothing : c.places.filter (fun e => e.2.pending.isSome) = [] := by
    refine List.filter_eq_nil_iff.mpr fun e member => ?_
    rw [← place_of_mem distinct member, vacant e.1]
    exact Bool.false_ne_true
  rw [pendingCount, nothing]
  rfl

theorem Lives.vacant_shut (lives : Lives past c) (net : Network) (l : Location) :
    ((c.shut net).client.place l).pending = none := by
  rw [(lives.shut_at net l).1]
  exact ((lives.closable l).dismissed (net l)).vacant

theorem Lives.answer_shut (lives : Lives past c) (net : Network) :
    (c.shut net).answer = closeAnswer (refusals (c.shut net).log) := by
  have distinct := lives.consistent.distinct
  have dismissed : ∀ e ∈ c.places, e.2.Dismissed (net e.1) (e.2.close (net e.1)) := by
    intro e member
    exact place_of_mem distinct member ▸ (lives.closable e.1).dismissed (net e.1)
  have nothing := pendingCount_eq_zero (lives.silenced_shut net).distinct (lives.vacant_shut net)
  have unclosed := lives.unclosed
  simp only [Client.shut, unclosed, Bool.false_eq_true, if_false, closingAnswer] at nothing ⊢
  rw [if_pos nothing, failures_dismissed net c.now dismissed, collect_refusals]

/-- What a close makes of a client, lets out and answers. -/
structure TornDown (net : Network) (c : Client) (o : Outcome (Except SyncError Unit)) : Prop where
  emptied : o.client.table = []
  closes : ∀ h s, c.subscription? h = some s →
    ∃ s', o.client.subscription? h = some s' ∧ s'.isClosed = true
  /-- There is one stop for the subscription that is open at a location, taken or not, and no other
  message. -/
  stops : ∀ l, attemptsAt l o.log = if (c.live? l).isSome then [⟨.stop, net l .stop⟩] else []
  /-- The calls that wait for what is pending at a location. -/
  cancels : ∀ l, returnsAt l o.log = answerAll (.error .cancelled) (c.place l).calls
  answer : o.answer = closeAnswer (refusals o.log)

theorem Lives.tornDown (lives : Lives past c) (net : Network) : TornDown net c (c.shut net) where
  emptied := by
    refine List.eq_nil_iff_forall_not_mem.mpr fun e member => ?_
    have pending := (mem_table (lives.silenced_shut net).distinct).mp member
    cases (lives.vacant_shut net e.1).symm.trans pending
  closes h s found := by
    have becomes := subscription?_make lives.consistent.distinct found net .shut
    exact ⟨_, becomes, ((lives.silenced_shut net).hushed h _ becomes).spent.isClosed⟩
  stops l := by
    rw [live?, Option.isSome_map]
    exact congrArg Emission.attempts (lives.shut_at net l).2
  cancels l := congrArg Emission.returns (lives.shut_at net l).2
  answer := lives.answer_shut net

/-- A close of any client that was neither closed nor let go, over any network, empties the table,
cancels every call that waits, closes every subscription with one stop for each that is open, and
answers with the stops that were refused.  Whatever happens later, whichever tasks go on when, the
client refuses everything and closing it again does nothing.  What is attempted later is the
keepalive of a subscription that wakes before it has seen the end of its scope, and nothing else; if
there is any time between two keepalives, each subscription attempts one at most. -/
theorem shut_tears_down (lives : Lives past c) (net : Network) :
    TornDown net c (c.shut net) ∧
      ∀ later c', Leads (c.shut net).client later c' →
        Refuses c' ∧
        (∀ r ∈ later, ∀ l, (r.client.emits r.net l r.move).attempts = [] ∨
          ∃ n s, r.Renews ⟨l, n⟩ s ∧ (r.client.emits r.net l r.move).attempts =
            [⟨.keepalive s.interval, r.net l (.keepalive s.interval)⟩]) ∧
        (0 < c.period → ∀ h, later.Pairwise fun b a => ∀ s s', a.Renews h s → ¬ b.Renews h s') := by
  refine ⟨lives.tornDown net, fun later c' leads => ?_⟩
  have silenced := lives.silenced_shut net
  obtain ⟨silent, -, each⟩ := leads.silenced silenced
  have period : (c.shut net).client.period = c.period := period_make c net .shut
  exact ⟨silent.refuses, each, fun slow h => (leads.renews_once silenced (period ▸ slow) h).1⟩

/-- Two subscriptions whose stops are refused, and a one-shot call.  The keepalives are due long after
the close, and one of them goes on with its time. -/
theorem shut_tears_down_of_refused_stops :
    let works : Network := fun _ _ => none
    let spot (x : Int32) : Location := ⟨"overworld", ⟨x, 2, 3⟩⟩
    let full : TransportError := .notEncoded "buffer full"
    let refuses : Network := fun l kind =>
      if kind = .stop then some (if l = spot 1 then .closed else full) else none
    let c₀ := ofConfig {}
    let c₁ := c₀.make works (.event (.subscribe (spot 1) (.clamp 20)))
    let c₂ := c₁.make works (.event (.request (spot 2)))
    let c₃ := c₂.make works (.event (.subscribe (spot 3) (.clamp 20)))
    let closing := c₃.shut refuses
    let c₄ := closing.client.make works (.event (.elapse 100000))
    let late : Record := ⟨c₄, works, .chore ⟨spot 1, 0⟩ .renew⟩
    let c₅ := c₄.make works late.move
    closing.client.table = [] ∧
      attemptsAt (spot 1) closing.log = [⟨.stop, some .closed⟩] ∧
      attemptsAt (spot 2) closing.log = [] ∧
      attemptsAt (spot 3) closing.log = [⟨.stop, some full⟩] ∧
      returnsAt (spot 2) closing.log = [⟨0, .error .cancelled⟩] ∧
      closing.answer = .error (.teardown (.transport .closed) [.transport full]) ∧
      closing.client.shut works = ⟨closing.client, [], .ok ()⟩ ∧
      ((c₄.emits works (spot 1) late.move).attempts = [] ∨ ∃ n s, late.Renews ⟨spot 1, n⟩ s ∧
        (c₄.emits works (spot 1) late.move).attempts = [⟨.keepalive s.interval, none⟩]) ∧
      (c₅.emits works (spot 1) (.event (.wake 200000))).attempts = [] := by
  intro works spot full refuses c₀ c₁ c₂ c₃ closing c₄ late c₅
  have lives : Lives [⟨c₂, works, .event (.subscribe (spot 3) (.clamp 20))⟩,
      ⟨c₁, works, .event (.request (spot 2))⟩,
      ⟨c₀, works, .event (.subscribe (spot 1) (.clamp 20))⟩] c₃ :=
    .move _ c₂ works _ (.move _ c₁ works _ (.move _ c₀ works _ (.start {}) id) id) id
  have live : [c₃.live? (spot 1), c₃.live? (spot 2), c₃.live? (spot 3)].map Option.isSome =
      [true, false, true] := by decide +kernel +zetaReduce
  have waiting : (c₃.place (spot 2)).calls = [0] := by decide +kernel +zetaReduce
  have refused : refusals (c₃.shut refuses).log = [.closed, full] := by
    decide +kernel +zetaReduce
  -- From here on it does not matter what the state is.
  clear_value c₃
  obtain ⟨torn, after⟩ := shut_tears_down lives refuses
  obtain ⟨first, second, third⟩ : (c₃.live? (spot 1)).isSome = true ∧
      (c₃.live? (spot 2)).isSome = false ∧ (c₃.live? (spot 3)).isSome = true := by
    simpa using live
  obtain ⟨refuses', -⟩ := after [] _ .here
  obtain ⟨-, each, -⟩ := after _ _ (.move _ c₅ works (.event (.wake 200000))
    (.move _ c₄ works late.move (.move [] _ works (.event (.elapse 100000)) .here)))
  refine ⟨torn.emptied, ?_, ?_, ?_, ?_, ?_, refuses'.shut works,
    each late (by simp [late]) (spot 1), ?_⟩
  · rw [torn.stops, first]
    rfl
  · rw [torn.stops, second]
    rfl
  · rw [torn.stops, third]
    rfl
  · rw [torn.cancels, waiting]
    rfl
  · rw [torn.answer, refused]
    rfl
  · rcases each _ List.mem_cons_self (spot 1) with quiet | ⟨_, _, renews, -⟩
    · exact quiet
    · cases renews.move

/-- A subscription is open for as long as it takes to its first keepalive, whose task is about to go
on.  The client is closed, which sends the stop, and the task goes on with its time: it sends the
keepalive. -/
theorem keepalive_after_shut :
    let works : Network := fun _ _ => none
    let h : SubscriptionHandle := ⟨⟨"overworld", ⟨0, 64, 0⟩⟩, 0⟩
    let c₀ := ofConfig {}
    let c₁ := c₀.make works (.event (.subscribe h.location (.clamp 20)))
    let c₂ := c₁.make works (.event (.elapse c₁.period))
    let closing := c₂.shut works
    closing.answer.isOk = true ∧
      attemptsAt h.location closing.log = [⟨.stop, none⟩] ∧
      (closing.client.emits works h.location (.chore h .renew)).attempts =
        [⟨.keepalive (.clamp 20), none⟩] := by
  decide +kernel

end ObservationFeed.Client
