import ObservationFeed.Proofs.Client.IdleClose

/-!
# Tasks that are asleep

Running the tasks of a subscription leaves nothing that they could do at once:
the timer's task is asleep, the keepalive has a time to wake at, and both are
over if the scope has ended.  Such a subscription is dormant, and until the next
of its tasks wakes running them again does nothing.  So it makes no difference
to a place how often its tasks are run while they are asleep, which is what
happens whenever a task elsewhere wakes.

Nothing here supposes that the transport works, or that keepalives are apart in
time.  If they are not, the next is always due.
-/

namespace ObservationFeed

open Client

/-! ## Timers -/

namespace CleanupTimer

/-- At most one task, and it is noted. -/
structure Lone (t : CleanupTimer) : Prop where
  single : t.tasks.length ≤ 1
  noted : t.running = !t.tasks.isEmpty

/-- What settling leaves of a timer: a task that is asleep, or none, and none if the timer has
fired or the scope has ended. -/
structure Quieted (now : Nat) (ended : Bool) (result : Bool × CleanupTimer) : Prop where
  lone : result.2.Lone
  rested : result.2.Rested now
  gone : ended = true ∨ result.1 = true → result.2.tasks = []

variable {t : CleanupTimer} {now scope target : Nat} {ended : Bool}

theorem lone_ofWindow (window : Nat) : (ofWindow window).Lone := ⟨Nat.zero_le 1, rfl⟩

theorem Lone.cases (lone : t.Lone) :
    t.tasks = [] ∧ t.running = false ∨ ∃ task, t.tasks = [task] ∧ t.running = true := by
  obtain ⟨single, noted⟩ := lone
  match tasks : t.tasks with
  | [] => exact .inl ⟨rfl, by simpa [tasks] using noted⟩
  | [task] => exact .inr ⟨task, rfl, by simpa [tasks] using noted⟩
  | _ :: _ :: _ => simp [tasks] at single

theorem Lone.arm (lone : t.Lone) (now scope : Nat) : (t.arm now scope).Lone := by
  rcases lone.cases with ⟨none, still⟩ | ⟨task, one, runs⟩
  · exact ⟨by simp [CleanupTimer.arm, none, still], by simp [CleanupTimer.arm, none, still]⟩
  · exact ⟨by simp [CleanupTimer.arm, one, runs], by simp [CleanupTimer.arm, one, runs]⟩

theorem Lone.disarm (lone : t.Lone) : t.disarm.Lone := ⟨lone.single, lone.noted⟩

theorem Lone.edge (lone : t.Lone) (now : Nat) (was is : Bool) : (t.edge now was is).Lone := by
  cases was <;> cases is
  case true.false => exact lone.arm now 0
  case false.true => exact lone.disarm
  all_goals exact lone

theorem move_abandons (one : t.tasks = [.sleeping scope target]) :
    t.move? now (fun _ => true) 0 = some (false, { t with running := false, tasks := [] }) := by
  simp [move?, read?, abandon?, one, finish]

theorem quieted_idle (fired : Bool) (none : t.tasks = []) (still : t.running = false) :
    Quieted now ended (fired, t) :=
  ⟨⟨by simp [none], by simp [none, still]⟩, by simp [Rested, none], fun _ => none⟩

/-- A task that is asleep until the deadline, or whose scope has ended, needs one move at most. -/
theorem quieted_sleeping (one : t.tasks = [.sleeping scope target]) (runs : t.running = true)
    (stays : ended = true ∨ now < target ∨ t.deadline = some target) (fuel : Nat) :
    Quieted now ended (settleWithin now (fun _ => ended) (fuel + 1) t) := by
  cases ended with
  | true =>
    rw [settleWithin_move _ one (move_abandons one), settleWithin_nil _ rfl]
    exact quieted_idle _ rfl rfl
  | false =>
    by_cases asleep : now < target
    · rw [settleWithin_stuck _ one (move_asleep one rfl asleep)]
      refine ⟨⟨by simp [one], by simp [one, runs]⟩, fun task member => ?_, by simp⟩
      rw [one] at member
      obtain rfl := List.mem_singleton.mp member
      exact ⟨scope, target, rfl, asleep⟩
    · have armed : t.deadline = some target := by
        rcases stays with ended | early | armed
        · cases ended
        · exact absurd early asleep
        · exact armed
      rw [settleWithin_move _ one (move_fires one rfl (Nat.not_lt.mp asleep) armed),
        settleWithin_nil _ rfl]
      exact quieted_idle _ rfl rfl

theorem quieted_reading (one : t.tasks = [.reading scope]) (runs : t.running = true) (fuel : Nat) :
    Quieted now ended (settleWithin now (fun _ => ended) (fuel + 2) t) := by
  cases armed : t.deadline with
  | none =>
    rw [settleWithin_move _ one (move_reading_none one armed), settleWithin_nil _ rfl]
    exact quieted_idle _ rfl rfl
  | some d =>
    rw [settleWithin_move _ one (move_reading_some one armed)]
    simpa using quieted_sleeping (t := { t with tasks := [.sleeping scope d] }) rfl runs
      (.inr (.inr armed)) fuel

/-- A timer settles within the moves that it is given, whatever its deadline and its scope. -/
theorem Lone.settle (lone : t.Lone) (now : Nat) (ended : Bool) :
    Quieted now ended (t.settle now fun _ => ended) := by
  rw [CleanupTimer.settle]
  rcases lone.cases with ⟨none, still⟩ | ⟨task, one, runs⟩
  · rw [settleWithin_nil _ none]
    exact quieted_idle _ none still
  · have moves : 4 * t.tasks.length = 4 := by rw [one]; rfl
    rw [moves]
    cases task with
    | reading scope => exact quieted_reading one runs 2
    | sleeping scope target =>
      by_cases stays : ended = true ∨ now < target ∨ t.deadline = some target
      · exact quieted_sleeping one runs stays 3
      · -- The deadline has moved while the task was asleep, and it reads it again.
        obtain ⟨goesOn, awake, moved⟩ := by simpa [not_or] using stays
        subst goesOn
        rw [settleWithin_move _ one (move_rereads one rfl awake moved)]
        simpa using quieted_reading (t := { t with tasks := [.reading scope] }) rfl runs 1

/-- A timer whose task is asleep has nothing to settle. -/
theorem Lone.settle_rested (lone : t.Lone) (rested : t.Rested now) :
    t.settle now (fun _ => false) = (false, t) := by
  rcases lone.cases with ⟨none, -⟩ | ⟨task, one, -⟩
  · exact settleWithin_nil _ none
  · obtain ⟨scope, target, rfl, asleep⟩ := rested task (by simp [one])
    exact settleWithin_stuck _ one (move_asleep one rfl asleep)

end CleanupTimer

namespace Client

/-! ## Subscriptions -/

namespace Subscription

/-- What every act keeps: the timer has one task at most, the keepalive wakes within a period or its
scope has ended, and so it has once the subscription is closed. -/
structure Neat (period now : Nat) (s : Subscription) : Prop where
  lone : s.timer.Lone
  near : ∀ k, s.keepalive = some k → k ≤ now + period
  renewing : s.keepalive = none → s.ended = true
  shut : s.liveness.closed = true → s.ended = true

/-- What is left when the tasks have run: no task is about to read a deadline, and the tasks of a
scope that has ended are over. -/
structure Dormant (period now : Nat) (s : Subscription) : Prop where
  neat : s.Neat period now
  read : ∀ scope, .reading scope ∉ s.timer.tasks
  gone : s.ended = true → s.timer.tasks = [] ∧ s.keepalive = none

/-- No task wakes up to a moment. -/
def Sleeps (time : Nat) (s : Subscription) : Prop := ∀ wake, s.nextWake? = some wake → time < wake

variable {period now time : Nat} {s s' : Subscription}

/-! ### Acts -/

theorem Neat.later (neat : s.Neat period now) (later : now ≤ time) : s.Neat period time :=
  { neat with near := fun k renewing =>
      Nat.le_trans (neat.near k renewing) (Nat.add_le_add_right later period) }

theorem Neat.updateLiveness (neat : s.Neat period now) (change : Liveness → Liveness)
    (keeps : ∀ l, (change l).closed = l.closed) :
    (s.updateLiveness now change).Neat period now := by
  cases closed : s.liveness.closed with
  | true => simpa [Subscription.updateLiveness, closed] using neat
  | false =>
    rw [updateLiveness_open closed]
    exact { neat with
      lone := neat.lone.edge now _ _
      shut := fun shut => neat.shut ((keeps s.liveness).symm.trans shut) }

theorem neat_begin (period now window : Nat) (every : Interval) (first : Option Awaited) :
    (begin now period window every first).Neat period now where
  lone := CleanupTimer.lone_ofWindow window
  near _ renewing := Nat.le_of_eq (Option.some.inj renewing).symm
  renewing := nofun
  shut := nofun

theorem Neat.attach (neat : s.Neat period now) {number : Nat}
    (attached : s.attach? now = some (number, s')) : s'.Neat period now := by
  rw [attach?] at attached
  split at attached
  · cases attached
  · cases attached
    exact { neat.updateLiveness (fun l => { l with consumers := l.consumers + 1 })
      (fun _ => rfl) with }

theorem Neat.detach (neat : s.Neat period now) (number : Nat) :
    (s.detach now number).Neat period now := by
  rw [Subscription.detach]
  split
  · exact ({ neat with } :
      Neat period now { s with streams := s.streams.filter (·.1 ≠ number) }).updateLiveness _
      fun _ => rfl
  · exact neat

theorem Neat.park (neat : s.Neat period now) {call : Nat} (parked : s.park? now call = some s') :
    s'.Neat period now := by
  rw [park?] at parked
  split at parked
  · cases parked
  · cases parked
    exact { neat.updateLiveness (fun l => { l with waiters := l.waiters + 1 })
      (fun _ => rfl) with }

theorem Neat.unpark (neat : s.Neat period now) (count : Nat) :
    (s.unpark now count).Neat period now := neat.updateLiveness _ fun _ => rfl

theorem Neat.depart (neat : s.Neat period now) (call : Nat) :
    (s.depart now call).Neat period now := by
  have without : Neat period now { s with answered := s.answered.eraseP (·.call = call) } :=
    { neat with }
  rw [Subscription.depart]
  split
  · exact without.unpark 1
  · exact neat

theorem Neat.abort (neat : s.Neat period now) (call : Nat) :
    (s.abort now call).Neat period now := by
  have left : Neat period now { s with next := s.next.leave call } := { neat with }
  rw [Subscription.abort, forgo]
  split
  · exact (left.unpark 1).depart call
  · exact left.depart call

theorem Neat.publish (neat : s.Neat period now) (snapshot : Snapshot) (tick : Option Int64) :
    (s.publish now snapshot tick).1.Neat period now := by
  rw [Subscription.publish]
  split
  · exact neat
  · have published : Neat period now { s with
        next := .fresh, highest := tick.or s.highest, feed := s.feed.publish snapshot } :=
      { neat with }
    exact (published.updateLiveness (fun l => { l with promoted := false }) fun _ => rfl).unpark _

/-- What closing changes of the tasks: the deadline may go, and the scope has ended. -/
theorem close_tasks (shut : s.liveness.closed = true → s.ended = true) (transport : Transport) :
    (∃ deadline, (s.close transport).1.timer = { s.timer with deadline }) ∧
      (s.close transport).1.keepalive = s.keepalive ∧ (s.close transport).1.ended = true := by
  rw [Subscription.close]
  split
  · next closed => exact ⟨⟨_, rfl⟩, rfl, shut closed⟩
  · simp only [teardown, sendStop]
    split
    · exact ⟨⟨_, rfl⟩, rfl, rfl⟩
    · exact ⟨⟨_, rfl⟩, rfl, rfl⟩

/-- Closing puts in order even a subscription whose keepalive is over before its scope. -/
theorem neat_close (lone : s.timer.Lone) (near : ∀ k, s.keepalive = some k → k ≤ now + period)
    (shut : s.liveness.closed = true → s.ended = true) (transport : Transport) :
    (s.close transport).1.Neat period now := by
  obtain ⟨⟨deadline, timer⟩, keepalive, ended⟩ := close_tasks shut transport
  refine ⟨?_, keepalive ▸ near, fun _ => ended, fun _ => ended⟩
  rw [timer]
  exact ⟨lone.single, lone.noted⟩

theorem Neat.close (neat : s.Neat period now) (transport : Transport) :
    (s.close transport).1.Neat period now := neat_close neat.lone neat.near neat.shut transport

theorem Neat.endScope (neat : s.Neat period now) : s.endScope.Neat period now :=
  ⟨neat.lone, neat.near, fun _ => rfl, fun _ => rfl⟩

/-! ### The next wake -/

theorem sleeps_of (early : ∀ k, s.keepalive = some k → time < k) (rested : s.timer.Rested time) :
    s.Sleeps time := by
  intro wake next
  obtain ⟨member, -⟩ := List.min?_eq_some_iff.mp next
  rcases List.mem_append.mp member with renewal | timer
  · exact early wake (Option.mem_toList.mp renewal)
  · obtain ⟨inside, -⟩ := List.min?_eq_some_iff.mp (Option.mem_toList.mp timer)
    obtain ⟨task, there, reads⟩ := List.mem_filterMap.mp inside
    obtain ⟨scope, target, rfl, asleep⟩ := rested task there
    cases reads
    exact asleep

theorem Sleeps.early (sleeps : s.Sleeps time) {k : Nat} (renewing : s.keepalive = some k) :
    time < k := by
  obtain ⟨wake, next, first⟩ : ∃ wake, s.nextWake? = some wake ∧ wake ≤ k :=
    min?_le (List.mem_append_left _ (by simp [renewing]))
  exact Nat.lt_of_lt_of_le (sleeps wake next) first

theorem Dormant.rested (dormant : s.Dormant period now) (sleeps : s.Sleeps time) :
    s.timer.Rested time := by
  intro task member
  cases task with
  | reading scope => exact absurd member (dormant.read scope)
  | sleeping scope target =>
    obtain ⟨a, timer, first⟩ : ∃ a, s.timer.nextWake? = some a ∧ a ≤ target :=
      min?_le (List.mem_filterMap.mpr ⟨_, member, rfl⟩)
    obtain ⟨wake, next, second⟩ : ∃ wake, s.nextWake? = some wake ∧ wake ≤ a :=
      min?_le (List.mem_append_right _ (by simp [timer]))
    exact ⟨scope, target, rfl, by have := sleeps wake next; omega⟩

theorem Dormant.later (dormant : s.Dormant period now) (later : now ≤ time) :
    s.Dormant period time :=
  { dormant with neat := dormant.neat.later later }

/-- Where keepalives are not apart in time, the next wake is always due. -/
theorem Dormant.due (dormant : s.Dormant 0 now) {wake : Nat} (next : s.nextWake? = some wake) :
    wake ≤ now := by
  cases renewing : s.keepalive with
  | none =>
    have none := (dormant.gone (dormant.neat.renewing renewing)).1
    simp [nextWake?, CleanupTimer.nextWake?, renewing, none] at next
  | some k =>
    obtain ⟨least, next', first⟩ : ∃ least, s.nextWake? = some least ∧ least ≤ k :=
      min?_le (List.mem_append_left _ (by simp [renewing]))
    cases next.symm.trans next'
    exact Nat.le_trans first (dormant.neat.near k renewing)

/-- Polling a stream has nothing to do with the tasks. -/
theorem Dormant.poll (dormant : s.Dormant period now) {number : Nat} {found : Poll Snapshot}
    (polled : s.poll? number = some (found, s')) :
    s'.Dormant period now ∧ s'.nextWake? = s.nextWake? := by
  obtain ⟨_, _, same⟩ := Option.map_eq_some_iff.mp polled
  cases same
  exact ⟨⟨{ dormant.neat with }, dormant.read, dormant.gone⟩, rfl⟩

/-! ### Tasks -/

/-- Until the next of its tasks wakes, the tasks of a dormant subscription do nothing. -/
theorem Dormant.idle (dormant : s.Dormant period now) (sleeps : s.Sleeps time)
    (transport : Transport) : s.runTasks time period transport = (s, .none) := by
  have renewal : (if s.ended then (s, Emission.none)
      else (s.keepaliveWakes? time period transport).getD (s, .none)) = (s, .none) := by
    split
    · rfl
    · cases renewing : s.keepalive with
      | none => simp only [keepaliveWakes?, renewing, Option.getD_none]
      | some k =>
        simp only [keepaliveWakes?, renewing, sleeps.early renewing, if_true, Option.getD_none]
  have settled : s.timer.settle time (fun _ => s.ended) = (false, s.timer) := by
    cases ended : s.ended with
    | true => exact CleanupTimer.settleWithin_nil _ (dormant.gone ended).1
    | false => exact dormant.neat.lone.settle_rested (dormant.rested sleeps)
  have firing : s.runTimer time transport = (s, .none) := by
    rw [Subscription.runTimer, settled]
    rfl
  have ends : s.keepaliveEnds? transport = none := by
    rw [keepaliveEnds?]
    cases ended : s.ended with
    | true => simp [(dormant.gone ended).2]
    | false => rfl
  rw [Subscription.runTasks]
  simp only [renewal, firing, ends]
  rfl

/-- The keepalive that has had its turn wakes later, or the scope has ended. -/
theorem Neat.renews (neat : s.Neat period now) (transport : Transport) {first : Subscription}
    {emission : Emission}
    (turn : (if s.ended then (s, Emission.none)
      else (s.keepaliveWakes? now period transport).getD (s, .none)) = (first, emission)) :
    first.Neat period now ∧
      (0 < period → first.ended = true ∨ ∀ k, first.keepalive = some k → now < k) := by
  cases ended : s.ended with
  | true =>
    rw [if_pos ended] at turn
    cases turn
    exact ⟨neat, fun _ => .inl ended⟩
  | false =>
    rw [if_neg (by simp [ended]), keepaliveWakes?] at turn
    split at turn
    · next silent => exact absurd (neat.renewing silent) (by simp [ended])
    · next k renewing =>
      split at turn
      · next early =>
        cases turn
        refine ⟨neat, fun _ => .inr fun other same => ?_⟩
        cases renewing.symm.trans same
        exact early
      · simp only at turn
        split at turn
        · cases turn
          refine ⟨⟨neat.lone, fun k same => ?_, fun silent => ?_, neat.shut⟩,
            fun apart => .inr fun k same => ?_⟩
          · cases same
            exact Nat.le_refl _
          · cases silent
          · cases same
            exact Nat.lt_add_of_pos_right apart
        · -- A keepalive that is refused closes the subscription, which ends the scope.
          cases turn
          have closed := (close_tasks (s := { s with keepalive := none, stopSent := true })
            neat.shut transport).2.2
          refine ⟨neat_close (s := { s with keepalive := none, stopSent := true }) neat.lone
            (fun k same => ?_) neat.shut transport, fun _ => .inl closed⟩
          cases same

/-- What its tasks leave of a timer and of the rest of its subscription. -/
structure Lulled (now : Nat) (s s' : Subscription) : Prop where
  rested : s'.timer.Rested now
  gone : s'.ended = true → s'.timer.tasks = []
  keepalive : s'.keepalive = s.keepalive
  ended : s.ended = true → s'.ended = true

theorem Neat.runTimer (neat : s.Neat period now) (transport : Transport) :
    (s.runTimer now transport).1.Neat period now ∧
      Lulled now s (s.runTimer now transport).1 := by
  have quieted := neat.lone.settle now s.ended
  rw [Subscription.runTimer]
  generalize s.timer.settle now (fun _ => s.ended) = result at quieted ⊢
  obtain ⟨fired, timer⟩ := result
  have settled : Neat period now { s with timer } := { neat with lone := quieted.lone }
  cases fired with
  | false => exact ⟨settled, quieted.rested, fun ended => quieted.gone (.inl ended), rfl, id⟩
  | true =>
    -- A timer that has fired has no task left, whether or not it closes the subscription.
    have none : timer.tasks = [] := quieted.gone (.inr rfl)
    simp only [if_true, onIdle]
    split
    · exact ⟨settled, quieted.rested, fun _ => none, rfl, id⟩
    · obtain ⟨⟨deadline, closed⟩, keepalive, ended⟩ := close_tasks settled.shut transport
      refine ⟨settled.close transport, ?_, fun _ => ?_, keepalive, fun _ => ended⟩
      · rw [closed]
        exact quieted.rested
      · rw [closed]
        exact none

/-- The end of the scope ends the keepalive, and nothing else about the tasks. -/
theorem tasks_ends (s : Subscription) (transport : Transport) :
    let after := ((s.keepaliveEnds? transport).getD (s, .none)).1
    after.timer = s.timer ∧ after.liveness = s.liveness ∧ after.ended = s.ended ∧
      after.keepalive = if s.ended then none else s.keepalive := by
  rw [keepaliveEnds?]
  split
  · next gone =>
    obtain ⟨ended, -⟩ := Bool.and_eq_true_iff.mp gone
    rw [if_pos ended]
    simp only [Option.getD_some, sendStop]
    split
    · exact ⟨rfl, rfl, rfl, rfl⟩
    · exact ⟨rfl, rfl, rfl, rfl⟩
  · next goesOn =>
    refine ⟨rfl, rfl, rfl, ?_⟩
    cases ended : s.ended with
    | false => rfl
    | true => simpa [ended] using goesOn

/-- Running its tasks makes a subscription dormant, and they sleep if keepalives are apart. -/
theorem Neat.runTasks (neat : s.Neat period now) (transport : Transport) :
    (s.runTasks now period transport).1.Dormant period now ∧
      (0 < period → (s.runTasks now period transport).1.Sleeps now) := by
  rw [Subscription.runTasks]
  generalize turn : (if s.ended then (s, Emission.none)
    else (s.keepaliveWakes? now period transport).getD (s, .none)) = renewal
  obtain ⟨first, a⟩ := renewal
  obtain ⟨neat, early⟩ := neat.renews transport turn
  obtain ⟨settled, lulled⟩ := neat.runTimer transport
  simp only
  generalize first.runTimer now transport = firing at settled lulled ⊢
  obtain ⟨second, b⟩ := firing
  obtain ⟨timer, liveness, ended, keepalive⟩ := tasks_ends second transport
  simp only at timer liveness ended keepalive settled lulled ⊢
  generalize ((second.keepaliveEnds? transport).getD (second, Emission.none)).1 = third at *
  refine ⟨⟨⟨timer ▸ settled.lone, ?near, ?renewing, ?shut⟩, ?read, ?gone⟩, fun apart => ?sleeps⟩
  case near =>
    intro k renewing
    rw [keepalive] at renewing
    split at renewing
    · cases renewing
    · exact settled.near k renewing
  case renewing =>
    intro silent
    rw [ended]
    rw [keepalive] at silent
    split at silent
    · next gone => exact gone
    · exact settled.renewing silent
  case shut =>
    rw [liveness, ended]
    exact settled.shut
  case read =>
    intro scope member
    rw [timer] at member
    obtain ⟨_, _, same, -⟩ := lulled.rested _ member
    cases same
  case gone =>
    intro gone
    rw [ended] at gone
    exact ⟨by rw [timer]; exact lulled.gone gone, by rw [keepalive, if_pos gone]⟩
  case sleeps =>
    refine sleeps_of (fun k renewing => ?_) (timer ▸ lulled.rested)
    rw [keepalive] at renewing
    split at renewing
    · cases renewing
    · next goesOn =>
      rw [lulled.keepalive] at renewing
      rcases early apart with gone | early
      · exact absurd (lulled.ended gone) goesOn
      · exact early k renewing

end Subscription

/-! ## Places -/

namespace Place

def Neat (period now : Nat) (p : Place) : Prop := ∀ s ∈ p.opened, s.Neat period now

def Dormant (period now : Nat) (p : Place) : Prop := ∀ s ∈ p.opened, s.Dormant period now

/-- No task wakes up to a moment. -/
def Sleeps (time : Nat) (p : Place) : Prop := ∀ s ∈ p.opened, s.Sleeps time

variable {period now time : Nat} {p : Place} {s : Subscription} {n : Nat}

theorem dormant_empty (period now : Nat) : empty.Dormant period now :=
  fun _ member => absurd member List.not_mem_nil

theorem Dormant.neat (dormant : p.Dormant period now) : p.Neat period now :=
  fun s member => (dormant s member).neat

theorem Dormant.later (dormant : p.Dormant period now) (later : now ≤ time) :
    p.Dormant period time := fun s member => (dormant s member).later later

theorem Neat.later (neat : p.Neat period now) (later : now ≤ time) : p.Neat period time :=
  fun s member => (neat s member).later later

/-! ### Operations -/

theorem Neat.found (neat : p.Neat period now) (found : p.subscription? n = some s) :
    s.Neat period now := neat s (List.mem_of_getElem? found)

theorem Neat.set (neat : p.Neat period now) (number : Nat) (after : s.Neat period now) :
    (p.set number s).Neat period now := by
  intro other member
  rcases List.mem_or_eq_of_mem_set member with member | rfl
  · exact neat other member
  · exact after

theorem Neat.request {t : Timing} (neat : p.Neat period t.now) (transport : Transport) :
    (p.request t transport).place.Neat period t.now := by
  rw [Place.request]
  split
  · exact neat
  · next parked _ =>
    obtain ⟨⟨number, s⟩, live, found⟩ := Option.bind_eq_some_iff.mp parked
    obtain ⟨after, parks, rfl⟩ := Option.map_eq_some_iff.mp found
    have before : s.Neat period t.now := neat.found (live?_eq_some.mp live).2
    exact neat.set number (before.park parks)
  · simp only [sendSingle]
    split
    · exact neat
    · exact neat

theorem Neat.abort {t : Timing} (neat : p.Neat period t.now) (call : Nat) :
    (p.abort t call).Neat period t.now := by
  intro s member
  obtain ⟨before, there, rfl⟩ := List.mem_map.mp member
  exact (neat before there).abort call

theorem Neat.openSubscription {t : Timing} (neat : p.Neat t.period t.now) (transport : Transport)
    (every : Interval) : (p.openSubscription t transport every).place.Neat t.period t.now := by
  rw [Place.openSubscription]
  simp only
  split
  · exact neat
  · split
    · exact neat
    · next attached =>
      intro s member
      rcases List.mem_append.mp member with member | last
      · exact neat s member
      · obtain rfl := List.mem_singleton.mp last
        exact (Subscription.neat_begin t.period t.now t.window every _).attach attached

theorem Neat.subscribe {t : Timing} (neat : p.Neat t.period t.now) (transport : Transport)
    (every : Interval) : (p.subscribe t transport every).place.Neat t.period t.now := by
  rw [Place.subscribe]
  split
  · next number stream after joins =>
    obtain ⟨⟨number, s⟩, live, found⟩ := Option.bind_eq_some_iff.mp joins
    obtain ⟨_, attached, same⟩ := Option.map_eq_some_iff.mp found
    cases same
    have before : s.Neat t.period t.now := neat.found (live?_eq_some.mp live).2
    exact neat.set _ (before.attach attached)
  · exact neat.openSubscription transport every

theorem Neat.detach {t : Timing} (neat : p.Neat period t.now) (number stream : Nat) :
    (p.detach t number stream).2.Neat period t.now := by
  rw [Place.detach]
  split
  · next found => exact neat.set number ((neat.found found).detach stream)
  · exact neat

theorem Neat.closeSubscription (neat : p.Neat period now) (transport : Transport) (number : Nat) :
    (p.closeSubscription transport number).place.Neat period now := by
  rw [Place.closeSubscription]
  split
  · exact neat
  · next found =>
    have closed := neat.set number ((neat.found found).close transport)
    simp only
    split
    · exact closed
    · exact closed

theorem Neat.unsubscribe (neat : p.Neat period now) (transport : Transport) :
    (p.unsubscribe transport).place.Neat period now := by
  rw [Place.unsubscribe]
  split
  · exact Neat.closeSubscription (p := { p with pending := none }) neat transport _
  · exact neat

theorem Neat.respond {t : Timing} (neat : p.Neat period t.now) (transport : Transport)
    (response : Response) : (p.respond t transport response).place.Neat period t.now := by
  rw [Place.respond, Place.hand]
  split
  · exact neat
  · exact neat
  · split
    · exact neat
    · next s found =>
      split
      · exact Neat.set (p := { p with pending := none }) neat _ ((neat.found found).close transport)
      · exact neat.set _ ((neat.found found).publish response.snapshot response.serverTick)

theorem Neat.close (neat : p.Neat period now) (transport : Transport) :
    (p.close transport).place.Neat period now := by
  rw [Place.close]
  split
  · exact neat
  · exact neat
  · exact Neat.closeSubscription (p := { p with pending := none }) neat transport _

theorem Neat.endScopes (neat : p.Neat period now) : p.endScopes.Neat period now := by
  intro s member
  obtain ⟨before, there, rfl⟩ := List.mem_map.mp member
  exact (neat before there).endScope

/-- Polling a stream has nothing to do with the tasks of the place. -/
theorem Dormant.poll (dormant : p.Dormant period now) {number stream : Nat} {found : Poll Snapshot}
    {p' : Place} (polled : p.poll number stream = some (found, p')) :
    p'.Dormant period now ∧ (p.Sleeps time → p'.Sleeps time) := by
  obtain ⟨s, there, rest⟩ := Option.bind_eq_some_iff.mp polled
  obtain ⟨⟨_, after⟩, polls, same⟩ := Option.map_eq_some_iff.mp rest
  cases same
  have member : s ∈ p.opened := List.mem_of_getElem? there
  obtain ⟨kept, wakes⟩ := (dormant s member).poll polls
  refine ⟨fun other inside => ?_, fun sleeps other inside => ?_⟩
  · rcases List.mem_or_eq_of_mem_set inside with before | rfl
    · exact dormant other before
    · exact kept
  · rcases List.mem_or_eq_of_mem_set inside with before | rfl
    · exact sleeps other before
    · intro wake next
      exact sleeps s member wake (wakes.symm.trans next)

/-! ### Tasks -/

theorem sleeps_iff : p.Sleeps time ↔ ∀ wake, p.nextWake? = some wake → time < wake := by
  constructor
  · intro sleeps wake next
    obtain ⟨member, -⟩ := List.min?_eq_some_iff.mp next
    obtain ⟨s, inside, wakes⟩ := List.mem_filterMap.mp member
    exact sleeps s inside wake wakes
  · intro sleeps s inside wake wakes
    obtain ⟨least, next, first⟩ : ∃ least, p.nextWake? = some least ∧ least ≤ wake :=
      min?_le (List.mem_filterMap.mpr ⟨s, inside, wakes⟩)
    exact Nat.lt_of_lt_of_le (sleeps least next) first

/-- Where keepalives are not apart in time, the next wake is always due. -/
theorem Dormant.due (dormant : p.Dormant 0 now) {wake : Nat} (next : p.nextWake? = some wake) :
    wake ≤ now := by
  obtain ⟨member, -⟩ := List.min?_eq_some_iff.mp next
  obtain ⟨s, inside, wakes⟩ := List.mem_filterMap.mp member
  exact (dormant s inside).due wakes

theorem Dormant.idle_upTo {t : Timing} (dormant : p.Dormant t.period now) (sleeps : p.Sleeps t.now)
    (transport : Transport) (k : Nat) : runTasksUpTo t transport k p = (p, .none) := by
  induction k with
  | zero => rfl
  | succ k ih =>
    have here : (runTasksUpTo t transport k p).1 = p := by rw [ih]
    cases found : p.subscription? k with
    | none => rw [runTasksUpTo_succ_none t transport (by rw [here, found]), ih]
    | some s =>
      have member : s ∈ p.opened := List.mem_of_getElem? found
      have still : ran t transport s = (s, .none) :=
        (dormant s member).idle (sleeps s member) transport
      rw [runTasksUpTo_succ_some t transport (by rw [here, found]), still, ih]
      simp [settleEntry, set_found found]

/-- Until the next of its tasks wakes, running the tasks of a place does nothing. -/
theorem Dormant.idle {t : Timing} (dormant : p.Dormant t.period now) (sleeps : p.Sleeps t.now)
    (transport : Transport) : p.runTasks t transport = (p, .none) :=
  dormant.idle_upTo sleeps transport p.opened.length

/-- Running its tasks makes a place dormant, and they sleep if keepalives are apart. -/
theorem Neat.runTasks {t : Timing} (neat : p.Neat t.period t.now) (transport : Transport) :
    (p.runTasks t transport).1.Dormant t.period t.now ∧
      (0 < t.period → (p.runTasks t transport).1.Sleeps t.now) := by
  have each (s : Subscription) (member : s ∈ (p.runTasks t transport).1.opened) :
      ∃ before ∈ p.opened, s = (ran t transport before).1 := by
    obtain ⟨n, bound, here⟩ := List.mem_iff_getElem.mp member
    have found : (p.runTasks t transport).1.subscription? n = some s :=
      List.getElem?_eq_some_iff.mpr ⟨bound, here⟩
    rw [subscription?_runTasks] at found
    obtain ⟨before, there, same⟩ := Option.map_eq_some_iff.mp found
    exact ⟨before, List.mem_of_getElem? there, same.symm⟩
  refine ⟨fun s member => ?_, fun apart s member => ?_⟩
  · obtain ⟨before, there, rfl⟩ := each s member
    exact ((neat before there).runTasks transport).1
  · obtain ⟨before, there, rfl⟩ := each s member
    exact ((neat before there).runTasks transport).2 apart

end Place

end Client

end ObservationFeed
