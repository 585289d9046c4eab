import ObservationFeed.Client.Subscription
import ObservationFeed.Proofs.Client.CleanupTimer

/-!
# What happens to a subscription

Everything that happens to a subscription from outside is one of a few acts.
`Open` is what every act keeps as long as the subscription is open: the counters
of interest are those of the attached streams and the parked callers, and the
tasks have not ended.  `Clocked` ties the cleanup timer to the moment of the
last interest: the timer is armed exactly while there is none, for one window
after that moment.
-/

namespace ObservationFeed

/-! ## The timer and the interest -/

namespace CleanupTimer

/-- The timer after interest was there or not, and is there or not. -/
def edge (t : CleanupTimer) (now : Nat) (was is : Bool) : CleanupTimer :=
  match was, is with
  | true, false => t.arm now 0
  | false, true => t.disarm
  | _, _ => t

/-- The moment of the last interest, by whether there is some now. -/
abbrev seen (live : Bool) (now last : Nat) : Nat := if live then now else last

/-- The timer is armed exactly while there is no interest, for a window after the last. -/
structure Clocked (now last : Nat) (live : Bool) (t : CleanupTimer) : Prop where
  orderly : t.Orderly now
  deadline : t.deadline = if live then none else some (last + t.window)
  latest : live = true → last = now

@[simp] theorem window_edge (t : CleanupTimer) (now : Nat) (was is : Bool) :
    (t.edge now was is).window = t.window := by
  cases was <;> cases is <;> rfl

theorem Clocked.edge {t : CleanupTimer} {now last : Nat} {was : Bool}
    (clocked : t.Clocked now last was) (is : Bool) :
    (t.edge now was is).Clocked now (seen is now last) is := by
  obtain ⟨orderly, deadline, latest⟩ := clocked
  -- Only where interest comes or goes is the timer touched.
  cases was <;> cases is
  case true.false =>
    refine ⟨orderly.arm 0, ?_, nofun⟩
    have sinceNow : last = now := latest rfl
    simp [CleanupTimer.edge, arm, sinceNow]
  case false.true => exact ⟨orderly.disarm, rfl, fun _ => rfl⟩
  case true.true => exact ⟨orderly, deadline, fun _ => rfl⟩
  case false.false => exact ⟨orderly, deadline, nofun⟩

theorem Clocked.later {t : CleanupTimer} {now time last : Nat} {live : Bool}
    (clocked : t.Clocked now last live) (later : now ≤ time) :
    t.Clocked time (seen live time last) live where
  orderly := clocked.orderly.later later
  deadline := by
    rw [clocked.deadline]
    cases live <;> rfl
  latest := by
    intro yes
    rw [seen, yes, if_pos rfl]

/-- While there is no interest and the timer is at rest, its task sleeps within the window. -/
theorem Clocked.asleep {t : CleanupTimer} {now last : Nat} {live : Bool}
    (clocked : t.Clocked now last live) (rested : t.Rested now) (idle : live = false) :
    ∃ scope target, .sleeping scope target ∈ t.tasks ∧ now < target ∧ target ≤ last + t.window := by
  have armed : t.deadline = some (last + t.window) := by
    rw [clocked.deadline, idle]
    rfl
  have attended := clocked.orderly.attended (by rw [armed]; rfl)
  obtain ⟨task, member⟩ := List.exists_mem_of_ne_nil _ attended
  obtain ⟨scope, target, rfl, sleeps⟩ := rested task member
  exact ⟨scope, target, member, sleeps, (clocked.orderly.early scope target member).2 _ armed⟩

/-- Settling fires the timer exactly if there has been no interest for a whole window. -/
theorem Clocked.settles {t timer : CleanupTimer} {now last : Nat} {live fired : Bool}
    (clocked : t.Clocked now last live) (settled : Settled now t (fired, timer)) :
    (fired = false ∧ timer.Clocked now last live ∧ (live = false → now < last + t.window)) ∨
      (fired = true ∧ live = false ∧ last + t.window ≤ now) := by
  obtain ⟨orderly, deadline, latest⟩ := clocked
  obtain ⟨fires, armed, window, stays, -⟩ := settled
  simp only at fires armed window stays
  rw [deadline] at fires
  cases fired with
  | false =>
    refine .inl ⟨rfl, ⟨stays, ?_, latest⟩, fun idle => ?_⟩
    · rw [armed, window, deadline]
      rfl
    · rw [idle] at fires
      simpa using fires
  | true =>
    -- The timer is armed only while nobody is interested.
    cases live with
    | true => cases fires
    | false => exact .inr ⟨rfl, rfl, by simpa using fires⟩

/-- Interest that only goes may go in two steps. -/
theorem edge_edge (t : CleanupTimer) (now : Nat) {a b c : Bool} (first : b = true → a = true)
    (second : c = true → b = true) : (t.edge now a b).edge now b c = t.edge now a c := by
  cases a <;> cases b <;> cases c <;> simp_all [edge]

end CleanupTimer

namespace Client

/-! ## Callers -/

/-- Of some elements with distinct numbers, dropping one takes at most one away. -/
theorem length_filter_ne {α : Type} (number : α → Nat) (p : α → Bool) {items : List α}
    (distinct : (items.map number).Nodup) (n : Nat) :
    ((items.filter (number · ≠ n)).filter p).length +
      (items.any fun x => number x = n && p x).toNat = (items.filter p).length := by
  rw [List.filter_filter]
  induction items with
  | nil => rfl
  | cons x rest ih =>
    obtain ⟨absent, distinct⟩ := List.nodup_cons.mp distinct
    have ih := ih distinct
    rw [List.filter_cons, List.filter_cons, List.any_cons]
    by_cases same : number x = n
    · -- This is the element that is dropped, and no other has its number.
      have others : ∀ y ∈ rest, number y ≠ n := fun y member found =>
        absent (same ▸ found ▸ List.mem_map_of_mem (f := number) member)
      have kept : rest.filter (fun y => p y && decide (number y ≠ n)) = rest.filter p :=
        List.filter_congr fun y member => by simp [others y member]
      have alone : (rest.any fun y => decide (number y = n) && p y) = false :=
        List.any_eq_false.mpr fun y member => by simp [others y member]
      rw [kept, alone]
      cases p x <;> simp [same]
    · cases counts : p x
      · simpa [same] using ih
      · simp only [ne_eq] at ih
        simp only [same, decide_false, Bool.false_or, ne_eq, not_false_eq_true, decide_true,
          Bool.and_true, if_true, List.length_cons]
        omega

namespace Awaited

/-- No call waits twice. -/
def Distinct (a : Awaited) : Prop := (a.callers.map Caller.call).Nodup

theorem distinct_join {a : Awaited} (distinct : a.Distinct) {call : Nat}
    (fresh : a.has call = false) (parked : Bool) : (a.join call parked).Distinct := by
  have absent : call ∉ a.callers.map Caller.call := by
    intro member
    obtain ⟨caller, member, same⟩ := List.mem_map.mp member
    have found : a.has call = true := List.any_eq_true.mpr ⟨caller, member, by simpa using same⟩
    rw [fresh] at found
    cases found
  rw [Distinct, join, List.map_append]
  exact List.nodup_append.mpr ⟨distinct, List.pairwise_singleton .., by
    intro x member y last same
    obtain rfl := List.mem_singleton.mp last
    exact absent (same ▸ member)⟩

theorem distinct_leave {a : Awaited} (distinct : a.Distinct) (call : Nat) :
    (a.leave call).Distinct :=
  (List.filter_sublist.map Caller.call).nodup distinct

theorem length_parkedCalls (a : Awaited) : a.parkedCalls.length = a.parkedCount :=
  List.length_map ..

theorem parkedCount_join (a : Awaited) (call : Nat) :
    (a.join call true).parkedCount = a.parkedCount + 1 := by
  simp [parkedCount, join]

/-- A caller that leaves takes its own count along. -/
theorem parkedCount_leave {a : Awaited} (distinct : a.Distinct) (call : Nat) :
    (a.leave call).parkedCount + (a.hasParked call).toNat = a.parkedCount :=
  length_filter_ne Caller.call Caller.parked distinct call

/-- A settled value keeps no other callers. -/
theorem callers_settle (a : Awaited) (outcome : Deferred Snapshot) :
    ∀ c ∈ (a.settle outcome).1.callers, c ∈ a.callers := by
  rw [settle]
  generalize outcome.settle a.value = settled
  obtain ⟨stands, value⟩ := settled
  cases settled : value.result? with
  | none =>
    simp only [settled]
    exact fun c member => member
  | some result =>
    simp only [settled]
    exact nofun

theorem pos_parkedCount (a : Awaited) : decide (0 < a.parkedCount) = a.callers.any (·.parked) := by
  rw [Bool.eq_iff_iff, decide_eq_true_iff, parkedCount, List.length_pos_iff_exists_mem,
    List.any_eq_true]
  simp only [List.mem_filter]

end Awaited

namespace Emission

@[simp] theorem attempts_append (a b : Emission) :
    (a ++ b).attempts = a.attempts ++ b.attempts := rfl

@[simp] theorem returns_append (a b : Emission) :
    (a ++ b).returns = a.returns ++ b.returns := rfl

@[simp] theorem none_append (a : Emission) : .none ++ a = a := rfl

@[simp] theorem append_none (a : Emission) : a ++ .none = a := by
  obtain ⟨attempts, returns⟩ := a
  change (⟨attempts ++ [], returns ++ []⟩ : Emission) = _
  rw [List.append_nil, List.append_nil]

theorem append_assoc (a b c : Emission) : (a ++ b) ++ c = a ++ (b ++ c) := by
  change (⟨(a.attempts ++ b.attempts) ++ c.attempts, (a.returns ++ b.returns) ++ c.returns⟩ :
    Emission) = _
  rw [List.append_assoc, List.append_assoc]
  rfl

/-- Two emissions are the same if they are in each of their parts. -/
theorem ext_part {a b : Emission} (same : ∀ (β : Type) (part : Emission → List β), part .none = [] →
    (∀ a b, part (a ++ b) = part a ++ part b) → part a = part b) : a = b := by
  have attempts := same _ Emission.attempts rfl fun _ _ => rfl
  have returns := same _ Emission.returns rfl fun _ _ => rfl
  obtain ⟨sent, answered⟩ := a
  cases attempts
  cases returns
  rfl

end Emission

namespace Subscription

/-! ## Acts -/

/-- Whether someone is interested, read off the streams, the callers and the feed. -/
def observed (s : Subscription) (born : Bool) : Bool :=
  !s.streams.isEmpty || s.next.callers.any (·.parked) || !s.answered.isEmpty ||
    (born && s.feed.version == 0)

/-- What holds of an open subscription, which was born of a pending call or not. -/
structure Open (born : Bool) (s : Subscription) : Prop where
  unclosed : s.liveness.closed = false
  goesOn : s.ended = false
  unstopped : s.stopSent = false
  renewing : s.keepalive.isSome
  consumers : s.liveness.consumers = s.streams.length
  waiters : s.liveness.waiters = s.next.parkedCount + s.answered.length
  promoted : s.liveness.promoted = (born && s.feed.version == 0)
  awaited : s.next.value = .pending
  streams : (s.streams.map Prod.fst).Nodup
  numbered : ∀ e ∈ s.streams, e.1 < s.nextStream
  calls : s.next.Distinct

/-- What an act leaves of an open subscription: it stays open, and its timer follows the
interest. -/
structure Goes (born : Bool) (now : Nat) (s s' : Subscription) : Prop where
  isOpen : Open born s'
  timer : s'.timer = s.timer.edge now s.liveness.isLive s'.liveness.isLive
  interval : s'.interval = s.interval
  keepalive : s'.keepalive = s.keepalive

variable {born : Bool} {now : Nat} {s : Subscription}

/-- Interest may go in two steps. -/
theorem Goes.wanes {s' s'' : Subscription} (first : Goes born now s s')
    (second : Goes born now s' s'') (wanes : s'.liveness.isLive = true → s.liveness.isLive = true)
    (wanes' : s''.liveness.isLive = true → s'.liveness.isLive = true) : Goes born now s s'' where
  isOpen := second.isOpen
  timer := by rw [second.timer, first.timer, CleanupTimer.edge_edge _ now wanes wanes']
  interval := second.interval.trans first.interval
  keepalive := second.keepalive.trans first.keepalive

theorem Open.isLive (isOpen : Open born s) : s.liveness.isLive = s.observed born := by
  have some {α : Type} (items : List α) : decide (0 < items.length) = !items.isEmpty := by
    cases items <;> rfl
  have waiters : decide (0 < s.next.parkedCount + s.answered.length) =
      (s.next.callers.any (·.parked) || !s.answered.isEmpty) := by
    rw [← Awaited.pos_parkedCount, ← some, ← Bool.decide_or]
    exact decide_eq_decide.mpr (by omega)
  rw [Liveness.isLive, observed, isOpen.consumers, isOpen.waiters, isOpen.promoted, waiters, some,
    ← Bool.or_assoc (!s.streams.isEmpty)]

theorem updateLiveness_open (unclosed : s.liveness.closed = false) (change : Liveness → Liveness) :
    s.updateLiveness now change =
      { s with
        liveness := change s.liveness
        timer := s.timer.edge now s.liveness.isLive (change s.liveness).isLive } := by
  rw [updateLiveness, unclosed]
  rfl

theorem edge_self (t : CleanupTimer) (now : Nat) (live : Bool) : t.edge now live live = t := by
  cases live <;> rfl

/-! ## One lemma for each act -/

/-- The subscription with another stream. -/
def attached (s : Subscription) (now : Nat) : Subscription :=
  { s.updateLiveness now fun l => { l with consumers := l.consumers + 1 } with
    streams := s.streams ++ [(s.nextStream, .begin s.feed)]
    nextStream := s.nextStream + 1 }

theorem attach?_open (unclosed : s.liveness.closed = false) :
    s.attach? now = some (s.nextStream, s.attached now) := by
  rw [attach?, unclosed, attached, updateLiveness_open unclosed]
  rfl

theorem Open.attach (isOpen : Open born s) (now : Nat) : Goes born now s (s.attached now) := by
  rw [attached, updateLiveness_open isOpen.unclosed]
  refine ⟨?_, rfl, rfl, rfl⟩
  exact { isOpen with
    consumers := by simp [isOpen.consumers]
    streams := by
      -- The new number is above all that were given out.
      rw [List.map_append]
      refine List.nodup_append.mpr ⟨isOpen.streams, List.pairwise_singleton .., ?_⟩
      intro x member y last same
      obtain ⟨e, there, rfl⟩ := List.mem_map.mp member
      have older := isOpen.numbered e there
      obtain rfl := List.mem_singleton.mp last
      exact absurd same (Nat.ne_of_lt older)
    numbered := by
      intro e member
      rcases List.mem_append.mp member with member | last
      · exact Nat.lt_succ_of_lt (isOpen.numbered e member)
      · obtain rfl := List.mem_singleton.mp last
        exact Nat.lt_succ_self _ }

/-- The numbers of streams are distinct, so a stream that goes takes one count along. -/
theorem length_without {streams : List (Nat × Stream)} (distinct : (streams.map Prod.fst).Nodup)
    {number : Nat} (there : streams.any (·.1 = number) = true) :
    (streams.filter (·.1 ≠ number)).length + 1 = streams.length := by
  have count := length_filter_ne Prod.fst (fun _ => true) distinct number
  have all (items : List (Nat × Stream)) : items.filter (fun _ => true) = items :=
    List.filter_eq_self.mpr fun _ _ => rfl
  simp only [Bool.and_true, there, Bool.toNat_true, all] at count
  exact count

theorem Open.detach (isOpen : Open born s) (now stream : Nat) :
    Goes born now s (s.detach now stream) := by
  rw [Subscription.detach]
  split
  · next there =>
    have unclosed : ({ s with streams := s.streams.filter (·.1 ≠ stream) } :
        Subscription).liveness.closed = false := isOpen.unclosed
    rw [updateLiveness_open unclosed]
    refine ⟨?_, rfl, rfl, rfl⟩
    have count := length_without isOpen.streams there
    exact { isOpen with
      consumers := by
        simp only [isOpen.consumers]
        omega
      streams := (List.filter_sublist.map Prod.fst).nodup isOpen.streams
      numbered := fun e member => isOpen.numbered e (List.mem_filter.mp member).1 }
  · exact ⟨isOpen, (edge_self ..).symm, rfl, rfl⟩

/-- The subscription with another parked caller. -/
def withParked (s : Subscription) (now call : Nat) : Subscription :=
  { s.updateLiveness now fun l => { l with waiters := l.waiters + 1 } with
    next := s.next.join call true }

theorem park?_open (unclosed : s.liveness.closed = false) (call : Nat) :
    s.park? now call = some (s.withParked now call) := by
  rw [park?, unclosed]
  rfl

theorem Open.park (isOpen : Open born s) (now : Nat) {call : Nat}
    (fresh : s.next.has call = false) : Goes born now s (s.withParked now call) := by
  rw [withParked, updateLiveness_open isOpen.unclosed]
  refine ⟨?_, rfl, rfl, rfl⟩
  exact { isOpen with
    waiters := by
      simp only [isOpen.waiters, Awaited.parkedCount_join]
      omega
    awaited := isOpen.awaited
    calls := Awaited.distinct_join isOpen.calls fresh true }

/-- Callers that go bring no interest with them. -/
theorem wanes_unpark (s : Subscription) (now count : Nat) :
    (s.unpark now count).liveness.isLive = true → s.liveness.isLive = true := by
  rw [unpark, updateLiveness]
  split
  · exact id
  · simp only [Liveness.isLive, Bool.or_eq_true, decide_eq_true_eq]
    rintro ((streams | callers) | promoted)
    · exact .inl (.inl streams)
    · exact .inl (.inr (Nat.lt_of_lt_of_le callers (Nat.sub_le ..)))
    · exact .inr promoted

theorem wanes_depart (s : Subscription) (now call : Nat) :
    (s.depart now call).liveness.isLive = true → s.liveness.isLive = true := by
  rw [Subscription.depart]
  split
  · exact wanes_unpark { s with answered := s.answered.eraseP (·.call = call) } now 1
  · exact id

theorem wanes_forgo (s : Subscription) (now call : Nat) :
    (s.forgo now call).liveness.isLive = true → s.liveness.isLive = true := by
  rw [Subscription.forgo]
  split
  · exact wanes_unpark { s with next := s.next.leave call } now 1
  · exact id

theorem Open.depart (isOpen : Open born s) (now call : Nat) :
    Goes born now s (s.depart now call) := by
  rw [Subscription.depart]
  split
  · next there =>
    obtain ⟨a, member, same⟩ := List.any_eq_true.mp there
    have count := List.length_eraseP_of_mem (p := (·.call = call)) member same
    have some := List.length_pos_of_mem member
    have unclosed : ({ s with answered := s.answered.eraseP (·.call = call) } :
        Subscription).liveness.closed = false := isOpen.unclosed
    rw [unpark, updateLiveness_open unclosed]
    refine ⟨?_, rfl, rfl, rfl⟩
    exact { isOpen with
      waiters := by
        simp only [isOpen.waiters, count]
        omega }
  · exact ⟨isOpen, (edge_self ..).symm, rfl, rfl⟩

theorem Open.forgo (isOpen : Open born s) (now call : Nat) :
    Goes born now s (s.forgo now call) := by
  have count := Awaited.parkedCount_leave isOpen.calls call
  have calls := Awaited.distinct_leave isOpen.calls call
  rw [Subscription.forgo]
  cases parked : s.next.hasParked call
  · rw [parked] at count
    refine ⟨?_, (edge_self ..).symm, rfl, rfl⟩
    exact { isOpen with
      waiters := isOpen.waiters.trans (congrArg (· + s.answered.length) count.symm)
      awaited := isOpen.awaited
      calls := calls }
  · rw [parked] at count
    have unclosed : ({ s with next := s.next.leave call } : Subscription).liveness.closed = false :=
      isOpen.unclosed
    simp only [if_true]
    rw [unpark, updateLiveness_open unclosed]
    refine ⟨?_, rfl, rfl, rfl⟩
    exact { isOpen with
      waiters := by
        simp only [isOpen.waiters]
        simp only [Bool.toNat_true] at count
        omega
      awaited := isOpen.awaited
      calls := calls }

theorem Open.abort (isOpen : Open born s) (now call : Nat) :
    Goes born now s (s.abort now call) := by
  have forgoes := isOpen.forgo now call
  exact forgoes.wanes (forgoes.isOpen.depart now call) (wanes_forgo s now call)
    (wanes_depart _ now call)

/-- The parked callers are counted until they go on, so only the promoted call loses its
interest. -/
theorem Open.accept (isOpen : Open born s) (now : Nat) (snapshot : Snapshot)
    (tick : Option Int64) : Goes born now s (s.accept now snapshot tick).1 := by
  rw [Subscription.accept]
  split
  · exact ⟨isOpen, (edge_self ..).symm, rfl, rfl⟩
  · have unclosed := isOpen.unclosed
    simp only
    rw [updateLiveness_open (by exact unclosed)]
    refine ⟨?_, rfl, rfl, rfl⟩
    exact { isOpen with
      waiters := by
        simp [isOpen.waiters, Awaited.length_parkedCalls, Awaited.parkedCount, Awaited.fresh,
          Nat.add_comm]
      promoted := by simp [Feed.publish]
      awaited := rfl
      calls := List.nodup_nil }

theorem Open.publish (isOpen : Open born s) (now : Nat) (snapshot : Snapshot)
    (tick : Option Int64) : Goes born now s (s.publish now snapshot tick).1 := by
  rw [Subscription.publish]
  split
  · exact ⟨isOpen, (edge_self ..).symm, rfl, rfl⟩
  · have unclosed := isOpen.unclosed
    simp only
    rw [updateLiveness_open (by exact unclosed), unpark, updateLiveness_open (by exact unclosed)]
    refine ⟨?_, ?_, rfl, rfl⟩
    · exact { isOpen with
        waiters := by simp [isOpen.waiters, Awaited.parkedCount, Awaited.fresh]
        promoted := by simp [Feed.publish]
        awaited := rfl
        calls := List.nodup_nil }
    · -- The interest of the promoted call goes first and that of the waiters after it.
      refine CleanupTimer.edge_edge _ now ?_ ?_
      · simp only [Liveness.isLive, Bool.or_false]
        intro live
        rw [live, Bool.true_or]
      · simp only [Liveness.isLive, Bool.or_false, Bool.or_eq_true, decide_eq_true_eq]
        exact fun live => live.imp_right fun some => Nat.lt_of_lt_of_le some (Nat.sub_le ..)

theorem Open.poll (isOpen : Open born s) (now : Nat) {stream : Nat} {found : Poll Snapshot}
    {s' : Subscription} (polled : s.poll? stream = some (found, s')) : Goes born now s s' := by
  obtain ⟨found, _, same⟩ := Option.map_eq_some_iff.mp polled
  cases same
  refine ⟨?_, (edge_self ..).symm, rfl, rfl⟩
  have numbers (n : Nat) (stream : Stream) :
      (s.streams.map fun e => if e.1 = n then (n, stream) else e).map Prod.fst =
        s.streams.map Prod.fst := by
    rw [List.map_map]
    refine List.map_congr_left fun e _ => ?_
    by_cases same : e.1 = n <;> simp [same]
  exact { isOpen with
    consumers := by simp only [isOpen.consumers, List.length_map]
    streams := by
      rw [numbers]
      exact isOpen.streams
    numbered := by
      intro e member
      have there := List.mem_map_of_mem (f := Prod.fst) member
      rw [numbers] at there
      obtain ⟨older, member, same⟩ := List.mem_map.mp there
      exact same ▸ isOpen.numbered older member }

/-! ## Callers after an act -/

theorem next_updateLiveness (s : Subscription) (now : Nat) (change : Liveness → Liveness) :
    (s.updateLiveness now change).next = s.next := by
  rw [Subscription.updateLiveness]
  split <;> rfl

theorem next_detach (s : Subscription) (now stream : Nat) :
    (s.detach now stream).next = s.next := by
  rw [Subscription.detach]
  split
  · rw [next_updateLiveness]
  · rfl

theorem next_poll {stream : Nat} {found : Poll Snapshot} {s' : Subscription}
    (polled : s.poll? stream = some (found, s')) : s'.next = s.next := by
  obtain ⟨found, _, same⟩ := Option.map_eq_some_iff.mp polled
  cases same
  rfl

theorem next_depart (s : Subscription) (now call : Nat) : (s.depart now call).next = s.next := by
  rw [Subscription.depart]
  split
  · rw [unpark, next_updateLiveness]
  · rfl

theorem next_abort (s : Subscription) (now call : Nat) :
    (s.abort now call).next = s.next.leave call := by
  rw [Subscription.abort, next_depart, Subscription.forgo]
  split
  · rw [unpark, next_updateLiveness]
  · rfl

theorem callers_abort (s : Subscription) (now call : Nat) :
    ∀ c ∈ (s.abort now call).next.callers, c ∈ s.next.callers := by
  rw [next_abort]
  exact fun c member => (List.mem_filter.mp member).1

theorem callers_accept (s : Subscription) (now : Nat) (snapshot : Snapshot) (tick : Option Int64) :
    ∀ c ∈ (s.accept now snapshot tick).1.next.callers, c ∈ s.next.callers := by
  rw [Subscription.accept]
  split
  · exact fun c member => member
  · simp only [next_updateLiveness]
    exact nofun

theorem callers_publish (s : Subscription) (now : Nat) (snapshot : Snapshot) (tick : Option Int64) :
    ∀ c ∈ (s.publish now snapshot tick).1.next.callers, c ∈ s.next.callers := by
  rw [Subscription.publish]
  split
  · exact fun c member => member
  · simp only [unpark, next_updateLiveness]
    exact nofun

/-! ## Tasks -/

/-- The scope has ended and the stop was sent: nothing will be sent any more. -/
structure Spent (s : Subscription) : Prop where
  ended : s.ended = true
  stopped : s.stopSent = true

/-- What becomes of an open subscription that is closed: its streams stay, and so do the callers
that have not gone on, nobody waits any more, and the stop has been sent. -/
structure Closes (s after : Subscription) : Prop where
  closed : after.liveness.closed = true
  spent : Spent after
  streams : after.streams = s.streams
  feed : after.feed = s.feed
  answered : after.answered = s.answered
  callers : after.next.callers = []

/-- What shows of a subscription that closes is its streams, its feed and the callers that have not
gone on. -/
theorem Closes.congr {a b after : Subscription} (closes : Closes a after)
    (streams : a.streams = b.streams) (feed : a.feed = b.feed) (answered : a.answered = b.answered) :
    Closes b after :=
  { closes with
    streams := closes.streams.trans streams
    feed := closes.feed.trans feed
    answered := closes.answered.trans answered }

theorem close_unclosed (unclosed : s.liveness.closed = false) (unstopped : s.stopSent = false)
    (awaited : s.next.value = .pending) {transport : Transport} (works : transport .stop = none) :
    ∃ after returns, s.close transport = (after, ⟨[⟨.stop, none⟩], returns⟩) ∧ Closes s after := by
  simp only [Subscription.close, unclosed, teardown, sendStop, unstopped, works, Awaited.settle,
    awaited, Deferred.settle, Deferred.result?]
  exact ⟨_, _, rfl, rfl, ⟨rfl, rfl⟩, rfl, rfl, rfl, rfl⟩

theorem Open.close (isOpen : Open born s) {transport : Transport} (works : transport .stop = none) :
    ∃ after returns, s.close transport = (after, ⟨[⟨.stop, none⟩], returns⟩) ∧ Closes s after :=
  close_unclosed isOpen.unclosed isOpen.unstopped isOpen.awaited works

/-- Renewals of the subscription that the transport took. -/
def Renewals (s : Subscription) (attempts : List Attempt) : Prop :=
  ∀ a ∈ attempts, a = ⟨.keepalive s.interval, none⟩

/-- What the keepalive task has done: it sleeps on, or it has renewed the subscription and sleeps
for another period. -/
inductive Renewed (now period : Nat) (s : Subscription) : Nat → List Attempt → Prop where
  | sleeps (time : Nat) : s.keepalive = some time → now < time → Renewed now period s time []
  | wakes : Renewed now period s (now + period) [⟨.keepalive s.interval, none⟩]

/-- What its tasks make of an open subscription, over a transport that works: it goes on, or it
has not been of interest for a whole window and closes with a stop. -/
inductive Ran (now last period : Nat) (s : Subscription) : Subscription × Emission → Prop where
  | goesOn (keepalive : Nat) (timer : CleanupTimer) (attempts : List Attempt) :
      timer.Clocked now last s.liveness.isLive → timer.Rested now →
      timer.window = s.timer.window →
      (s.liveness.isLive = false → now < last + s.timer.window) →
      Renewed now period s keepalive attempts →
      Ran now last period s ({ s with keepalive := some keepalive, timer }, ⟨attempts, []⟩)
  | closes (after : Subscription) (attempts : List Attempt) (returns : List Return) :
      s.liveness.isLive = false → last + s.timer.window ≤ now → Closes s after →
      Renewals s attempts → Ran now last period s (after, ⟨attempts ++ [⟨.stop, none⟩], returns⟩)

variable {last : Nat}

theorem Renewed.renewals {period keepalive : Nat} {attempts : List Attempt}
    (renewed : Renewed now period s keepalive attempts) : Renewals s attempts := by
  cases renewed with
  | sleeps => exact nofun
  | wakes => exact fun a member => List.mem_singleton.mp member

theorem Open.renews (isOpen : Open born s) (now period : Nat) {transport : Transport}
    (works : transport (.keepalive s.interval) = none) :
    ∃ keepalive attempts, (s.keepaliveWakes? now period transport).getD (s, .none) =
      ({ s with keepalive := some keepalive }, ⟨attempts, []⟩) ∧
      Renewed now period s keepalive attempts := by
  obtain ⟨time, renewing⟩ := Option.isSome_iff_exists.mp isOpen.renewing
  simp only [keepaliveWakes?, renewing]
  by_cases early : now < time
  · refine ⟨time, [], ?_, .sleeps time renewing early⟩
    rw [if_pos early, ← renewing]
    rfl
  · refine ⟨now + period, [⟨.keepalive s.interval, none⟩], ?_, .wakes⟩
    rw [if_neg early]
    simp [works]

theorem Open.runTimer (isOpen : Open born s)
    (clocked : s.timer.Clocked now last s.liveness.isLive) {transport : Transport}
    (works : transport .stop = none) :
    (∃ timer, timer.Clocked now last s.liveness.isLive ∧ timer.Rested now ∧
      timer.window = s.timer.window ∧
      (s.liveness.isLive = false → now < last + s.timer.window) ∧
      s.runTimer now transport = ({ s with timer }, .none)) ∨
    (s.liveness.isLive = false ∧ last + s.timer.window ≤ now ∧
      ∃ after returns, s.runTimer now transport = (after, ⟨[⟨.stop, none⟩], returns⟩) ∧
        Closes s after) := by
  have settled := CleanupTimer.settle_settled clocked.orderly
  rw [Subscription.runTimer, isOpen.goesOn]
  generalize s.timer.settle now (fun _ => false) = result at settled ⊢
  obtain ⟨fired, timer⟩ := result
  rcases clocked.settles settled with ⟨rfl, clocked, early⟩ | ⟨rfl, idle, come⟩
  · exact .inl ⟨timer, clocked, settled.rested, settled.window, early, rfl⟩
  · -- What the timer looks like by now makes no difference to closing.
    obtain ⟨after, returns, run, closes⟩ := close_unclosed (s := { s with timer, ended := false })
      isOpen.unclosed isOpen.unstopped isOpen.awaited works
    refine .inr ⟨idle, come, after, returns, ?_, closes.congr rfl rfl rfl⟩
    simp only [if_true, onIdle, idle, Bool.false_eq_true, if_false]
    exact run

/-- The end of the scope finds the stop sent already. -/
theorem Spent.ends (spent : Spent s) (transport : Transport) :
    ((s.keepaliveEnds? transport).getD (s, .none)).1 = { s with keepalive := none } ∧
      ((s.keepaliveEnds? transport).getD (s, .none)).2 = .none := by
  cases silent : s.keepalive with
  | none =>
    have same : { s with keepalive := none } = s := by rw [← silent]
    simp [keepaliveEnds?, silent, same]
  | some time => simp [keepaliveEnds?, silent, spent.ended, sendStop, spent.stopped]

theorem Open.runTasks (isOpen : Open born s)
    (clocked : s.timer.Clocked now last s.liveness.isLive) (period : Nat) {transport : Transport}
    (works : ∀ kind, transport kind = none) :
    Ran now last period s (s.runTasks now period transport) := by
  obtain ⟨keepalive, attempts, wakes, renewed⟩ := isOpen.renews now period (works _)
  rw [Subscription.runTasks, isOpen.goesOn]
  simp only [Bool.false_eq_true, if_false, wakes]
  -- The keepalive moves its own time only, so the timer finds the subscription as it was.
  have again : Open born { s with keepalive := some keepalive } := { isOpen with renewing := rfl }
  rcases again.runTimer clocked (works .stop) with
    ⟨timer, clocked, rested, window, early, run⟩ | ⟨idle, come, after, returns, run, closes⟩
  · have noEnd : ({ s with keepalive := some keepalive, timer } : Subscription).keepaliveEnds?
        transport = none := by simp [keepaliveEnds?, isOpen.goesOn]
    rw [run]
    simp only [noEnd, Option.getD_none, Emission.append_none]
    exact .goesOn keepalive timer attempts clocked rested window early renewed
  · obtain ⟨same, quiet⟩ := closes.spent.ends transport
    rw [run]
    simp only [same, quiet, Emission.append_none]
    refine .closes _ attempts returns idle come ?_ renewed.renewals
    exact ⟨closes.closed, ⟨closes.spent.ended, closes.spent.stopped⟩, closes.streams, closes.feed,
      closes.answered, closes.callers⟩

/-! ## After the end -/

/-- What becomes of a subscription that is over: it stays so, and nobody comes to it any more. -/
structure Fades (s s' : Subscription) : Prop where
  spent : Spent s'
  streams : s.streams = [] → s'.streams = []
  callers : ∀ c ∈ s'.next.callers, c ∈ s.next.callers
  answered : s.answered = [] → s'.answered = []
  feed : s'.feed = s.feed

theorem Spent.refl (spent : Spent s) : Fades s s := ⟨spent, id, fun _ => id, id, rfl⟩

theorem Fades.trans {a b c : Subscription} (first : Fades a b) (second : Fades b c) :
    Fades a c where
  spent := second.spent
  streams none := second.streams (first.streams none)
  callers caller member := first.callers caller (second.callers caller member)
  answered none := second.answered (first.answered none)
  feed := second.feed.trans first.feed

theorem Spent.updateLiveness (spent : Spent s) (now : Nat) (change : Liveness → Liveness) :
    Fades s (s.updateLiveness now change) := by
  rw [Subscription.updateLiveness]
  split
  · exact spent.refl
  · exact ⟨⟨spent.ended, spent.stopped⟩, id, fun _ => id, id, rfl⟩

theorem Spent.detach (spent : Spent s) (now stream : Nat) : Fades s (s.detach now stream) := by
  rw [Subscription.detach]
  split
  · have without : Fades s { s with streams := s.streams.filter (·.1 ≠ stream) } :=
      ⟨⟨spent.ended, spent.stopped⟩, fun none => by simp [none], fun _ => id, id, rfl⟩
    exact without.trans (without.spent.updateLiveness now _)
  · exact spent.refl

theorem Spent.depart (spent : Spent s) (now call : Nat) : Fades s (s.depart now call) := by
  rw [Subscription.depart]
  split
  · have without : Fades s { s with answered := s.answered.eraseP (·.call = call) } :=
      ⟨⟨spent.ended, spent.stopped⟩, id, fun _ => id, fun none => by simp [none], rfl⟩
    exact without.trans (without.spent.updateLiveness now _)
  · exact spent.refl

theorem Spent.forgo (spent : Spent s) (now call : Nat) : Fades s (s.forgo now call) := by
  have left : Fades s { s with next := s.next.leave call } :=
    ⟨⟨spent.ended, spent.stopped⟩, id,
      fun _ member => (List.mem_filter.mp member).1, id, rfl⟩
  rw [Subscription.forgo]
  split
  · exact left.trans (left.spent.updateLiveness now _)
  · exact left

theorem Spent.abort (spent : Spent s) (now call : Nat) : Fades s (s.abort now call) := by
  have forgoes := spent.forgo now call
  exact forgoes.trans (forgoes.spent.depart now call)

theorem Spent.poll (spent : Spent s) {stream : Nat} {found : Poll Snapshot} {s' : Subscription}
    (polled : s.poll? stream = some (found, s')) : Fades s s' := by
  obtain ⟨found, _, same⟩ := Option.map_eq_some_iff.mp polled
  cases same
  exact ⟨⟨spent.ended, spent.stopped⟩, fun none => by simp [none], fun _ => id, id, rfl⟩

theorem Spent.close (spent : Spent s) (transport : Transport) :
    Fades s (s.close transport).1 ∧ (s.close transport).2.attempts = [] := by
  rw [Subscription.close]
  split
  · exact ⟨spent.refl, rfl⟩
  · simp only [teardown, sendStop, spent.stopped, if_true]
    exact ⟨⟨⟨rfl, rfl⟩, id, Awaited.callers_settle s.next .cancelled, id, rfl⟩, rfl⟩

theorem Spent.runTasks (spent : Spent s) (now period : Nat) (transport : Transport) :
    Fades s (s.runTasks now period transport).1 ∧
      (s.runTasks now period transport).2.attempts = [] := by
  -- The timer may still fire, but there is no stop left to send.
  have timed : Fades s (s.runTimer now transport).1 ∧
      (s.runTimer now transport).2.attempts = [] := by
    rw [Subscription.runTimer]
    generalize s.timer.settle now (fun _ => s.ended) = result
    obtain ⟨fired, timer⟩ := result
    have settled : Fades s { s with timer } :=
      ⟨⟨spent.ended, spent.stopped⟩, id, fun _ => id, id, rfl⟩
    cases fired
    · exact ⟨settled, rfl⟩
    · simp only [if_true, onIdle]
      split
      · exact ⟨settled, rfl⟩
      · obtain ⟨fades, quiet⟩ := settled.spent.close transport
        exact ⟨settled.trans fades, quiet⟩
  obtain ⟨fades, quiet⟩ := timed
  obtain ⟨same, nothing⟩ := fades.spent.ends transport
  have ends : Fades (s.runTimer now transport).1
      { (s.runTimer now transport).1 with keepalive := none } :=
    ⟨⟨fades.spent.ended, fades.spent.stopped⟩, id, fun _ => id, id, rfl⟩
  rw [Subscription.runTasks, if_pos spent.ended]
  simp only [same, nothing, Emission.none_append, Emission.append_none]
  exact ⟨fades.trans ends, quiet⟩

/-- When the scope of an open subscription has ended, its timer does nothing or closes it. -/
theorem Open.runTimer_ended (isOpen : Open born s) (now : Nat) {transport : Transport}
    (works : transport .stop = none) :
    (∃ timer, s.endScope.runTimer now transport = ({ s with ended := true, timer }, .none)) ∨
    ∃ after returns, s.endScope.runTimer now transport = (after, ⟨[⟨.stop, none⟩], returns⟩) ∧
      Closes s after := by
  rw [Subscription.runTimer]
  generalize s.endScope.timer.settle now (fun _ => s.endScope.ended) = result
  obtain ⟨fired, timer⟩ := result
  cases fired with
  | false => exact .inl ⟨timer, rfl⟩
  | true =>
    simp only [if_true, onIdle]
    split
    · exact .inl ⟨timer, rfl⟩
    · obtain ⟨after, returns, run, closes⟩ := close_unclosed (s := { s.endScope with timer })
        isOpen.unclosed isOpen.unstopped isOpen.awaited works
      exact .inr ⟨after, returns, run, closes.congr rfl rfl rfl⟩

/-- When its scope ends from outside, an open subscription sends the stop. -/
theorem Open.released (isOpen : Open born s) (now period : Nat) {transport : Transport}
    (works : transport .stop = none) :
    Spent (s.endScope.runTasks now period transport).1 ∧
      (s.endScope.runTasks now period transport).2.attempts = [⟨.stop, none⟩] ∧
      ∀ c ∈ (s.endScope.runTasks now period transport).1.next.callers, c ∈ s.next.callers := by
  have ended : s.endScope.ended = true := rfl
  rw [Subscription.runTasks, if_pos ended]
  rcases isOpen.runTimer_ended now works with ⟨timer, run⟩ | ⟨after, returns, run, closes⟩
  · -- The keepalive sees the end of the scope and sends the stop.
    simp only [run, keepaliveEnds?, isOpen.renewing, sendStop, isOpen.unstopped, works]
    exact ⟨⟨rfl, rfl⟩, rfl, fun _ => id⟩
  · obtain ⟨same, quiet⟩ := closes.spent.ends transport
    simp only [run, same, quiet, Emission.none_append, Emission.append_none, closes.callers]
    exact ⟨⟨closes.spent.ended, closes.spent.stopped⟩, trivial, nofun⟩

theorem Spent.endScope (spent : Spent s) : s.endScope = s := by
  rw [Subscription.endScope, ← spent.ended]

theorem Fades.unobserved {s' : Subscription} (fades : Fades s s')
    (unobserved : s.observed born = false) : s'.observed born = false := by
  simp only [observed, Bool.or_eq_false_iff, Bool.not_eq_false', List.isEmpty_iff] at unobserved ⊢
  obtain ⟨⟨⟨streams, callers⟩, answered⟩, promoted⟩ := unobserved
  refine ⟨⟨⟨fades.streams streams, ?_⟩, fades.answered answered⟩, by rw [fades.feed, promoted]⟩
  refine List.any_eq_false.mpr fun c member => ?_
  exact List.any_eq_false.mp callers c (fades.callers c member)

end Subscription

end Client

end ObservationFeed
