import ObservationFeed.Proofs.Client.Outline

/-!
# What shows of a subscription

How each act changes the interval, the published values and the waiting calls of
a subscription, and whom it answers.  Tasks answer nobody but the callers of a
subscription that they close.
-/

namespace ObservationFeed.Client

namespace Awaited

@[simp] theorem calls_join (a : Awaited) (call : Nat) (parked : Bool) :
    (a.join call parked).calls = a.calls ++ [call] :=
  List.map_append

@[simp] theorem calls_leave (a : Awaited) (call : Nat) :
    (a.leave call).calls = a.calls.filter (· ≠ call) := by
  rw [calls, leave, calls, List.filter_map]
  rfl

@[simp] theorem calls_fresh : fresh.calls = [] := rfl

/-- Settling a value answers the calls that wait for it. -/
theorem settle_pending {a : Awaited} (awaited : a.value = .pending) (outcome : Deferred Snapshot)
    {result : Except SyncError Snapshot} (settles : outcome.result? = some result) :
    a.settle outcome = (⟨outcome, []⟩, answerAll result a.calls) := by
  simp only [settle, awaited, Deferred.settle, settles, answerAll, calls, List.map_map]
  rfl

/-- Where nobody waits nobody is answered. -/
theorem settle_nobody {a : Awaited} (nobody : a.callers = []) (outcome : Deferred Snapshot) :
    (a.settle outcome).2 = [] := by
  simp only [settle, nobody]
  split <;> rfl

theorem callers_cancel (a : Awaited) : (a.settle .cancelled).1.callers = [] := by
  rw [settle]
  cases a.value <;> rfl

theorem has_iff {a : Awaited} {call : Nat} : a.has call = true ↔ call ∈ a.calls := by
  rw [has, List.any_eq_true, calls, List.mem_map]
  simp only [decide_eq_true_eq]

end Awaited

namespace Subscription

variable {born : Bool} {now : Nat} {s : Subscription}

/-- Everything that shows of two subscriptions is the same. -/
structure Alike (s s' : Subscription) : Prop where
  interval : s'.interval = s.interval
  feed : s'.feed = s.feed
  calls : s'.next.calls = s.next.calls

theorem alike_updateLiveness (s : Subscription) (now : Nat) (change : Liveness → Liveness) :
    Alike s (s.updateLiveness now change) := by
  rw [updateLiveness]
  split
  · exact ⟨rfl, rfl, rfl⟩
  · exact ⟨rfl, rfl, rfl⟩

theorem alike_attached (s : Subscription) (now : Nat) : Alike s (s.attached now) := by
  obtain ⟨interval, feed, calls⟩ :=
    alike_updateLiveness s now fun l => { l with consumers := l.consumers + 1 }
  exact ⟨interval, feed, calls⟩

theorem alike_detach (s : Subscription) (now stream : Nat) : Alike s (s.detach now stream) := by
  rw [detach]
  split
  · obtain ⟨interval, feed, calls⟩ := alike_updateLiveness
      { s with streams := s.streams.filter (·.1 ≠ stream) } now
      fun l => { l with consumers := l.consumers - 1 }
    exact ⟨interval, feed, calls⟩
  · exact ⟨rfl, rfl, rfl⟩

theorem alike_poll {stream : Nat} {found : Poll Snapshot} {s' : Subscription}
    (polled : s.poll? stream = some (found, s')) : Alike s s' := by
  obtain ⟨found, _, same⟩ := Option.map_eq_some_iff.mp polled
  cases same
  exact ⟨rfl, rfl, rfl⟩

/-! ## Calls that come and go -/

theorem shown_withParked (s : Subscription) (now call : Nat) :
    (s.withParked now call).interval = s.interval ∧ (s.withParked now call).feed = s.feed ∧
      (s.withParked now call).next.calls = s.next.calls ++ [call] := by
  obtain ⟨interval, feed, -⟩ :=
    alike_updateLiveness s now fun l => { l with waiters := l.waiters + 1 }
  exact ⟨interval, feed, Awaited.calls_join ..⟩

theorem alike_depart (s : Subscription) (now call : Nat) : Alike s (s.depart now call) := by
  rw [depart]
  split
  · obtain ⟨interval, feed, calls⟩ := alike_updateLiveness
      { s with answered := s.answered.eraseP (·.call = call) } now
      fun l => { l with waiters := l.waiters - 1 }
    exact ⟨interval, feed, calls⟩
  · exact ⟨rfl, rfl, rfl⟩

theorem shown_abort (s : Subscription) (now call : Nat) :
    (s.abort now call).interval = s.interval ∧ (s.abort now call).feed = s.feed ∧
      (s.abort now call).next.calls = s.next.calls.filter (· ≠ call) := by
  obtain ⟨interval, feed, calls⟩ := alike_depart (s.forgo now call) now call
  rw [abort, interval, feed, calls, forgo]
  split
  · obtain ⟨interval, feed, calls⟩ := alike_updateLiveness { s with next := s.next.leave call } now
      fun l => { l with waiters := l.waiters - 1 }
    exact ⟨interval, feed, calls.trans (Awaited.calls_leave ..)⟩
  · exact ⟨rfl, rfl, Awaited.calls_leave ..⟩

theorem publish_stale {tick : Option Int64} (stale : s.isStale tick = true) (now : Nat)
    (snapshot : Snapshot) : s.publish now snapshot tick = (s, []) := by
  rw [publish, if_pos stale]

theorem accept_stale {tick : Option Int64} (stale : s.isStale tick = true) (now : Nat)
    (snapshot : Snapshot) : s.accept now snapshot tick = (s, []) := by
  rw [accept, if_pos stale]

/-- A response that is applied answers everyone who waits. -/
theorem shown_publish (awaited : s.next.value = .pending) {tick : Option Int64}
    (fresh : s.isStale tick = false) (now : Nat) (snapshot : Snapshot) :
    (s.publish now snapshot tick).1.interval = s.interval ∧
      (s.publish now snapshot tick).1.feed = s.feed.publish snapshot ∧
      (s.publish now snapshot tick).1.next.calls = [] ∧
      (s.publish now snapshot tick).2 = answerAll (.ok snapshot) s.next.calls := by
  have settled := Awaited.settle_pending awaited (.completed snapshot) rfl
  rw [publish, if_neg (by rw [fresh]; exact Bool.false_ne_true)]
  simp only [settled, unpark]
  obtain ⟨interval, feed, calls⟩ := alike_updateLiveness
    ({ s with
        next := .fresh, highest := tick.or s.highest, feed := s.feed.publish snapshot }.updateLiveness
      now fun l => { l with promoted := false }) now
    fun l => { l with waiters := l.waiters - s.next.parkedCount }
  obtain ⟨interval', feed', calls'⟩ := alike_updateLiveness
    { s with next := .fresh, highest := tick.or s.highest, feed := s.feed.publish snapshot } now
    fun l => { l with promoted := false }
  exact ⟨interval.trans interval', feed.trans feed', calls.trans calls', trivial⟩

/-! ## Closing -/

theorem returns_sendStop (s : Subscription) (transport : Transport) :
    (s.sendStop transport).2.returns = [] := by
  rw [sendStop]
  split <;> rfl

theorem returns_close (s : Subscription) (transport : Transport) :
    (s.close transport).2.returns =
      if s.liveness.closed then [] else (s.next.settle .cancelled).2 := by
  rw [close]
  split
  · rfl
  · simp only [teardown]
    refine (congrArg ((s.next.settle .cancelled).2 ++ ·) (returns_sendStop ..)).trans ?_
    exact List.append_nil _

theorem closed_sendStop (s : Subscription) (transport : Transport) :
    (s.sendStop transport).1.liveness = s.liveness := by
  rw [sendStop]
  split <;> rfl

theorem closed_close (s : Subscription) (transport : Transport) :
    (s.close transport).1.liveness.closed = true := by
  rw [close]
  split
  · next closed => exact closed
  · rw [teardown]
    simp only [closed_sendStop]

/-- Closing an open subscription sends its stop and cancels the calls that wait for it. -/
theorem Open.dismisses (isOpen : Open born s) {transport : Transport}
    (works : transport .stop = none) :
    ∃ after, s.close transport =
        (after, ⟨[⟨.stop, none⟩], answerAll (.error .cancelled) s.next.calls⟩) ∧
      Closes s after := by
  obtain ⟨after, returns, run, closes⟩ := isOpen.close works
  have answers := returns_close s transport
  rw [run, isOpen.unclosed, Awaited.settle_pending isOpen.awaited .cancelled rfl]
    at answers
  cases answers
  exact ⟨after, run, closes⟩

/-- Nothing comes of closing a subscription that is over and that nobody waits for. -/
theorem Spent.close_quiet (spent : Spent s) (nobody : s.next.callers = [])
    (transport : Transport) : (s.close transport).2 = .none := by
  have attempts := (spent.close transport).2
  have returns := returns_close s transport
  rw [Awaited.settle_nobody nobody, ite_self] at returns
  generalize (s.close transport).2 = emission at attempts returns ⊢
  obtain ⟨sent, answered⟩ := emission
  cases attempts
  cases returns
  rfl

/-! ## Tasks -/

/-- The answers of a subscription that may have been closed. -/
def dismissal (s after : Subscription) : List Return :=
  if !s.liveness.closed && after.liveness.closed then (s.next.settle .cancelled).2 else []

theorem returns_runTimer (s : Subscription) (now : Nat) (transport : Transport) :
    (s.runTimer now transport).2.returns = s.dismissal (s.runTimer now transport).1 := by
  have unchanged (timer : CleanupTimer) : s.dismissal { s with timer } = [] := by
    simp [dismissal]
  rw [runTimer]
  generalize s.timer.settle now (fun _ => s.ended) = result
  obtain ⟨fired, timer⟩ := result
  cases fired with
  | false => exact (unchanged timer).symm
  | true =>
    simp only [if_true, onIdle]
    split
    · exact (unchanged timer).symm
    · rw [returns_close, dismissal, closed_close]
      cases s.liveness.closed <;> rfl

/-- The tasks of a subscription cancel the callers of one that they close, and answer nobody
else. -/
theorem returns_runTasks (s : Subscription) (now period : Nat) {transport : Transport}
    (works : ∀ kind, transport kind = none) :
    (s.runTasks now period transport).2.returns =
      s.dismissal (s.runTasks now period transport).1 := by
  -- The renewal touches nothing that counts here.
  have renewal : ∃ keepalive attempts, (if s.ended then (s, Emission.none)
      else (s.keepaliveWakes? now period transport).getD (s, .none)) =
        ({ s with keepalive }, ⟨attempts, []⟩) := by
    split
    · exact ⟨s.keepalive, [], rfl⟩
    · rw [keepaliveWakes?]
      split
      · exact ⟨s.keepalive, [], rfl⟩
      · split
        · exact ⟨s.keepalive, [], rfl⟩
        · simp only [works]
          exact ⟨_, _, rfl⟩
  obtain ⟨keepalive, attempts, renewed⟩ := renewal
  have timed := returns_runTimer { s with keepalive } now transport
  rw [runTasks, renewed]
  simp only
  generalize ({ s with keepalive } : Subscription).runTimer now transport = result at timed ⊢
  obtain ⟨after, emission⟩ := result
  -- The end of the keepalive may send the stop, but closes nothing.
  have ends : ((after.keepaliveEnds? transport).getD (after, .none)).2.returns = [] ∧
      ((after.keepaliveEnds? transport).getD (after, .none)).1.liveness = after.liveness := by
    rw [keepaliveEnds?]
    split
    · exact ⟨returns_sendStop .., closed_sendStop ..⟩
    · exact ⟨rfl, rfl⟩
  obtain ⟨silent, liveness⟩ := ends
  have all : (⟨attempts, []⟩ ++ emission ++
      ((after.keepaliveEnds? transport).getD (after, .none)).2 : Emission).returns =
      emission.returns := by
    change ([] ++ emission.returns) ++ _ = emission.returns
    rw [silent, List.append_nil, List.nil_append]
  rw [dismissal, liveness]
  exact all.trans timed

/-- What shows of the tasks of an open subscription: they renew it, and if they close it they send
its stop and cancel the calls that wait for it. -/
theorem Open.shown_runTasks (isOpen : Open born s) {last period : Nat} {transport : Transport}
    (works : ∀ kind, transport kind = none)
    (ran : Ran now last period s (s.runTasks now period transport)) :
    ∃ renewals,
      ((s.runTasks now period transport).1.liveness.closed = false ∧
        Alike s (s.runTasks now period transport).1 ∧
        (s.runTasks now period transport).2 =
          ⟨List.replicate renewals ⟨.keepalive s.interval, none⟩, []⟩) ∨
      (s.liveness.isLive = false ∧ (s.runTasks now period transport).1.liveness.closed = true ∧
        (s.runTasks now period transport).2 =
          ⟨List.replicate renewals ⟨.keepalive s.interval, none⟩ ++ [⟨.stop, none⟩],
            answerAll (.error .cancelled) s.next.calls⟩) := by
  have answers := returns_runTasks s now period works
  rw [dismissal, isOpen.unclosed, Awaited.settle_pending isOpen.awaited .cancelled rfl]
    at answers
  generalize s.runTasks now period transport = result at ran answers ⊢
  cases ran with
  | goesOn keepalive timer attempts clocked rested window early renewed =>
    refine ⟨attempts.length, .inl ⟨isOpen.unclosed, ⟨rfl, rfl, rfl⟩, ?_⟩⟩
    rw [← List.eq_replicate_iff.mpr ⟨rfl, renewed.renewals⟩]
  | closes after attempts returns idle come closes renewals =>
    simp only [closes.closed] at answers
    refine ⟨attempts.length, .inr ⟨idle, closes.closed, ?_⟩⟩
    rw [← List.eq_replicate_iff.mpr ⟨rfl, renewals⟩, answers]
    rfl

end Subscription

end ObservationFeed.Client
