import ObservationFeed.Proofs.Client.PlaceTasks
import ObservationFeed.Proofs.Client.Turned

/-!
# Sound places whose timers are in order

Tasks may be late here, and the transport may refuse what they send.  `Ticks`
ties the timer of an open subscription to some last moment of interest.  What a
task makes of a subscription is `Tended`: the subscription goes on with its timer
in order, or closes, or was over before.  That composes, and it keeps the place
fit.
-/

namespace ObservationFeed.Client

open CleanupTimer Subscription

namespace Subscription

variable {born : Bool} {now time : Nat} {s s' : Subscription}

/-- The timer is armed exactly while there is no interest, for a window after some moment. -/
def Ticks (now : Nat) (s : Subscription) : Prop :=
  ∃ last, s.timer.Clocked now last s.liveness.isLive

theorem Ticks.later (ticks : s.Ticks now) (later : now ≤ time) : s.Ticks time := by
  obtain ⟨last, clocked⟩ := ticks
  exact ⟨_, clocked.later later⟩

theorem Goes.ticks (goes : Goes born now s s') (ticks : s.Ticks now) : s'.Ticks now := by
  obtain ⟨last, clocked⟩ := ticks
  refine ⟨seen s'.liveness.isLive now last, ?_⟩
  rw [goes.timer]
  exact clocked.edge s'.liveness.isLive

/-! ## What tasks make of a subscription -/

/-- Open with its timer in order, or over. -/
def Tidy (born : Bool) (now : Nat) (s : Subscription) : Prop :=
  (Open born s ∧ s.Ticks now) ∨ Spent s

theorem Tidy.ticks (tidy : s.Tidy born now) (isOpen : Open born s) : s.Ticks now := by
  rcases tidy with ⟨-, ticks⟩ | spent
  · exact ticks
  · exact isOpen.not_spent spent

/-- What tasks leave of a subscription that is over. -/
structure Rests (s s' : Subscription) : Prop where
  spent : Spent s'
  closed : s.liveness.closed = true → s'.liveness.closed = true
  streams : s'.streams = s.streams
  feed : s'.feed = s.feed
  answered : s'.answered = s.answered
  callers : ∀ c ∈ s'.next.callers, c ∈ s.next.callers

/-- What tasks make of a tidy subscription, whatever the transport takes. -/
inductive Tended (born : Bool) (now : Nat) (s : Subscription) : Subscription → Prop where
  | goesOn (keepalive : Nat) (timer : CleanupTimer) :
      Open born s → ({ s with keepalive := some keepalive, timer } : Subscription).Ticks now →
      Tended born now s { s with keepalive := some keepalive, timer }
  | closes (after : Subscription) : Open born s → Closes s after → Tended born now s after
  | rests (after : Subscription) : Spent s → Rests s after → Tended born now s after

theorem Tended.tidy (tended : Tended born now s s') : s'.Tidy born now := by
  cases tended with
  | goesOn keepalive timer isOpen ticks => exact .inl ⟨{ isOpen with renewing := rfl }, ticks⟩
  | closes _ _ closes => exact .inr closes.spent
  | rests _ _ rests => exact .inr rests.spent

theorem Spent.rests (spent : Spent s) : Rests s s := ⟨spent, id, rfl, rfl, rfl, fun _ => id⟩

theorem Rests.trans {a b c : Subscription} (first : Rests a b) (second : Rests b c) : Rests a c where
  spent := second.spent
  closed closed := second.closed (first.closed closed)
  streams := second.streams.trans first.streams
  feed := second.feed.trans first.feed
  answered := second.answered.trans first.answered
  callers caller member := first.callers caller (second.callers caller member)

theorem tended_refl (tidy : s.Tidy born now) : Tended born now s s := by
  rcases tidy with ⟨isOpen, ticks⟩ | spent
  · obtain ⟨keepalive, renewing⟩ := Option.isSome_iff_exists.mp isOpen.renewing
    have same : { s with keepalive := some keepalive } = s := by rw [← renewing]
    have goesOn : Tended born now s { s with keepalive := some keepalive } :=
      .goesOn keepalive s.timer isOpen ticks
    rwa [same] at goesOn
  · exact .rests s spent spent.rests

theorem Tended.trans {a b c : Subscription} (first : Tended born now a b)
    (second : Tended born now b c) : Tended born now a c := by
  cases first with
  | goesOn keepalive timer isOpen ticks =>
    have stays : Open born { a with keepalive := some keepalive, timer } :=
      { isOpen with renewing := rfl }
    cases second with
    | goesOn keepalive timer _ ticks => exact .goesOn keepalive timer isOpen ticks
    | closes _ _ closes =>
      exact .closes c isOpen (closes.congr rfl rfl rfl)
    | rests _ spent _ => exact stays.not_spent spent
  | closes _ isOpen closes =>
    cases second with
    | goesOn _ _ isOpen _ => exact isOpen.not_spent closes.spent
    | closes _ isOpen _ => exact isOpen.not_spent closes.spent
    | rests _ _ rests =>
      have nobody : c.next.callers = [] := List.eq_nil_iff_forall_not_mem.mpr fun caller member => by
        have older := rests.callers caller member
        rw [closes.callers] at older
        cases older
      exact .closes c isOpen ⟨rests.closed closes.closed, rests.spent,
        rests.streams.trans closes.streams, rests.feed.trans closes.feed,
        rests.answered.trans closes.answered, nobody⟩
  | rests _ spent rests =>
    cases second with
    | goesOn _ _ isOpen _ => exact isOpen.not_spent rests.spent
    | closes _ isOpen _ => exact isOpen.not_spent rests.spent
    | rests _ _ later =>
      exact .rests c spent (rests.trans later)

/-! ## One task after the other -/

/-- An open subscription closes whether or not its stop was noted before, and whether or not it is
taken. -/
theorem closes_close (unclosed : s.liveness.closed = false) (awaited : s.next.value = .pending)
    (transport : Transport) : Closes s (s.close transport).1 := by
  simp only [Subscription.close, unclosed, teardown, Awaited.settle, awaited, Deferred.settle,
    Deferred.result?, sendStop]
  cases s.stopSent with
  | true => exact ⟨rfl, ⟨rfl, rfl⟩, rfl, rfl, rfl, rfl⟩
  | false => exact ⟨rfl, ⟨rfl, rfl⟩, rfl, rfl, rfl, rfl⟩

theorem Spent.rests_close (spent : Spent s) (transport : Transport) :
    Rests s (s.close transport).1 := by
  rw [Subscription.close]
  split
  · exact spent.rests
  · simp only [teardown, sendStop, spent.stopped, if_true]
    exact ⟨⟨rfl, rfl⟩, fun _ => rfl, rfl, rfl, rfl, Awaited.callers_settle s.next .cancelled⟩

/-- The keepalive task moves its own time only, or closes the subscription when it is refused. -/
theorem tended_keepaliveWakes (tidy : s.Tidy born now) {period : Nat} {transport : Transport}
    {result : Subscription × Emission}
    (wakes : s.keepaliveWakes? now period transport = some result) :
    Tended born now s result.1 := by
  rw [keepaliveWakes?] at wakes
  split at wakes
  · cases wakes
  · split at wakes
    · cases wakes
    · simp only at wakes
      split at wakes
      · cases wakes
        rcases tidy with ⟨isOpen, ticks⟩ | spent
        · exact .goesOn (now + period) s.timer isOpen ticks
        · exact .rests _ spent ⟨⟨spent.ended, spent.stopped⟩, id, rfl, rfl, rfl, fun _ => id⟩
      · cases wakes
        rcases tidy with ⟨isOpen, -⟩ | spent
        · have closes := closes_close (s := { s with keepalive := none, stopSent := true })
            isOpen.unclosed isOpen.awaited transport
          exact .closes _ isOpen (closes.congr rfl rfl rfl)
        · have silent : Rests s { s with keepalive := none, stopSent := true } :=
            ⟨⟨spent.ended, rfl⟩, id, rfl, rfl, rfl, fun _ => id⟩
          exact .rests _ spent (silent.trans (silent.spent.rests_close transport))

/-- A task of the timer that does not fire leaves the timer in order. -/
theorem tended_still (tidy : s.Tidy born now) {timer : CleanupTimer}
    (stays : Open born s → ({ s with timer } : Subscription).Ticks now) :
    Tended born now s { s with timer } := by
  rcases tidy with ⟨isOpen, -⟩ | spent
  · obtain ⟨keepalive, renewing⟩ := Option.isSome_iff_exists.mp isOpen.renewing
    have same : { s with keepalive := some keepalive, timer } = { s with timer } := by
      rw [← renewing]
    have goesOn : Tended born now s { s with keepalive := some keepalive, timer } :=
      .goesOn keepalive timer isOpen (stays isOpen)
    rwa [same] at goesOn
  · exact .rests _ spent ⟨⟨spent.ended, spent.stopped⟩, id, rfl, rfl, rfl, fun _ => id⟩

/-- A task of the timer that fires closes the subscription. -/
theorem tended_fires (tidy : s.Tidy born now) (timer : CleanupTimer)
    (idle : Open born s → s.liveness.isLive = false) (transport : Transport) :
    Tended born now s ({ s with timer }.onIdle transport).1 := by
  rw [onIdle]
  rcases tidy with ⟨isOpen, -⟩ | spent
  · have closes := closes_close (s := { s with timer }) isOpen.unclosed isOpen.awaited transport
    simp only [idle isOpen, Bool.false_eq_true, if_false]
    exact .closes _ isOpen (closes.congr rfl rfl rfl)
  · have settled : Rests s { s with timer } :=
      ⟨⟨spent.ended, spent.stopped⟩, id, rfl, rfl, rfl, fun _ => id⟩
    split
    · exact .rests _ spent settled
    · exact .rests _ spent (settled.trans (settled.spent.rests_close transport))

theorem tended_runTimer (tidy : s.Tidy born now) (transport : Transport) :
    Tended born now s (s.runTimer now transport).1 := by
  rw [Subscription.runTimer]
  have settled (isOpen : Open born s) :
      ∃ last, s.timer.Clocked now last s.liveness.isLive ∧
        Settled now s.timer (s.timer.settle now fun _ => s.ended) := by
    obtain ⟨last, clocked⟩ := tidy.ticks isOpen
    rw [isOpen.goesOn]
    exact ⟨last, clocked, settle_settled clocked.orderly⟩
  generalize s.timer.settle now (fun _ => s.ended) = result at settled ⊢
  obtain ⟨fired, timer⟩ := result
  cases fired with
  | false =>
    refine tended_still tidy fun isOpen => ?_
    obtain ⟨last, clocked, settled⟩ := settled isOpen
    rcases clocked.settles settled with ⟨-, clocked, -⟩ | ⟨fires, -⟩
    · exact ⟨last, clocked⟩
    · cases fires
  | true =>
    refine tended_fires tidy timer (fun isOpen => ?_) transport
    obtain ⟨last, clocked, settled⟩ := settled isOpen
    rcases clocked.settles settled with ⟨still, -⟩ | ⟨-, idle, -⟩
    · cases still
    · exact idle

/-- The keepalive task sees the end of the scope of one that is over, and has no stop to send. -/
theorem tended_keepaliveEnds (tidy : s.Tidy born now) {transport : Transport}
    {result : Subscription × Emission} (ends : s.keepaliveEnds? transport = some result) :
    Tended born now s result.1 := by
  rw [keepaliveEnds?] at ends
  split at ends
  · next ended =>
    rw [Bool.and_eq_true] at ended
    rcases tidy with ⟨isOpen, -⟩ | spent
    · rw [isOpen.goesOn] at ended
      cases ended.1
    · cases ends
      simp only [sendStop, spent.stopped, if_true]
      exact .rests _ spent ⟨⟨spent.ended, rfl⟩, id, rfl, rfl, rfl, fun _ => id⟩
  · cases ends

/-- All tasks of a subscription. -/
theorem tended_runTasks (tidy : s.Tidy born now) (period : Nat) (transport : Transport) :
    Tended born now s (s.runTasks now period transport).1 := by
  have renewed : Tended born now s (if s.ended then (s, Emission.none)
      else (s.keepaliveWakes? now period transport).getD (s, .none)).1 := by
    split
    · exact tended_refl tidy
    · cases wakes : s.keepaliveWakes? now period transport with
      | none => exact tended_refl tidy
      | some result => exact tended_keepaliveWakes tidy wakes
  rw [Subscription.runTasks]
  generalize (if s.ended then (s, Emission.none)
    else (s.keepaliveWakes? now period transport).getD (s, .none)) = first at renewed
  obtain ⟨first, renewal⟩ := first
  have timed := renewed.trans (tended_runTimer renewed.tidy transport)
  simp only
  generalize first.runTimer now transport = second at timed
  obtain ⟨second, firing⟩ := second
  cases ends : second.keepaliveEnds? transport with
  | none => exact timed
  | some result => exact timed.trans (tended_keepaliveEnds timed.tidy ends)

end Subscription

/-! ## Places -/

namespace Place

/-- A sound place where the timers of open subscriptions are in order. -/
structure Fit (born : Nat → Bool) (now : Nat) (p : Place) : Prop where
  sound : p.Sound born
  ticks : ∀ n s, p.subscription? n = some s → Open (born n) s → s.Ticks now

variable {born born' : Nat → Bool} {now time : Nat} {p : Place} {n : Nat}
  {s s' : Subscription}

theorem fit_empty (born : Nat → Bool) (now : Nat) : empty.Fit born now :=
  ⟨sound_empty born, fun n s found => absurd found (not_found_empty n s)⟩

theorem Fit.later (fit : p.Fit born now) (later : now ≤ time) : p.Fit born time :=
  ⟨fit.sound, fun n s found isOpen => (fit.ticks n s found isOpen).later later⟩

theorem Fit.congr (fit : p.Fit born now)
    (same : ∀ n s, p.subscription? n = some s → born' n = born n) : p.Fit born' now where
  sound := fit.sound.congr same
  ticks n s found isOpen := fit.ticks n s found (same n s found ▸ isOpen)

theorem Fit.tidy (fit : p.Fit born now) (found : p.subscription? n = some s) :
    s.Tidy (born n) now := by
  rcases fit.sound.each n s found with isOpen | spent
  · exact .inl ⟨isOpen, fit.ticks n s found isOpen⟩
  · exact .inr spent

/-! ## Operations -/

/-- A subscription that an act leaves open was open before, and its timer is still in order. -/
theorem Fit.moves (fit : p.Fit born now) (found : p.subscription? n = some s)
    (moves : Moves (born n) now s s') (isOpen : Open (born n) s') : s'.Ticks now := by
  cases moves with
  | goes wasOpen goes => exact goes.ticks (fit.ticks n s found wasOpen)
  | fades _ fades => exact isOpen.not_spent fades.spent

/-- An operation leaves a fit place fit, where what it opens is born of the call that is pending. -/
theorem Fit.turned_born (fit : p.Fit born now) {period window : Nat} {byHand : Nat → Prop}
    {result : Place × List Attempt} (turned : Turned born ⟨now, period, window⟩ byHand p result)
    (same : ∀ n s, p.subscription? n = some s → born' n = born n)
    (fresh : ∀ n, p.subscription? n = none → born' n = p.call?.isSome) :
    result.1.Fit born' now := by
  refine ⟨turned.sound fit.sound same fresh, fun n s' found isOpen => ?_⟩
  rcases turned.each fit.sound found with
    ⟨s, before, moves⟩ | ⟨absent, newborn⟩ | ⟨hand, s, before, wasOpen, closes⟩
  · rw [same n s before] at isOpen
    exact fit.moves before moves isOpen
  · refine ⟨now, ?_⟩
    rw [newborn.live]
    exact newborn.clocked
  · exact isOpen.not_spent closes.spent

theorem Fit.turned (fit : p.Fit born now) {period window : Nat} {byHand : Nat → Prop}
    {result : Place × List Attempt} (turned : Turned born ⟨now, period, window⟩ byHand p result) :
    ∃ born', result.1.Fit born' now :=
  ⟨fun n => if (p.subscription? n).isSome then born n else p.call?.isSome,
    fit.turned_born turned (fun _ _ found => by simp [found]) fun _ absent => by simp [absent]⟩

/-! ## Tasks -/

/-- One subscription is changed, and stays open or over. -/
theorem Sound.set (sound : p.Sound born) (found : p.subscription? n = some s)
    (either : Open (born n) s' ∨ Spent s') (same : s'.isClosed = s.isClosed)
    (callers : ∀ c ∈ s'.next.callers, c ∈ s.next.callers) : (p.set n s').Sound born := by
  have looked := subscription?_set found s'
  refine ⟨?_, ?_, ?_, sound.single⟩
  · intro m other there
    rw [looked] at there
    split at there
    · next here =>
      cases there
      exact here ▸ either
    · exact sound.each m other there
  · intro m
    refine (sound.entry m).trans ?_
    rw [looked]
    by_cases here : n = m
    · subst here
      rw [if_pos rfl, found]
      simp only [Option.some_inj, exists_eq_left', same]
    · rw [if_neg here]
  · intro m other there c member
    rw [looked] at there
    split at there
    · next here =>
      cases there
      exact sound.called m s (here ▸ found) c (callers c member)
    · exact sound.called m other there c member

theorem Fit.set (fit : p.Fit born now) (found : p.subscription? n = some s)
    (tidy : s'.Tidy (born n) now) (same : s'.isClosed = s.isClosed)
    (callers : ∀ c ∈ s'.next.callers, c ∈ s.next.callers) : (p.set n s').Fit born now := by
  refine ⟨fit.sound.set found (tidy.imp_left (·.1)) same callers, fun m other there isOpen => ?_⟩
  rw [subscription?_set found s'] at there
  split at there
  · next here =>
    cases there
    exact tidy.ticks (here ▸ isOpen)
  · exact fit.ticks m other there isOpen

/-- What a task makes of a subscription keeps its place fit. -/
theorem Fit.tended (fit : p.Fit born now) (found : p.subscription? n = some s)
    (tended : Tended (born n) now s s') : ((p.set n s').settleEntry n s s').Fit born now := by
  have tidy := tended.tidy
  rw [settleEntry]
  cases tended with
  | goesOn keepalive timer isOpen ticks =>
    simp only [isOpen.unclosed, Bool.not_false, Bool.and_false, Bool.false_eq_true, if_false]
    exact fit.set found tidy rfl fun _ => id
  | closes _ isOpen closes =>
    -- It was what is pending, and its entry goes.
    have pending := (fit.sound.entry n).mpr ⟨s, found, isOpen.isClosed⟩
    have same : (p.set n s').unlist n = p.closing n s' := by
      simp [unlist, Place.set, pending, closing]
    simp only [isOpen.unclosed, closes.closed, Bool.not_false, Bool.and_self, if_true, same]
    refine ⟨fit.sound.closing pending found closes, fun m other there isOpen => ?_⟩
    have looked : (p.closing n s').subscription? m = if n = m then some s' else p.subscription? m :=
      subscription?_set found s' m
    rw [looked] at there
    split at there
    · cases there
      exact isOpen.not_spent closes.spent
    · exact fit.ticks m other there isOpen
  | rests _ spent rests =>
    -- One that is over is not what is pending, so no entry goes.
    have unlisted : p.pending ≠ some (.subscription n) := by
      intro pending
      obtain ⟨_, there, isOpen⟩ := fit.sound.pendingOpen pending
      cases found.symm.trans there
      exact isOpen.not_spent spent
    have same : (p.set n s').unlist n = p.set n s' := by simp [unlist, Place.set, unlisted]
    rw [same, ite_self]
    exact fit.set found tidy (rests.spent.isClosed.trans spent.isClosed.symm) rests.callers

/-- The tasks of a fit place leave it fit, whatever the transport takes. -/
theorem Fit.runTasks (fit : p.Fit born now) (period window : Nat) (transport : Transport) :
    (p.runTasks ⟨now, period, window⟩ transport).1.Fit born now := by
  -- They run subscription by subscription.
  have upTo (k : Nat) : (runTasksUpTo ⟨now, period, window⟩ transport k p).1.Fit born now := by
    induction k with
    | zero => exact fit
    | succ k ih =>
      cases found : (runTasksUpTo ⟨now, period, window⟩ transport k p).1.subscription? k with
      | none =>
        rw [runTasksUpTo_succ_none _ transport found]
        exact ih
      | some s =>
        rw [runTasksUpTo_succ_some _ transport found]
        exact ih.tended found (tended_runTasks (ih.tidy found) period transport)
  exact upTo p.opened.length

/-- What tasks make of the subscriptions of a place. -/
structure Attended (born : Nat → Bool) (now : Nat) (p p' : Place) : Prop where
  forth : ∀ n s, p.subscription? n = some s →
    ∃ s', p'.subscription? n = some s' ∧ Tended (born n) now s s'
  none : ∀ n, p.subscription? n = none → p'.subscription? n = none

theorem Fit.attended_runTasks (fit : p.Fit born now) (period window : Nat)
    (transport : Transport) :
    Attended born now p (p.runTasks ⟨now, period, window⟩ transport).1 where
  forth n s found := by
    refine ⟨_, ?_, tended_runTasks (fit.tidy found) period transport⟩
    rw [subscription?_runTasks, found]
    rfl
  none n absent := by
    rw [subscription?_runTasks, absent]
    rfl

end Place

end ObservationFeed.Client
