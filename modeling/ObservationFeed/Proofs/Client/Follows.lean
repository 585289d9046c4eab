import ObservationFeed.Proofs.Client.Shown
import ObservationFeed.Proofs.Client.Standing

/-!
# Places follow their outlines

Over a transport that works, every operation at a sound place does to the
outline of the place what one deed does, and lets out the same.  The tasks renew
the live subscription and may close it.

A subscription that is over keeps no callers; `Heard` says so.  Without it the
end of a subscription could answer calls that its outline does not show.
-/

namespace ObservationFeed.Client.Place

open Subscription

variable {born : Nat → Bool} {p p' : Place} {t : Timing} {transport : Transport}

/-! ## Outlines by what is pending -/

theorem outline_idle (pending : p.pending = none) :
    p.outline = ⟨.idle, [], p.nextCall, p.opened.length⟩ := by
  simp only [outline, phase, calls, pending]

theorem outline_asked {awaited : Awaited} (pending : p.pending = some (.single awaited)) :
    p.outline = ⟨.asked, awaited.calls, p.nextCall, p.opened.length⟩ := by
  simp only [outline, phase, calls, pending]

theorem outline_live {n : Nat} {s : Subscription} (pending : p.pending = some (.subscription n))
    (found : p.subscription? n = some s) :
    p.outline = ⟨.subscribed n s.interval s.feed, s.next.calls, p.nextCall, p.opened.length⟩ := by
  simp only [outline, phase, calls, pending, found]

theorem outline_set {n : Nat} {s : Subscription} (pending : p.pending = some (.subscription n))
    (found : p.subscription? n = some s) (s' : Subscription) :
    (p.set n s').outline =
      ⟨.subscribed n s'.interval s'.feed, s'.next.calls, p.nextCall, p.opened.length⟩ := by
  have there : (p.set n s').subscription? n = some s' := by
    rw [subscription?_set found, if_pos rfl]
  rw [outline_live (p := p.set n s') pending there, Place.set, List.length_set]

/-- A subscription that is not pending does not show. -/
theorem outline_set_other {n : Nat} {s : Subscription} (found : p.subscription? n = some s)
    (other : p.pending ≠ some (.subscription n)) (s' : Subscription) :
    (p.set n s').outline = p.outline := by
  cases pending : p.pending with
  | none => rw [outline_idle pending, outline_idle (p := p.set n s') pending, Place.set,
      List.length_set]
  | some what =>
    cases what with
    | single awaited => rw [outline_asked pending, outline_asked (p := p.set n s') pending,
        Place.set, List.length_set]
    | subscription m =>
      have elsewhere : n ≠ m := fun same => other (same ▸ pending)
      have there : (p.set n s').subscription? m = p.subscription? m := by
        rw [subscription?_set found, if_neg elsewhere]
      have pending' : (p.set n s').pending = some (.subscription m) := pending
      simp only [outline, phase, calls, pending, pending', there]
      rw [Place.set, List.length_set]

theorem outline_set_alike {n : Nat} {s s' : Subscription} (found : p.subscription? n = some s)
    (alike : Alike s s') : (p.set n s').outline = p.outline := by
  by_cases pending : p.pending = some (.subscription n)
  · rw [outline_set pending found, outline_live pending found, alike.interval, alike.feed,
      alike.calls]
  · exact outline_set_other found pending s'

/-- What is pending at a sound place, and how the place shows. -/
inductive Shows (born : Nat → Bool) (p : Place) : Prop where
  | idle : p.pending = none → p.outline = ⟨.idle, [], p.nextCall, p.opened.length⟩ → Shows born p
  | asked (awaited : Awaited) : p.pending = some (.single awaited) → awaited.Shared p.nextCall →
      p.outline = ⟨.asked, awaited.calls, p.nextCall, p.opened.length⟩ → Shows born p
  | live (n : Nat) (s : Subscription) : p.pending = some (.subscription n) →
      p.subscription? n = some s → Open (born n) s →
      p.outline = ⟨.subscribed n s.interval s.feed, s.next.calls, p.nextCall, p.opened.length⟩ →
      Shows born p

theorem Sound.shows (sound : p.Sound born) : Shows born p := by
  cases pending : p.pending with
  | none => exact .idle pending (outline_idle pending)
  | some what =>
    cases what with
    | single awaited =>
      exact .asked awaited pending (sound.single awaited pending) (outline_asked pending)
    | subscription n =>
      obtain ⟨s, found, isOpen⟩ := sound.pendingOpen pending
      exact .live n s pending found isOpen (outline_live pending found)

theorem Sound.number?_outline (sound : p.Sound born) (n : Nat) :
    p.outline.phase.number? = some n ↔ p.pending = some (.subscription n) := by
  cases sound.shows with
  | idle pending outline | asked _ pending _ outline =>
    rw [pending, outline]
    exact iff_of_false nofun nofun
  | live m s pending found isOpen outline =>
    rw [pending, outline]
    simp [Phase.number?]

theorem Sound.isSubscribed_outline (sound : p.Sound born) :
    p.outline.phase.isSubscribed = p.isSubscribed := by
  cases sound.shows with
  | idle pending outline | asked _ pending _ outline | live _ _ pending _ _ outline =>
    rw [isSubscribed, pending, outline]
    rfl

/-- What shows as a subscription is the live one. -/
theorem live_of_phase {n : Nat} {every : Interval} {feed : Feed Snapshot}
    (shows : p.outline.phase = .subscribed n every feed) :
    ∃ s, p.live? = some (n, s) ∧ s.interval = every ∧ s.feed = feed ∧
      p.outline.calls = s.next.calls := by
  cases pending : p.pending with
  | none => cases (outline_idle pending) ▸ shows
  | some what =>
    cases what with
    | single awaited => cases (outline_asked pending) ▸ shows
    | subscription m =>
      cases found : p.subscription? m with
      | none =>
        simp only [outline, phase, pending, found] at shows
        cases shows
      | some s =>
        rw [outline_live pending found] at shows ⊢
        cases shows
        exact ⟨s, live?_eq_some.mpr ⟨pending, found⟩, rfl, rfl, rfl⟩

/-! ## Subscriptions that are over -/

/-- Nobody waits for a subscription that is over. -/
def Heard (p : Place) : Prop :=
  ∀ n s, p.subscription? n = some s → Spent s → s.next.callers = []

theorem heard_empty : empty.Heard := fun n s found => absurd found (not_found_empty n s)

theorem Heard.turned {byHand : Nat → Prop} {result : Place × List Attempt} (heard : p.Heard)
    (sound : p.Sound born) (turned : Turned born t byHand p result) : result.1.Heard := by
  intro n s' found spent
  rcases turned.each sound found with
    ⟨s, before, moves⟩ | ⟨-, newborn⟩ | ⟨-, s, before, isOpen, closes⟩
  · cases moves with
    | goes _ goes => exact goes.isOpen.not_spent spent
    | fades wasSpent fades =>
      refine List.eq_nil_iff_forall_not_mem.mpr fun c member => ?_
      have older := fades.callers c member
      rw [heard n s before wasSpent] at older
      cases older
  · exact newborn.isOpen.not_spent spent
  · exact closes.callers

theorem Heard.runTasks {now : Nat} (heard : p.Heard) (fit : p.Fit born now) (period window : Nat)
    (works : ∀ kind, transport kind = none) :
    (p.runTasks ⟨now, period, window⟩ transport).1.Heard := by
  intro n s' found spent
  rw [subscription?_runTasks] at found
  obtain ⟨s, before, rfl⟩ := Option.map_eq_some_iff.mp found
  rcases fit.sound.each n s before with isOpen | wasSpent
  · obtain ⟨last, ran⟩ := fit.ran period works n s before isOpen
    generalize run : s.runTasks now period transport = result at ran
    simp only [Place.ran, run] at spent ⊢
    cases ran with
    | goesOn => exact isOpen.not_spent ⟨spent.ended, spent.stopped⟩
    | closes after attempts returns idle come closes => exact closes.callers
  · refine List.eq_nil_iff_forall_not_mem.mpr fun c member => ?_
    have older := (wasSpent.runTasks now period transport).1.callers c member
    rw [heard n s before wasSpent] at older
    cases older

/-! ## Calls -/

theorem Sound.follows_request (sound : p.Sound born) (t : Timing)
    (works : ∀ kind, transport kind = none) :
    ((p.request t transport).place.outline, (p.request t transport).emission) =
      p.outline.perform .call := by
  cases sound.shows with
  | idle pending outline =>
    rw [outline]
    simp [Place.request, live?, pending, sendSingle, works, outline_asked, Outline.perform,
      Phase.request]
  | asked awaited pending shared outline =>
    rw [outline]
    simp [Place.request, pending, outline_asked, Outline.perform, Phase.request, Emission.none]
  | live n s pending found isOpen outline =>
    obtain ⟨interval, feed, calls⟩ := shown_withParked s t.now p.nextCall
    have shows := outline_set (p := { p with nextCall := p.nextCall + 1 }) pending found
      (s.withParked t.now p.nextCall)
    rw [request_live t transport pending found isOpen.unclosed, outline, shows, interval, feed,
      calls]
    rfl

theorem follows_refuse (p : Place) :
    ((p.refuse .closed).place.outline, (p.refuse .closed).emission) = p.outline.perform .refuse :=
  rfl

theorem Sound.follows_abort (sound : p.Sound born) (t : Timing) (call : Nat) :
    ((p.abort t call).outline, Emission.none) = p.outline.perform (.giveUp call) := by
  rw [Outline.perform]
  cases sound.shows with
  | idle pending outline =>
    rw [outline, outline_idle (p := p.abort t call) (by simp [Place.abort, pending])]
    simp [Place.abort]
  | asked awaited pending shared outline =>
    have left : (p.abort t call).pending = some (.single (awaited.leave call)) := by
      simp [Place.abort, pending]
    rw [outline, outline_asked left]
    simp [Place.abort]
  | live n s pending found isOpen outline =>
    have found' : (p.abort t call).subscription? n = some (s.abort t.now call) :=
      (List.getElem?_map ..).trans (congrArg (Option.map _) found)
    obtain ⟨interval, feed, calls⟩ := shown_abort s t.now call
    rw [outline, outline_live (p := p.abort t call) (by simp [Place.abort, pending]) found',
      interval, feed, calls]
    simp [Place.abort]

/-! ## Streams -/

theorem Sound.follows_subscribe (sound : p.Sound born) (t : Timing) {every : Interval}
    (works : transport (.start every) = none) :
    ((p.subscribe t transport every).place.outline, (p.subscribe t transport every).emission) =
      p.outline.perform (.subscribe every) := by
  rcases sound.live_or_vacant with ⟨n, s, live, pending, found, isOpen⟩ | ⟨none, vacant⟩
  · have attaches : s.attach? t.now = some (s.nextStream, s.attached t.now) :=
      attach?_open isOpen.unclosed
    rw [Place.subscribe, live]
    simp only [Option.bind_some, attaches, Option.map_some]
    rw [outline_set_alike found (alike_attached s t.now), outline_live pending found]
    rfl
  · rw [Place.subscribe, none, Option.bind_none, openSubscription_eq p t works]
    generalize same : (Subscription.begin t.now t.period t.window every p.call?).attached t.now =
      s
    have alike : Alike (Subscription.begin t.now t.period t.window every p.call?) s :=
      same ▸ alike_attached ..
    have there : (p.adding s).subscription? p.opened.length = some s := by
      rw [subscription?_adding, if_pos rfl]
    rw [outline_live (p := p.adding s) rfl there, alike.interval, alike.feed, alike.calls]
    -- The calls of a pending call are handed over, and where none is pending nobody waits.
    cases sound.shows with
    | idle pending outline | asked _ pending _ outline =>
      rw [outline]
      simp [Outline.perform, Phase.isSubscribed, Subscription.begin, call?, pending, Place.adding]
    | live n s pending => exact absurd pending (vacant n)

theorem outline_detach (p : Place) (t : Timing) (number stream : Nat) :
    (p.detach t number stream).2.outline = p.outline := by
  rw [Place.detach]
  split
  · next s found => exact outline_set_alike found (alike_detach s t.now stream)
  · rfl

theorem outline_poll {number stream : Nat} {found : Poll Snapshot}
    (polled : p.poll number stream = some (found, p')) : p'.outline = p.outline := by
  obtain ⟨s, there, answered⟩ := Option.bind_eq_some_iff.mp polled
  obtain ⟨⟨answer, s'⟩, seen, same⟩ := Option.map_eq_some_iff.mp answered
  cases same
  exact outline_set_alike there (alike_poll seen)

/-! ## Responses -/

/-- Whether a response with this tick is applied to what is pending. -/
def takes (p : Place) (tick : Option Int64) : Bool :=
  match p.pending with
  | none => false
  | some (.single _) => true
  | some (.subscription n) => (p.subscription? n).any fun s => !s.isStale tick

theorem Sound.follows_respond (sound : p.Sound born) (t : Timing) (transport : Transport)
    (response : Response) :
    ((p.respond t transport response).place.outline,
      (p.respond t transport response).emission) =
      p.outline.perform
        (if p.takes response.serverTick then .apply response.snapshot else .nothing) := by
  cases sound.shows with
  | idle pending outline =>
    simp only [Place.respond, Place.hand, takes, pending, Bool.false_eq_true, if_false]
    rfl
  | asked awaited pending shared outline =>
    have settled := Awaited.settle_pending shared.awaited (.completed response.snapshot) rfl
    simp only [Place.respond, Place.hand, takes, pending, if_true, settled]
    rw [outline, outline_idle (p := { p with pending := none }) rfl]
    rfl
  | live n s pending found isOpen outline =>
    rw [respond_live t transport response pending found isOpen.isClosed]
    simp only [takes, pending, found, Option.any_some]
    cases stale : s.isStale response.serverTick with
    | true =>
      rw [publish_stale stale, outline_set_alike found ⟨rfl, rfl, rfl⟩]
      rfl
    | false =>
      obtain ⟨interval, feed, calls, returns⟩ :=
        shown_publish isOpen.awaited stale t.now response.snapshot
      rw [outline_set pending found, interval, feed, calls, returns, outline]
      rfl

/-! ## Closing -/

theorem outline_closing (p : Place) (n : Nat) (after : Subscription) :
    (p.closing n after).outline = ⟨.idle, [], p.nextCall, p.opened.length⟩ := by
  rw [outline_idle (p := p.closing n after) rfl, closing, List.length_set]

/-- Closing the pending subscription, whether or not its entry was dropped before. -/
theorem Sound.follows_closePending (sound : p.Sound born) (works : transport .stop = none)
    {n : Nat} (pending : p.pending = some (.subscription n)) {entry : Option Pending}
    (entry_eq : entry = none ∨ entry = some (.subscription n)) :
    ((({ p with pending := entry } : Place).closeSubscription transport n).place.outline,
      (({ p with pending := entry } : Place).closeSubscription transport n).emission) =
      p.outline.perform .close := by
  obtain ⟨s, found, isOpen⟩ := sound.pendingOpen pending
  obtain ⟨after, run, closes⟩ := isOpen.dismisses works
  have there : ({ p with pending := entry } : Place).subscription? n = some s := found
  have closed : (({ p with pending := entry } : Place).closeSubscription transport n).place =
      p.closing n after := by
    rw [Place.closeSubscription, there]
    simp only [run, isOpen.unclosed, Bool.false_eq_true, if_false, unlist, Place.set, Place.closing]
    rcases entry_eq with rfl | rfl
    · rfl
    · rw [if_pos rfl]
  have emission : (({ p with pending := entry } : Place).closeSubscription transport n).emission =
      ⟨[⟨.stop, none⟩], answerAll (.error .cancelled) s.next.calls⟩ := by
    rw [Place.closeSubscription, there]
    simp only [run]
  rw [closed, emission, outline_closing, outline_live pending found]
  rfl

theorem Sound.follows_closeSubscription (sound : p.Sound born) (heard : p.Heard)
    (works : transport .stop = none) (number : Nat) :
    ((p.closeSubscription transport number).place.outline,
      (p.closeSubscription transport number).emission) =
      p.outline.perform
        (if p.pending = some (.subscription number) then .close else .nothing) := by
  split
  · next pending => exact sound.follows_closePending works pending (.inr pending)
  · next other =>
    rw [Place.closeSubscription]
    cases found : p.subscription? number with
    | none => rfl
    | some s =>
      have spent := sound.spent found other
      have quiet := spent.close_quiet (heard number s found spent) transport
      have shows := outline_set_other found other (s.close transport).1
      simp only [quiet]
      split
      · rw [shows]
        rfl
      · -- Another thing is pending, so no entry is dropped.
        have same : (p.set number (s.close transport).1).unlist number =
            p.set number (s.close transport).1 := by
          simp [unlist, Place.set, other]
        rw [same, shows]
        rfl

theorem Sound.follows_unsubscribe (sound : p.Sound born) (works : transport .stop = none) :
    ((p.unsubscribe transport).place.outline, (p.unsubscribe transport).emission) =
      p.outline.perform (if p.isSubscribed then .close else .nothing) := by
  rw [Place.unsubscribe]
  split
  · next n pending =>
    rw [if_pos (isSubscribed_iff.mpr ⟨n, pending⟩)]
    exact sound.follows_closePending works pending (.inl rfl)
  · next other =>
    have unsubscribed : ¬ p.isSubscribed = true := by
      intro subscribed
      obtain ⟨n, pending⟩ := isSubscribed_iff.mp subscribed
      exact other n pending
    rw [if_neg unsubscribed]
    rfl

theorem Sound.follows_close (sound : p.Sound born) (works : transport .stop = none) :
    ((p.close transport).place.outline, (p.close transport).emission) =
      p.outline.perform .close := by
  rw [Place.close]
  split
  · next pending =>
    rw [outline_idle pending]
    rfl
  · next awaited pending =>
    have settled := Awaited.settle_pending (sound.single awaited pending).awaited .cancelled rfl
    simp only [settled]
    rw [outline_asked pending, outline_idle (p := { p with pending := none }) rfl]
    rfl
  · next n pending => exact sound.follows_closePending works pending (.inl rfl)

/-! ## Tasks -/

/-- The tasks of a subscription that nobody waits for answer nobody. -/
theorem returns_ran {s : Subscription} (nobody : s.next.callers = []) (t : Timing)
    (works : ∀ kind, transport kind = none) : (ran t transport s).2.returns = [] := by
  rw [returns_runTasks s t.now t.period works, dismissal, Awaited.settle_nobody nobody, ite_self]

/-- Only the pending subscription lets out anything. -/
theorem Sound.emission_runTasks (sound : p.Sound born) (heard : p.Heard) (t : Timing)
    (works : ∀ kind, transport kind = none) :
    (p.runTasks t transport).2 =
      match p.live? with
      | some (_, s) => (ran t transport s).2
      | none => .none := by
  have attempts := sound.attempts_runTasks t transport
  have returns := sound.part_runTasks t transport Emission.returns rfl (fun _ _ => rfl)
    fun m s found closed => returns_ran (heard m s found (sound.spent found closed)) t works
  generalize (p.runTasks t transport).2 = emission at attempts returns ⊢
  obtain ⟨sent, answered⟩ := emission
  cases attempts
  cases returns
  cases p.live? with
  | none => rfl
  | some pair => rfl

/-- Where no subscription is pending the tasks do nothing that shows. -/
theorem Sound.follows_runTasks_vacant (sound : p.Sound born) (heard : p.Heard) (t : Timing)
    (works : ∀ kind, transport kind = none) (vacant : ∀ n, p.pending ≠ some (.subscription n)) :
    ((p.runTasks t transport).1.outline, (p.runTasks t transport).2) = (p.outline, .none) := by
  have pending' := pending_runTasks_vacant t transport vacant
  have none : p.live? = none := by
    rcases sound.live_or_vacant with ⟨n, -, -, pending, -⟩ | ⟨none, -⟩
    · exact absurd pending (vacant n)
    · exact none
  have outline : (p.runTasks t transport).1.outline = p.outline := by
    cases sound.shows with
    | idle pending outline =>
      rw [outline, outline_idle (pending'.trans pending), nextCall_runTasks, length_runTasks]
    | asked awaited pending shared outline =>
      rw [outline, outline_asked (pending'.trans pending), nextCall_runTasks, length_runTasks]
    | live n s pending => exact absurd pending (vacant n)
  rw [outline, sound.emission_runTasks heard t works, none]

/-- The tasks renew the live subscription, and close it only if nobody is interested in it. -/
theorem Fit.follows_runTasks {now : Nat} (fit : p.Fit born now) (heard : p.Heard)
    (period window : Nat) (works : ∀ kind, transport kind = none) :
    ∃ renewals closes,
      ((p.runTasks ⟨now, period, window⟩ transport).1.outline,
        (p.runTasks ⟨now, period, window⟩ transport).2) =
        p.outline.performAll (Outline.tasks renewals closes) ∧
      (closes = true → ∃ n s, p.live? = some (n, s) ∧ s.liveness.isLive = false) := by
  rcases fit.sound.live_or_vacant with ⟨n, s, live, pending, found, isOpen⟩ | ⟨-, vacant⟩
  · obtain ⟨last, comes⟩ := fit.ran period works n s found isOpen
    have entry := pending_runTasks_live ⟨now, period, window⟩ transport pending found
      isOpen.unclosed
    have there := subscription?_runTasks ⟨now, period, window⟩ transport p n
    have emission := fit.sound.emission_runTasks heard ⟨now, period, window⟩ works
    have called := nextCall_runTasks ⟨now, period, window⟩ transport p
    have count := length_runTasks ⟨now, period, window⟩ transport p
    rw [found, Option.map_some] at there
    rw [live] at emission
    rw [emission]
    obtain ⟨renewals, ⟨unclosed, alike, quiet⟩ | ⟨idle, closed, sends⟩⟩ :=
      isOpen.shown_runTasks works comes
    · simp only [Place.ran, unclosed, Bool.false_eq_true, if_false] at entry there ⊢
      refine ⟨renewals, false, ?_, nofun⟩
      rw [outline_live (entry.trans pending) there, alike.interval, alike.feed, alike.calls,
        called, count, quiet, outline_live pending found, Outline.tasks,
        Outline.performAll_append, Outline.performAll_renew]
      simp [Outline.performAll, Phase.renewal]
    · simp only [Place.ran, closed, if_true] at entry ⊢
      refine ⟨renewals, true, ?_, fun _ => ⟨n, s, live, idle⟩⟩
      rw [outline_idle entry, called, count, sends, outline_live pending found, Outline.tasks,
        Outline.performAll_append, Outline.performAll_renew]
      simp [Outline.performAll, Outline.perform, Phase.renewal, Phase.farewell]
      rfl
  · refine ⟨0, false, ?_, nofun⟩
    exact fit.sound.follows_runTasks_vacant heard ⟨now, period, window⟩ works vacant

/-! ## Interest -/

/-- Somebody is interested in the live subscription, if there is one. -/
def Watched (p : Place) : Prop := ∀ n s, p.live? = some (n, s) → s.liveness.isLive = true

theorem watched_set {n : Nat} {s s' : Subscription} (pending : p.pending = some (.subscription n))
    (found : p.subscription? n = some s) (live : s'.liveness.isLive = true) :
    (p.set n s').Watched := by
  intro m other found'
  obtain ⟨pending', there⟩ := live?_eq_some.mp found'
  cases pending.symm.trans pending'
  rw [subscription?_set found, if_pos rfl] at there
  cases there
  exact live

theorem isLive_withParked {s : Subscription} (unclosed : s.liveness.closed = false)
    (now call : Nat) : (s.withParked now call).liveness.isLive = true := by
  rw [withParked, updateLiveness_open unclosed]
  simp [Liveness.isLive]

theorem isLive_attached {s : Subscription} (unclosed : s.liveness.closed = false) (now : Nat) :
    (s.attached now).liveness.isLive = true := by
  rw [attached, updateLiveness_open unclosed]
  simp [Liveness.isLive]

theorem Sound.watched_request (sound : p.Sound born) (t : Timing) (transport : Transport) :
    (p.request t transport).place.Watched := by
  cases sound.shows with
  | idle pending =>
    intro n s live
    obtain ⟨pending', -⟩ := live?_eq_some.mp live
    simp only [Place.request, live?, pending, Option.bind_none, sendSingle] at pending'
    split at pending'
    · cases pending'
    · cases pending'
  | asked awaited pending =>
    intro n s live
    obtain ⟨pending', -⟩ := live?_eq_some.mp live
    simp only [Place.request, pending] at pending'
    cases pending'
  | live n s pending found isOpen =>
    rw [request_live t transport pending found isOpen.unclosed]
    exact watched_set (p := { p with nextCall := p.nextCall + 1 }) pending found
      (isLive_withParked isOpen.unclosed ..)

theorem Sound.watched_subscribe (sound : p.Sound born) (t : Timing) {every : Interval}
    (works : transport (.start every) = none) :
    (p.subscribe t transport every).place.Watched := by
  rcases sound.live_or_vacant with ⟨n, s, live, pending, found, isOpen⟩ | ⟨none, vacant⟩
  · have attaches : s.attach? t.now = some (s.nextStream, s.attached t.now) :=
      attach?_open isOpen.unclosed
    rw [Place.subscribe, live]
    simp only [Option.bind_some, attaches, Option.map_some]
    exact watched_set pending found (isLive_attached isOpen.unclosed t.now)
  · rw [Place.subscribe, none, Option.bind_none, openSubscription_eq p t works]
    intro n s live
    obtain ⟨pending', there⟩ := live?_eq_some.mp live
    cases pending'
    rw [subscription?_adding, if_pos rfl] at there
    cases there
    exact isLive_attached rfl t.now

/-! ## The end of all scopes -/

theorem callers_of_hasCallers (nobody : p.hasCallers = false) :
    p.calls = [] ∧ ∀ n s, p.subscription? n = some s → s.next.callers = [] := by
  obtain ⟨single, each⟩ := Bool.or_eq_false_iff.mp nobody
  have each : ∀ n s, p.subscription? n = some s → s.next.callers = [] := by
    intro n s found
    have none := List.any_eq_false.mp each s (List.mem_of_getElem? found)
    rw [Bool.not_eq_true, Bool.or_eq_false_iff] at none
    simpa using none.1
  refine ⟨?_, each⟩
  rw [Place.calls]
  split
  · rfl
  · next awaited pending =>
    have none : awaited.callers = [] := by simpa [pending] using single
    rw [Awaited.calls, none]
    rfl
  · next n pending =>
    split
    · rfl
    · next s found =>
      rw [Awaited.calls, each n s found]
      rfl

theorem Sound.heard_released (sound : p.Sound born) (t : Timing)
    (works : ∀ kind, transport kind = none) (nobody : p.hasCallers = false) :
    (p.endScopes.runTasks t transport).1.Heard := by
  intro n s' found _
  rw [subscription?_runTasks, subscription?_endScopes, Option.map_map] at found
  obtain ⟨s, there, rfl⟩ := Option.map_eq_some_iff.mp found
  refine List.eq_nil_iff_forall_not_mem.mpr fun c member => ?_
  have older : c ∈ s.next.callers := by
    rcases sound.each n s there with isOpen | spent
    · exact (isOpen.released t.now t.period (works .stop)).2.2 c member
    · exact (spent.endScope ▸ (spent.runTasks t.now t.period transport).1.callers) c member
  rw [(callers_of_hasCallers nobody).2 n s there] at older
  cases older

/-- When all scopes end and nobody waits, only the stop of the live subscription shows. -/
theorem Sound.follows_release (sound : p.Sound born) (t : Timing)
    (works : ∀ kind, transport kind = none) (nobody : p.hasCallers = false) :
    ((p.endScopes.runTasks t transport).1.outline, (p.endScopes.runTasks t transport).2) =
      p.outline.perform .close := by
  obtain ⟨noCalls, each⟩ := callers_of_hasCallers nobody
  have attempts := sound.attempts_released t works
  have returns : (p.endScopes.runTasks t transport).2.returns = [] := by
    rw [Place.runTasks, part_runTasksUpTo t transport Emission.returns rfl fun _ _ => rfl]
    refine List.flatMap_eq_nil_iff.mpr fun n _ => ?_
    rw [subscription?_endScopes]
    cases found : p.subscription? n with
    | none => rfl
    | some s => exact returns_ran (s := s.endScope) (each n s found) t works
  have pending : (p.endScopes.runTasks t transport).1.pending = none :=
    pending_runTasks_vacant t transport (p := p.endScopes)
      fun _ => (Option.some_ne_none _).symm
  rw [outline_idle pending, nextCall_runTasks, length_runTasks, Outline.perform]
  generalize (p.endScopes.runTasks t transport).2 = emission at attempts returns ⊢
  obtain ⟨sent, answered⟩ := emission
  cases returns
  rw [← sound.isSubscribed_outline, ← Phase.farewell_eq] at attempts
  cases attempts
  rw [outline, noCalls, endScopes, List.length_map]
  rfl

end ObservationFeed.Client.Place
