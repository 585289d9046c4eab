import ObservationFeed.Proofs.Client.Teardown

/-!
# Requests that are refused

A client asks for an observation only where nothing is pending, and starts a
subscription only where none is.  Where such a message is refused, the operation
answers with the refusal, and what is pending, the subscriptions and the callers
are as before.  All other requests are served by what is pending already,
whatever the network refuses.

Nothing is open where such a message is attempted, so that the tasks which go on
there let out nothing either.
-/

namespace ObservationFeed.Client

open KeyedList Subscription Place

/-! ## One place -/

namespace Place

variable {p : Place} {t : Timing} {transport : Transport} {every : Interval} {awaited : Awaited}
  {cause : TransportError} {n : Nat} {s : Subscription}

theorem request_refused (vacant : p.pending = none) (t : Timing)
    (refusal : transport .single = some cause) :
    p.request t transport = ⟨{ p with nextCall := p.nextCall + 1 },
      ⟨[⟨.single, some cause⟩], [⟨p.nextCall, .error (.transport cause)⟩]⟩, p.nextCall⟩ := by
  simp [Place.request, live?, vacant, sendSingle, refusal]

theorem request_single (pending : p.pending = some (.single awaited)) (t : Timing)
    (transport : Transport) :
    p.request t transport = ⟨{ p with
      pending := some (.single (awaited.join p.nextCall false)), nextCall := p.nextCall + 1 },
      .none, p.nextCall⟩ := by
  simp [Place.request, pending]

theorem live?_eq_none (unsubscribed : ∀ n, p.pending ≠ some (.subscription n)) :
    p.live? = none := by
  cases live : p.live? with
  | none => rfl
  | some found => exact absurd (live?_eq_some.mp live).1 (unsubscribed found.1)

theorem subscribe_refused (unsubscribed : ∀ n, p.pending ≠ some (.subscription n)) (t : Timing)
    (refusal : transport (.start every) = some cause) :
    p.subscribe t transport every =
      ⟨p, ⟨[⟨.start every, some cause⟩], []⟩, .error (.transport cause)⟩ := by
  simp [Place.subscribe, live?_eq_none unsubscribed, openSubscription, refusal]

theorem subscribe_live (pending : p.pending = some (.subscription n))
    (found : p.subscription? n = some s) (unclosed : s.liveness.closed = false) (t : Timing)
    (transport : Transport) (every : Interval) :
    p.subscribe t transport every =
      ⟨p.set n (s.attached t.now), .none, .ok (n, s.nextStream)⟩ := by
  simp [Place.subscribe, live?_eq_some.mpr ⟨pending, found⟩, attach?_open unclosed]

end Place

variable {c c' : Client} {net : Network} {past later : List Record} {h : SubscriptionHandle}
  {s : Subscription} {e : Event} {l : Location} {every : Interval} {cause : TransportError}
  {call : Nat}

/-! ## Messages that are refused -/

/-- Where no subscription is pending all of them are hushed. -/
theorem Lives.all_hushed (lives : Lives past c)
    (unsubscribed : ∀ n, (c.place l).pending ≠ some (.subscription n)) (n : Nat) (s : Subscription)
    (found : (c.place l).subscription? n = some s) : Hushed s := by
  have spent := (lives.consistent.fit l).sound.spent found (unsubscribed n)
  exact lives.hushed (h := ⟨l, n⟩) found spent.ended

/-- What comes of an event whose message is refused.  The operation leaves every subscription as it
was; the tasks after it may go on with what is left to do for one that has closed. -/
structure Refused (net : Network) (c : Client) (l : Location) (e : Event) (emission : Emission) :
    Prop where
  operation : Futile net c l emission (.operation l e)
  subscriptions : ∀ h, (c.make net (.operation l e)).subscription? h = c.subscription? h
  event : Futile net c l emission (.event e)

theorem Lives.refused (lives : Lives past c) (after : Place) {emission : Emission}
    (unsubscribed : ∀ n, (c.place l).pending ≠ some (.subscription n))
    (here : c.effect net l e = .moved after emission)
    (pending : after.pending = (c.place l).pending) (opened : after.opened = (c.place l).opened)
    (elsewhere : ∀ there, l ≠ there → c.effect net there e = .still) :
    Refused net c l e emission := by
  have distinct := lives.consistent.distinct
  have same (n : Nat) : after.subscription? n = (c.place l).subscription? n :=
    congrArg (·[n]?) opened
  have hushed (n : Nat) (s : Subscription) (found : after.subscription? n = some s) : Hushed s :=
    lives.all_hushed unsubscribed n s ((same n).symm.trans found)
  have subscriptions (h : SubscriptionHandle) :
      (c.make net (.operation l e)).subscription? h = c.subscription? h := by
    rw [subscription?, place_operation]
    split
    · next there =>
      subst there
      rw [here]
      exact same h.number
    · rfl
  have operation : Futile net c l emission (.operation l e) := by
    refine ⟨fun there => ?_, fun there => ?_, fun h s found _ => (subscriptions h).trans found⟩
    · rw [emits]
      split
      · next there =>
        subst there
        rw [here]
        rfl
      · rfl
    · rw [place_operation]
      split
      · next there =>
        subst there
        rw [here]
        exact pending
      · rfl
  have event : Futile net c l emission (.event e) := by
    refine ⟨fun there => ?_, fun there => ?_, fun h s found isOpen => ?_⟩
    · refine (congrArg Prod.snd (step_run distinct net e there)).trans ?_
      by_cases same : l = there
      · subst same
        rw [if_pos rfl, here]
        simp only [Effect.run, (runTasks_hushed hushed _ _).1, Emission.append_none]
      · rw [if_neg same, elsewhere there same]
        rfl
    · rw [make, place_step distinct]
      by_cases same : l = there
      · subst same
        rw [here, Effect.runs, if_pos rfl]
        exact (pending_runTasks_vacant _ _ (pending ▸ unsubscribed)).trans pending
      · rw [elsewhere there same]
        rfl
    · rw [subscription?, make, place_step distinct]
      by_cases same : l = h.location
      · -- Where the event happens no subscription is open.
        subst same
        cases isOpen.symm.trans (lives.all_hushed unsubscribed h.number s found).spent.isClosed
      · rw [elsewhere h.location same]
        exact found
  exact ⟨operation, subscriptions, event⟩

theorem Lives.refused_request (lives : Lives past c) (vacant : (c.place l).pending = none)
    (refusal : net l .single = some cause) :
    Refused net c l (.request l)
      ⟨[⟨.single, some cause⟩], [⟨(c.place l).nextCall, .error (.transport cause)⟩]⟩ := by
  refine lives.refused { c.place l with nextCall := (c.place l).nextCall + 1 }
    (fun n also => by cases vacant.symm.trans also) ?_ rfl rfl fun there elsewhere => if_pos elsewhere
  simp only [effect, lives.unclosed, request_refused vacant c.timing refusal]
  simp [Effect.ofStep]

theorem Lives.refused_subscribe (lives : Lives past c)
    (unsubscribed : ∀ n, (c.place l).pending ≠ some (.subscription n))
    (refusal : net l (.start every) = some cause) :
    (c.subscribe net l every).answer = .error (.transport cause) ∧
      Refused net c l (.subscribe l every) ⟨[⟨.start every, some cause⟩], []⟩ := by
  have step := subscribe_refused unsubscribed c.timing refusal
  refine ⟨?_, lives.refused (c.place l) unsubscribed ?_ rfl rfl
    fun there elsewhere => if_pos (.inl elsewhere)⟩
  · simp only [Client.subscribe, lives.unclosed, step, atPlace]
    rfl
  · simp only [effect, lives.unclosed, step]
    simp [Effect.ofStep]

/-! ## Requests that need no message -/

/-- A call that joins what is pending waits for it. -/
theorem Lives.joins (lives : Lives past c) (pending : (c.place l).pending ≠ none) (net : Network) :
    c.emits net l (.operation l (.request l)) = .none ∧
      ((c.make net (.operation l (.request l))).place l).isWaiting
        (c.request net l).answer.number = true := by
  have here : c.effect net l (.request l) = .ofStep ((c.place l).request c.timing (net l)) := by
    simp [effect, lives.unclosed]
  rw [emits, if_pos rfl, place_operation, if_pos rfl, answer_request, here, Effect.ofStep]
  obtain ⟨what, pending⟩ := Option.ne_none_iff_exists'.mp pending
  cases what with
  | single awaited =>
    rw [request_single pending]
    refine ⟨rfl, ?_⟩
    simp [Effect.place, isWaiting, Awaited.join, Awaited.has]
  | subscription n =>
    obtain ⟨s, found, isOpen⟩ := (lives.consistent.fit l).sound.pendingOpen pending
    rw [request_live _ _ pending found isOpen.unclosed]
    refine ⟨rfl, ?_⟩
    have there : ({ c.place l with nextCall := (c.place l).nextCall + 1 } : Place).subscription? n =
        some s := found
    have parked := (subscription?_set there (s.withParked c.timing.now (c.place l).nextCall) n).trans
      (if_pos rfl)
    simp only [Effect.place, isWaiting, Bool.or_eq_true, List.any_eq_true]
    refine .inr ⟨_, List.mem_of_getElem? parked, ?_⟩
    simp [withParked, Awaited.join, Awaited.has]

/-- A subscriber attaches a stream to the live subscription. -/
theorem Lives.attaches (lives : Lives past c) (lists : c.Lists h) (net : Network)
    (every : Interval) :
    c.emits net h.location (.operation h.location (.subscribe h.location every)) = .none ∧
      ∃ k s, (c.subscribe net h.location every).answer = .ok ⟨h, k⟩ ∧
        (c.make net (.operation h.location (.subscribe h.location every))).subscription? h =
          some s ∧ s.isClosed = false ∧ s.streams.any (·.1 = k) = true := by
  obtain ⟨s, found, isOpen⟩ := (lives.consistent.fit h.location).sound.pendingOpen lists
  have step := subscribe_live lists found isOpen.unclosed c.timing (net h.location) every
  have here : c.effect net h.location (.subscribe h.location every) =
      .moved ((c.place h.location).set h.number (s.attached c.now)) .none := by
    simp only [effect, lives.unclosed, step]
    simp [Effect.ofStep, timing]
  refine ⟨?_, s.nextStream, s.attached c.now, ?_, ?_, ?_, ?_⟩
  · rw [emits, if_pos rfl, here]
    rfl
  · simp only [Client.subscribe, lives.unclosed, step, atPlace]
    rfl
  · rw [subscription?, place_operation, if_pos rfl, here]
    exact (subscription?_set found _ _).trans (if_pos rfl)
  · exact (isOpen.attach c.now).isOpen.isClosed
  · simp [attached]

/-! ## Calls that wait for a one-shot answer -/

/-- A call waits for the one-shot answer that is pending. -/
def Place.Asked (p : Place) (call : Nat) : Prop :=
  ∃ awaited, p.pending = some (.single awaited) ∧ awaited.has call = true

/-- The events that decide about a call that waits for a one-shot answer, but for those that end the
client. -/
def Event.Decides (net : Network) (l : Location) (call : Nat) : Event → Prop
  | .respond response => response.location = l
  | .subscribe there every => there = l ∧ net l (.start every) = none
  | .abort other => other = ⟨l, call⟩
  | _ => False

/-- A move decides about such a call. -/
def Record.Decides (l : Location) (call : Nat) (r : Record) : Prop :=
  match r.move with
  | .event e => e.Decides r.net l call
  | .operation there e => there = l ∧ e.Decides r.net l call
  | .hear response => response.location = l
  | .chore .. | .depart .. | .shut => False

theorem Place.Asked.vacant {p : Place} (asked : p.Asked call) (n : Nat) :
    p.pending ≠ some (.subscription n) := by
  obtain ⟨awaited, pending, -⟩ := asked
  intro also
  cases pending.symm.trans also

theorem Place.Asked.congr {p p' : Place} (asked : p.Asked call) (same : p'.pending = p.pending) :
    p'.Asked call := by
  obtain ⟨awaited, pending, waits⟩ := asked
  exact ⟨awaited, same.trans pending, waits⟩

/-- As long as nothing decides about it, a call waits for its answer. -/
theorem asked_effect (asked : (c.place l).Asked call) (goesOn : ¬ e.Ends)
    (undecided : ¬ e.Decides net l call) :
    ((c.effect net l e).place (c.place l)).Asked call := by
  obtain ⟨awaited, pending, waits⟩ := asked
  have asked : (c.place l).Asked call := ⟨awaited, pending, waits⟩
  cases e with
  | request there =>
    simp only [effect]
    split
    · exact asked
    · split
      · exact asked.congr rfl
      · rw [request_single pending]
        refine ⟨_, rfl, ?_⟩
        have joined : (awaited.join (c.place l).nextCall false).has call =
            (awaited.has call || _) := List.any_append
        rw [joined, waits, Bool.true_or]
  | abort other =>
    simp only [effect]
    split
    · exact asked
    · next there =>
      refine ⟨awaited.leave other.number, by simp only [Effect.place, Place.abort, pending], ?_⟩
      obtain ⟨caller, member, same⟩ := List.any_eq_true.mp waits
      refine List.any_eq_true.mpr ⟨caller, List.mem_filter.mpr ⟨member, ?_⟩, same⟩
      -- Another call is given up, or one elsewhere.
      refine decide_eq_true fun also => undecided ?_
      obtain ⟨location, number⟩ := other
      cases Classical.not_not.mp there
      rw [Event.Decides, ← also.symm.trans (of_decide_eq_true same)]
  | subscribe there every =>
    simp only [effect]
    split
    · exact asked
    · next there' =>
      cases refusal : net l (.start every) with
      | none =>
        have here := Classical.not_not.mp fun elsewhere => there' (.inl elsewhere)
        exact absurd ⟨here, refusal⟩ undecided
      | some cause =>
        rw [subscribe_refused asked.vacant c.timing refusal]
        exact asked
  | poll k =>
    simp only [effect]
    split
    · exact asked
    · split
      · next polled => exact asked.congr (pending_poll polled)
      · exact asked
  | detach k =>
    simp only [effect]
    split
    · exact asked
    · refine asked.congr ?_
      simp only [Effect.place, Place.detach]
      split <;> rfl
  | closeSubscription other =>
    simp only [effect]
    split
    · exact asked
    · refine asked.congr ?_
      simp only [Effect.ofStep, Effect.place, Place.closeSubscription]
      split
      · rfl
      · simp only
        split
        · rfl
        · exact if_neg (asked.vacant other.number)
  | respond response =>
    simp only [effect]
    split
    · exact asked
    · next there =>
      exact absurd (Classical.not_not.mp fun elsewhere => there (.inl elsewhere)) undecided
  | unsubscribe there =>
    simp only [effect]
    split
    · exact asked
    · rw [Place.unsubscribe, pending]
      exact asked
  | close | release => exact absurd trivial goesOn
  | wake | elapse => exact asked

theorem asked_make (distinct : Distinct c.places) (asked : (c.place l).Asked call) {m : Move}
    (goesOn : ¬ m.Ends) (undecided : ¬ Record.Decides l call ⟨c, net, m⟩) :
    ((c.make net m).place l).Asked call := by
  cases m with
  | event e =>
    have still := asked_effect asked goesOn undecided
    rw [make, place_step distinct]
    split
    · exact still.congr (pending_runTasks_vacant _ _ still.vacant)
    · exact still
  | operation there e =>
    rw [place_operation]
    split
    · next here => exact asked_effect asked goesOn fun decides => undecided ⟨here, decides⟩
    · exact asked
  | chore other chore =>
    rw [place_tend]
    split
    · exact asked.congr (pending_tend_unlisted (asked.vacant other.number) ..)
    · exact asked
  | hear response =>
    rw [make, place_accept, if_neg fun here => undecided here.1]
    exact asked
  | depart other call' cancelled =>
    rw [make, place_depart]
    split
    · refine asked.congr ?_
      rw [Place.depart]
      split <;> rfl
    · exact asked
  | shut => exact absurd trivial goesOn

theorem Leads.asked (leads : Leads c later c') (distinct : Distinct c.places)
    (asked : (c.place l).Asked call)
    (undecided : ∀ r ∈ later, ¬ r.move.Ends ∧ ¬ r.Decides l call) : (c'.place l).Asked call := by
  induction leads with
  | here => exact asked
  | move later c' net m leads ih =>
    obtain ⟨⟨goesOn, stays⟩, undecided⟩ := List.forall_mem_cons.mp undecided
    exact asked_make (leads.distinct distinct) (ih undecided) goesOn stays

/-- A response for the location answers all calls that wait there for a one-shot answer. -/
theorem Lives.answers_asked (lives : Lives past c) (asked : (c.place l).Asked call) (net : Network)
    {response : Response} (here : response.location = l) :
    (c.respond net response).answer = .ok true ∧ call ∈ (c.place l).calls ∧
      returnsAt l (c.respond net response).log =
        answerAll (.ok response.snapshot) (c.place l).calls := by
  have vacant := asked.vacant
  obtain ⟨awaited, pending, waits⟩ := asked
  have shared := (lives.consistent.fit l).sound.single awaited pending
  have settled := Awaited.settle_pending shared.awaited (.completed response.snapshot) rfl
  have calls : (c.place l).calls = awaited.calls := by rw [Place.calls, pending]
  have hushed (n : Nat) (s : Subscription)
      (found : ({ c.place l with pending := none } : Place).subscription? n = some s) : Hushed s :=
    lives.all_hushed vacant n s found
  subst here
  rw [calls, Client.respond, lives.unclosed]
  simp only [Bool.false_eq_true, if_false, Place.respond, Place.hand, pending, settled, atPlace,
    returnsAt_single, (runTasks_hushed hushed _ _).1, Emission.append_none]
  obtain ⟨caller, member, same⟩ := List.any_eq_true.mp waits
  exact ⟨trivial, List.mem_map.mpr ⟨caller, member, of_decide_eq_true same⟩, trivial⟩

/-- Of any client that was neither closed nor let go, over any network.  A call whose message is
refused is answered with the refusal, and so is a subscriber, and nothing else changes.  A one-shot
call that was pending then is not promoted: whatever happens to it until the next response for its
location, that response answers it.  Calls that find something pending and subscribers that find a
subscription attempt no message, and have what they ask for. -/
theorem refused_send_changes_nothing (lives : Lives past c) (net : Network) (l : Location) :
    (∀ cause, (c.place l).pending = none → net l .single = some cause →
      Refused net c l (.request l) ⟨[⟨.single, some cause⟩],
        [⟨(c.request net l).answer.number, .error (.transport cause)⟩]⟩) ∧
    (∀ every cause, (∀ n, (c.place l).pending ≠ some (.subscription n)) →
      net l (.start every) = some cause →
      (c.subscribe net l every).answer = .error (.transport cause) ∧
      Refused net c l (.subscribe l every) ⟨[⟨.start every, some cause⟩], []⟩ ∧
      ∀ call, (c.place l).Asked call → ∀ later c',
        Leads (c.subscribe net l every).client later c' →
        (∀ r ∈ later, ¬ r.move.Ends ∧ ¬ r.Decides l call) →
        ∀ net response, response.location = l →
          (c'.respond net response).answer = .ok true ∧ call ∈ (c'.place l).calls ∧
          returnsAt l (c'.respond net response).log =
            answerAll (.ok response.snapshot) (c'.place l).calls) ∧
    ((c.place l).pending ≠ none →
      c.emits net l (.operation l (.request l)) = .none ∧
      ((c.make net (.operation l (.request l))).place l).isWaiting
        (c.request net l).answer.number = true) ∧
    ∀ every n, (c.place l).pending = some (.subscription n) →
      c.emits net l (.operation l (.subscribe l every)) = .none ∧
      ∃ k s, (c.subscribe net l every).answer = .ok ⟨⟨l, n⟩, k⟩ ∧
        (c.make net (.operation l (.subscribe l every))).subscription? ⟨l, n⟩ = some s ∧
        s.isClosed = false ∧ s.streams.any (·.1 = k) = true := by
  refine ⟨fun cause vacant refusal => ?_, fun every cause unsubscribed refusal => ?_,
    fun pending => lives.joins pending net, fun every n lists => ?_⟩
  · rw [answer_request]
    exact lives.refused_request vacant refusal
  · obtain ⟨answer, refused⟩ := lives.refused_subscribe unsubscribed refusal
    refine ⟨answer, refused, fun call asked later c' leads undecided net' response here => ?_⟩
    have next : Lives _ (c.subscribe net l every).client :=
      .move past c net (.event (.subscribe l every)) lives id
    have still := leads.asked next.consistent.distinct (asked.congr (refused.event.pending l))
      undecided
    have onward := next.onward leads fun r member => (undecided r member).1
    exact onward.answers_asked still net' here
  · exact lives.attaches (h := ⟨l, n⟩) lists net every

/-- A call is refused at first and taken later.  While it waits a subscriber is refused and another
call joins it, and then both calls are answered. -/
theorem refused_send_changes_nothing_of_pending_call :
    let works : Network := fun _ _ => none
    let refuses : Network := fun _ _ => some .closed
    let l : Location := ⟨"overworld", ⟨1, 2, 3⟩⟩
    let c₀ := ofConfig {}
    let c₁ := c₀.make works (.event (.request l))
    let c₂ := (c₁.subscribe refuses l (.clamp 20)).client
    let c₃ := c₂.make refuses (.event (.request l))
    let heard := c₃.respond refuses ⟨l, .empty, none⟩
    c₀.emits refuses l (.event (.request l)) =
        ⟨[⟨.single, some .closed⟩], [⟨0, .error (.transport .closed)⟩]⟩ ∧
      (c₁.subscribe refuses l (.clamp 20)).answer = .error (.transport .closed) ∧
      (c₂.place l).pending = (c₁.place l).pending ∧
      c₂.emits refuses l (.operation l (.request l)) = .none ∧
      heard.answer = .ok true ∧
      returnsAt l heard.log = [⟨0, .ok .empty⟩, ⟨1, .ok .empty⟩] := by
  intro works refuses l c₀ c₁ c₂ c₃ heard
  have lives₁ : Lives [⟨c₀, works, .event (.request l)⟩] c₁ := .move _ c₀ works _ (.start {}) id
  have lives₂ : Lives [⟨c₁, refuses, .event (.subscribe l (.clamp 20))⟩,
      ⟨c₀, works, .event (.request l)⟩] c₂ := .move _ c₁ refuses _ lives₁ id
  have asked : (c₁.place l).pending = some (.single ⟨.pending, [⟨0, false⟩]⟩) := by
    decide +kernel +zetaReduce
  have waiting : (c₂.place l).pending ≠ none := by decide +kernel +zetaReduce
  have calls : (c₃.place l).calls = [0, 1] := by decide +kernel +zetaReduce
  obtain ⟨single, -⟩ := refused_send_changes_nothing (.start {}) refuses l
  obtain ⟨-, start, -⟩ := refused_send_changes_nothing lives₁ refuses l
  obtain ⟨-, -, joins, -⟩ := refused_send_changes_nothing lives₂ refuses l
  have refused := single .closed rfl rfl
  obtain ⟨answer, futile, later⟩ := start (.clamp 20) .closed
    (fun n also => by cases asked.symm.trans also) rfl
  obtain ⟨answers, -, returns⟩ := later 0 ⟨_, asked, rfl⟩ [⟨c₂, refuses, .event (.request l)⟩] c₃
    (.move [] c₂ refuses _ .here) (fun r member => by
      cases List.mem_singleton.mp member
      exact ⟨id, id⟩) refuses ⟨l, .empty, none⟩ rfl
  refine ⟨(refused.event.emits l).trans (if_pos rfl), answer, futile.event.pending l,
    (joins waiting).1, answers, ?_⟩
  rw [returns, calls]
  rfl

end ObservationFeed.Client
