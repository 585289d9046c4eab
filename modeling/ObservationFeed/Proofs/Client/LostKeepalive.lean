import ObservationFeed.Proofs.Client.Delivery
import ObservationFeed.Proofs.Client.RefusedSends

/-!
# Keepalives that are refused

A subscription whose keepalive is refused closes in the same step.  It notes its
stop without sending it, so that from then on it is at rest and nothing gets
anything out of it.  Nothing that its location comes to later has its number, and
its own tasks concern what bears its number only.
-/

namespace ObservationFeed.Client

open KeyedList Subscription Place

/-! ## The step -/

namespace Subscription

/-- A subscription that has closed because its keepalive was refused. -/
def lost (s : Subscription) : Subscription :=
  { s.shut with keepalive := none, timer := s.timer.disarm, stopSent := true }

/-- What an open subscription lets out when its keepalive is refused. -/
def lastEmission (s : Subscription) (cause : TransportError) : Emission :=
  ⟨[⟨.keepalive s.interval, some cause⟩], answerAll (.error .cancelled) s.next.calls⟩

variable {born : Bool} {s : Subscription} {now time : Nat} {transport : Transport}
  {cause : TransportError}

theorem atRest_lost (s : Subscription) : AtRest s.lost :=
  ⟨⟨rfl, rfl, rfl, Awaited.callers_cancel s.next⟩, rfl⟩

theorem next_lost (isOpen : Open born s) : s.lost.next = ⟨.cancelled, []⟩ :=
  congrArg Prod.fst (Awaited.settle_pending isOpen.awaited .cancelled rfl)

theorem keepaliveWakes_refused (isOpen : Open born s) (sleeps : s.keepalive = some time)
    (due : time ≤ now) (period : Nat) (refusal : transport (.keepalive s.interval) = some cause) :
    s.keepaliveWakes? now period transport = some (s.lost, s.lastEmission cause) := by
  have settled := Awaited.settle_pending isOpen.awaited .cancelled rfl
  simp only [keepaliveWakes?, sleeps, Nat.not_lt.mpr due, if_false, refusal, Subscription.close,
    isOpen.unclosed, teardown, settled, sendStop, if_true, Bool.false_eq_true, lost, shut]
  simp [lastEmission]
  rfl

/-- There its turn is over. -/
theorem renews_refused (isOpen : Open born s) (sleeps : s.keepalive = some time)
    (due : time ≤ now) (period : Nat) (refusal : transport (.keepalive s.interval) = some cause) :
    s.renews? now period transport = some (s.lost, s.lastEmission cause) := by
  have isOver : s.lost.keepaliveEnds? transport = none := by
    rw [keepaliveEnds?, (atRest_lost s).asleep]
    simp
  rw [renews?, keepaliveWakes_refused isOpen sleeps due period refusal]
  simp only [Option.map_some, isOver, Option.getD_none, ite_self, Emission.append_none]

/-- The other tasks find the scope ended and the stop noted. -/
theorem runTasks_refused (isOpen : Open born s) (sleeps : s.keepalive = some time)
    (due : time ≤ now) (period : Nat) (refusal : transport (.keepalive s.interval) = some cause) :
    ∃ timer, timer.deadline = none ∧
      s.runTasks now period transport = ({ s.lost with timer }, s.lastEmission cause) := by
  have run := (atRest_lost s).runTimer now transport
  have disarmed := CleanupTimer.disarmed_settle (t := s.lost.timer) rfl now fun _ => s.lost.ended
  generalize (s.lost.timer.settle now fun _ => s.lost.ended).2 = timer at run disarmed
  obtain ⟨rests, quiet⟩ := ((atRest_lost s).toHushed.tasks none timer).spent.ends transport
  have same : ({ s.lost with keepalive := none, timer } : Subscription) = { s.lost with timer } := rfl
  rw [same] at rests quiet
  refine ⟨timer, disarmed, ?_⟩
  rw [Subscription.runTasks, isOpen.goesOn, if_neg Bool.false_ne_true,
    keepaliveWakes_refused isOpen sleeps due period refusal, Option.getD_some]
  simp only [run, quiet, Emission.append_none]
  exact congrArg (Prod.mk · _) rests

end Subscription

namespace Place

variable {born : Nat → Bool} {p : Place} {t : Timing} {transport : Transport} {n time : Nat}
  {s : Subscription} {cause : TransportError}

theorem tend_refused {born : Bool} (pending : p.pending = some (.subscription n))
    (found : p.subscription? n = some s) (isOpen : Open born s) (sleeps : s.keepalive = some time)
    (due : time ≤ t.now) (refusal : transport (.keepalive s.interval) = some cause) :
    p.tend t transport n .renew = ({ p with pending := none } : Place).set n s.lost := by
  have wakes : s.tend? t.now t.period transport .renew = some s.lost := by
    rw [tend?, renews_refused isOpen sleeps due _ refusal]
    rfl
  have closed : s.lost.liveness.closed = true := rfl
  simp only [Place.tend, found, wakes, settleEntry, isOpen.unclosed]
  simp [closed, unlist, Place.set, pending]

/-- What a place lets out, where all but the pending subscription are hushed, is what that one lets
out. -/
theorem Sound.runTasks_emission (sound : p.Sound born) (pending : p.pending = some (.subscription n))
    (found : p.subscription? n = some s) (t : Timing) (transport : Transport)
    (hushed : ∀ m s, p.subscription? m = some s → p.pending ≠ some (.subscription m) → Hushed s) :
    (p.runTasks t transport).2 = (ran t transport s).2 := by
  have live : p.live? = some (n, s) := live?_eq_some.mpr ⟨pending, found⟩
  refine Emission.ext_part fun β part nothing append => ?_
  refine (sound.part_runTasks t transport part nothing append fun m other there unlisted => ?_).trans
    (by rw [live])
  obtain ⟨timer, run⟩ := (hushed m other there unlisted).runTasks t.now t.period transport
  rw [ran, run]
  exact nothing

end Place

variable {c c' : Client} {net : Network} {past later : List Record} {h : SubscriptionHandle}
  {s : Subscription} {m : Move} {l : Location} {time : Nat} {cause : TransportError}

/-- The moves in which a keepalive wakes that sleeps until a time: its own, or the clock is moved and
all tasks go on that are due. -/
inductive Wakes (c : Client) (h : SubscriptionHandle) (time : Nat) : Move → Prop where
  | alone : time ≤ c.now → Wakes c h time (.chore h .renew)
  | together (moment : Nat) : time ≤ max c.now moment → Wakes c h time (.event (.wake moment))

/-- A move in which the keepalive of a subscription is refused.  The subscription closes, nothing is
pending at its location any more, and what is let out there is the keepalive and the answers of those
who waited for the next value. -/
structure Lost (net : Network) (c : Client) (h : SubscriptionHandle) (s : Subscription)
    (cause : TransportError) (m : Move) : Prop where
  emits : c.emits net h.location m = s.lastEmission cause
  listed : c.Lists h
  vacant : ((c.make net m).place h.location).pending = none
  closes : ∃ s', (c.make net m).subscription? h = some s' ∧ AtRest s' ∧
    s'.next = ⟨.cancelled, []⟩ ∧ s'.timer.deadline = none ∧ s'.feed = s.feed ∧
    s'.streams = s.streams

theorem Lives.listed (lives : Lives past c) (found : c.subscription? h = some s)
    (unclosed : s.isClosed = false) : c.Lists h ∧ ∃ born, Open born s := by
  have sound := (lives.consistent.fit h.location).sound
  refine ⟨(sound.entry h.number).mpr ⟨s, found, unclosed⟩, ?_⟩
  rcases sound.each h.number s found with isOpen | spent
  · exact ⟨_, isOpen⟩
  · cases unclosed.symm.trans spent.isClosed

theorem Lives.lost (lives : Lives past c) (found : c.subscription? h = some s)
    (unclosed : s.isClosed = false) (sleeps : s.keepalive = some time)
    (refusal : net h.location (.keepalive s.interval) = some cause) (wakes : Wakes c h time m) :
    Lost net c h s cause m := by
  obtain ⟨listed, born, isOpen⟩ := lives.listed found unclosed
  have distinct := lives.consistent.distinct
  have there : (c.place h.location).subscription? h.number = some s := found
  have becomes := subscription?_make distinct found net m
  cases wakes with
  | alone due =>
    have renews := renews_refused isOpen sleeps due c.period refusal
    have place : (c.make net (.chore h .renew)).place h.location =
        ({ c.place h.location with pending := none } : Place).set h.number s.lost := by
      rw [place_tend, if_pos rfl]
      exact tend_refused listed there isOpen sleeps due refusal
    refine ⟨?_, listed, ?_, s.lost, ?_, atRest_lost s, next_lost isOpen, rfl, rfl, rfl⟩
    · rw [emits, if_pos rfl, found, Option.bind_some, work?, renews]
      rfl
    · rw [place]
      rfl
    · rw [becomes, undergoes, if_pos rfl, work?, renews]
      rfl
  | together moment due =>
    obtain ⟨timer, disarmed, ran⟩ := runTasks_refused isOpen sleeps due c.period refusal
    have hushed (n : Nat) (other : Subscription)
        (there : (c.place h.location).subscription? n = some other)
        (unlisted : (c.place h.location).pending ≠ some (.subscription n)) : Hushed other :=
      lives.hushed (h := ⟨h.location, n⟩) there
        ((lives.consistent.fit h.location).sound.spent there unlisted).ended
    refine ⟨?_, listed, ?_, { s.lost with timer }, ?_, ?_, next_lost isOpen, disarmed,
      rfl, rfl⟩
    · have run := congrArg Prod.snd (step_run distinct net (.wake moment) h.location)
      refine run.trans ?_
      simp only [effect, Effect.run, Emission.none_append]
      rw [(lives.consistent.fit h.location).sound.runTasks_emission listed there _ _ hushed]
      exact congrArg Prod.snd ran
    · rw [make, place_step distinct]
      refine (pending_runTasks_live _ _ listed there isOpen.unclosed).trans (if_pos ?_)
      exact congrArg (·.1.liveness.closed) ran
    · rw [becomes]
      exact congrArg (fun r => some r.1) ran
    · exact ⟨(atRest_lost s).toHushed.tasks none timer, rfl⟩

/-- But for the subscription whose keepalive was refused everything is as before. -/
structure Apart (c : Client) (h : SubscriptionHandle) (c' : Client) : Prop where
  others : ∀ other, other ≠ h → c'.subscription? other = c.subscription? other
  elsewhere : ∀ l, l ≠ h.location → (c'.place l).pending = (c.place l).pending

theorem apart_chore (c : Client) (net : Network) (h : SubscriptionHandle) (chore : Chore) :
    Apart c h (c.make net (.chore h chore)) where
  others other different := by
    rw [subscription?, place_tend]
    split
    · next here =>
      obtain ⟨there, n⟩ := other
      cases here
      exact subscription?_tend_other (fun same => different (congrArg _ same.symm)) ..
    · rfl
  elsewhere l different := by rw [place_tend, if_neg (Ne.symm different)]

/-! ## Afterwards -/

/-- A subscription is at rest and is not what is pending. -/
structure Retired (c : Client) (h : SubscriptionHandle) : Prop where
  distinct : Distinct c.places
  rest : ∃ s, c.subscription? h = some s ∧ AtRest s
  unlisted : ¬ c.Lists h

theorem Lost.retired (lost : Lost net c h s cause m) (distinct : Distinct c.places) :
    Retired (c.make net m) h := by
  obtain ⟨s', there, rest, -⟩ := lost.closes
  refine ⟨distinct_make distinct net m, ⟨s', there, rest⟩, fun lists => ?_⟩
  cases lost.vacant.symm.trans lists

theorem Retired.make (retired : Retired c h) (net : Network) (m : Move) :
    Retired (c.make net m) h := by
  obtain ⟨s, found, rest⟩ := retired.rest
  exact ⟨distinct_make retired.distinct net m,
    ⟨_, subscription?_make retired.distinct found net m, (rest.undergoes net c h m).1⟩,
    fun lists => retired.unlisted (lists_make retired.distinct found lists)⟩

/-- A subscription attempts a message in a move.  It is there before, or it is one that the move
opens and tends to. -/
def Voices (net : Network) (c : Client) (m : Move) (h : SubscriptionHandle) (a : Attempt) : Prop :=
  match c.subscription? h with
  | some s => a ∈ (c.undergoes net h s m).2.attempts
  | none => ∃ every time, a ∈ (((c.place h.location).newest c.timing every).runTasks time c.period
      (net h.location)).2.attempts

theorem Retired.unvoiced (retired : Retired c h) (net : Network) (m : Move) (a : Attempt) :
    ¬ Voices net c m h a := by
  obtain ⟨s, found, rest⟩ := retired.rest
  rw [Voices, found]
  simp only [(rest.undergoes net c h m).2]
  exact fun member => by cases member

/-- Whatever is attempted at the location is asked for by the client, or is the message of another
subscription. -/
theorem Retired.attempts (retired : Retired c h) {a : Attempt}
    (member : a ∈ (c.emits net h.location m).attempts) :
    a.Asks ∨ ∃ other, other ≠ h ∧ other.location = h.location ∧ Voices net c m other a := by
  have different {other : SubscriptionHandle} (voices : Voices net c m other a) : other ≠ h := by
    rintro rfl
    exact retired.unvoiced net m a voices
  rcases attempts_emits retired.distinct member with ⟨n, s, found, voiced⟩ | ⟨-, asks | opened⟩
  · have voices : Voices net c m ⟨h.location, n⟩ a := by
      rw [Voices, found]
      exact voiced
    exact .inr ⟨_, different voices, rfl, voices⟩
  · exact .inl asks
  · have absent : c.subscription? ⟨h.location, (c.place h.location).opened.length⟩ = none :=
      List.getElem?_eq_none (Nat.le_refl _)
    have voices : Voices net c m ⟨h.location, (c.place h.location).opened.length⟩ a := by
      rw [Voices, absent]
      exact opened
    exact .inr ⟨_, different voices, rfl, voices⟩

/-- What is left of its tasks lets out nothing and leaves everything else as it is. -/
theorem Retired.chore (retired : Retired c h) (net : Network) (chore : Chore) :
    Futile net c h.location .none (.chore h chore) := by
  obtain ⟨s, found, rest⟩ := retired.rest
  refine ⟨fun there => ?_, fun there => ?_, fun other s' there unclosed => ?_⟩
  · rw [ite_self, emits]
    split
    · next here =>
      subst here
      rw [found, Option.bind_some]
      cases works : s.work? c.now c.period (net h.location) chore with
      | none => rfl
      | some result => exact rest.work works
    · rfl
  · rw [place_tend]
    split
    · next here =>
      subst here
      exact pending_tend_unlisted retired.unlisted ..
    · rfl
  · have different : other ≠ h := by
      rintro rfl
      cases found.symm.trans there
      cases unclosed.symm.trans rest.spent.isClosed
    exact ((apart_chore c net h chore).others other different).trans there

theorem answer_subscribe {p : Place} {t : Timing} {transport : Transport} {every : Interval}
    {n stream : Nat} (answer : (p.subscribe t transport every).answer = .ok (n, stream)) :
    p.pending = some (.subscription n) ∨ n = p.opened.length := by
  rw [Place.subscribe] at answer
  split at answer
  · next attaches =>
    obtain ⟨⟨m, s⟩, live, attached⟩ := Option.bind_eq_some_iff.mp attaches
    obtain ⟨⟨_, _⟩, -, same⟩ := Option.map_eq_some_iff.mp attached
    cases same
    cases answer
    exact .inl (live?_eq_some.mp live).1
  · cases refusal : transport (.start every) with
    | none =>
      rw [openSubscription_eq p t refusal] at answer
      cases answer
      exact .inr rfl
    | some cause =>
      simp only [Place.openSubscription, refusal] at answer
      cases answer

/-- No subscriber gets a stream of it. -/
theorem Retired.subscribe (retired : Retired c h) {every : Interval} {k : StreamHandle}
    (answer : (c.subscribe net l every).answer = .ok k) : k.subscription ≠ h := by
  obtain ⟨s, found, -⟩ := retired.rest
  rw [Client.subscribe] at answer
  split at answer
  · cases answer
  · cases stepped : ((c.place l).subscribe c.timing (net l) every).answer with
    | error e =>
      simp only [atPlace, stepped] at answer
      cases answer
    | ok numbers =>
      simp only [atPlace, stepped] at answer
      cases answer
      rintro rfl
      rcases answer_subscribe stepped with listed | new
      · exact retired.unlisted listed
      · have absent : (c.place l).subscription? numbers.1 = none :=
          List.getElem?_eq_none (Nat.le_of_eq new.symm)
        cases absent.symm.trans found

theorem publishes?_closed (closed : s.isClosed = true) (a : Act) : s.publishes? a = none := by
  cases a with
  | hear response | accept response => rw [publishes?, closed, Bool.true_or, if_pos rfl]
  | _ => rfl

theorem Retired.unpublished (retired : Retired c h) (net : Network) (m : Move) :
    Record.published? h ⟨c, net, m⟩ = none := by
  obtain ⟨s, found, rest⟩ := retired.rest
  have closed : s.isClosed = true := rest.spent.isClosed
  rw [Record.published?, found, Option.bind_some]
  exact publishes?_closed closed _

theorem Leads.retired {start : Client} (leads : Leads start later c) (retired : Retired start h) :
    Retired c h ∧ (∀ past, publications h (later ++ past) = publications h past) ∧
      ∀ r ∈ later, Retired r.client h := by
  induction leads with
  | here => exact ⟨retired, fun _ => rfl, fun r member => by cases member⟩
  | move later c net m leads ih =>
    obtain ⟨retired, same, each⟩ := ih
    refine ⟨retired.make net m, fun past => ?_, List.forall_mem_cons.mpr ⟨retired, each⟩⟩
    rw [List.cons_append, publications_cons, retired.unpublished net m, same]
    rfl

/-! ## What takes its place -/

namespace Place

variable {p : Place} {t : Timing} {transport : Transport} {every : Interval}

theorem request_vacant (vacant : p.pending = none) (t : Timing) (takes : transport .single = none) :
    p.request t transport = ⟨{ p with
      pending := some (.single (Awaited.fresh.join p.nextCall false)), nextCall := p.nextCall + 1 },
      ⟨[⟨.single, none⟩], []⟩, p.nextCall⟩ := by
  simp [Place.request, live?, vacant, sendSingle, takes]

theorem subscribe_unsubscribed (unsubscribed : ∀ n, p.pending ≠ some (.subscription n)) (t : Timing)
    (takes : transport (.start every) = none) :
    p.subscribe t transport every =
      ⟨p.adding (p.newest t every), ⟨[⟨.start every, none⟩], []⟩, .ok (p.opened.length, 0)⟩ := by
  rw [Place.subscribe, live?_eq_none unsubscribed]
  exact openSubscription_eq p t takes

end Place

/-- A call that finds nothing pending is sent, and is what is pending then. -/
theorem asks_vacant (unclosed : c.closed = false) (vacant : (c.place l).pending = none)
    (takes : net l .single = none) :
    (c.emits net l (.operation l (.request l))).attempts = [⟨.single, none⟩] ∧
      ((c.make net (.operation l (.request l))).place l).Asked
        (c.request net l).answer.number := by
  have here : c.effect net l (.request l) =
      .ofStep ((c.place l).request c.timing (net l)) := by
    simp [effect, unclosed]
  rw [emits, if_pos rfl, place_operation, if_pos rfl, here, answer_request,
    request_vacant vacant _ takes]
  refine ⟨rfl, _, rfl, ?_⟩
  simp [Awaited.fresh, Awaited.join, Awaited.has]

/-- A subscriber that finds no subscription opens one that was not there, and has its first stream. -/
theorem opens_unsubscribed {every : Interval} (unclosed : c.closed = false)
    (unsubscribed : ∀ n, (c.place l).pending ≠ some (.subscription n))
    (takes : net l (.start every) = none) :
    (c.emits net l (.operation l (.subscribe l every))).attempts = [⟨.start every, none⟩] ∧
      ∃ n s, (c.subscribe net l every).answer = .ok ⟨⟨l, n⟩, 0⟩ ∧
        c.subscription? ⟨l, n⟩ = none ∧
        (c.make net (.operation l (.subscribe l every))).Lists ⟨l, n⟩ ∧
        (c.make net (.operation l (.subscribe l every))).subscription? ⟨l, n⟩ = some s ∧
        s.isClosed = false := by
  have step := subscribe_unsubscribed unsubscribed c.timing takes
  have here : c.effect net l (.subscribe l every) =
      .moved ((c.place l).adding ((c.place l).newest c.timing every))
        ⟨[⟨.start every, none⟩], []⟩ := by
    simp [effect, unclosed, step, Effect.ofStep]
  have place : (c.make net (.operation l (.subscribe l every))).place l =
      (c.place l).adding ((c.place l).newest c.timing every) := by
    rw [place_operation, if_pos rfl, here]
    rfl
  refine ⟨?_, (c.place l).opened.length, (c.place l).newest c.timing every, ?_, ?_, ?_, ?_, ?_⟩
  · rw [emits, if_pos rfl, here]
    rfl
  · simp only [Client.subscribe, unclosed, step, atPlace]
    rfl
  · exact List.getElem?_eq_none (Nat.le_refl _)
  · rw [Lists, place]
    rfl
  · rw [subscription?, place]
    exact (subscription?_adding ..).trans (if_pos rfl)
  · rfl

/-- What a subscription whose keepalive was refused still is to a client, after a history that goes on
after that. -/
structure Bygone (past : List Record) (c : Client) (h : SubscriptionHandle) : Prop where
  unlisted : ¬ c.Lists h
  /-- Its streams yield the last of their news, and then they are at their end. -/
  polls : ∀ n s, c.subscription? h = some s → s.streams.any (·.1 = n) = true →
    (c.poll ⟨h, n⟩).1 = .ofNews (news ⟨h, n⟩ past) true
  /-- What its tasks may still do concerns nothing but itself. -/
  chores : ∀ net chore, Futile net c h.location .none (.chore h chore) ∧
    Apart c h (c.make net (.chore h chore))
  /-- A call that finds nothing pending is sent, and is pending then. -/
  asks : ∀ net, c.closed = false → (c.place h.location).pending = none →
    net h.location .single = none →
    let m := Move.operation h.location (.request h.location)
    (c.emits net h.location m).attempts = [⟨.single, none⟩] ∧
      ((c.make net m).place h.location).Asked (c.request net h.location).answer.number
  /-- A subscriber that finds no subscription opens another one, and is its first stream. -/
  opens : ∀ net every, c.closed = false →
    (∀ n, (c.place h.location).pending ≠ some (.subscription n)) →
    net h.location (.start every) = none →
    let m := Move.operation h.location (.subscribe h.location every)
    (c.emits net h.location m).attempts = [⟨.start every, none⟩] ∧
      ∃ other s, (c.subscribe net h.location every).answer = .ok ⟨other, 0⟩ ∧
        other ≠ h ∧ other.location = h.location ∧ c.subscription? other = none ∧
        (c.make net m).Lists other ∧ (c.make net m).subscription? other = some s ∧
        s.isClosed = false
  /-- Any stream that a subscriber gets is another's. -/
  subscribes : ∀ net l every k, (c.subscribe net l every).answer = .ok k → k.subscription ≠ h

theorem Retired.bygone (retired : Retired c h) {config : Config}
    (leads : Leads (ofConfig config) past c) : Bygone past c h := by
  obtain ⟨s, found, rest⟩ := retired.rest
  refine ⟨retired.unlisted, fun n s' there attached => ?_,
    fun net chore => ⟨retired.chore net chore, apart_chore c net h chore⟩,
    fun net unclosed vacant takes => asks_vacant unclosed vacant takes,
    fun net every unclosed unsubscribed takes => ?_, fun net l every k => retired.subscribe⟩
  · cases found.symm.trans there
    rw [leads.poll_eq (k := ⟨h, n⟩) found (isSome_poll? attached), rest.ended]
  · obtain ⟨asks, n, s', answer, absent, lists, opened, isOpen⟩ :=
      opens_unsubscribed unclosed unsubscribed takes
    refine ⟨asks, ⟨h.location, n⟩, s', answer, ?_, rfl, absent, lists, opened, isOpen⟩
    intro same
    rw [same] at absent
    cases absent.symm.trans found

/-- A subscription of a client that was neither closed nor let go whose keepalive is refused, when it
wakes alone or when all tasks go on.  The subscription closes in that move: its entry goes, its timer
is disarmed, its next value is cancelled with all who wait for it, and nothing else is attempted at
its location.  Where the keepalive wakes alone everything else stays as it is.  Whatever happens
later, nothing is published any more, its streams yield what they have not seen of the last value and
end, and every message that is attempted at its location is asked for by the client or comes from
another subscription.  What takes its place is another, which its tasks do not touch. -/
theorem lost_keepalive_closes (lives : Lives past c) (found : c.subscription? h = some s)
    (unclosed : s.isClosed = false) (sleeps : s.keepalive = some time)
    (refusal : net h.location (.keepalive s.interval) = some cause) :
    Apart c h (c.make net (.chore h .renew)) ∧
    ∀ m, Wakes c h time m → Lost net c h s cause m ∧
      ∀ later c', Leads (c.make net m) later c' →
        let all := later ++ ⟨c, net, m⟩ :: past
        Bygone all c' h ∧ publications h all = publications h past ∧
        ∀ r ∈ later, ∀ a ∈ (r.client.emits r.net h.location r.move).attempts,
          a.Asks ∨ ∃ other, other ≠ h ∧ other.location = h.location ∧
            Voices r.net r.client r.move other a := by
  refine ⟨apart_chore c net h .renew, fun m wakes => ?_⟩
  have lost := lives.lost found unclosed sleeps refusal wakes
  refine ⟨lost, fun later c' leads => ?_⟩
  obtain ⟨config, before⟩ := lives.leads
  obtain ⟨retired, same, each⟩ := leads.retired (lost.retired lives.consistent.distinct)
  have unpublished : Record.published? h ⟨c, net, m⟩ = none := by
    rw [Record.published?, found, Option.bind_some]
    cases wakes with
    | alone => rfl
    | together => rfl
  refine ⟨retired.bygone ((Leads.move past c net m before).trans leads), ?_, ?_⟩
  · rw [same, publications_cons, unpublished]
    rfl
  · exact fun r member a attempted => (each r member).attempts attempted

/-- A keepalive is refused while a call waits for the second value.  The stream on the first value
yields it and ends, although another subscription has been opened by then. -/
theorem lost_keepalive_closes_of_failing_network :
    let works : Network := fun _ _ => none
    let fails : Network := fun _ _ => some .closed
    let l : Location := ⟨"overworld", ⟨1, 2, 3⟩⟩
    let shot : Snapshot := ⟨.ofList [(⟨"gauge", 1⟩, .empty)]⟩
    let c₀ := ofConfig {}
    let c₁ := c₀.make works (.event (.subscribe l (.clamp 20)))
    let c₂ := c₁.make works (.event (.respond ⟨l, shot, none⟩))
    let c₃ := c₂.make works (.event (.request l))
    let m := Move.event (.wake c₀.period)
    let c₄ := c₃.make fails m
    let c₅ := c₄.make works (.event (.subscribe l (.clamp 20)))
    let c₆ := c₅.make works (.operation l (.poll ⟨⟨l, 0⟩, 0⟩))
    c₃.emits fails l m =
        ⟨[⟨.keepalive (.clamp 20), some .closed⟩], [⟨0, .error .cancelled⟩]⟩ ∧
      (c₄.place l).pending = none ∧
      (c₅.place l).pending = some (.subscription 1) ∧
      (c₅.poll ⟨⟨l, 0⟩, 0⟩).1 = .value shot ∧ (c₆.poll ⟨⟨l, 0⟩, 0⟩).1 = .finished ∧
      ∀ a ∈ (c₆.emits works l (.event .close)).attempts,
        a.Asks ∨ ∃ other, other ≠ ⟨l, 0⟩ ∧ other.location = l ∧
          Voices works c₆ (.event .close) other a := by
  intro works fails l shot c₀ c₁ c₂ c₃ m c₄ c₅ c₆
  let past : List Record := [⟨c₂, works, .event (.request l)⟩,
    ⟨c₁, works, .event (.respond ⟨l, shot, none⟩)⟩, ⟨c₀, works, .event (.subscribe l (.clamp 20))⟩]
  let later : List Record := [⟨c₅, works, .operation l (.poll ⟨⟨l, 0⟩, 0⟩)⟩,
    ⟨c₄, works, .event (.subscribe l (.clamp 20))⟩]
  have lives : Lives past c₃ :=
    .move _ c₂ works _ (.move _ c₁ works _ (.move _ c₀ works _ (.start {}) id) id) id
  have leads₅ : Leads c₄ [⟨c₄, works, .event (.subscribe l (.clamp 20))⟩] c₅ :=
    .move _ c₄ works _ .here
  have leads₆ : Leads c₄ later c₆ := .move _ c₅ works _ leads₅
  have listens : (c₃.subscription? ⟨l, 0⟩).map (fun s =>
      (s.isClosed, s.keepalive, s.interval, s.next.calls)) =
        some (false, some c₀.period, .clamp 20, [0]) := by decide +kernel +zetaReduce
  have next : (c₅.place l).pending = some (.subscription 1) := by decide +kernel +zetaReduce
  have attached₅ : (c₅.subscription? ⟨l, 0⟩).map (·.streams.any (·.1 = 0)) = some true := by
    decide +kernel +zetaReduce
  have attached₆ : (c₆.subscription? ⟨l, 0⟩).map (·.streams.any (·.1 = 0)) = some true := by
    decide +kernel +zetaReduce
  have news₅ : news ⟨⟨l, 0⟩, 0⟩ (⟨c₄, works, .event (.subscribe l (.clamp 20))⟩ ::
      ⟨c₃, fails, m⟩ :: past) = [shot] := by decide +kernel +zetaReduce
  have news₆ : news ⟨⟨l, 0⟩, 0⟩ (later ++ ⟨c₃, fails, m⟩ :: past) = [] := by
    decide +kernel +zetaReduce
  -- From here on it does not matter what the states are.
  clear_value later past c₆ c₅ c₃ c₂ c₁ c₀
  obtain ⟨s, found, same⟩ := Option.map_eq_some_iff.mp listens
  obtain ⟨unclosed, sleeps, every, calls⟩ : s.isClosed = false ∧ s.keepalive = some c₀.period ∧
      s.interval = .clamp 20 ∧ s.next.calls = [0] := by simpa using same
  obtain ⟨s₅, found₅, attached₅⟩ := Option.map_eq_some_iff.mp attached₅
  obtain ⟨s₆, found₆, attached₆⟩ := Option.map_eq_some_iff.mp attached₆
  have refusal : fails l (.keepalive s.interval) = some .closed := rfl
  obtain ⟨-, closes⟩ := lost_keepalive_closes lives found unclosed sleeps refusal
  obtain ⟨lost, after⟩ := closes m (.together c₀.period (Nat.le_max_right ..))
  obtain ⟨bygone₅, -, -⟩ := after _ c₅ leads₅
  obtain ⟨bygone₆, -, -⟩ := after later c₆ leads₆
  obtain ⟨-, -, attempts⟩ := after _ _ (.move later c₆ works (.event .close) leads₆)
  refine ⟨?_, lost.vacant, next, ?_, ?_, attempts _ List.mem_cons_self⟩
  · rw [lost.emits, Subscription.lastEmission, every, calls]
    rfl
  · exact (bygone₅.polls 0 s₅ found₅ attached₅).trans (congrArg (Poll.ofNews · true) news₅)
  · exact (bygone₆.polls 0 s₆ found₆ attached₆).trans (congrArg (Poll.ofNews · true) news₆)

end ObservationFeed.Client
