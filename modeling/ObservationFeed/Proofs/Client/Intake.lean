import ObservationFeed.Proofs.Client.Representation

/-!
# What responses leave in a subscription

The published values of a subscription and its highest tick are written where a
response is applied and nowhere else: not where streams and callers come and go,
not by any task, and not when the subscription closes.  A new subscription has
neither.  So of everything that can happen at a place, only a response for an
open subscription has to be looked at.
-/

namespace ObservationFeed.Client

open KeyedList Subscription Place

/-- What responses leave in a subscription. -/
structure Intake where
  feed : Feed Snapshot
  /-- The tick of the last applied response that had one. -/
  highest : Option Int64

namespace Intake

def empty : Intake := ⟨.empty, none⟩

/-- A response with this tick is not behind what was taken. -/
def isCurrent (i : Intake) (tick : Option Int64) : Bool :=
  tick.all fun a => i.highest.all fun b => b ≤ a

def publish (i : Intake) (response : Response) : Intake :=
  ⟨i.feed.publish response.snapshot, response.serverTick.or i.highest⟩

/-- Takes in a response, if there is one that is not behind. -/
def after (i : Intake) : Option Response → Intake
  | some response => if i.isCurrent response.serverTick then i.publish response else i
  | none => i

end Intake

namespace Subscription

variable {s s' : Subscription} {transport : Transport}

def intake (s : Subscription) : Intake := ⟨s.feed, s.highest⟩

theorem isStale_eq (s : Subscription) (tick : Option Int64) :
    s.isStale tick = !s.intake.isCurrent tick := by
  cases tick with
  | none => rfl
  | some a =>
    cases highest : s.highest with
    | none => simp [isStale, Intake.isCurrent, intake, highest]
    | some b => simp [isStale, Intake.isCurrent, intake, highest, ← decide_not, Int64.not_le]

theorem intake_updateLiveness (s : Subscription) (now : Nat) (change : Liveness → Liveness) :
    (s.updateLiveness now change).intake = s.intake := by
  rw [updateLiveness]
  split <;> rfl

theorem intake_attach {now number : Nat} (attaches : s.attach? now = some (number, s')) :
    s'.intake = s.intake := by
  rw [attach?] at attaches
  split at attaches
  · cases attaches
  · cases attaches
    exact intake_updateLiveness s now fun l => { l with consumers := l.consumers + 1 }

theorem intake_detach (s : Subscription) (now number : Nat) :
    (s.detach now number).intake = s.intake := by
  rw [detach]
  split
  · exact intake_updateLiveness { s with streams := s.streams.filter (·.1 ≠ number) } now _
  · rfl

theorem intake_poll {number : Nat} {found : Poll Snapshot}
    (polled : s.poll? number = some (found, s')) : s'.intake = s.intake := by
  obtain ⟨_, _, same⟩ := Option.map_eq_some_iff.mp polled
  cases same
  rfl

theorem intake_park {now call : Nat} (parks : s.park? now call = some s') :
    s'.intake = s.intake := by
  rw [park?] at parks
  split at parks
  · cases parks
  · cases parks
    exact intake_updateLiveness s now fun l => { l with waiters := l.waiters + 1 }

theorem intake_depart (s : Subscription) (now call : Nat) :
    (s.depart now call).intake = s.intake := by
  rw [depart]
  split
  · exact intake_updateLiveness { s with answered := s.answered.eraseP (·.call = call) } now _
  · rfl

theorem intake_abort (s : Subscription) (now call : Nat) :
    (s.abort now call).intake = s.intake := by
  rw [abort, intake_depart, forgo]
  split
  · exact intake_updateLiveness { s with next := s.next.leave call } now _
  · rfl

theorem intake_accept (s : Subscription) (now : Nat) (response : Response) :
    (s.accept now response.snapshot response.serverTick).1.intake =
      s.intake.after (some response) := by
  rw [Subscription.accept, isStale_eq, Intake.after]
  cases s.intake.isCurrent response.serverTick with
  | false => rfl
  | true =>
    simp only [intake_updateLiveness, Bool.not_true, Bool.false_eq_true, if_false, if_true]
    rfl

theorem intake_publish (s : Subscription) (now : Nat) (response : Response) :
    (s.publish now response.snapshot response.serverTick).1.intake =
      s.intake.after (some response) := by
  rw [Subscription.publish, isStale_eq, Intake.after]
  cases s.intake.isCurrent response.serverTick with
  | false => rfl
  | true =>
    simp only [unpark, intake_updateLiveness, Bool.not_true, Bool.false_eq_true, if_false, if_true]
    rfl

/-! ## Closing and tasks -/

theorem intake_sendStop (s : Subscription) (transport : Transport) :
    (s.sendStop transport).1.intake = s.intake := by
  rw [sendStop]
  split <;> rfl

theorem intake_close (s : Subscription) (transport : Transport) :
    (s.close transport).1.intake = s.intake := by
  rw [Subscription.close]
  split
  · rfl
  · exact intake_sendStop ..

theorem intake_onIdle (s : Subscription) (transport : Transport) :
    (s.onIdle transport).1.intake = s.intake := by
  rw [onIdle]
  split
  · rfl
  · exact intake_close s transport

theorem intake_keepaliveWakes {now period : Nat} {result : Subscription × Emission}
    (wakes : s.keepaliveWakes? now period transport = some result) :
    result.1.intake = s.intake := by
  rw [keepaliveWakes?] at wakes
  split at wakes
  · cases wakes
  · split at wakes
    · cases wakes
    · simp only at wakes
      split at wakes
      · cases wakes
        rfl
      · cases wakes
        exact intake_close { s with keepalive := none, stopSent := true } transport

theorem intake_keepaliveEnds {result : Subscription × Emission}
    (ends : s.keepaliveEnds? transport = some result) : result.1.intake = s.intake := by
  rw [keepaliveEnds?] at ends
  split at ends
  · cases ends
    exact intake_sendStop ..
  · cases ends

theorem intake_runTimer (s : Subscription) (now : Nat) (transport : Transport) :
    (s.runTimer now transport).1.intake = s.intake := by
  rw [runTimer]
  simp only
  split
  · exact intake_onIdle ..
  · rfl

theorem intake_runTasks (s : Subscription) (now period : Nat) (transport : Transport) :
    (s.runTasks now period transport).1.intake = s.intake := by
  -- The keepalive first, then the timer, and last what is left of the keepalive.
  have first : (if s.ended = true then (s, Emission.none)
      else (s.keepaliveWakes? now period transport).getD (s, .none)).1.intake = s.intake := by
    split
    · rfl
    · cases wakes : s.keepaliveWakes? now period transport with
      | none => rfl
      | some result => exact intake_keepaliveWakes wakes
  have last (s : Subscription) :
      ((s.keepaliveEnds? transport).getD (s, .none)).1.intake = s.intake := by
    cases ends : s.keepaliveEnds? transport with
    | none => rfl
    | some result => exact intake_keepaliveEnds ends
  rw [Subscription.runTasks]
  exact (last _).trans ((intake_runTimer ..).trans first)

theorem intake_tend {now period : Nat} {chore : Chore}
    (tends : s.tend? now period transport chore = some s') : s'.intake = s.intake := by
  cases chore with
  | renew =>
    obtain ⟨result, renews, rfl⟩ := Option.map_eq_some_iff.mp tends
    obtain ⟨woken, wakes, rfl⟩ := Option.map_eq_some_iff.mp renews
    refine Eq.trans ?_ (intake_keepaliveWakes wakes)
    simp only
    split
    · cases ends : woken.1.keepaliveEnds? transport with
      | none => rfl
      | some result => exact intake_keepaliveEnds ends
    · rfl
  | conclude =>
    obtain ⟨result, ends, rfl⟩ := Option.map_eq_some_iff.mp tends
    exact intake_keepaliveEnds ends
  | read task | abandon task =>
    obtain ⟨timer, -, rfl⟩ := Option.map_eq_some_iff.mp tends
    rfl
  | wake task =>
    obtain ⟨⟨fired, timer⟩, -, rfl⟩ := Option.map_eq_some_iff.mp tends
    cases fired with
    | false => rfl
    | true => exact intake_onIdle ..

end Subscription

/-! ## Places -/

namespace Place

variable {born : Nat → Bool} {p p' : Place} {n m : Nat} {s s' : Subscription}

/-- What responses left in a subscription opened here, nothing if it was not opened. -/
def intake (p : Place) (n : Nat) : Intake :=
  ((p.subscription? n).map Subscription.intake).getD .empty

/-- The subscription is open, so that responses for the location go to it. -/
def listens (p : Place) (n : Nat) : Bool := (p.subscription? n).any fun s => !s.isClosed

theorem intake_some (found : p.subscription? n = some s) : p.intake n = s.intake := by
  rw [intake, found]
  rfl

theorem intake_of_opened (same : p'.opened = p.opened) (n : Nat) : p'.intake n = p.intake n := by
  rw [intake, intake, subscription?, subscription?, same]

/-- Each subscription was changed in some way that leaves what it has taken. -/
theorem intake_map {change : Subscription → Subscription}
    (looked : p'.subscription? n = (p.subscription? n).map change)
    (same : ∀ s, (change s).intake = s.intake) : p'.intake n = p.intake n := by
  rw [intake, intake, looked, Option.map_map]
  cases p.subscription? n with
  | none => rfl
  | some s => exact same s

theorem intake_set (found : p.subscription? m = some s) (same : s'.intake = s.intake) (n : Nat) :
    (p.set m s').intake n = p.intake n := by
  rw [intake, subscription?_set found]
  by_cases here : m = n
  · subst here
    rw [if_pos rfl, intake_some found]
    exact same
  · rw [if_neg here]
    rfl

theorem intake_request (p : Place) (t : Timing) (transport : Transport) (n : Nat) :
    (p.request t transport).place.intake n = p.intake n := by
  rw [Place.request]
  split
  · rfl
  · next shared _ =>
    obtain ⟨⟨m, s⟩, live, parked⟩ := Option.bind_eq_some_iff.mp shared
    obtain ⟨s', parks, rfl⟩ := Option.map_eq_some_iff.mp parked
    exact intake_set (p := { p with nextCall := p.nextCall + 1 }) (live?_eq_some.mp live).2
      (Subscription.intake_park parks) n
  · rw [sendSingle]
    simp only
    split <;> rfl

theorem intake_abort (p : Place) (t : Timing) (call n : Nat) :
    (p.abort t call).intake n = p.intake n :=
  intake_map (List.getElem?_map ..) fun s => Subscription.intake_abort s t.now call

theorem intake_openSubscription (p : Place) (t : Timing) (transport : Transport)
    (every : Interval) (n : Nat) :
    (p.openSubscription t transport every).place.intake n = p.intake n := by
  cases refusal : transport (.start every) with
  | some cause =>
    simp only [Place.openSubscription, refusal]
  | none =>
    let fresh := Subscription.begin t.now t.period t.window every p.call?
    have attaches : fresh.attach? t.now = some (_, fresh.attached t.now) := attach?_open rfl
    have begins := Subscription.intake_attach attaches
    rw [openSubscription_eq p t refusal]
    simp only
    rw [intake, subscription?_adding]
    by_cases here : n = p.opened.length
    · have absent : p.subscription? n = none := List.getElem?_eq_none (Nat.le_of_eq here.symm)
      rw [if_pos here, intake, absent]
      exact begins
    · rw [if_neg here]
      rfl

theorem intake_subscribe (p : Place) (t : Timing) (transport : Transport) (every : Interval)
    (n : Nat) : (p.subscribe t transport every).place.intake n = p.intake n := by
  rw [Place.subscribe]
  split
  · next attaches =>
    obtain ⟨⟨m, s⟩, live, attached⟩ := Option.bind_eq_some_iff.mp attaches
    obtain ⟨⟨stream, s'⟩, attaches, same⟩ := Option.map_eq_some_iff.mp attached
    cases same
    exact intake_set (live?_eq_some.mp live).2 (Subscription.intake_attach attaches) n
  · exact intake_openSubscription p t transport every n

theorem intake_detach (p : Place) (t : Timing) (m stream n : Nat) :
    (p.detach t m stream).2.intake n = p.intake n := by
  rw [Place.detach]
  split
  · next found => exact intake_set found (Subscription.intake_detach ..) n
  · rfl

theorem intake_poll {stream : Nat} {found : Poll Snapshot}
    (polled : p.poll m stream = some (found, p')) (n : Nat) : p'.intake n = p.intake n := by
  obtain ⟨s, there, answered⟩ := Option.bind_eq_some_iff.mp polled
  obtain ⟨⟨answer, s'⟩, seen, same⟩ := Option.map_eq_some_iff.mp answered
  cases same
  exact intake_set there (Subscription.intake_poll seen) n

theorem intake_closeSubscription (p : Place) (transport : Transport) (m n : Nat) :
    (p.closeSubscription transport m).place.intake n = p.intake n := by
  rw [Place.closeSubscription]
  split
  · rfl
  · next s found =>
    have set := intake_set found (Subscription.intake_close s transport) n
    simp only
    split
    · exact set
    · exact (intake_of_opened rfl n).trans set

theorem intake_unsubscribe (p : Place) (transport : Transport) (n : Nat) :
    (p.unsubscribe transport).place.intake n = p.intake n := by
  rw [Place.unsubscribe]
  split
  · next m pending => exact intake_closeSubscription { p with pending := none } transport m n
  · rfl

theorem intake_close (p : Place) (transport : Transport) (n : Nat) :
    (p.close transport).place.intake n = p.intake n := by
  rw [Place.close]
  split
  · rfl
  · rfl
  · next m pending => exact intake_closeSubscription { p with pending := none } transport m n

theorem intake_depart (p : Place) (t : Timing) (m call n : Nat) :
    (p.depart t m call).intake n = p.intake n := by
  rw [Place.depart]
  split
  · next found => exact intake_set found (Subscription.intake_depart ..) n
  · rfl

/-- A response is taken in by the subscription that listens, if there is one. -/
theorem Sound.intake_hand (sound : p.Sound born) (transport : Transport) (response : Response)
    {hear : Subscription → Subscription × List Return}
    (takes : ∀ s, (hear s).1.intake = s.intake.after (some response)) (n : Nat) :
    (p.hand transport response hear).place.intake n =
      (p.intake n).after (if p.listens n then some response else none) := by
  have listens : p.listens n = true ↔ p.pending = some (.subscription n) := by
    rw [sound.entry n, Place.listens, Option.any_eq_true]
    simp only [Bool.not_eq_true']
  cases pending : p.pending with
  | none =>
    rw [if_neg (by simp [listens, pending])]
    simp only [Place.hand, pending]
    rfl
  | some what =>
    cases what with
    | single awaited =>
      rw [if_neg (by simp [listens, pending])]
      simp only [Place.hand, pending]
      exact intake_of_opened rfl n
    | subscription m =>
      obtain ⟨s, found, isOpen⟩ := sound.pendingOpen pending
      rw [hand_live transport response hear pending found isOpen.isClosed]
      simp only
      by_cases here : m = n
      · subst here
        rw [if_pos (listens.mpr pending), intake_some found, intake, subscription?_set found,
          if_pos rfl]
        exact takes s
      · have other : ¬ p.listens n = true := by simp [listens, pending, here]
        rw [if_neg other, intake, subscription?_set found, if_neg here]
        rfl

theorem Sound.intake_respond (sound : p.Sound born) (t : Timing) (transport : Transport)
    (response : Response) (n : Nat) :
    (p.respond t transport response).place.intake n =
      (p.intake n).after (if p.listens n then some response else none) :=
  sound.intake_hand transport response
    (fun s => Subscription.intake_publish s t.now response) n

theorem Sound.intake_accept (sound : p.Sound born) (t : Timing) (transport : Transport)
    (response : Response) (n : Nat) :
    (p.accept t transport response).place.intake n =
      (p.intake n).after (if p.listens n then some response else none) :=
  sound.intake_hand transport response
    (fun s => Subscription.intake_accept s t.now response) n

theorem intake_runTasks (p : Place) (t : Timing) (transport : Transport) (n : Nat) :
    (p.runTasks t transport).1.intake n = p.intake n :=
  intake_map (subscription?_runTasks t transport p n) fun s =>
    Subscription.intake_runTasks s t.now t.period transport

theorem intake_tend (p : Place) (t : Timing) (transport : Transport) (m : Nat) (chore : Chore)
    (n : Nat) : (p.tend t transport m chore).intake n = p.intake n := by
  rcases p.tend_cases t transport m chore with same | ⟨before, after, found, tends, same⟩
  · rw [same]
  · rw [same, intake, subscription?_settleEntry]
    exact intake_set found (Subscription.intake_tend tends) n

end Place

/-! ## Events -/

/-- The response for the location that an event brings. -/
def Event.response? (l : Location) : Event → Option Response
  | .respond response => if response.location = l then some response else none
  | _ => none

/-- What an operation makes of what a subscription has taken. -/
theorem intake_effect {net : Network} {c : Client} {l : Location} {born : Nat → Bool}
    (sound : (c.place l).Sound born) (unclosed : c.closed = false) (e : Event) (n : Nat) :
    ((c.effect net l e).place (c.place l)).intake n =
      ((c.place l).intake n).after (if (c.place l).listens n then e.response? l else none) := by
  cases e with
  | respond response =>
    simp only [effect, unclosed, Bool.false_eq_true, or_false, Event.response?]
    by_cases here : response.location = l
    · rw [if_neg (not_not_intro here), if_pos here]
      exact sound.intake_respond c.timing (net l) response n
    · rw [if_pos here, if_neg here, ite_self]
      rfl
  | request there =>
    simp only [effect, unclosed, Event.response?, ite_self]
    split
    · rfl
    · exact intake_request (c.place l) c.timing (net l) n
  | abort call =>
    simp only [effect, Event.response?, ite_self]
    split
    · rfl
    · exact Place.intake_abort ..
  | subscribe there every =>
    simp only [effect, Event.response?, ite_self]
    split
    · rfl
    · exact intake_subscribe ..
  | poll h =>
    simp only [effect, Event.response?, ite_self]
    split
    · rfl
    · split
      · next polled => exact Place.intake_poll polled n
      · rfl
  | detach h =>
    simp only [effect, Event.response?, ite_self]
    split
    · rfl
    · exact Place.intake_detach ..
  | closeSubscription h =>
    simp only [effect, Event.response?, ite_self]
    split
    · rfl
    · exact intake_closeSubscription ..
  | unsubscribe there =>
    simp only [effect, Event.response?, ite_self]
    split
    · rfl
    · exact intake_unsubscribe ..
  | close =>
    simp only [effect, Event.response?, ite_self]
    split
    · rfl
    · exact Place.intake_close ..
  | release =>
    simp only [effect, Event.response?, ite_self]
    exact intake_map (List.getElem?_map ..) fun s => rfl
  | wake time | elapse time =>
    simp only [effect, Event.response?, ite_self]
    rfl

end ObservationFeed.Client
