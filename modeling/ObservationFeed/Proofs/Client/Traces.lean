import ObservationFeed.Proofs.Client.Acts
import ObservationFeed.Proofs.Client.Intake

/-!
# Subscriptions along a history

What a move makes of one subscription depends on that subscription, the act that
the move performs on it and its own tasks; those of the others are not looked at.
`undergoes` is that, with what the subscription lets out, and all messages of a
move come from some subscription or are requests of an unclosed client.

`Leads` is any history at all, in which a client may be closed and let go.
-/

namespace ObservationFeed.Client

open KeyedList Subscription Place

/-! ## Tasks of a subscription -/

namespace Subscription

/-- A chore, where it can be done, with what the subscription lets out in it. -/
def work? (s : Subscription) (now period : Nat) (transport : Transport) :
    Chore → Option (Subscription × Emission)
  | .renew => s.renews? now period transport
  | .conclude => s.keepaliveEnds? transport
  | .read task => (s.timer.read? task).map fun timer => ({ s with timer }, .none)
  | .abandon task =>
    (s.timer.abandon? (fun _ => s.ended) task).map fun timer => ({ s with timer }, .none)
  | .wake task => (s.timer.wake? now task).map fun (fired, timer) =>
    if fired then { s with timer }.onIdle transport else ({ s with timer }, .none)

theorem tend?_eq (s : Subscription) (now period : Nat) (transport : Transport) (chore : Chore) :
    s.tend? now period transport chore = (s.work? now period transport chore).map (·.1) := by
  cases chore with
  | renew | conclude => rfl
  | read task =>
    rw [tend?, work?, Option.map_map]
    rfl
  | abandon task =>
    rw [tend?, work?, Option.map_map]
    rfl
  | wake task =>
    rw [tend?, work?, Option.map_map]
    refine Option.map_congr fun result _ => ?_
    obtain ⟨fired, timer⟩ := result
    cases fired <;> rfl

/-- A subscription that has closed, and whose callers were given up. -/
def shut (s : Subscription) : Subscription :=
  { s with
    liveness := { s.liveness with closed := true }
    ended := true
    next := (s.next.settle .cancelled).1 }

/-- What tasks make of any subscription: it is as before but for their own state and the note of the
stop, or they have closed it. -/
inductive Toiled (s : Subscription) : Subscription → Prop where
  | goesOn (keepalive : Option Nat) (timer : CleanupTimer) (stopSent : Bool) :
      Toiled s { s with keepalive, timer, stopSent }
  | closes (keepalive : Option Nat) (timer : CleanupTimer) (stopSent : Bool) :
      s.liveness.closed = false → Toiled s { s.shut with keepalive, timer, stopSent }

variable {s s' : Subscription} {now period : Nat} {transport : Transport}

theorem toiled_refl (s : Subscription) : Toiled s s := .goesOn s.keepalive s.timer s.stopSent

theorem Toiled.trans {a b c : Subscription} (first : Toiled a b) (second : Toiled b c) :
    Toiled a c := by
  cases first with
  | goesOn =>
    cases second with
    | goesOn keepalive timer stopSent => exact .goesOn keepalive timer stopSent
    | closes keepalive timer stopSent unclosed => exact .closes keepalive timer stopSent unclosed
  | closes _ _ _ unclosed =>
    cases second with
    | goesOn keepalive timer stopSent => exact .closes keepalive timer stopSent unclosed
    | closes _ _ _ again => cases again

theorem toiled_close (s : Subscription) (transport : Transport) :
    Toiled s (s.close transport).1 := by
  rw [Subscription.close]
  split
  · exact toiled_refl s
  · next unclosed =>
    have unclosed := Bool.eq_false_iff.mpr unclosed
    simp only [teardown, sendStop]
    split
    · exact .closes s.keepalive s.timer.disarm s.stopSent unclosed
    · exact .closes s.keepalive s.timer.disarm true unclosed

theorem toiled_onIdle (s : Subscription) (transport : Transport) :
    Toiled s (s.onIdle transport).1 := by
  rw [onIdle]
  split
  · exact toiled_refl s
  · exact toiled_close s transport

theorem toiled_keepaliveWakes {result : Subscription × Emission}
    (wakes : s.keepaliveWakes? now period transport = some result) : Toiled s result.1 := by
  rw [keepaliveWakes?] at wakes
  split at wakes
  · cases wakes
  · split at wakes
    · cases wakes
    · simp only at wakes
      split at wakes
      · cases wakes
        exact .goesOn (some (now + period)) s.timer s.stopSent
      · cases wakes
        exact (Toiled.goesOn none s.timer true).trans (toiled_close _ transport)

theorem toiled_keepaliveEnds {result : Subscription × Emission}
    (ends : s.keepaliveEnds? transport = some result) : Toiled s result.1 := by
  rw [keepaliveEnds?] at ends
  split at ends
  · cases ends
    rw [sendStop]
    split
    · exact .goesOn none s.timer s.stopSent
    · exact .goesOn none s.timer true
  · cases ends

theorem toiled_runTimer (s : Subscription) (now : Nat) (transport : Transport) :
    Toiled s (s.runTimer now transport).1 := by
  rw [runTimer]
  generalize s.timer.settle now (fun _ => s.ended) = result
  obtain ⟨fired, timer⟩ := result
  have first : Toiled s { s with timer } := .goesOn s.keepalive timer s.stopSent
  cases fired with
  | false => exact first
  | true => exact first.trans (toiled_onIdle _ transport)

theorem toiled_runTasks (s : Subscription) (now period : Nat) (transport : Transport) :
    Toiled s (s.runTasks now period transport).1 := by
  have first : Toiled s (if s.ended then (s, Emission.none)
      else (s.keepaliveWakes? now period transport).getD (s, .none)).1 := by
    split
    · exact toiled_refl s
    · cases wakes : s.keepaliveWakes? now period transport with
      | none => exact toiled_refl s
      | some result => exact toiled_keepaliveWakes wakes
  have last (s : Subscription) :
      Toiled s ((s.keepaliveEnds? transport).getD (s, .none)).1 := by
    cases ends : s.keepaliveEnds? transport with
    | none => exact toiled_refl s
    | some result => exact toiled_keepaliveEnds ends
  rw [Subscription.runTasks]
  exact (first.trans (toiled_runTimer ..)).trans (last _)

theorem toiled_work {chore : Chore} {result : Subscription × Emission}
    (works : s.work? now period transport chore = some result) : Toiled s result.1 := by
  cases chore with
  | renew =>
    obtain ⟨woken, wakes, rfl⟩ := Option.map_eq_some_iff.mp works
    refine (toiled_keepaliveWakes wakes).trans ?_
    simp only
    split
    · cases ends : woken.1.keepaliveEnds? transport with
      | none => exact toiled_refl _
      | some result => exact toiled_keepaliveEnds ends
    · exact toiled_refl _
  | conclude => exact toiled_keepaliveEnds works
  | read task | abandon task =>
    obtain ⟨timer, -, rfl⟩ := Option.map_eq_some_iff.mp works
    exact .goesOn s.keepalive timer s.stopSent
  | wake task =>
    obtain ⟨⟨fired, timer⟩, -, rfl⟩ := Option.map_eq_some_iff.mp works
    have first : Toiled s { s with timer } := .goesOn s.keepalive timer s.stopSent
    cases fired with
    | false => exact first
    | true => exact first.trans (toiled_onIdle _ transport)

end Subscription

/-! ## Operations and the tasks after them -/

namespace Place

variable {t : Timing} {transport : Transport} {mayAsk : Prop} {p after : Place} {act : Nat → Act}
  {emission : Emission} {n : Nat} {s : Subscription}

theorem Operates.found (operates : Operates t transport mayAsk p act after emission)
    (found : p.subscription? n = some s) :
    after.subscription? n = some (s.undergo t.now transport (act n)).1 := by
  cases operates with
  | acts _ _ undergone => rw [undergone n, found, Option.map_some]
  | opens every _ _ undergone =>
    have inside : n < p.opened.length := (List.getElem?_eq_some_iff.mp found).1
    rw [subscription?_adding, if_neg (Nat.ne_of_lt inside), undergone n, found, Option.map_some]

/-- A subscription that was not there before is a new one. -/
theorem Operates.absent (operates : Operates t transport mayAsk p act after emission)
    (absent : p.subscription? n = none) :
    after.subscription? n = none ∨
      mayAsk ∧ ∃ every, after.subscription? n = some (p.newest t every) := by
  cases operates with
  | acts _ _ undergone =>
    rw [undergone n, absent]
    exact .inl rfl
  | opens every may _ _ =>
    rw [subscription?_adding]
    split
    · exact .inr ⟨may, every, rfl⟩
    · exact .inl absent

theorem Operates.pending (operates : Operates t transport mayAsk p act after emission)
    (pending : after.pending = some (.subscription n)) :
    p.pending = some (.subscription n) ∨ p.subscription? n = none := by
  cases operates with
  | acts _ _ _ entry => exact .inl (entry n pending)
  | opens every may _ _ =>
    cases pending
    exact .inr (List.getElem?_eq_none (Nat.le_refl _))

theorem Operates.attempts (operates : Operates t transport mayAsk p act after emission)
    {a : Attempt} (member : a ∈ emission.attempts) :
    (mayAsk ∧ a.Asks) ∨ ∃ n s, p.subscription? n = some s ∧
      a ∈ (s.undergo t.now transport (act n)).2.attempts := by
  cases operates with
  | acts _ _ _ _ each => exact each a member
  | opens every may _ _ =>
    obtain rfl := List.mem_singleton.mp member
    exact .inl ⟨may, .inr ⟨every, rfl⟩⟩

/-- Running the tasks only drops entries. -/
theorem pending_runTasks_of (p : Place) (t : Timing) (transport : Transport)
    (pending : (p.runTasks t transport).1.pending = some (.subscription n)) :
    p.pending = some (.subscription n) := by
  rw [Place.runTasks, pending_runTasksUpTo] at pending
  split at pending
  · cases pending
  · exact pending

theorem mem_attempts_runTasks {a : Attempt} (member : a ∈ (p.runTasks t transport).2.attempts) :
    ∃ n s, p.subscription? n = some s ∧
      a ∈ (s.runTasks t.now t.period transport).2.attempts := by
  rw [Place.runTasks, attempts_runTasksUpTo] at member
  obtain ⟨n, -, member⟩ := List.mem_flatMap.mp member
  cases found : p.subscription? n with
  | none =>
    rw [found] at member
    cases member
  | some s =>
    rw [found] at member
    exact ⟨n, s, found, member⟩

theorem subscription?_tend_other {m : Nat} (other : m ≠ n) (p : Place) (t : Timing)
    (transport : Transport) (chore : Chore) :
    (p.tend t transport m chore).subscription? n = p.subscription? n := by
  rcases p.tend_cases t transport m chore with same | ⟨before, after, there, -, same⟩
  · rw [same]
  · rw [same, subscription?_settleEntry, subscription?_set there, if_neg other]

/-- A chore concerns the subscription that has it. -/
theorem subscription?_tend (found : p.subscription? n = some s) (t : Timing)
    (transport : Transport) (m : Nat) (chore : Chore) :
    (p.tend t transport m chore).subscription? n =
      some (if m = n then (s.work? t.now t.period transport chore).getD (s, .none)
        else (s, .none)).1 := by
  by_cases here : m = n
  · subst here
    rw [if_pos rfl, Place.tend, found]
    simp only [tend?_eq]
    cases s.work? t.now t.period transport chore with
    | none => exact found
    | some result =>
      refine (subscription?_settleEntry ..).trans ?_
      rw [subscription?_set found, if_pos rfl]
      rfl
  · rw [if_neg here, subscription?_tend_other here]
    exact found

theorem length_tend (p : Place) (t : Timing) (transport : Transport) (m : Nat) (chore : Chore) :
    (p.tend t transport m chore).opened.length = p.opened.length := by
  rcases p.tend_cases t transport m chore with same | ⟨before, after, -, -, same⟩
  · rw [same]
  · rw [same, settleEntry]
    split <;> exact List.length_set

/-- Dropping an entry leaves no other in its place. -/
theorem pending_unlist (p : Place) (m : Nat) {what : Pending}
    (pending : (p.unlist m).pending = some what) : p.pending = some what := by
  rw [unlist] at pending
  by_cases listed : p.pending = some (.subscription m)
  · simp [listed] at pending
  · simpa [listed] using pending

theorem pending_tend {m : Nat} {chore : Chore}
    (pending : (p.tend t transport m chore).pending = some (.subscription n)) :
    p.pending = some (.subscription n) := by
  rcases p.tend_cases t transport m chore with same | ⟨before, after, -, -, same⟩
  · rwa [same] at pending
  · rw [same, settleEntry] at pending
    split at pending
    · exact pending_unlist (p.set m after) m pending
    · exact pending

/-- A chore drops no entry but that of its own subscription. -/
theorem pending_tend_unlisted {m : Nat} (unlisted : p.pending ≠ some (.subscription m)) (t : Timing)
    (transport : Transport) (chore : Chore) : (p.tend t transport m chore).pending = p.pending := by
  rcases p.tend_cases t transport m chore with same | ⟨before, after, -, -, same⟩
  · rw [same]
  · rw [same, settleEntry]
    split
    · exact if_neg unlisted
    · rfl

end Place

/-- The place after an effect and all that was let out, by whether tasks run. -/
theorem Effect.run_eq (effect : Effect) (t : Timing) (transport : Transport) (p : Place) :
    effect.run t transport p =
      if effect.runs then
        (((effect.place p).runTasks t transport).1,
          effect.emission ++ ((effect.place p).runTasks t transport).2)
      else (effect.place p, effect.emission) := by
  cases effect <;> rfl

/-! ## Moves -/

/-- What a move does to a subscription before any task runs. -/
def Record.act (r : Record) (h : SubscriptionHandle) : Act :=
  match r.move with
  | .event e => r.client.acts h.location e h.number
  | .operation l e => if l = h.location then r.client.acts h.location e h.number else .nothing
  | .chore .. => .nothing
  | .hear response =>
    if response.location = h.location ∧ r.client.closed = false then
      (r.client.place h.location).pendingActs (.accept response) h.number
    else .nothing
  | .depart other call cancelled => if other = h then .depart call cancelled else .nothing
  | .shut =>
    if r.client.closed = false then (r.client.place h.location).pendingActs .close h.number
    else .nothing

/-- What a move makes of a subscription, and what the subscription lets out in it. -/
def undergoes (net : Network) (c : Client) (h : SubscriptionHandle) (s : Subscription) :
    Move → Subscription × Emission
  | .event e =>
    let (s, a) := s.undergo c.now (net h.location) (c.acts h.location e h.number)
    if (c.effect net h.location e).runs then
      let (s, b) := s.runTasks (e.time c) c.period (net h.location)
      (s, a ++ b)
    else (s, a)
  | .operation l e =>
    if l = h.location then s.undergo c.now (net h.location) (c.acts h.location e h.number)
    else (s, .none)
  | .chore other chore =>
    if other = h then (s.work? c.now c.period (net h.location) chore).getD (s, .none)
    else (s, .none)
  | m => s.undergo c.now (net h.location) (Record.act ⟨c, net, m⟩ h)

/-- What a move lets out at a location. -/
def emits (net : Network) (c : Client) (l : Location) : Move → Emission
  | .event e => emissionAt l (c.step net e).2
  | .operation there e => if there = l then (c.effect net l e).emission else .none
  | .chore h chore =>
    if h.location = l then
      (((c.subscription? h).bind fun s => s.work? c.now c.period (net l) chore).map (·.2)).getD .none
    else .none
  | m => (c.bare net l m).emission

/-- A move that lets out this and nothing else, and leaves as they were all that is pending and the
subscriptions that are open. -/
structure Futile (net : Network) (c : Client) (l : Location) (emission : Emission) (m : Move) :
    Prop where
  emits : ∀ there, c.emits net there m = if l = there then emission else .none
  pending : ∀ there, ((c.make net m).place there).pending = (c.place there).pending
  standing : ∀ h s, c.subscription? h = some s → s.isClosed = false →
    (c.make net m).subscription? h = some s

section Moves

variable {net : Network} {c : Client} {h : SubscriptionHandle} {s : Subscription} {m : Move}
  {l : Location}

/-- After its act a subscription is left to its tasks. -/
theorem undergoes_toiled (net : Network) (c : Client) (h : SubscriptionHandle) (s : Subscription)
    (m : Move) :
    Toiled (s.undergo c.now (net h.location) (Record.act ⟨c, net, m⟩ h)).1
      (c.undergoes net h s m).1 := by
  cases m with
  | event e =>
    simp only [undergoes]
    split
    · exact toiled_runTasks ..
    · exact toiled_refl _
  | operation l e =>
    simp only [undergoes, Record.act]
    split
    · exact toiled_refl _
    · exact toiled_refl _
  | chore other chore =>
    simp only [undergoes, Record.act]
    split
    · cases works : s.work? c.now c.period (net h.location) chore with
      | none => exact toiled_refl _
      | some result => exact toiled_work works
    · exact toiled_refl _
  | hear | depart | shut => exact toiled_refl _

theorem place_step (distinct : Distinct c.places) (net : Network) (e : Event) (l : Location) :
    (c.step net e).1.place l =
      if (c.effect net l e).runs then
        (((c.effect net l e).place (c.place l)).runTasks
          ⟨e.time c, c.period, c.window⟩ (net l)).1
      else (c.effect net l e).place (c.place l) := by
  refine (congrArg Prod.fst (step_run distinct net e l)).trans ?_
  rw [Effect.run_eq]
  split <;> rfl

theorem place_tend (c : Client) (net : Network) (h : SubscriptionHandle) (chore : Chore)
    (l : Location) :
    (c.make net (.chore h chore)).place l =
      if h.location = l then (c.place l).tend c.timing (net l) h.number chore else c.place l := by
  rw [make, place_setPlace]
  split
  · next here => rw [here]
  · rfl

theorem place_operation (c : Client) (net : Network) (there : Location) (e : Event) (l : Location) :
    (c.make net (.operation there e)).place l =
      if there = l then (c.effect net l e).place (c.place l) else c.place l := by
  rw [make, place_setPlace]
  split
  · next here => rw [here]
  · rfl

theorem place_bare (bare : m.Bare) (c : Client) (net : Network) (l : Location) :
    (c.make net m).place l = (c.bare net l m).place (c.place l) := by
  cases m with
  | event | chore => exact bare.elim
  | operation there e =>
    rw [place_operation, Client.bare]
    split <;> rfl
  | hear response =>
    rw [make, place_accept, Client.bare]
    split <;> rfl
  | depart h call cancelled =>
    rw [make, place_depart, Client.bare]
    split <;> rfl
  | shut =>
    rw [make, place_shut, Client.bare]
    split <;> rfl

/-- A bare move performs its acts as an operation does. -/
theorem operates_bare (bare : m.Bare) (net : Network) (c : Client) (l : Location) :
    Operates c.timing (net l) (c.closed = false) (c.place l)
      (fun n => Record.act ⟨c, net, m⟩ ⟨l, n⟩) ((c.bare net l m).place (c.place l))
      (c.bare net l m).emission := by
  have still : Operates c.timing (net l) (c.closed = false) (c.place l) (fun _ => .nothing)
      (c.place l) .none :=
    .acts _ _ (undergone_idle rfl) (fun _ => id) (quiet_attempts rfl)
  cases m with
  | event | chore => exact bare.elim
  | operation there e =>
    simp only [Client.bare, Record.act]
    split
    · exact operates_effect net c l e
    · exact still
  | hear response =>
    simp only [Client.bare, Record.act]
    split
    · exact operates_accept (c.place l) c.timing (net l) response
    · exact still
  | depart h call cancelled =>
    simp only [Client.bare]
    by_cases here : h.location = l
    · have act : (fun n => Record.act ⟨c, net, .depart h call cancelled⟩ ⟨l, n⟩) =
          actsOn h.number (.depart call cancelled) := by
        funext n
        obtain ⟨there, m⟩ := h
        cases here
        simp [Record.act, actsOn]
      rw [act, if_pos here]
      exact operates_depart ..
    · have act : (fun n => Record.act ⟨c, net, .depart h call cancelled⟩ ⟨l, n⟩) =
          fun _ => .nothing := by
        funext n
        exact if_neg fun same => here (congrArg SubscriptionHandle.location same)
      rw [act, if_neg here]
      exact still
  | shut =>
    simp only [Client.bare, Record.act]
    split
    · exact operates_close (c.place l) c.timing (net l)
    · exact still

theorem subscription?_bare (bare : m.Bare) (found : c.subscription? h = some s) (net : Network) :
    (c.make net m).subscription? h =
      some (s.undergo c.now (net h.location) (Record.act ⟨c, net, m⟩ h)).1 := by
  rw [subscription?, place_bare bare]
  exact (operates_bare bare net c h.location).found found

theorem absent_bare (bare : m.Bare) (absent : c.subscription? h = none) (net : Network) :
    (c.make net m).subscription? h = none ∨
      c.closed = false ∧ ∃ every, (c.make net m).subscription? h =
        some ((c.place h.location).newest c.timing every) := by
  rw [subscription?, place_bare bare]
  exact (operates_bare bare net c h.location).absent absent

theorem lists_bare (bare : m.Bare) (found : c.subscription? h = some s)
    (lists : (c.make net m).Lists h) : c.Lists h := by
  rw [Lists, place_bare bare] at lists
  rcases (operates_bare bare net c h.location).pending lists with pending | absent
  · exact pending
  · rw [subscription?, absent] at found
    cases found

/-- What becomes of a subscription in a move. -/
theorem subscription?_make (distinct : Distinct c.places) (found : c.subscription? h = some s)
    (net : Network) (m : Move) :
    (c.make net m).subscription? h = some (c.undergoes net h s m).1 := by
  cases m with
  | event e =>
    have operated := (operates_effect net c h.location e).found found
    rw [subscription?, make, place_step distinct, undergoes]
    simp only
    split
    · rw [subscription?_runTasks, operated]
      rfl
    · exact operated
  | operation l e =>
    rw [subscription?, place_operation, undergoes]
    by_cases here : l = h.location
    · rw [if_pos here, if_pos here]
      exact (operates_effect net c h.location e).found found
    · rw [if_neg here, if_neg here]
      exact found
  | chore other chore =>
    rw [subscription?, place_tend, undergoes]
    by_cases here : other.location = h.location
    · rw [if_pos here, subscription?_tend found]
      have iff : other = h ↔ other.number = h.number := by
        obtain ⟨there, m⟩ := other
        obtain ⟨l, n⟩ := h
        cases here
        simp
      simp only [iff]
      rfl
    · have elsewhere : ¬ other = h := fun same => here (congrArg _ same)
      rw [if_neg here, if_neg elsewhere]
      exact found
  | hear | depart | shut => exact subscription?_bare (by trivial) found net

/-- A subscription that was not there before is a new one, whose tasks may have run. -/
theorem absent_make (distinct : Distinct c.places) (absent : c.subscription? h = none)
    (net : Network) (m : Move) :
    (c.make net m).subscription? h = none ∨
      c.closed = false ∧ ∃ every s, (c.make net m).subscription? h = some s ∧
        Toiled ((c.place h.location).newest c.timing every) s := by
  have operated (e : Event) := (operates_effect net c h.location e).absent absent
  cases m with
  | event e =>
    rw [subscription?, make, place_step distinct]
    rcases operated e with still | ⟨unclosed, every, opened⟩
    · refine .inl ?_
      split
      · rw [subscription?_runTasks, still]
        rfl
      · exact still
    · refine .inr ⟨unclosed, every, ?_⟩
      split
      · rw [subscription?_runTasks, opened]
        exact ⟨_, rfl, toiled_runTasks ..⟩
      · exact ⟨_, opened, toiled_refl _⟩
  | operation there e =>
    rw [subscription?, place_operation]
    split
    · rcases operated e with still | ⟨unclosed, every, opened⟩
      · exact .inl still
      · exact .inr ⟨unclosed, every, _, opened, toiled_refl _⟩
    · exact .inl absent
  | chore other chore =>
    rw [subscription?, place_tend]
    refine .inl ?_
    split
    · rw [← Option.isNone_iff_eq_none, ← Option.not_isSome, isSome_subscription?, length_tend,
        ← isSome_subscription?]
      rw [subscription?] at absent
      rw [absent]
      rfl
    · exact absent
  | hear | depart | shut =>
    refine (absent_bare (by trivial) absent net).imp_right ?_
    rintro ⟨unclosed, every, opened⟩
    exact ⟨unclosed, every, _, opened, toiled_refl _⟩

/-- No subscription that is there becomes what is pending. -/
theorem lists_make (distinct : Distinct c.places) (found : c.subscription? h = some s)
    (lists : (c.make net m).Lists h) : c.Lists h := by
  have operated (e : Event)
      (lists : ((c.effect net h.location e).place (c.place h.location)).pending =
        some (.subscription h.number)) : c.Lists h := by
    rcases (operates_effect net c h.location e).pending lists with pending | absent
    · exact pending
    · rw [subscription?, absent] at found
      cases found
  cases m with
  | event e =>
    rw [Lists, make, place_step distinct] at lists
    split at lists
    · exact operated e (pending_runTasks_of _ _ _ lists)
    · exact operated e lists
  | operation there e =>
    rw [Lists, place_operation] at lists
    split at lists
    · exact operated e lists
    · exact lists
  | chore other chore =>
    rw [Lists, place_tend] at lists
    split at lists
    · exact pending_tend lists
    · exact lists
  | hear | depart | shut => exact lists_bare (by trivial) found lists

/-- What is attempted in a move comes from a subscription that was there, or an unclosed client asks
for something and tends to the subscription that it may have opened. -/
theorem attempts_emits (distinct : Distinct c.places) {a : Attempt}
    (member : a ∈ (c.emits net l m).attempts) :
    (∃ n s, c.subscription? ⟨l, n⟩ = some s ∧ a ∈ (c.undergoes net ⟨l, n⟩ s m).2.attempts) ∨
    c.closed = false ∧ (a.Asks ∨ ∃ every time,
      a ∈ (((c.place l).newest c.timing every).runTasks time c.period (net l)).2.attempts) := by
  cases m with
  | event e =>
    have operates := operates_effect net c l e
    have emitted : emissionAt l (c.step net e).2 = ((c.effect net l e).run
        ⟨e.time c, c.period, c.window⟩ (net l) (c.place l)).2 :=
      congrArg Prod.snd (step_run distinct net e l)
    rw [emits, emitted, Effect.run_eq] at member
    simp only [undergoes]
    by_cases runs : (c.effect net l e).runs = true
    · simp only [runs, if_true] at member ⊢
      rcases List.mem_append.mp member with operation | tasks
      · rcases operates.attempts operation with ⟨unclosed, asks⟩ | ⟨n, s, found, acted⟩
        · exact .inr ⟨unclosed, .inl asks⟩
        · exact .inl ⟨n, s, found, List.mem_append_left _ acted⟩
      · obtain ⟨n, after, there, ran⟩ := mem_attempts_runTasks tasks
        cases found : (c.place l).subscription? n with
        | none =>
          rcases operates.absent found with still | ⟨unclosed, every, opened⟩
          · cases still.symm.trans there
          · cases opened.symm.trans there
            exact .inr ⟨unclosed, .inr ⟨every, e.time c, ran⟩⟩
        | some s =>
          cases (operates.found found).symm.trans there
          exact .inl ⟨n, s, found, List.mem_append_right _ ran⟩
    · simp only [runs, Bool.false_eq_true, if_false] at member ⊢
      rcases operates.attempts member with ⟨unclosed, asks⟩ | acted
      · exact .inr ⟨unclosed, .inl asks⟩
      · exact .inl acted
  | operation there e =>
    simp only [emits, undergoes] at member ⊢
    split at member
    · next here =>
      simp only [here, if_true]
      rcases (operates_effect net c l e).attempts member with ⟨unclosed, asks⟩ | acted
      · exact .inr ⟨unclosed, .inl asks⟩
      · exact .inl acted
    · cases member
  | chore h chore =>
    simp only [emits] at member
    split at member
    · next here =>
      subst here
      cases found : c.subscription? h with
      | none =>
        rw [found] at member
        cases member
      | some s =>
        refine .inl ⟨h.number, s, found, ?_⟩
        rw [undergoes, if_pos rfl]
        rw [found, Option.bind_some] at member
        cases works : s.work? c.now c.period (net h.location) chore with
        | none =>
          rw [works] at member
          cases member
        | some result =>
          rw [works] at member
          exact member
    · cases member
  | hear | depart | shut =>
    have attempted {m : Move} (bare : m.Bare) (member : a ∈ (c.bare net l m).emission.attempts) :=
      (operates_bare bare net c l).attempts member
    rcases attempted (by trivial) member with ⟨unclosed, asks⟩ | acted
    · exact .inr ⟨unclosed, .inl asks⟩
    · exact .inl acted

end Moves

/-! ## Histories of any kind -/

/-- What a client can come to from some state on, with its records, the latest first. -/
inductive Leads (start : Client) : List Record → Client → Prop where
  | here : Leads start [] start
  | move (past : List Record) (c : Client) (net : Network) (m : Move) :
      Leads start past c → Leads start (⟨c, net, m⟩ :: past) (c.make net m)

theorem Lives.leads {past : List Record} {c : Client} (lives : Lives past c) :
    ∃ config, Leads (ofConfig config) past c := by
  induction lives with
  | start config => exact ⟨config, .here⟩
  | move past c net m _ _ ih =>
    obtain ⟨config, leads⟩ := ih
    exact ⟨config, .move past c net m leads⟩

theorem distinct_make {c : Client} (distinct : Distinct c.places) (net : Network) (m : Move) :
    Distinct (c.make net m).places := by
  cases m with
  | event e => exact (step_framed net c e).distinct distinct
  | operation | chore | depart => exact distinct.put ..
  | hear response => exact (sameBut_accept c net response).distinct distinct
  | shut =>
    cases closed : c.closed with
    | true =>
      rw [Client.make, Client.shut, closed]
      exact distinct
    | false =>
      rw [Client.make, places_shut closed]
      exact distinct.map fun l p => (p.close (net l)).place

theorem Leads.distinct {start c : Client} {past : List Record} (leads : Leads start past c)
    (distinct : Distinct start.places) : Distinct c.places := by
  induction leads with
  | here => exact distinct
  | move past c net m _ ih => exact distinct_make ih net m

theorem Leads.trans {a b c : Client} {past later : List Record} (first : Leads a past b)
    (second : Leads b later c) : Leads a (later ++ past) c := by
  induction second with
  | here => exact first
  | move later c net m _ ih => exact .move _ c net m ih

theorem Lives.onward {c c' : Client} {past later : List Record} (lives : Lives past c)
    (leads : Leads c later c') (goesOn : ∀ r ∈ later, ¬ r.move.Ends) : Lives (later ++ past) c' := by
  induction leads with
  | here => exact lives
  | move later c' net m leads ih =>
    obtain ⟨last, goesOn⟩ := List.forall_mem_cons.mp goesOn
    exact .move _ c' net m (ih goesOn) last

end ObservationFeed.Client
