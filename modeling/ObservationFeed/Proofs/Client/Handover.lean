import ObservationFeed.Proofs.Client.Moves

/-!
# Values that are held for callers

A response that is handed over provides the callers that are parked on a
subscription with its value.  The value is held for each of them until it goes on
or is given up, one value for each caller that was parked.  Nobody else comes to
hold one, and only a new call is ever parked.
-/

namespace ObservationFeed.Client

open KeyedList Subscription Place

/-! ## One subscription -/

/-- An act takes a caller away from those that have not gone on. -/
def Act.releases (call : Nat) : Act → Bool
  | .giveUp other | .depart other _ => other = call
  | _ => false

namespace Subscription

variable {s s' : Subscription} {now period : Nat} {transport : Transport} {call : Nat}

/-- The values that are held for a caller. -/
def held (s : Subscription) (call : Nat) : List Snapshot :=
  (s.answered.filter (·.call = call)).map Answered.snapshot

/-- The value with which an act provides a caller that goes on later. -/
def provides? (s : Subscription) (call : Nat) : Act → Option Snapshot
  | .accept response =>
    if s.isClosed || s.isStale response.serverTick || !s.next.hasParked call then none
    else some response.snapshot
  | _ => none

theorem held_congr (same : s'.answered = s.answered) : s'.held call = s.held call := by
  rw [held, held, same]

theorem takes?_eq (s : Subscription) (call : Nat) (cancelled : Bool) :
    s.takes? call cancelled = (s.held call).head?.map fun snapshot =>
      ⟨call, if cancelled && s.ended then .error .cancelled else .ok snapshot⟩ := by
  rw [takes?, held, List.head?_map, List.head?_filter, Option.map_map]
  rfl

theorem answered_updateLiveness (s : Subscription) (now : Nat) (change : Liveness → Liveness) :
    (s.updateLiveness now change).answered = s.answered := by
  rw [updateLiveness]
  split <;> rfl

theorem answered_close (s : Subscription) (transport : Transport) :
    (s.close transport).1.answered = s.answered := by
  have toiled := toiled_close s transport
  generalize (s.close transport).1 = after at toiled
  cases toiled <;> rfl

theorem held_toiled (toiled : Toiled s s') : s'.held call = s.held call := by
  cases toiled <;> rfl

theorem filter_eraseP (answered : List Answered) (number call : Nat) :
    (answered.eraseP (·.call = number)).filter (·.call = call) =
      if number = call then (answered.filter (·.call = call)).tail
      else answered.filter (·.call = call) := by
  induction answered with
  | nil => simp
  | cons a rest ih =>
    by_cases here : a.call = number
    · by_cases same : number = call
      · simp [here, same]
      · simp [here, same]
    · by_cases same : number = call
      · subst same
        simpa [here] using ih
      · rw [if_neg same] at ih ⊢
        simp [here, List.filter_cons, ih]

/-- Who goes on leaves no value behind. -/
theorem held_depart (s : Subscription) (now number call : Nat) :
    (s.depart now number).held call =
      if number = call then (s.held call).tail else s.held call := by
  have erased := filter_eraseP s.answered number call
  rw [depart]
  split
  · rw [unpark, held_congr (answered_updateLiveness ..), held, held, erased]
    split
    · exact List.map_tail
    · rfl
  · next nobody =>
    split
    · next same =>
      have none : s.answered.filter (·.call = call) = [] := by
        refine List.filter_eq_nil_iff.mpr fun a member there => nobody ?_
        exact List.any_eq_true.mpr ⟨a, member, by rwa [same]⟩
      rw [held, none]
      rfl
    · rfl

theorem held_abort (s : Subscription) (now number call : Nat) :
    (s.abort now number).held call =
      if number = call then (s.held call).tail else s.held call := by
  have forgone : (s.forgo now number).held call = s.held call := by
    rw [forgo]
    split
    · exact held_congr (answered_updateLiveness ..)
    · rfl
  rw [Subscription.abort, held_depart, forgone]

/-- A response that is applied provides every caller that is parked. -/
theorem held_accept (distinct : s.next.calls.Nodup) {tick : Option Int64}
    (fresh : s.isStale tick = false) (now : Nat) (snapshot : Snapshot) (call : Nat) :
    (s.accept now snapshot tick).1.held call =
      s.held call ++ if s.next.hasParked call then [snapshot] else [] := by
  have parked : s.next.parkedCalls.Nodup := (List.filter_sublist.map Caller.call).nodup distinct
  have member : call ∈ s.next.parkedCalls ↔ s.next.hasParked call = true := by
    simp [Awaited.parkedCalls, Awaited.hasParked_iff, and_assoc, and_comm, and_left_comm]
  have provided : ((s.next.parkedCalls.map (Answered.mk · snapshot)).filter
      (·.call = call)).map Answered.snapshot =
      if s.next.hasParked call then [snapshot] else [] := by
    have alone : s.next.parkedCalls.filter (· = call) = if call ∈ s.next.parkedCalls then [call]
        else [] := by
      rw [List.filter_eq, parked.count]
      split <;> rfl
    rw [List.filter_map, List.map_map]
    change (s.next.parkedCalls.filter (· = call)).map _ = _
    simp only [alone, member]
    split <;> rfl
  rw [accept, if_neg (by rw [fresh]; exact Bool.false_ne_true)]
  rw [held_congr (answered_updateLiveness ..), held, List.filter_append, List.map_append, provided]
  rfl

theorem answered_publish (s : Subscription) (now : Nat) (snapshot : Snapshot)
    (tick : Option Int64) : (s.publish now snapshot tick).1.answered = s.answered := by
  rw [Subscription.publish]
  split
  · rfl
  · simp only [unpark, answered_updateLiveness]

/-- What an act leaves of what is held for a caller. -/
theorem held_undergo (distinct : s.isClosed = false → s.next.calls.Nodup) (now : Nat)
    (transport : Transport) (a : Act) (call : Nat) :
    (s.undergo now transport a).1.held call =
      if a.releases call then (s.held call).tail
      else s.held call ++ (s.provides? call a).toList := by
  have unchanged (same : (s.undergo now transport a).1.answered = s.answered) :
      (s.undergo now transport a).1.held call = s.held call ++ [] :=
    (held_congr same).trans (List.append_nil _).symm
  cases a with
  | nothing | endScope => exact unchanged rfl
  | attach =>
    refine unchanged ?_
    rw [Subscription.undergo, attach?]
    split
    · rfl
    · exact answered_updateLiveness s now fun l => { l with consumers := l.consumers + 1 }
  | detach stream =>
    refine unchanged ?_
    rw [Subscription.undergo, Subscription.detach]
    split
    · exact answered_updateLiveness ..
    · rfl
  | poll stream =>
    refine unchanged ?_
    rw [Subscription.undergo, poll?]
    cases s.streams.lookup stream <;> rfl
  | park other =>
    refine unchanged ?_
    rw [Subscription.undergo, park?]
    split
    · rfl
    · exact answered_updateLiveness s now fun l => { l with waiters := l.waiters + 1 }
  | giveUp other =>
    rw [Subscription.undergo, held_abort]
    simp [Act.releases, provides?]
  | hear response =>
    refine unchanged ?_
    rw [Subscription.undergo]
    split
    · exact answered_close s transport
    · exact answered_publish ..
  | accept response =>
    rw [Subscription.undergo, provides?]
    cases closed : s.isClosed with
    | true =>
      simp only [if_true]
      exact (held_congr (answered_close s transport)).trans (List.append_nil _).symm
    | false =>
      cases stale : s.isStale response.serverTick with
      | true =>
        simp only [accept_stale stale]
        exact (List.append_nil _).symm
      | false =>
        have provided := held_accept (distinct closed) stale now response.snapshot call
        simp only [Bool.false_eq_true, if_false, provided, Act.releases]
        cases s.next.hasParked call <;> rfl
  | depart other cancelled =>
    rw [Subscription.undergo, held_depart]
    simp [Act.releases, provides?]
  | close => exact unchanged (answered_close s transport)

/-! ### Who is parked -/

theorem callers_toiled (toiled : Toiled s s') : ∀ c ∈ s'.next.callers, c ∈ s.next.callers := by
  cases toiled with
  | goesOn => exact fun _ => id
  | closes =>
    rw [shut, Awaited.callers_cancel]
    exact List.forall_mem_nil _

/-- Nobody waits after an act who did not wait before it, but for a caller that parks. -/
theorem callers_undergo (now : Nat) (transport : Transport) (a : Act) :
    ∀ c ∈ (s.undergo now transport a).1.next.callers, c ∈ s.next.callers ∨ a = .park c.call := by
  have same {s' : Subscription} (next : s'.next = s.next) :
      ∀ c ∈ s'.next.callers, c ∈ s.next.callers ∨ a = .park c.call := by
    rw [next]
    exact fun _ => .inl
  have closes : ∀ c ∈ (s.close transport).1.next.callers, c ∈ s.next.callers ∨ a = .park c.call :=
    fun c member => .inl (callers_toiled (toiled_close s transport) c member)
  cases a with
  | nothing | endScope => exact same rfl
  | attach =>
    refine same ?_
    rw [Subscription.undergo, attach?]
    split
    · rfl
    · exact next_updateLiveness s now fun l => { l with consumers := l.consumers + 1 }
  | detach stream => exact same (next_detach ..)
  | poll stream =>
    refine same ?_
    rw [Subscription.undergo, poll?]
    cases s.streams.lookup stream <;> rfl
  | park call =>
    rw [Subscription.undergo, park?]
    split
    · exact fun _ => .inl
    · intro c member
      rcases List.mem_append.mp member with older | newest
      · exact .inl older
      · obtain rfl := List.mem_singleton.mp newest
        exact .inr rfl
  | giveUp call => exact fun c member => .inl (callers_abort s now call c member)
  | hear response =>
    rw [Subscription.undergo]
    split
    · exact closes
    · exact fun c member => .inl (callers_publish s _ _ _ c member)
  | accept response =>
    rw [Subscription.undergo]
    split
    · exact closes
    · exact fun c member => .inl (callers_accept s _ _ _ c member)
  | depart number cancelled => exact same (next_depart ..)
  | close => exact closes

end Subscription

/-! ## Moves -/

/-- An event gives up a call. -/
def Event.givesUp (call : CallHandle) : Event → Bool
  | .abort other => other = call
  | _ => false

/-- A move gives up a call. -/
def Move.givesUp (call : CallHandle) (m : Move) : Bool :=
  (m.event? call.location).any (·.givesUp call)

/-- A caller that a subscription has provided with its value goes on, and whether it does so with the
end of the scope if that has come. -/
def Move.goesOn? (h : SubscriptionHandle) (call : Nat) : Move → Option Bool
  | .depart other number cancelled => if other = h ∧ number = call then some cancelled else none
  | _ => none

/-- The snapshot that a move applies to what is pending at a location: that of a response which is
not dropped as stale. -/
def applied? (c : Client) (l : Location) (m : Move) : Option Snapshot :=
  match m.event? l with
  | some (.respond r) =>
    if r.location = l ∧ c.closed = false ∧ (c.place l).takes r.serverTick = true then
      some r.snapshot
    else none
  | _ => none

/-- The values that a subscription holds for a caller. -/
def held (c : Client) (h : SubscriptionHandle) (call : Nat) : List Snapshot :=
  ((c.subscription? h).map (·.held call)).getD []

/-- Nothing is held for a call at its location. -/
def Unheld (c : Client) (call : CallHandle) : Prop :=
  ∀ n, c.held ⟨call.location, n⟩ call.number = []

/-- One subscription holds one value for a call. -/
def Holds (c : Client) (call : CallHandle) (n : Nat) (snapshot : Snapshot) : Prop :=
  ∀ k, c.held ⟨call.location, k⟩ call.number = if k = n then [snapshot] else []

variable {net : Network} {c : Client} {l : Location} {e : Event} {m : Move} {n call : Nat}
  {h : SubscriptionHandle} {handle : CallHandle} {snapshot : Snapshot}

theorem applied?_eq_some : c.applied? l m = some snapshot ↔ c.undertakes l m = .apply snapshot := by
  rw [applied?, undertakes]
  constructor
  · intro applied
    split at applied
    · next r does =>
      split at applied
      · next holds =>
        obtain ⟨here, isOpen, takes⟩ := holds
        cases applied
        simp [does, deed, here, isOpen, takes]
      · cases applied
    · cases applied
  · intro does
    split at does
    · next e event =>
      obtain ⟨r, rfl, here, isOpen, takes, rfl⟩ := deed_eq_apply does
      rw [event]
      exact if_pos ⟨here, isOpen, takes⟩
    · cases does

/-! ### Acts -/

theorem Act.releases_unless {a : Act} (other : a.releases call = false) (cond : Prop)
    [Decidable cond] : (if cond then a else .nothing).releases call = false := by
  split
  · exact other
  · rfl

theorem releases_acts (c : Client) (l : Location) (e : Event) (n call : Nat) :
    (c.acts l e n).releases call = e.givesUp ⟨l, call⟩ := by
  cases e with
  | abort other =>
    obtain ⟨there, number⟩ := other
    by_cases here : there = l <;> simp [acts, here, Act.releases, Event.givesUp]
  | request | subscribe | respond | unsubscribe | close | detach | closeSubscription | poll =>
    rw [acts]
    split
    · rfl
    · exact Act.releases_unless rfl _
  | release | wake | elapse => rfl

theorem Record.releases_act (c : Client) (net : Network) (m : Move) (h : SubscriptionHandle)
    (call : Nat) :
    (Record.act ⟨c, net, m⟩ h).releases call =
      (m.givesUp ⟨h.location, call⟩ || (m.goesOn? h call).isSome) := by
  cases m with
  | event e =>
    rw [Record.act, releases_acts]
    exact (Bool.or_false _).symm
  | operation there e =>
    by_cases here : there = h.location
    · simp [Record.act, here, releases_acts, Move.givesUp, Move.event?, Move.goesOn?]
    · simp [Record.act, here, Act.releases, Move.givesUp, Move.event?, Move.goesOn?]
  | chore => rfl
  | hear response =>
    simp only [Record.act]
    split
    · exact Act.releases_unless rfl _
    · rfl
  | depart other number cancelled =>
    by_cases here : other = h
    · by_cases same : number = call <;>
        simp [Record.act, here, same, Act.releases, Move.givesUp, Move.event?, Move.goesOn?]
    · simp [Record.act, here, Act.releases, Move.givesUp, Move.event?, Move.goesOn?]
  | shut =>
    simp only [Record.act]
    split
    · exact Act.releases_unless rfl _
    · rfl

theorem Subscription.provides?_of_ne (s : Subscription) (call : Nat) {a : Act}
    (other : ∀ response, a ≠ .accept response) : s.provides? call a = none := by
  cases a with
  | accept response => exact absurd rfl (other response)
  | _ => rfl

theorem acts_ne_accept (c : Client) (l : Location) (e : Event) (n : Nat) (response : Response) :
    c.acts l e n ≠ .accept response := by
  cases e with
  | request | subscribe | respond | unsubscribe | close | detach | closeSubscription | poll =>
    refine elsewhere_ne ?_ (unless_ne ?_ ?_ _) _
    all_goals rintro ⟨⟩
  | abort other =>
    rw [acts]
    split
    · rintro ⟨⟩
    · rintro ⟨⟩
  | release | wake | elapse => rintro ⟨⟩

theorem acts_eq_park {number : Nat} (parks : c.acts l e n = .park number) :
    number = (c.place l).nextCall := by
  cases e with
  | request there =>
    rw [acts] at parks
    split at parks
    · cases parks
    · rw [pendingActs] at parks
      split at parks
      · cases parks
        rfl
      · cases parks
  | subscribe | respond | unsubscribe | close | detach | closeSubscription | poll =>
    refine absurd parks (elsewhere_ne ?_ (unless_ne ?_ ?_ _) _)
    all_goals rintro ⟨⟩
  | abort other =>
    rw [acts] at parks
    split at parks
    · cases parks
    · cases parks
  | release | wake | elapse => cases parks

/-- Only a new call is parked. -/
theorem Record.act_eq_park {number : Nat}
    (parks : Record.act ⟨c, net, m⟩ h = .park number) :
    number = (c.place h.location).nextCall := by
  cases m with
  | event e => exact acts_eq_park parks
  | operation there e =>
    simp only [Record.act] at parks
    split at parks
    · exact acts_eq_park parks
    · cases parks
  | chore => cases parks
  | hear | shut =>
    refine absurd parks (unless_ne ?_ (unless_ne ?_ ?_ _) _)
    all_goals rintro ⟨⟩
  | depart =>
    refine absurd parks (unless_ne ?_ ?_ _)
    all_goals rintro ⟨⟩

/-- Only a response that is handed over is accepted. -/
theorem Record.act_ne_accept (unheard : ∀ response, m ≠ .hear response) (response : Response) :
    Record.act ⟨c, net, m⟩ h ≠ .accept response := by
  cases m with
  | event e => exact acts_ne_accept c h.location e h.number response
  | operation there e =>
    simp only [Record.act]
    split
    · exact acts_ne_accept c h.location e h.number response
    · rintro ⟨⟩
  | chore => rintro ⟨⟩
  | depart =>
    refine unless_ne ?_ ?_ _
    all_goals rintro ⟨⟩
  | shut =>
    refine unless_ne ?_ (unless_ne ?_ ?_ _) _
    all_goals rintro ⟨⟩
  | hear other => exact absurd rfl (unheard other)

/-- What accepts nothing provides nothing. -/
theorem provides_nothing {a : Act} (unheard : ∀ response, a ≠ .accept response)
    (h : SubscriptionHandle) (call : Nat) :
    ((c.subscription? h).bind fun s => s.provides? call a) = none := by
  cases c.subscription? h with
  | none => rfl
  | some s => exact s.provides?_of_ne call unheard

theorem Regular.provides?_hear (regular : Regular c) (net : Network) (response : Response)
    (l : Location) (n call : Nat) :
    ((c.subscription? ⟨l, n⟩).bind fun s =>
        s.provides? call (Record.act ⟨c, net, .hear response⟩ ⟨l, n⟩)) =
      if c.putsOff? ⟨l, call⟩ (.hear response) = some n then c.applied? l (.hear response)
      else none := by
  obtain ⟨born, fit⟩ := regular.fit l
  have parked := fit.sound.parkedOn?_eq (regular.heard l) call
  rw [putsOff?, applied?, Move.event?]
  by_cases here : response.location = l ∧ c.closed = false
  · by_cases pending : (c.place l).pending = some (.subscription n)
    · obtain ⟨s, found, isOpen⟩ := fit.sound.pendingOpen pending
      have there : c.subscription? ⟨l, n⟩ = some s := found
      have live : (c.place l).live? = some (n, s) := live?_eq_some.mpr ⟨pending, found⟩
      simp only [there, parked, live, Option.bind_some, Record.act, here, and_self, if_true,
        pendingActs_self pending, provides?, isOpen.isClosed, takes, pending, found,
        Option.any_some, true_and]
      cases s.isStale response.serverTick with
      | true => simp
      | false => cases s.next.hasParked call <;> simp
    · have other : (c.place l).parkedOn? call ≠ some n := by
        rw [parked]
        intro onIt
        obtain ⟨⟨k, s⟩, live, which⟩ := Option.bind_eq_some_iff.mp onIt
        split at which
        · cases which
          exact pending (live?_eq_some.mp live).1
        · cases which
      have idle : Record.act ⟨c, net, .hear response⟩ ⟨l, n⟩ = .nothing := by
        simp [Record.act, here, pendingActs, pending]
      rw [if_neg other]
      refine provides_nothing (fun response => ?_) ⟨l, n⟩ call
      rw [idle]
      rintro ⟨⟩
  · have unapplied : ¬ (response.location = l ∧ c.closed = false ∧
        (c.place l).takes response.serverTick = true) := fun all => here ⟨all.1, all.2.1⟩
    have idle : Record.act ⟨c, net, .hear response⟩ ⟨l, n⟩ = .nothing := by
      simp [Record.act, here]
    simp only [unapplied, if_false, ite_self]
    refine provides_nothing (fun response => ?_) ⟨l, n⟩ call
    rw [idle]
    rintro ⟨⟩

/-- What is provided is what is applied where the call is parked. -/
theorem Regular.provides?_eq (regular : Regular c) (net : Network) (m : Move) (l : Location)
    (n call : Nat) :
    ((c.subscription? ⟨l, n⟩).bind fun s => s.provides? call (Record.act ⟨c, net, m⟩ ⟨l, n⟩)) =
      if c.putsOff? ⟨l, call⟩ m = some n then c.applied? l m else none := by
  cases m with
  | hear response => exact regular.provides?_hear net response l n call
  | event | operation | chore | depart | shut =>
    exact provides_nothing (Record.act_ne_accept (by rintro _ ⟨⟩)) ⟨l, n⟩ call

/-! ### What is held -/

/-- What a move leaves of what is held for a caller. -/
theorem Regular.held_make (regular : Regular c) (net : Network) (m : Move) (l : Location)
    (n call : Nat) :
    (c.make net m).held ⟨l, n⟩ call =
      if (m.givesUp ⟨l, call⟩ || (m.goesOn? ⟨l, n⟩ call).isSome) = true then
        (c.held ⟨l, n⟩ call).tail
      else c.held ⟨l, n⟩ call ++
        (if c.putsOff? ⟨l, call⟩ m = some n then c.applied? l m else none).toList := by
  obtain ⟨born, fit⟩ := regular.fit l
  rw [← Record.releases_act c net m ⟨l, n⟩ call, ← regular.provides?_eq net]
  cases found : c.subscription? ⟨l, n⟩ with
  | none =>
    have before : c.held ⟨l, n⟩ call = [] := by rw [held, found]; rfl
    have after : (c.make net m).held ⟨l, n⟩ call = [] := by
      rcases absent_make regular.distinct found net m with absent | ⟨-, every, s, opened, toiled⟩
      · rw [held, absent]
        rfl
      · rw [held, opened]
        refine (held_toiled toiled).trans ?_
        exact held_congr (s := .begin c.now c.period c.window every (c.place l).call?)
          (answered_updateLiveness _ c.now fun l => { l with consumers := l.consumers + 1 })
    rw [before, after]
    exact (ite_self _).symm
  | some s =>
    have before : c.held ⟨l, n⟩ call = s.held call := by rw [held, found]; rfl
    have distinct : s.isClosed = false → s.next.calls.Nodup := by
      intro isOpen
      rcases fit.sound.each n s found with stillOpen | spent
      · exact stillOpen.calls
      · cases isOpen.symm.trans spent.isClosed
    rw [before, held, subscription?_make regular.distinct found net m]
    exact (held_toiled (undergoes_toiled net c ⟨l, n⟩ s m)).trans (held_undergo distinct ..)

/-- Nothing comes to be held for a call but by a response that finds it parked. -/
theorem Regular.unheld_make (regular : Regular c) (unheld : c.Unheld handle)
    (kept : c.putsOff? handle m = none ∨ c.applied? handle.location m = none) :
    (c.make net m).Unheld handle := by
  intro n
  have provided : (if c.putsOff? handle m = some n then c.applied? handle.location m else none) =
      none := by
    rcases kept with unparked | unapplied
    · rw [unparked]
      exact if_neg nofun
    · rw [unapplied]
      exact ite_self _
  rw [regular.held_make, unheld n, provided]
  exact ite_self _

/-- What is held for a call stays until the call goes on or is given up. -/
theorem Regular.holds_make (regular : Regular c) (holds : c.Holds handle n snapshot)
    (unparked : (c.place handle.location).parkedOn? handle.number = none)
    (kept : m.givesUp handle = false)
    (stays : m.goesOn? ⟨handle.location, n⟩ handle.number = none) :
    (c.make net m).Holds handle n snapshot := by
  have nowhere : c.putsOff? handle m = none := by
    cases m <;> first | rfl | exact unparked
  intro k
  have gives : m.givesUp ⟨handle.location, handle.number⟩ = false := kept
  rw [regular.held_make, holds k, nowhere]
  by_cases here : k = n
  · subst here
    simp [gives, stays]
  · simp [here]

/-- Nothing is held for a call that has gone on or is given up. -/
theorem Regular.released_make (regular : Regular c) (holds : c.Holds handle n snapshot)
    (unparked : (c.place handle.location).parkedOn? handle.number = none)
    (gone : m.givesUp handle = true ∨
      (m.goesOn? ⟨handle.location, n⟩ handle.number).isSome = true) :
    (c.make net m).Unheld handle := by
  have nowhere : c.putsOff? handle m = none := by
    cases m <;> first | rfl | exact unparked
  intro k
  rw [regular.held_make, holds k, nowhere]
  by_cases here : k = n
  · subst here
    have released : (m.givesUp ⟨handle.location, handle.number⟩ ||
        (m.goesOn? ⟨handle.location, k⟩ handle.number).isSome) = true := Bool.or_eq_true_iff.mpr gone
    simp [released]
  · simp [here]

/-- A response that finds a call parked provides it with its value. -/
theorem Regular.provided_make (regular : Regular c) (unheld : c.Unheld handle)
    (parked : c.putsOff? handle m = some n)
    (applied : c.applied? handle.location m = some snapshot) :
    (c.make net m).Holds handle n snapshot := by
  have kept : ∀ k, (m.givesUp ⟨handle.location, handle.number⟩ ||
      (m.goesOn? ⟨handle.location, k⟩ handle.number).isSome) = false := by
    cases m with
    | hear response => exact fun _ => rfl
    | _ => cases parked
  intro k
  have here : c.putsOff? ⟨handle.location, handle.number⟩ m = some k ↔ k = n := by
    rw [show c.putsOff? ⟨handle.location, handle.number⟩ m = some n from parked]
    exact ⟨fun same => (Option.some.inj same).symm, fun same => congrArg some same.symm⟩
  rw [regular.held_make, unheld k, kept k, applied]
  simp only [here, Bool.false_eq_true, if_false, List.nil_append]
  split <;> rfl

/-- An older call that is not parked does not come to be. -/
theorem Regular.unparked_make (regular : Regular c) (older : call < (c.place l).nextCall)
    (unparked : (c.place l).parkedOn? call = none) (net : Network) (m : Move) :
    ((c.make net m).place l).parkedOn? call = none := by
  obtain ⟨born, fit⟩ := regular.fit l
  refine List.findIdx?_eq_none_iff.mpr fun s' member => ?_
  obtain ⟨n, there⟩ := List.mem_iff_getElem?.mp member
  have there : (c.make net m).subscription? ⟨l, n⟩ = some s' := there
  refine Bool.eq_false_iff.mpr fun parked => ?_
  obtain ⟨caller, waits, rfl, parks⟩ := Awaited.hasParked_iff.mp parked
  cases found : c.subscription? ⟨l, n⟩ with
  | none =>
    rcases absent_make regular.distinct found net m with absent | ⟨-, every, s, opened, toiled⟩
    · cases absent.symm.trans there
    · cases opened.symm.trans there
      have begun := callers_toiled toiled caller waits
      rw [newest, attached, next_updateLiveness] at begun
      -- Those who wait for a one-shot call are not parked.
      cases call? : (c.place l).call? with
      | none =>
        rw [Subscription.begin, call?] at begun
        cases begun
      | some awaited =>
        rw [Subscription.begin, call?] at begun
        have shared := fit.sound.single awaited (pending_of_call? call?)
        cases (shared.unparked caller begun).symm.trans parks
  | some s =>
    cases (subscription?_make regular.distinct found net m).symm.trans there
    have acted := callers_toiled (undergoes_toiled net c ⟨l, n⟩ s m) caller waits
    rcases callers_undergo _ _ _ caller acted with before | parked
    · have has := Awaited.hasParked_iff.mpr ⟨caller, before, rfl, parks⟩
      have no := List.findIdx?_eq_none_iff.mp unparked s (List.mem_of_getElem? found)
      cases no.symm.trans has
    · exact Nat.lt_irrefl _ (Record.act_eq_park parked ▸ older)

/-! ### Who takes what is held -/

theorem takes?_of_held (held : c.held h call = []) (cancelled : Bool) :
    ((c.subscription? h).bind fun s => s.takes? call cancelled) = none := by
  rw [Client.held] at held
  cases found : c.subscription? h with
  | none => rfl
  | some s =>
    have nothing : s.held call = [] := by
      rw [found] at held
      exact held
    rw [Option.bind_some, takes?_eq, nothing]
    rfl

theorem Unheld.takesNothing (unheld : c.Unheld handle) (m : Move) : c.TakesNothing handle m := by
  cases m with
  | depart h number cancelled =>
    obtain ⟨there, n⟩ := h
    rintro rfl rfl
    exact takes?_of_held (unheld n) cancelled
  | _ => exact trivial

theorem Holds.takesNothing (holds : c.Holds handle n snapshot)
    (stays : m.goesOn? ⟨handle.location, n⟩ handle.number = none) : c.TakesNothing handle m := by
  cases m with
  | depart h number cancelled =>
    obtain ⟨there, k⟩ := h
    rintro rfl rfl
    have elsewhere : ¬ k = n := by
      rintro rfl
      simp [Move.goesOn?] at stays
    exact takes?_of_held ((holds k).trans (if_neg elsewhere)) cancelled
  | _ => exact trivial

/-- The scope of a subscription has ended. -/
def hasEnded (c : Client) (h : SubscriptionHandle) : Bool := (c.subscription? h).any (·.ended)

/-- What a caller goes on with for which a value was held. -/
theorem Holds.takes (holds : c.Holds handle n snapshot) {cancelled : Bool}
    (goesOn : m.goesOn? ⟨handle.location, n⟩ handle.number = some cancelled) (net : Network) :
    answersTo handle.number (c.emits net handle.location m).returns =
      [if cancelled && c.hasEnded ⟨handle.location, n⟩ then .error .cancelled
        else .ok snapshot] := by
  cases m with
  | depart h number cancelled' =>
    simp only [Move.goesOn?] at goesOn
    split at goesOn
    · next same =>
      obtain ⟨rfl, rfl⟩ := same
      cases goesOn
      have there := holds n
      rw [if_pos rfl, held] at there
      cases found : c.subscription? ⟨handle.location, n⟩ with
      | none =>
        rw [found] at there
        cases there
      | some s =>
        rw [found] at there
        have heldThere : s.held handle.number = [snapshot] := there
        rw [emits_bare (by trivial), Client.bare, if_pos rfl, found, Option.bind_some, takes?_eq,
          heldThere, hasEnded, found]
        simp [Effect.emission, answersTo]
    · cases goesOn
  | _ => cases goesOn

end ObservationFeed.Client
