import ObservationFeed.Proofs.Client.Accounts
import ObservationFeed.Proofs.Client.IdleClose

/-!
# The table of a client and the interest in its subscriptions

A client that was neither closed nor let go has at most one entry for each
location, its subscription entries are the open subscriptions, and what an open
subscription notes about the interest in it is what its history tells: events
with the tasks that they let run, operations alone, and chores of single tasks,
in any order, at any time and over any network.
-/

namespace ObservationFeed.Client

open KeyedList Subscription Place

/-! ## Histories -/

/-- What can happen to a client. -/
inductive Move where
  /-- An event, and all that the tasks can do after it. -/
  | event (e : Event)
  /-- What an event does at a location before any task runs. -/
  | operation (l : Location) (e : Event)
  /-- One thing that one task does. -/
  | chore (h : SubscriptionHandle) (chore : Chore)
  /-- A response is handed over before any task runs, and its parked callers go on later. -/
  | hear (response : Response)
  /-- A caller that was answered goes on, perhaps with the end of the scope. -/
  | depart (h : SubscriptionHandle) (call : Nat) (cancelled : Bool)
  /-- The client is closed before any task runs. -/
  | shut

/-- The moves that end a client. -/
def Move.Ends : Move → Prop
  | .event e | .operation _ e => e.Ends
  | .chore .. | .hear _ | .depart .. => False
  | .shut => True

/-- The client after a move. -/
def make (net : Network) (c : Client) : Move → Client
  | .event e => (c.step net e).1
  | .operation l e => c.setPlace l ((c.effect net l e).place (c.place l))
  | .chore h chore =>
    c.setPlace h.location
      ((c.place h.location).tend c.timing (net h.location) h.number chore)
  | .hear response => (c.accept net response).client
  | .depart h call cancelled => (c.depart h call cancelled).1
  | .shut => (c.shut net).client

/-- The moves that let no task run and are no events. -/
def Move.Bare : Move → Prop
  | .operation .. | .hear _ | .depart .. | .shut => True
  | .event _ | .chore .. => False

/-- What a bare move does at a location. -/
def bare (net : Network) (c : Client) (l : Location) : Move → Effect
  | .operation there e => if there = l then c.effect net l e else .still
  | .hear response =>
    if response.location = l ∧ c.closed = false then
      .ofStep ((c.place l).accept c.timing (net l) response)
    else .still
  | .depart h call cancelled =>
    if h.location = l then
      .moved ((c.place l).depart c.timing h.number call)
        ⟨[], ((c.subscription? h).bind fun s => s.takes? call cancelled).toList⟩
    else .still
  | .shut => if c.closed = false then .ofStep ((c.place l).close (net l)) else .still
  | .event _ | .chore .. => .still

theorem closed_make_or (net : Network) (c : Client) (m : Move) :
    (c.make net m).closed = c.closed ∨ m = .event .close ∨ m = .shut := by
  cases m with
  | event e =>
    by_cases close : e = .close
    · exact .inr (.inl (congrArg Move.event close))
    · exact .inl ((step_framed net c e).closed close)
  | operation | chore | depart => exact .inl rfl
  | hear response => exact .inl (sameBut_accept c net response).closed
  | shut => exact .inr (.inr rfl)

/-- A move, the client that made it and the network that it was made over. -/
structure Record where
  client : Client
  net : Network
  move : Move

/-- What a move does to the account of a subscription. -/
def Record.dealing (r : Record) (h : SubscriptionHandle) : Dealing :=
  match r.move with
  | .event e => r.client.dealing r.net h e
  | .operation l e => if l = h.location then r.client.dealing r.net h e else .nothing
  | .hear response =>
    if response.location = h.location ∧ r.client.closed = false ∧
        (r.client.place response.location).pending = some (.subscription h.number) ∧
        (r.client.place response.location).takes response.serverTick = true then
      .accept
    else .nothing
  | .depart other call _ => if other = h then .depart call else .nothing
  | .chore .. | .shut => .nothing

/-- The account of a subscription as the records of a client tell it, the latest record first. -/
def accountOf (h : SubscriptionHandle) : List Record → Account
  | [] => .empty
  | r :: past => (accountOf h past).after (r.dealing h)

/-- The clients that were neither closed nor let go, each with its records. -/
inductive Lives : List Record → Client → Prop where
  | start (config : Config) : Lives [] (ofConfig config)
  | move (past : List Record) (c : Client) (net : Network) (m : Move) :
      Lives past c → ¬ m.Ends → Lives (⟨c, net, m⟩ :: past) (c.make net m)

/-- The states of a client, the latest first. -/
abbrev states (past : List Record) (c : Client) : List Client := c :: past.map Record.client

/-! ## One place -/

/-- What a move makes of a fit place: it stays fit, and the accounts of subscriptions that are not
over are dealt with. -/
structure Carries (before after : Place) (dealing : Nat → Dealing) (born : Nat → Bool) (now : Nat) :
    Prop where
  fit : after.Fit born now
  still_over : ∀ n, before.Over n → after.Over n
  account : ∀ n, ¬ after.Over n → after.account n = (before.account n).after (dealing n)

section Carries

variable {p after : Place} {dealing : Nat → Dealing} {born : Nat → Bool} {now time : Nat}

theorem carries_refl (fit : p.Fit born now) : Carries p p (fun _ => .nothing) born now :=
  ⟨fit, fun _ => id, fun _ _ => rfl⟩

theorem Carries.later (carries : Carries p after dealing born now) (later : now ≤ time) :
    Carries p after dealing born time :=
  { carries with fit := carries.fit.later later }

theorem Carries.runTasks (carries : Carries p after dealing born now) (period window : Nat)
    (transport : Transport) :
    Carries p (after.runTasks ⟨now, period, window⟩ transport).1 dealing born now := by
  have attended := carries.fit.attended_runTasks period window transport
  have isOver {n : Nat} := attended.still_over (n := n) carries.fit.sound
  refine ⟨carries.fit.runTasks period window transport,
    fun n was => isOver (carries.still_over n was), ?_⟩
  intro n stays
  rw [attended.account stays, carries.account n fun was => stays (isOver was)]

theorem Carries.settle (carries : Carries p after dealing born now) {effect : Effect}
    (place : effect.place p = after) (period window : Nat) (transport : Transport) :
    Carries p (effect.settle ⟨now, period, window⟩ transport p).1 dealing born now := by
  subst place
  cases effect with
  | still => exact carries
  | polled => exact carries
  | moved => exact carries.runTasks period window transport

theorem carries_tend {t : Timing} (fit : p.Fit born t.now) (transport : Transport) (m : Nat)
    (chore : Chore) :
    Carries p (p.tend t transport m chore) (fun _ => .nothing) born t.now := by
  have attended := fit.attended_tend transport m chore
  exact ⟨fit.tend transport m chore, fun _ => attended.still_over fit.sound,
    fun _ => attended.account⟩

end Carries

/-! ## One move -/

variable {c : Client} {net : Network} {past : List Record} {m : Move}

/-- What holds of every client that was neither closed nor let go. -/
structure Consistent (past : List Record) (c : Client) : Prop where
  distinct : Distinct c.places
  fit : ∀ l, (c.place l).Fit (born l (states past c)) c.now
  account : ∀ l n, ¬ (c.place l).Over n → (c.place l).account n = accountOf ⟨l, n⟩ past

/-- What is made of a sound place where the accounts of subscriptions that are not over are dealt
with. -/
theorem Consistent.carries_turns (consistent : Consistent past c) (l : Location) {after : Place}
    (turns : Turns (born l (states past c)) c.timing (c.place l) after) {dealing : Nat → Dealing}
    (account : ∀ n, ¬ after.Over n →
      after.account n = ((c.place l).account n).after (dealing n)) (c' : Client) :
    Carries (c.place l) after dealing (born l (c' :: states past c)) c.now := by
  have sound := (consistent.fit l).sound
  refine ⟨?_, fun n => turns.still_over sound, account⟩
  obtain ⟨attempts, turned⟩ := turns
  exact (consistent.fit l).turned_born turned (fun _ _ => born_known) fun _ => born_unknown

/-- What an operation makes of the place at a location. -/
theorem Consistent.carries_effect (consistent : Consistent past c) {e : Event} (goesOn : ¬ e.Ends)
    (l : Location) (c' : Client) :
    Carries (c.place l) ((c.effect net l e).place (c.place l)) (fun n => c.dealing net ⟨l, n⟩ e)
      (born l (c' :: states past c)) c.now := by
  have sound := (consistent.fit l).sound
  exact consistent.carries_turns l (turns_effect sound goesOn)
    (fun n => account_effect sound goesOn) c'

theorem places_shut (unclosed : c.closed = false) (net : Network) :
    (c.shut net).client.places =
      c.places.map fun e => (e.1, (e.2.close (net e.1)).place) := by
  rw [Client.shut, unclosed]
  exact List.map_map

theorem place_shut (c : Client) (net : Network) (l : Location) :
    (c.shut net).client.place l =
      if c.closed = false then ((c.place l).close (net l)).place else c.place l := by
  cases closed : c.closed with
  | true =>
    rw [Client.shut, closed]
    rfl
  | false =>
    rw [place, place, places_shut closed, find?_map l c.places fun l p => (p.close (net l)).place]
    cases find? l c.places <;> rfl

/-- A response that is handed over deals with the account of the subscription that hears it. -/
theorem Consistent.carries_hear (consistent : Consistent past c) (net : Network)
    (response : Response) (l : Location) (c' : Client) :
    Carries (c.place l) ((c.accept net response).client.place l)
      (fun n => Record.dealing ⟨c, net, .hear response⟩ ⟨l, n⟩) (born l (c' :: states past c))
      c.now := by
  have sound := (consistent.fit l).sound
  refine consistent.carries_turns l (sound.acted_accept net response).1.turns (fun n _ => ?_) c'
  rw [place_accept]
  by_cases here : response.location = l ∧ c.closed = false
  · obtain ⟨rfl, unclosed⟩ := here
    rw [if_pos ⟨rfl, unclosed⟩, sound.account_accept, Record.dealing]
    simp only [unclosed, true_and]
  · have elsewhere : Record.dealing ⟨c, net, .hear response⟩ ⟨l, n⟩ = .nothing :=
      if_neg fun deals => here ⟨deals.1, deals.2.1⟩
    rw [if_neg here, elsewhere]
    rfl

theorem Consistent.carries_depart (consistent : Consistent past c) (net : Network)
    (h : SubscriptionHandle) (call : Nat) (cancelled : Bool) (l : Location) (c' : Client) :
    Carries (c.place l) ((c.depart h call cancelled).1.place l)
      (fun n => Record.dealing ⟨c, net, .depart h call cancelled⟩ ⟨l, n⟩)
      (born l (c' :: states past c)) c.now := by
  have sound := (consistent.fit l).sound
  refine consistent.carries_turns l (sound.acted_depart h call cancelled).1.turns (fun n _ => ?_) c'
  obtain ⟨there, m⟩ := h
  rw [place_depart]
  by_cases here : there = l
  · subst here
    rw [if_pos rfl, Place.account_depart, Record.dealing]
    simp
  · rw [if_neg here, Record.dealing]
    simp [here, Account.after]

theorem Consistent.carries (consistent : Consistent past c) (net : Network) (goesOn : ¬ m.Ends)
    (l : Location) :
    Carries (c.place l) ((c.make net m).place l) (fun n => Record.dealing ⟨c, net, m⟩ ⟨l, n⟩)
      (born l (states (⟨c, net, m⟩ :: past) (c.make net m))) (c.make net m).now := by
  have fit : (c.place l).Fit (born l (c.make net m :: states past c)) c.now :=
    (consistent.fit l).congr fun n s => born_known
  cases m with
  | event e =>
    have place : (c.step net e).1.place l = (c.outcomeAt net l e).1 :=
      congrArg Prod.fst (step_at consistent.distinct net e l)
    have now : (c.step net e).1.now = e.time c := congrArg Timing.now (step_framed net c e).timing
    simp only [make, place, now]
    -- The operation comes first, then the clock moves, and then the tasks run.
    exact ((consistent.carries_effect goesOn l _).later (e.now_le_time c)).settle rfl ..
  | operation there e =>
    simp only [make, place_setPlace, Record.dealing]
    by_cases here : there = l
    · subst here
      simp only [if_true]
      exact consistent.carries_effect goesOn there _
    · simp only [here, if_false]
      exact carries_refl fit
  | chore h chore =>
    simp only [make, place_setPlace, Record.dealing]
    by_cases here : h.location = l
    · subst here
      simp only [if_true]
      exact carries_tend fit (net h.location) h.number chore
    · simp only [here, if_false]
      exact carries_refl fit
  | hear response =>
    have now : (c.make net (.hear response)).now = c.now := (sameBut_accept c net response).now
    exact now ▸ consistent.carries_hear net response l _
  | depart h call cancelled => exact consistent.carries_depart net h call cancelled l _
  | shut => exact absurd trivial goesOn

theorem Consistent.make (consistent : Consistent past c) (goesOn : ¬ m.Ends) :
    Consistent (⟨c, net, m⟩ :: past) (c.make net m) where
  distinct := by
    cases m with
    | event e => exact (step_framed net c e).distinct consistent.distinct
    | operation | chore | depart => exact consistent.distinct.put ..
    | hear response => exact (sameBut_accept c net response).distinct consistent.distinct
    | shut => exact absurd trivial goesOn
  fit l := (consistent.carries net goesOn l).fit
  account l n stays := by
    have carries := consistent.carries net goesOn l
    have still : ¬ (c.place l).Over n := fun isOver => stays (carries.still_over n isOver)
    rw [carries.account n stays, consistent.account l n still]
    rfl

theorem Lives.consistent (lives : Lives past c) : Consistent past c := by
  induction lives with
  | start config =>
    have nothing (l : Location) : (ofConfig config).place l = .empty := rfl
    exact ⟨distinct_nil, fun l => nothing l ▸ fit_empty _ _, fun l n _ => rfl⟩
  | move past c net m lives goesOn ih => exact ih.make goesOn

/-! ## The table and the interest -/

/-- What is pending at each location. -/
def table (c : Client) : List (Location × Pending) :=
  c.places.filterMap fun e => e.2.pending.map fun what => (e.1, what)

/-- What an open subscription notes about the interest in it, by its account and by whether it took
over a call when it was opened. -/
structure Faithful (a : Account) (born : Bool) (s : Subscription) : Prop where
  account : s.account = a
  consumers : s.liveness.consumers = a.streams.length
  waiters : s.liveness.waiters = a.parked.length + a.answered.length
  promoted : s.liveness.promoted = true ↔ born = true ∧ a.applied = 0
  awaited : s.next.value = .pending
  armed : s.timer.deadline.isSome = true ↔
    s.liveness.consumers = 0 ∧ s.liveness.waiters = 0 ∧ s.liveness.promoted = false

theorem distinct_table (distinct : Distinct c.places) : Distinct c.table :=
  distinct.filterMap fun _ p => p.pending

theorem mem_table (distinct : Distinct c.places) {l : Location} {what : Pending} :
    (l, what) ∈ c.table ↔ (c.place l).pending = some what := by
  rw [← find?_eq_some (distinct_table distinct), table,
    find?_filterMap distinct (fun _ p => p.pending), place]
  cases find? l c.places <;> rfl

theorem Liveness.isLive_eq_false {l : Liveness} :
    l.isLive = false ↔ l.consumers = 0 ∧ l.waiters = 0 ∧ l.promoted = false := by
  simp [Liveness.isLive, and_assoc]

theorem Subscription.Open.faithful {born : Bool} {now : Nat} {s : Subscription}
    (isOpen : Open born s) (ticks : s.Ticks now) : Faithful s.account born s where
  account := rfl
  consumers := by rw [isOpen.consumers, Subscription.account, List.length_map]
  waiters := by
    rw [isOpen.waiters, Subscription.account, List.length_map, Awaited.length_parkedCalls]
  promoted := by
    rw [isOpen.promoted, Bool.and_eq_true, beq_iff_eq]
    rfl
  awaited := isOpen.awaited
  armed := by
    obtain ⟨last, clocked⟩ := ticks
    rw [clocked.deadline, ← Liveness.isLive_eq_false]
    cases s.liveness.isLive <;> simp

/-- A client that was neither closed nor let go has at most one entry for each location, its
subscription entries are the open subscriptions, and what each of these notes about the interest in
it is what its history tells. -/
theorem open_subscriptions_listed_and_faithful (lives : Lives past c) :
    Distinct c.table ∧
    (∀ h : SubscriptionHandle, (h.location, .subscription h.number) ∈ c.table ↔
      ∃ s, c.subscription? h = some s ∧ s.isClosed = false) ∧
    ∀ h s, c.subscription? h = some s → s.isClosed = false →
      Faithful (accountOf h past) (bornOfCall h (states past c)) s := by
  have consistent := lives.consistent
  refine ⟨distinct_table consistent.distinct, fun h => ?_, fun h s found isOpen => ?_⟩
  · rw [mem_table consistent.distinct]
    exact (consistent.fit h.location).sound.entry h.number
  · have fit := consistent.fit h.location
    rcases fit.sound.each h.number s found with stillOpen | spent
    · have account := consistent.account h.location h.number (by
        rintro ⟨_, there, isOver⟩
        cases found.symm.trans there
        cases isOpen.symm.trans isOver)
      rw [account_some found] at account
      exact account ▸ stillOpen.faithful (fit.ticks h.number s found stillOpen)
    · cases isOpen.symm.trans spent.isClosed

/-- A subscription takes over a call, another call parks on it, and it loses its stream over a network
that is gone.  The response answers both calls, and it stays of interest until the one that parked
has gone on.  Then its timer is armed. -/
theorem open_subscriptions_listed_and_faithful_of_answered :
    let works : Network := fun _ _ => none
    let gone : Network := fun _ _ => some .closed
    let h : SubscriptionHandle := ⟨⟨"overworld", ⟨1, 2, 3⟩⟩, 0⟩
    let asks : Move := .event (.request h.location)
    let opens : Move := .event (.subscribe h.location (.clamp 20))
    let drops : Move := .operation h.location (.detach ⟨h, 0⟩)
    let hears : Move := .hear ⟨h.location, .empty, some 7⟩
    let departs : Move := .depart h 1 false
    let reads : Move := .chore h (.read 0)
    let c₀ := ofConfig {}
    let c₁ := c₀.make works asks
    let c₂ := c₁.make works opens
    let c₃ := c₂.make works asks
    let c₄ := c₃.make gone drops
    let c₅ := c₄.make gone hears
    let c₆ := c₅.make gone departs
    let c₇ := c₆.make gone reads
    let past : List Record := [⟨c₄, gone, hears⟩, ⟨c₃, gone, drops⟩, ⟨c₂, works, asks⟩,
      ⟨c₁, works, opens⟩, ⟨c₀, works, asks⟩]
    let later : List Record := ⟨c₆, gone, reads⟩ :: ⟨c₅, gone, departs⟩ :: past
    (Lives past c₅ ∧ ∃ s, c₅.subscription? h = some s ∧ Faithful ⟨[], [], [1], 1⟩ true s ∧
      s.timer.deadline.isSome = false) ∧
    Lives later c₇ ∧ ∃ s, c₇.subscription? h = some s ∧ Faithful ⟨[], [], [], 1⟩ true s ∧
      s.timer.deadline.isSome = true := by
  intro works gone h asks opens drops hears departs reads c₀ c₁ c₂ c₃ c₄ c₅ c₆ c₇ past later
  have lives : Lives past c₅ :=
    .move _ c₄ gone hears (.move _ c₃ gone drops (.move _ c₂ works asks
      (.move _ c₁ works opens (.move _ c₀ works asks (.start {}) id) id) id) id) id
  have lives' : Lives later c₇ :=
    .move _ c₆ gone reads (.move _ c₅ gone departs lives id) id
  have opened : (c₅.subscription? h).map Subscription.isClosed = some false := by
    decide +kernel +zetaReduce
  have opened' : (c₇.subscription? h).map Subscription.isClosed = some false := by
    decide +kernel +zetaReduce
  have account : accountOf h past = ⟨[], [], [1], 1⟩ := by decide +kernel +zetaReduce
  have account' : accountOf h later = ⟨[], [], [], 1⟩ := by decide +kernel +zetaReduce
  have born : bornOfCall h (states past c₅) = true := by decide +kernel +zetaReduce
  have born' : bornOfCall h (states later c₇) = true := by decide +kernel +zetaReduce
  -- From here on it does not matter what the states are.
  clear_value later past c₇ c₅
  obtain ⟨s, found, isOpen⟩ := Option.map_eq_some_iff.mp opened
  obtain ⟨s', found', isOpen'⟩ := Option.map_eq_some_iff.mp opened'
  have faithful := (open_subscriptions_listed_and_faithful lives).2.2 h s found isOpen
  have faithful' := (open_subscriptions_listed_and_faithful lives').2.2 h s' found' isOpen'
  rw [account, born] at faithful
  rw [account', born'] at faithful'
  refine ⟨⟨lives, s, found, faithful, ?_⟩, lives', s', found', faithful', ?_⟩
  · refine Bool.eq_false_iff.mpr fun armed => ?_
    cases faithful.waiters.symm.trans (faithful.armed.mp armed).2.1
  · refine faithful'.armed.mpr ⟨faithful'.consumers, faithful'.waiters, ?_⟩
    exact Bool.eq_false_iff.mpr fun promoted => by cases (faithful'.promoted.mp promoted).2

end ObservationFeed.Client
