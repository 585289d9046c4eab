import ObservationFeed.Proofs.Client.Effect
import ObservationFeed.Proofs.Client.Refusals

/-!
# What operations do to each subscription

Seen from one subscription every event is one of a few acts: a stream or a caller
comes or goes, a response is handed to it, or it is closed.  Which act it is
depends on what is pending at its location.  An operation performs the acts of
all subscriptions at its place, or opens another one, and it attempts what these
acts attempt and nothing else but the request of an unclosed client.

Nothing is supposed of the places here, so all of this holds of clients that were
closed or let go as well.
-/

namespace ObservationFeed.Client

/-- What an operation does to one of the subscriptions at its place. -/
inductive Act where
  | nothing
  | attach
  | detach (stream : Nat)
  | poll (stream : Nat)
  | park (call : Nat)
  | giveUp (call : Nat)
  | hear (response : Response)
  /-- A response is handed over, and its parked callers go on later. -/
  | accept (response : Response)
  /-- A caller that was answered goes on, perhaps with the end of the scope. -/
  | depart (call : Nat) (cancelled : Bool)
  | close
  | endScope

/-- The subscription after an act, and what it lets out. -/
def Subscription.undergo (s : Subscription) (now : Nat) (transport : Transport) :
    Act → Subscription × Emission
  | .nothing => (s, .none)
  | .attach => (((s.attach? now).map (·.2)).getD s, .none)
  | .detach stream => (s.detach now stream, .none)
  | .poll stream => (((s.poll? stream).map (·.2)).getD s, .none)
  | .park call => ((s.park? now call).getD s, .none)
  | .giveUp call => (s.abort now call, .none)
  | .hear response =>
    if s.isClosed then s.close transport
    else
      let (s, returns) := s.publish now response.snapshot response.serverTick
      (s, ⟨[], returns⟩)
  | .accept response =>
    if s.isClosed then s.close transport
    else
      let (s, returns) := s.accept now response.snapshot response.serverTick
      (s, ⟨[], returns⟩)
  | .depart call cancelled => (s.depart now call, ⟨[], (s.takes? call cancelled).toList⟩)
  | .close => s.close transport
  | .endScope => (s.endScope, .none)

/-- A message with which a client asks for something, and which no subscription sends. -/
def Attempt.Asks (a : Attempt) : Prop := a.kind = .single ∨ ∃ every, a.kind = .start every

namespace Place

/-! ## Which subscription it is -/

/-- The pending subscription undergoes an act. -/
def pendingActs (p : Place) (a : Act) (n : Nat) : Act :=
  if p.pending = some (.subscription n) then a else .nothing

/-- The subscription with a number undergoes an act. -/
def actsOn (m : Nat) (a : Act) (n : Nat) : Act := if m = n then a else .nothing

/-- Each subscription has undergone its act, and there are no others. -/
def Undergone (t : Timing) (transport : Transport) (p : Place) (act : Nat → Act)
    (after : Place) : Prop :=
  ∀ n, after.subscription? n =
    (p.subscription? n).map fun s => (s.undergo t.now transport (act n)).1

/-- A new subscription with its first stream. -/
def newest (p : Place) (t : Timing) (every : Interval) : Subscription :=
  (Subscription.begin t.now t.period t.window every p.call?).attached t.now

/-- What an operation does at a place where each subscription undergoes an act. -/
inductive Operates (t : Timing) (transport : Transport) (mayAsk : Prop) (p : Place)
    (act : Nat → Act) : Place → Emission → Prop where
  | acts (after : Place) (emission : Emission) :
      Undergone t transport p act after →
      (∀ n, after.pending = some (.subscription n) → p.pending = some (.subscription n)) →
      (∀ a ∈ emission.attempts, (mayAsk ∧ a.Asks) ∨ ∃ n s, p.subscription? n = some s ∧
        a ∈ (s.undergo t.now transport (act n)).2.attempts) →
      Operates t transport mayAsk p act after emission
  | opens (every : Interval) : mayAsk → transport (.start every) = none →
      Undergone t transport p act p →
      Operates t transport mayAsk p act (p.adding (p.newest t every)) ⟨[⟨.start every, none⟩], []⟩

section Operations

variable {t : Timing} {transport : Transport} {mayAsk : Prop} {p after : Place} {act : Nat → Act}
  {n m : Nat} {s : Subscription}

theorem undergone_of_opened (same : after.opened = p.opened)
    (idle : ∀ n s, p.subscription? n = some s → (s.undergo t.now transport (act n)).1 = s) :
    Undergone t transport p act after := by
  intro n
  have looked : after.subscription? n = p.subscription? n := congrArg (·[n]?) same
  rw [looked]
  cases found : p.subscription? n with
  | none => rfl
  | some s => exact congrArg some (idle n s found).symm

theorem undergone_idle (same : after.opened = p.opened) :
    Undergone t transport p (fun _ => .nothing) after :=
  undergone_of_opened same fun _ _ _ => rfl

/-- The subscription that would act is not there. -/
theorem undergone_absent (absent : p.subscription? m = none) (same : after.opened = p.opened)
    (others : ∀ n, n ≠ m → act n = .nothing) : Undergone t transport p act after := by
  refine undergone_of_opened same fun n s found => ?_
  rw [others n]
  · rfl
  · rintro rfl
    cases absent.symm.trans found

theorem undergone_set (found : p.subscription? m = some s)
    (same : after.opened = (p.set m (s.undergo t.now transport (act m)).1).opened)
    (others : ∀ n, n ≠ m → act n = .nothing) : Undergone t transport p act after := by
  intro n
  have looked : after.subscription? n = _ :=
    (congrArg (·[n]?) same).trans (subscription?_set found _ n)
  rw [looked]
  by_cases here : m = n
  · subst here
    rw [if_pos rfl, found]
    rfl
  · rw [if_neg here, others n (Ne.symm here)]
    cases p.subscription? n <;> rfl

theorem pendingActs_self (pending : p.pending = some (.subscription m)) (a : Act) :
    p.pendingActs a m = a := if_pos pending

theorem pendingActs_other (pending : p.pending = some (.subscription m)) (a : Act) (n : Nat)
    (other : n ≠ m) : p.pendingActs a n = .nothing := by
  refine if_neg fun also => other ?_
  rw [pending] at also
  cases also
  rfl

/-- No subscription is pending. -/
theorem undergone_unlisted {a : Act} (same : after.opened = p.opened)
    (unlisted : ∀ n s, p.pending = some (.subscription n) → p.subscription? n ≠ some s) :
    Undergone t transport p (p.pendingActs a) after := by
  refine undergone_of_opened same fun n s found => ?_
  rw [pendingActs, if_neg fun pending => unlisted n s pending found]
  rfl

theorem actsOn_self (m : Nat) (a : Act) : actsOn m a m = a := if_pos rfl

theorem actsOn_other (m : Nat) (a : Act) (n : Nat) (other : n ≠ m) : actsOn m a n = .nothing :=
  if_neg (Ne.symm other)

/-- Where nothing is pending no subscription is. -/
theorem no_entry {q : Prop} (entry : (none : Option Pending) = some (.subscription n)) : q := by
  cases entry

/-- Nor where a one-shot call is. -/
theorem call_entry {q : Prop} {awaited : Awaited}
    (entry : some (Pending.single awaited) = some (.subscription n)) : q := by
  cases entry

theorem quiet_attempts {emission : Emission} (quiet : emission.attempts = []) :
    ∀ a ∈ emission.attempts, (mayAsk ∧ a.Asks) ∨ ∃ n s, p.subscription? n = some s ∧
      a ∈ (s.undergo t.now transport (act n)).2.attempts := by
  rw [quiet]
  intro a member
  cases member

/-! ## One lemma for each operation -/

theorem operates_request (p : Place) (t : Timing) (transport : Transport) (may : mayAsk) :
    Operates t transport mayAsk p (p.pendingActs (.park p.nextCall))
      (p.request t transport).place (p.request t transport).emission := by
  -- Where no caller parks, the call is sent or joins one that was.
  have unparked (idle : ∀ n s, p.pending = some (.subscription n) → p.subscription? n = some s →
      s.park? t.now p.nextCall = none) (after : Place) (same : after.opened = p.opened) :
      Undergone t transport p (p.pendingActs (.park p.nextCall)) after := by
    refine undergone_of_opened same fun n s found => ?_
    rw [pendingActs]
    split
    · next pending => rw [Subscription.undergo, idle n s pending found, Option.getD_none]
    · rfl
  rw [Place.request]
  split
  · next pending =>
    refine .acts _ _ (unparked (fun n s also => ?_) _ rfl) (fun _ => call_entry)
      (quiet_attempts rfl)
    cases pending.symm.trans also
  · next shared _ =>
    obtain ⟨⟨m, s⟩, live, parked⟩ := Option.bind_eq_some_iff.mp shared
    obtain ⟨s', parks, rfl⟩ := Option.map_eq_some_iff.mp parked
    obtain ⟨there, found⟩ := live?_eq_some.mp live
    have pending : p.pending = some (.subscription m) := there
    refine .acts _ _ (undergone_set (s := s) (m := m) found ?_ (pendingActs_other pending _))
      (fun _ => id) (quiet_attempts rfl)
    rw [pendingActs_self pending, Subscription.undergo, parks]
    rfl
  · next alone _ =>
    have idle : ∀ n s, p.pending = some (.subscription n) → p.subscription? n = some s →
        s.park? t.now p.nextCall = none := by
      intro n s pending found
      have live : ({ p with nextCall := p.nextCall + 1 } : Place).live? = some (n, s) :=
        live?_eq_some.mpr ⟨pending, found⟩
      rw [live, Option.bind_some, Option.map_eq_none_iff] at alone
      exact alone
    rw [sendSingle]
    simp only
    split
    · refine .acts _ _ (unparked idle _ rfl) (fun _ => id) fun a member => .inl ⟨may, .inl ?_⟩
      rw [List.mem_singleton.mp member]
    · refine .acts _ _ (unparked idle _ rfl) (fun _ => call_entry) fun a member =>
        .inl ⟨may, .inl ?_⟩
      rw [List.mem_singleton.mp member]

theorem operates_abort (p : Place) (t : Timing) (transport : Transport) (call : Nat) :
    Operates t transport mayAsk p (fun _ => .giveUp call) (p.abort t call) .none := by
  refine .acts _ _ (fun n => List.getElem?_map ..) (fun n => ?_) (quiet_attempts rfl)
  simp only [Place.abort]
  cases p.pending with
  | none => exact no_entry
  | some what =>
    cases what with
    | single awaited => exact call_entry
    | subscription m => exact id

theorem operates_openSubscription (p : Place) (t : Timing) (transport : Transport)
    (every : Interval) (may : mayAsk) (idle : Undergone t transport p act p) :
    Operates t transport mayAsk p act (p.openSubscription t transport every).place
      (p.openSubscription t transport every).emission := by
  cases refusal : transport (.start every) with
  | none =>
    rw [openSubscription_eq p t refusal]
    exact .opens every may refusal idle
  | some cause =>
    simp only [Place.openSubscription, refusal]
    refine .acts _ _ idle (fun _ => id) fun a member => .inl ⟨may, .inr ⟨every, ?_⟩⟩
    rw [List.mem_singleton.mp member]

theorem operates_subscribe (p : Place) (t : Timing) (transport : Transport) (every : Interval)
    (may : mayAsk) :
    Operates t transport mayAsk p (p.pendingActs .attach) (p.subscribe t transport every).place
      (p.subscribe t transport every).emission := by
  rw [Place.subscribe]
  split
  · next attaches =>
    obtain ⟨⟨m, s⟩, live, attached⟩ := Option.bind_eq_some_iff.mp attaches
    obtain ⟨⟨stream, s'⟩, attaches, same⟩ := Option.map_eq_some_iff.mp attached
    cases same
    obtain ⟨pending, found⟩ := live?_eq_some.mp live
    refine .acts _ _ (undergone_set found ?_ (pendingActs_other pending _)) (fun _ => id)
      (quiet_attempts rfl)
    rw [pendingActs_self pending, Subscription.undergo, attaches]
    rfl
  · next unattached =>
    refine operates_openSubscription p t transport every may ?_
    refine undergone_of_opened rfl fun n s found => ?_
    rw [pendingActs]
    split
    · next pending =>
      -- No stream was attached, so the pending subscription has closed.
      rw [live?_eq_some.mpr ⟨pending, found⟩, Option.bind_some, Option.map_eq_none_iff]
        at unattached
      rw [Subscription.undergo, unattached]
      rfl
    · rfl

theorem operates_detach (p : Place) (t : Timing) (transport : Transport) (number stream : Nat) :
    Operates t transport mayAsk p (actsOn number (.detach stream))
      (p.detach t number stream).2 .none := by
  rw [Place.detach]
  cases found : p.subscription? number with
  | none =>
    exact .acts _ _ (undergone_absent found rfl (actsOn_other _ _)) (fun _ => id)
      (quiet_attempts rfl)
  | some s =>
    refine .acts _ _ (undergone_set found ?_ (actsOn_other _ _)) (fun _ => id) (quiet_attempts rfl)
    rw [actsOn_self]
    rfl

theorem undergone_poll {number stream : Nat} {found : Poll Snapshot}
    (polled : p.poll number stream = some (found, after)) :
    Undergone t transport p (actsOn number (.poll stream)) after := by
  obtain ⟨s, there, answered⟩ := Option.bind_eq_some_iff.mp polled
  obtain ⟨⟨answer, s'⟩, seen, same⟩ := Option.map_eq_some_iff.mp answered
  cases same
  refine undergone_set there ?_ (actsOn_other _ _)
  rw [actsOn_self, Subscription.undergo, seen]
  rfl

theorem pending_poll {number stream : Nat} {found : Poll Snapshot}
    (polled : p.poll number stream = some (found, after)) : after.pending = p.pending := by
  obtain ⟨s, -, answered⟩ := Option.bind_eq_some_iff.mp polled
  obtain ⟨_, -, same⟩ := Option.map_eq_some_iff.mp answered
  cases same
  rfl

/-- A poll of a stream that is not attached. -/
theorem undergone_unpolled {number stream : Nat} (unpolled : p.poll number stream = none) :
    Undergone t transport p (actsOn number (.poll stream)) p := by
  refine undergone_of_opened rfl fun n s found => ?_
  by_cases here : number = n
  · subst here
    have absent : s.poll? stream = none := by
      rw [Place.poll, found, Option.bind_some, Option.map_eq_none_iff] at unpolled
      exact unpolled
    rw [actsOn_self, Subscription.undergo, absent]
    rfl
  · rw [actsOn_other _ _ n (Ne.symm here)]
    rfl

/-- Closing a subscription, whether or not its entry has gone already. -/
theorem operates_closeSubscription (p : Place) (t : Timing) (transport : Transport) (number : Nat)
    {act : Nat → Act} (self : (p.subscription? number).isSome → act number = .close)
    (others : ∀ n, n ≠ number → act n = .nothing) (pending : Option Pending)
    (gone : ∀ n, pending = some (.subscription n) → p.pending = some (.subscription n)) :
    Operates t transport mayAsk p act
      (({ p with pending } : Place).closeSubscription transport number).place
      (({ p with pending } : Place).closeSubscription transport number).emission := by
  have there : ({ p with pending } : Place).subscription? number = p.subscription? number := rfl
  rw [Place.closeSubscription, there]
  cases found : p.subscription? number with
  | none => exact .acts _ _ (undergone_absent found rfl others) gone (quiet_attempts rfl)
  | some s =>
    have closes : act number = .close := self (by rw [found]; rfl)
    have same : s.close transport = s.undergo t.now transport (act number) := by
      rw [closes]
      rfl
    simp only [same]
    refine .acts _ _ (undergone_set found ?_ others) (fun n => ?_) fun a member =>
      .inr ⟨number, s, found, member⟩
    · split <;> rfl
    · split
      · exact gone n
      · simp only [unlist, Place.set]
        by_cases listed : pending = some (.subscription number)
        · simp [listed]
        · simpa [listed] using gone n

theorem operates_unsubscribe (p : Place) (t : Timing) (transport : Transport) :
    Operates t transport mayAsk p (p.pendingActs .close) (p.unsubscribe transport).place
      (p.unsubscribe transport).emission := by
  rw [Place.unsubscribe]
  split
  · next number pending =>
    exact operates_closeSubscription p t transport number (fun _ => pendingActs_self pending _)
      (pendingActs_other pending _) none fun _ => no_entry
  · next vacant =>
    exact .acts _ _ (undergone_unlisted rfl fun n _ pending => absurd pending (vacant n))
      (fun _ => id) (quiet_attempts rfl)

theorem operates_close (p : Place) (t : Timing) (transport : Transport) :
    Operates t transport mayAsk p (p.pendingActs .close) (p.close transport).place
      (p.close transport).emission := by
  rw [Place.close]
  split
  · next pending =>
    refine .acts _ _ (undergone_unlisted rfl fun n s also => ?_) (fun _ => id) (quiet_attempts rfl)
    cases pending.symm.trans also
  · next awaited pending =>
    refine .acts _ _ (undergone_unlisted rfl fun n s also => ?_) (fun _ => no_entry)
      (quiet_attempts rfl)
    cases pending.symm.trans also
  · next number pending =>
    exact operates_closeSubscription p t transport number (fun _ => pendingActs_self pending _)
      (pendingActs_other pending _) none fun _ => no_entry

/-- A response that is handed to an open subscription is an act of it, and it closes one that is
over. -/
theorem operates_hand (p : Place) (t : Timing) (transport : Transport) (response : Response)
    {hear : Subscription → Subscription × List Return} {a : Act}
    (hears : ∀ s : Subscription, s.undergo t.now transport a =
      if s.isClosed then s.close transport else ((hear s).1, ⟨[], (hear s).2⟩)) :
    Operates t transport mayAsk p (p.pendingActs a)
      (p.hand transport response hear).place (p.hand transport response hear).emission := by
  cases pending : p.pending with
  | none =>
    rw [Place.hand, pending]
    refine .acts _ _ (undergone_unlisted rfl fun n s also => ?_) (fun _ => id) (quiet_attempts rfl)
    cases pending.symm.trans also
  | some what =>
    cases what with
    | single awaited =>
      rw [Place.hand, pending]
      refine .acts _ _ (undergone_unlisted rfl fun n s also => ?_) (fun _ => no_entry)
        (quiet_attempts rfl)
      cases pending.symm.trans also
    | subscription number =>
      cases found : p.subscription? number with
      | none =>
        simp only [Place.hand, pending, found]
        refine .acts _ _ (undergone_unlisted rfl fun n s also there => ?_) (fun _ => id)
          (quiet_attempts rfl)
        cases pending.symm.trans also
        cases found.symm.trans there
      | some s =>
        have self := pendingActs_self pending a
        have others := pendingActs_other pending a
        simp only [Place.hand, pending, found]
        cases closed : s.isClosed with
        | true =>
          have closes : s.close transport = s.undergo t.now transport a := by
            rw [hears, if_pos closed]
          simp only [if_true, closes]
          refine .acts _ _ (undergone_set found (by rw [self]; rfl) others) (fun _ => no_entry) ?_
          exact fun a member => .inr ⟨number, s, found, by rwa [self]⟩
        | false =>
          simp only [Bool.false_eq_true, if_false]
          refine .acts _ _ (undergone_set found ?_ others) (fun _ => id) (quiet_attempts rfl)
          rw [self, hears, closed]
          rfl

theorem operates_respond (p : Place) (t : Timing) (transport : Transport) (response : Response) :
    Operates t transport mayAsk p (p.pendingActs (.hear response))
      (p.respond t transport response).place (p.respond t transport response).emission :=
  operates_hand p t transport response fun _ => rfl

theorem operates_accept (p : Place) (t : Timing) (transport : Transport) (response : Response) :
    Operates t transport mayAsk p (p.pendingActs (.accept response))
      (p.accept t transport response).place (p.accept t transport response).emission :=
  operates_hand p t transport response fun _ => rfl

theorem operates_depart (p : Place) (t : Timing) (transport : Transport) (number call : Nat)
    (cancelled : Bool) (returns : List Return) :
    Operates t transport mayAsk p (actsOn number (.depart call cancelled))
      (p.depart t number call) ⟨[], returns⟩ := by
  rw [Place.depart]
  cases found : p.subscription? number with
  | none =>
    exact .acts _ _ (undergone_absent found rfl (actsOn_other _ _)) (fun _ => id)
      (quiet_attempts rfl)
  | some s =>
    refine .acts _ _ (undergone_set found ?_ (actsOn_other _ _)) (fun _ => id) (quiet_attempts rfl)
    rw [actsOn_self]
    rfl

end Operations

end Place

/-! ## Events -/

open Place

/-- What an event does to each subscription at a location. -/
def acts (c : Client) (l : Location) : Event → Nat → Act
  | .request there =>
    if there ≠ l ∨ c.closed then fun _ => .nothing
    else (c.place l).pendingActs (.park (c.place l).nextCall)
  | .abort call => if call.location ≠ l then fun _ => .nothing else fun _ => .giveUp call.number
  | .subscribe there _ =>
    if there ≠ l ∨ c.closed then fun _ => .nothing else (c.place l).pendingActs .attach
  | .poll h =>
    if h.subscription.location ≠ l then fun _ => .nothing
    else actsOn h.subscription.number (.poll h.number)
  | .detach h =>
    if h.subscription.location ≠ l then fun _ => .nothing
    else actsOn h.subscription.number (.detach h.number)
  | .closeSubscription h =>
    if h.location ≠ l then fun _ => .nothing else actsOn h.number .close
  | .respond response =>
    if response.location ≠ l ∨ c.closed then fun _ => .nothing
    else (c.place l).pendingActs (.hear response)
  | .unsubscribe there =>
    if there ≠ l ∨ c.closed then fun _ => .nothing else (c.place l).pendingActs .close
  | .close => if c.closed then fun _ => .nothing else (c.place l).pendingActs .close
  | .release => fun _ => .endScope
  | .wake _ | .elapse _ => fun _ => .nothing

/-- An act under a condition is that act or none. -/
theorem unless_ne {a x : Act} (something : x ≠ .nothing) (other : a ≠ x) (cond : Prop)
    [Decidable cond] : (if cond then a else .nothing) ≠ x := by
  split
  · exact other
  · exact something.symm

theorem elsewhere_ne {act : Nat → Act} {n : Nat} {x : Act} (something : x ≠ .nothing)
    (other : act n ≠ x) (cond : Prop) [Decidable cond] :
    (if cond then fun _ => .nothing else act) n ≠ x := by
  split
  · exact something.symm
  · exact other

/-- Only letting go of the client ends a scope without closing the subscription. -/
theorem acts_ne_endScope {c : Client} {l : Location} {e : Event} (stays : e ≠ .release) (n : Nat) :
    c.acts l e n ≠ .endScope := by
  cases e with
  | request | subscribe | respond | unsubscribe | close | detach | closeSubscription | poll =>
    refine elsewhere_ne ?_ (unless_ne ?_ ?_ _) _
    all_goals nofun
  | abort call =>
    rw [acts]
    split
    · nofun
    · nofun
  | release => exact absurd rfl stays
  | wake | elapse => nofun

/-- What an operation lets out before any task has run. -/
def Effect.emission : Effect → Emission
  | .still | .polled _ => .none
  | .moved _ emission => emission

/-- The tasks at a place run after an operation unless it polls or does nothing there. -/
def Effect.runs : Effect → Bool
  | .still | .polled _ => false
  | .moved .. => true

/-- Every event performs its acts, over any network and at any place. -/
theorem operates_effect (net : Network) (c : Client) (l : Location) (e : Event) :
    Operates c.timing (net l) (c.closed = false) (c.place l) (c.acts l e)
      ((c.effect net l e).place (c.place l)) (c.effect net l e).emission := by
  have still : Operates c.timing (net l) (c.closed = false) (c.place l) (fun _ => .nothing)
      (c.place l) .none :=
    .acts _ _ (undergone_idle rfl) (fun _ => id) (quiet_attempts rfl)
  cases e with
  | request there =>
    simp only [effect, acts]
    by_cases here : there ≠ l
    · simp only [here, ne_eq, not_false_eq_true, true_or, if_true]
      exact still
    · cases closed : c.closed with
      | true =>
        simp only [here, or_true, if_true, if_false]
        exact .acts _ _ (undergone_idle rfl) (fun _ => id) (quiet_attempts rfl)
      | false =>
        simp only [here, Bool.false_eq_true, or_self, if_false]
        exact operates_request (c.place l) c.timing (net l) trivial
  | abort call =>
    simp only [effect, acts]
    split
    · exact still
    · exact operates_abort ..
  | subscribe there every =>
    simp only [effect, acts]
    split
    · exact still
    · next here =>
      exact operates_subscribe (c.place l) c.timing (net l) every
        (Bool.eq_false_iff.mpr fun closed => here (.inr closed))
  | poll h =>
    simp only [effect, acts]
    split
    · exact still
    · split
      · next polled =>
        refine .acts _ _ (undergone_poll polled) (fun n pending => ?_) (quiet_attempts rfl)
        exact (pending_poll polled).symm.trans pending
      · next unpolled =>
        exact .acts _ _ (undergone_unpolled unpolled) (fun _ => id) (quiet_attempts rfl)
  | detach h =>
    simp only [effect, acts]
    split
    · exact still
    · exact operates_detach ..
  | closeSubscription h =>
    simp only [effect, acts]
    split
    · exact still
    · exact operates_closeSubscription (c.place l) c.timing (net l) h.number
        (fun _ => actsOn_self ..) (actsOn_other _ _) (c.place l).pending (fun _ => id)
  | respond response =>
    simp only [effect, acts]
    split
    · exact still
    · exact operates_respond ..
  | unsubscribe there =>
    simp only [effect, acts]
    split
    · exact still
    · exact operates_unsubscribe ..
  | close =>
    simp only [effect, acts]
    split
    · exact still
    · exact operates_close ..
  | release =>
    refine .acts _ _ (fun n => ?_) (fun _ => no_entry) (quiet_attempts rfl)
    exact List.getElem?_map ..
  | wake time | elapse time => exact still

end ObservationFeed.Client
