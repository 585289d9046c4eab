import ObservationFeed.Proofs.Client.Chores
import ObservationFeed.Proofs.Client.Follows
import ObservationFeed.Proofs.Client.Refusals

/-!
# Who is interested in a subscription

The account of a subscription lists the streams on it, the calls parked there and
those that were answered and have not gone on, and counts the responses that it
has published.  What an event does to the account can be told from outside: which
stream it hands out or drops, which call it parks or gives up, whether it applies
a response.  As long as a subscription is not over its account is what these
dealings add up to; tasks have no part in it.
-/

namespace ObservationFeed.Client

open Subscription Place

/-! ## Accounts -/

/-- Who is interested in a subscription. -/
structure Account where
  /-- The streams that are attached, by their numbers. -/
  streams : List Nat
  /-- The calls parked on the next value. -/
  parked : List Nat
  /-- The calls that were answered and have not gone on. -/
  answered : List Nat
  /-- How many responses were applied. -/
  applied : Nat
  deriving DecidableEq, Repr

/-- What can happen to the account of a subscription. -/
inductive Dealing where
  | nothing
  | stream (number : Nat)
  | drop (number : Nat)
  | park (call : Nat)
  | giveUp (call : Nat)
  /-- A response is applied, and its callers go on later. -/
  | accept
  /-- A response is applied, and its callers go on at once. -/
  | apply
  | depart (call : Nat)
  deriving DecidableEq, Repr

namespace Account

/-- The account of a subscription that was not opened. -/
def empty : Account := ⟨[], [], [], 0⟩

def after (a : Account) : Dealing → Account
  | .nothing => a
  | .stream number => { a with streams := a.streams ++ [number] }
  | .drop number => { a with streams := a.streams.filter (· ≠ number) }
  | .park call => { a with parked := a.parked ++ [call] }
  | .giveUp call =>
    { a with parked := a.parked.filter (· ≠ call), answered := a.answered.erase call }
  | .accept =>
    { a with parked := [], answered := a.answered ++ a.parked, applied := a.applied + 1 }
  | .apply => { a with parked := [], applied := a.applied + 1 }
  | .depart call => { a with answered := a.answered.erase call }

end Account

namespace Awaited

theorem parkedCalls_join (a : Awaited) (call : Nat) :
    (a.join call true).parkedCalls = a.parkedCalls ++ [call] := by
  simp [parkedCalls, join]

theorem parkedCalls_leave (a : Awaited) (call : Nat) :
    (a.leave call).parkedCalls = a.parkedCalls.filter (· ≠ call) := by
  rw [parkedCalls, parkedCalls, List.filter_map, leave, List.filter_filter, List.filter_filter]
  congr 1
  exact List.filter_congr fun c _ => Bool.and_comm ..

end Awaited

namespace Subscription

variable {s s' : Subscription}

def account (s : Subscription) : Account :=
  ⟨s.streams.map Prod.fst, s.next.parkedCalls, s.answered.map Answered.call, s.feed.version⟩

theorem account_updateLiveness (s : Subscription) (now : Nat) (change : Liveness → Liveness) :
    (s.updateLiveness now change).account = s.account := by
  rw [updateLiveness]
  split <;> rfl

theorem account_attached (s : Subscription) (now : Nat) :
    (s.attached now).account = s.account.after (.stream s.nextStream) := by
  have same := account_updateLiveness s now fun l => { l with consumers := l.consumers + 1 }
  simp only [account, Account.mk.injEq] at same
  simp [account, attached, Account.after, same]

theorem account_detach (s : Subscription) (now number : Nat) :
    (s.detach now number).account = s.account.after (.drop number) := by
  have without : ({ s with streams := s.streams.filter (·.1 ≠ number) } : Subscription).account =
      s.account.after (.drop number) := by
    simp only [account, Account.after, List.filter_map]
    rfl
  rw [detach]
  split
  · rw [account_updateLiveness, without]
  · next absent =>
    -- No stream has the number, so nothing is dropped.
    have all : s.streams.filter (·.1 ≠ number) = s.streams := by
      refine List.filter_eq_self.mpr fun e member => ?_
      simpa using fun same => absent (List.any_eq_true.mpr ⟨e, member, by simpa using same⟩)
    rw [← without, all]

theorem account_poll {number : Nat} {found : Poll Snapshot}
    (polled : s.poll? number = some (found, s')) : s'.account = s.account := by
  obtain ⟨found, _, same⟩ := Option.map_eq_some_iff.mp polled
  cases same
  simp only [account, List.map_map, Account.mk.injEq, and_true]
  refine List.map_congr_left fun e _ => ?_
  by_cases same : e.1 = number <;> simp [same]

theorem account_withParked (s : Subscription) (now call : Nat) :
    (s.withParked now call).account = s.account.after (.park call) := by
  have same := account_updateLiveness s now fun l => { l with waiters := l.waiters + 1 }
  simp only [account, Account.mk.injEq] at same
  simp [account, withParked, Account.after, same, Awaited.parkedCalls_join]

theorem account_depart (s : Subscription) (now call : Nat) :
    (s.depart now call).account = s.account.after (.depart call) := by
  have without : ({ s with answered := s.answered.eraseP (·.call = call) } : Subscription).account =
      s.account.after (.depart call) := by
    simp only [account, Account.after]
    rw [List.erase_eq_eraseP', List.eraseP_map]
    rfl
  rw [depart]
  split
  · rw [unpark, account_updateLiveness, without]
  · next absent =>
    -- No caller has the number, so nobody goes.
    have all : s.answered.eraseP (·.call = call) = s.answered :=
      List.eraseP_of_forall_not fun a member found => absent (List.any_eq_true.mpr ⟨a, member, found⟩)
    rw [← without, all]

theorem account_abort (s : Subscription) (now call : Nat) :
    (s.abort now call).account = s.account.after (.giveUp call) := by
  have forgone : (s.forgo now call).account =
      { s.account with parked := s.account.parked.filter (· ≠ call) } := by
    have left : ({ s with next := s.next.leave call } : Subscription).account =
        { s.account with parked := s.account.parked.filter (· ≠ call) } := by
      simp only [account, Awaited.parkedCalls_leave]
    rw [forgo]
    split
    · rw [unpark, account_updateLiveness, left]
    · exact left
  rw [abort, account_depart, forgone]
  rfl

theorem account_accept {tick : Option Int64} (fresh : s.isStale tick = false) (now : Nat)
    (snapshot : Snapshot) :
    (s.accept now snapshot tick).1.account = s.account.after .accept := by
  rw [accept, if_neg (by rw [fresh]; exact Bool.false_ne_true)]
  simp only [account_updateLiveness]
  simp only [account, Account.after, List.map_append, List.map_map]
  rw [show Answered.call ∘ (Answered.mk · snapshot) = id from rfl, List.map_id]
  rfl

theorem account_publish {tick : Option Int64} (fresh : s.isStale tick = false) (now : Nat)
    (snapshot : Snapshot) :
    (s.publish now snapshot tick).1.account = s.account.after .apply := by
  rw [publish, if_neg (by rw [fresh]; exact Bool.false_ne_true)]
  simp only [unpark, account_updateLiveness]
  rfl

/-- Tasks have no part in the account of a subscription that stays open. -/
theorem Tended.account {born : Bool} {now : Nat} (tended : Tended born now s s')
    (isOpen : s'.isClosed = false) : s'.account = s.account := by
  cases tended with
  | goesOn => rfl
  | closes _ _ closes => cases isOpen.symm.trans closes.spent.isClosed
  | rests _ _ rests => cases isOpen.symm.trans rests.spent.isClosed

end Subscription

/-! ## Places -/

namespace Place

variable {born : Nat → Bool} {p p' : Place} {n m : Nat} {s : Subscription}

/-- A subscription that was opened is over. -/
def Over (p : Place) (n : Nat) : Prop := ∃ s, p.subscription? n = some s ∧ s.isClosed = true

def account (p : Place) (n : Nat) : Account :=
  ((p.subscription? n).map Subscription.account).getD .empty

theorem account_some (found : p.subscription? n = some s) : p.account n = s.account := by
  rw [account, found]
  rfl

theorem account_none (absent : p.subscription? n = none) : p.account n = .empty := by
  rw [account, absent]
  rfl

theorem account_of_opened (same : p'.opened = p.opened) (n : Nat) :
    p'.account n = p.account n := by
  rw [account, account, subscription?, subscription?, same]

theorem account_set (found : p.subscription? m = some s) (s' : Subscription) (n : Nat) :
    (p.set m s').account n = if m = n then s'.account else p.account n := by
  rw [account, subscription?_set found]
  split
  · rfl
  · rfl

/-- One subscription deals, and the others do not. -/
theorem account_set_after (found : p.subscription? m = some s) {s' : Subscription}
    {dealing : Dealing} (deals : s'.account = s.account.after dealing) (n : Nat) :
    (p.set m s').account n = (p.account n).after (if m = n then dealing else .nothing) := by
  rw [account_set found]
  by_cases here : m = n
  · subst here
    rw [if_pos rfl, if_pos rfl, deals, account_some found]
  · rw [if_neg here, if_neg here]
    rfl

theorem Sound.account_request (sound : p.Sound born) (t : Timing) (transport : Transport)
    (n : Nat) :
    (p.request t transport).place.account n = (p.account n).after
      (if p.pending = some (.subscription n) then .park p.nextCall else .nothing) := by
  cases pending : p.pending with
  | none =>
    refine account_of_opened ?_ n
    simp only [Place.request, live?, pending, Option.bind_none, sendSingle]
    split <;> rfl
  | some what =>
    cases what with
    | single awaited =>
      refine account_of_opened ?_ n
      simp only [Place.request, pending]
    | subscription m =>
      obtain ⟨s, found, isOpen⟩ := sound.pendingOpen pending
      rw [request_live t transport pending found isOpen.unclosed]
      simp only [Option.some_inj, Pending.subscription.injEq]
      exact account_set_after (p := { p with nextCall := p.nextCall + 1 }) found
        (account_withParked s t.now p.nextCall) n

theorem account_abort (p : Place) (t : Timing) (call n : Nat) :
    (p.abort t call).account n = (p.account n).after (.giveUp call) := by
  have looked : (p.abort t call).subscription? n =
      (p.subscription? n).map (·.abort t.now call) := List.getElem?_map ..
  cases found : p.subscription? n with
  | none =>
    rw [account_none found, account_none (by rw [looked, found]; rfl)]
    rfl
  | some s =>
    rw [account_some found, account_some (by rw [looked, found]; rfl)]
    exact Subscription.account_abort s t.now call

/-- What the answer of a subscribe does to an account. -/
def handsOut (answer : Except SyncError (Nat × Nat)) (n : Nat) : Dealing :=
  match answer with
  | .ok (m, stream) => if m = n then .stream stream else .nothing
  | .error _ => .nothing

theorem Sound.account_subscribe (sound : p.Sound born) (t : Timing) (transport : Transport)
    (every : Interval) (n : Nat) :
    (p.subscribe t transport every).place.account n =
      (p.account n).after (handsOut (p.subscribe t transport every).answer n) := by
  rcases sound.live_or_vacant with ⟨m, s, live, -, found, isOpen⟩ | ⟨absent, -⟩
  · have attaches : s.attach? t.now = some (s.nextStream, s.attached t.now) :=
      attach?_open isOpen.unclosed
    rw [Place.subscribe, live]
    simp only [Option.bind_some, attaches, Option.map_some, handsOut]
    exact account_set_after found (account_attached s t.now) n
  · rw [Place.subscribe, absent, Option.bind_none]
    cases refusal : transport (.start every) with
    | some cause =>
      simp only [Place.openSubscription, refusal, handsOut]
      rfl
    | none =>
      -- None of the callers that it takes over is parked.
      have begins : (Subscription.begin t.now t.period t.window every p.call?).account = .empty := by
        cases call : p.call? with
        | none => rfl
        | some awaited =>
          have shared := sound.single awaited (pending_of_call? call)
          have nobody : awaited.callers.filter (·.parked) = [] :=
            List.filter_eq_nil_iff.mpr fun c member => by simp [shared.unparked c member]
          simp [Subscription.account, Subscription.begin, Awaited.parkedCalls, nobody,
            Feed.empty, Account.empty]
      simp only [openSubscription_eq p t refusal, handsOut]
      rw [account, subscription?_adding]
      by_cases here : n = p.opened.length
      · have absent : p.subscription? n = none := List.getElem?_eq_none (Nat.le_of_eq here.symm)
        rw [if_pos here, if_pos here.symm, account_none absent, ← begins]
        exact account_attached ..
      · rw [if_neg here, if_neg (Ne.symm here)]
        rfl

theorem account_detach (p : Place) (t : Timing) (m stream n : Nat) :
    (p.detach t m stream).2.account n =
      (p.account n).after (if m = n then .drop stream else .nothing) := by
  rw [Place.detach]
  cases found : p.subscription? m with
  | none =>
    by_cases here : m = n
    · subst here
      rw [if_pos rfl, account_none found]
      rfl
    · rw [if_neg here]
      rfl
  | some s => exact account_set_after found (Subscription.account_detach s t.now stream) n

theorem account_poll {stream : Nat} {found : Poll Snapshot}
    (polled : p.poll m stream = some (found, p')) (n : Nat) : p'.account n = p.account n := by
  obtain ⟨s, there, answered⟩ := Option.bind_eq_some_iff.mp polled
  obtain ⟨⟨answer, s'⟩, seen, same⟩ := Option.map_eq_some_iff.mp answered
  cases same
  have deals : s'.account = s.account.after .nothing := Subscription.account_poll seen
  rw [account_set_after there deals, ite_self]
  rfl

/-- Closing a subscription leaves the accounts of those that are not over. -/
theorem account_closeSubscription (p : Place) (transport : Transport) (m : Nat)
    (stays : ¬ (p.closeSubscription transport m).place.Over n) :
    (p.closeSubscription transport m).place.account n = p.account n := by
  rw [Place.closeSubscription] at stays ⊢
  cases found : p.subscription? m with
  | none => rfl
  | some s =>
    simp only [found] at stays ⊢
    have looked (q : Place) (same : q.opened = (p.set m (s.close transport).1).opened) (n : Nat) :
        q.subscription? n = if m = n then some (s.close transport).1 else p.subscription? n := by
      rw [subscription?, same]
      exact subscription?_set found _ n
    generalize after : (if s.liveness.closed = true then p.set m (s.close transport).1
      else (p.set m (s.close transport).1).unlist m) = q at stays ⊢
    have opened : q.opened = (p.set m (s.close transport).1).opened := by
      rw [← after]
      split <;> rfl
    by_cases here : m = n
    · refine absurd ⟨_, (looked q opened n).trans (if_pos here), ?_⟩ stays
      rw [Subscription.isClosed, closed_close, Bool.or_true]
    · rw [account, looked q opened n, if_neg here]
      rfl

theorem account_unsubscribe (p : Place) (transport : Transport)
    (stays : ¬ (p.unsubscribe transport).place.Over n) :
    (p.unsubscribe transport).place.account n = p.account n := by
  rw [Place.unsubscribe] at stays ⊢
  split at stays
  · next m pending =>
    simp only at stays ⊢
    exact account_closeSubscription { p with pending := none } transport m stays
  · rfl

/-- A response that is handed to a place deals with the account of the subscription there if it is
applied. -/
theorem Sound.account_hand (sound : p.Sound born) (transport : Transport) (response : Response)
    {hear : Subscription → Subscription × List Return} {dealing : Dealing}
    (stale : ∀ s, s.isStale response.serverTick = true → (hear s).1 = s)
    (deals : ∀ s, s.isStale response.serverTick = false →
      (hear s).1.account = s.account.after dealing) (n : Nat) :
    (p.hand transport response hear).place.account n = (p.account n).after
      (if p.pending = some (.subscription n) ∧ p.takes response.serverTick = true then dealing
        else .nothing) := by
  cases pending : p.pending with
  | none =>
    simp only [Place.hand, pending]
    rfl
  | some what =>
    cases what with
    | single awaited =>
      simp only [Place.hand, pending]
      exact account_of_opened rfl n
    | subscription m =>
      obtain ⟨s, found, isOpen⟩ := sound.pendingOpen pending
      rw [hand_live transport response hear pending found isOpen.isClosed]
      have takes : p.takes response.serverTick = !s.isStale response.serverTick := by
        simp [Place.takes, pending, found]
      rw [takes]
      cases isStale : s.isStale response.serverTick with
      | true =>
        rw [stale s isStale]
        have deals : (p.set m s).account n =
            (p.account n).after (if m = n then .nothing else .nothing) :=
          account_set_after found rfl n
        simpa using deals
      | false =>
        have deals := account_set_after found (deals s isStale) n
        simpa using deals

theorem Sound.account_respond (sound : p.Sound born) (t : Timing) (transport : Transport)
    (response : Response) (n : Nat) :
    (p.respond t transport response).place.account n = (p.account n).after
      (if p.pending = some (.subscription n) ∧ p.takes response.serverTick = true then .apply
        else .nothing) :=
  sound.account_hand transport response
    (fun _ isStale => congrArg Prod.fst (publish_stale isStale t.now response.snapshot))
    (fun _ fresh => account_publish fresh t.now response.snapshot) n

theorem Sound.account_accept (sound : p.Sound born) (t : Timing) (transport : Transport)
    (response : Response) (n : Nat) :
    (p.accept t transport response).place.account n = (p.account n).after
      (if p.pending = some (.subscription n) ∧ p.takes response.serverTick = true then .accept
        else .nothing) :=
  sound.account_hand transport response
    (fun _ isStale => congrArg Prod.fst (accept_stale isStale t.now response.snapshot))
    (fun _ fresh => Subscription.account_accept fresh t.now response.snapshot) n

theorem account_depart (p : Place) (t : Timing) (m call n : Nat) :
    (p.depart t m call).account n =
      (p.account n).after (if m = n then .depart call else .nothing) := by
  rw [Place.depart]
  cases found : p.subscription? m with
  | none =>
    by_cases here : m = n
    · subst here
      rw [if_pos rfl, account_none found]
      rfl
    · rw [if_neg here]
      rfl
  | some s => exact account_set_after found (Subscription.account_depart s t.now call) n

/-! ## Tasks -/

/-- Tasks have no part in the accounts of subscriptions that are not over after them. -/
theorem Attended.account {now : Nat} (attended : Attended born now p p') (stays : ¬ p'.Over n) :
    p'.account n = p.account n := by
  cases found : p.subscription? n with
  | none => rw [account_none found, account_none (attended.none n found)]
  | some s =>
    obtain ⟨s', found', tended⟩ := attended.forth n s found
    rw [account_some found, account_some found']
    exact tended.account (Bool.eq_false_iff.mpr fun isOver => stays ⟨s', found', isOver⟩)

/-! ## What is over stays over -/

theorem Sound.over_iff (sound : p.Sound born) :
    p.Over n ↔ ∃ s, p.subscription? n = some s ∧ Spent s := by
  constructor
  · rintro ⟨s, found, isOver⟩
    rcases sound.each n s found with isOpen | spent
    · cases isOver.symm.trans isOpen.isClosed
    · exact ⟨s, found, spent⟩
  · rintro ⟨s, found, spent⟩
    exact ⟨s, found, spent.isClosed⟩

theorem Turns.still_over {t : Timing} (turns : Turns born t p p') (sound : p.Sound born)
    (isOver : p.Over n) : p'.Over n := by
  obtain ⟨attempts, turned⟩ := turns
  obtain ⟨s, found, spent⟩ := sound.over_iff.mp isOver
  obtain ⟨s', found', stays⟩ := turned.forth found
  exact ⟨s', found', (stays spent).isClosed⟩

theorem Attended.still_over {now : Nat} (attended : Attended born now p p') (sound : p.Sound born)
    (isOver : p.Over n) : p'.Over n := by
  obtain ⟨s, found, spent⟩ := sound.over_iff.mp isOver
  obtain ⟨s', found', tended⟩ := attended.forth n s found
  refine ⟨s', found', ?_⟩
  cases tended with
  | goesOn _ _ isOpen => exact isOpen.not_spent spent
  | closes _ isOpen => exact isOpen.not_spent spent
  | rests _ _ rests => exact rests.spent.isClosed

end Place

/-! ## Events -/

/-- What an event does to the account of a subscription, as it can be told from outside. -/
def dealing (net : Network) (c : Client) (h : SubscriptionHandle) : Event → Dealing
  | .request l =>
    if l = h.location ∧ c.closed = false ∧ (c.place l).pending = some (.subscription h.number) then
      .park (c.request net l).answer.number
    else .nothing
  | .abort call => if call.location = h.location then .giveUp call.number else .nothing
  | .subscribe l every =>
    match (c.subscribe net l every).answer with
    | .ok stream => if stream.subscription = h then .stream stream.number else .nothing
    | .error _ => .nothing
  | .detach stream => if stream.subscription = h then .drop stream.number else .nothing
  | .respond r =>
    if r.location = h.location ∧ c.closed = false ∧
        (c.place r.location).pending = some (.subscription h.number) ∧
        (c.place r.location).takes r.serverTick = true then
      .apply
    else .nothing
  | _ => .nothing

/-- As long as a subscription is not over an event does to its account what can be told from
outside. -/
theorem account_effect {net : Network} {c : Client} {l : Location} {born : Nat → Bool} {n : Nat}
    (sound : (c.place l).Sound born) {e : Event} (goesOn : ¬ e.Ends)
    (stays : ¬ ((c.effect net l e).place (c.place l)).Over n) :
    ((c.effect net l e).place (c.place l)).account n =
      ((c.place l).account n).after (c.dealing net ⟨l, n⟩ e) := by
  cases e with
  | request there =>
    simp only [effect, dealing, answer_request]
    by_cases here : there = l
    · subst here
      cases closed : c.closed with
      | true =>
        simp only [ne_eq, not_true_eq_false, if_false, if_true, Bool.true_eq_false, false_and,
          and_false]
        exact account_of_opened rfl n
      | false =>
        have parks := sound.account_request c.timing (net there) n
        simpa [Effect.place, Effect.ofStep] using parks
    · simp [here, Effect.place, Account.after]
  | abort call =>
    simp only [effect, dealing]
    by_cases here : call.location = l
    · simp only [here, ne_eq, not_true_eq_false, if_false, if_true]
      exact Place.account_abort ..
    · simp [here, Effect.place, Account.after]
  | subscribe there every =>
    simp only [effect, dealing, Client.subscribe]
    cases closed : c.closed with
    | true => simp [Effect.place, Account.after]
    | false =>
      have hands := sound.account_subscribe c.timing (net l) every n
      simp only [Bool.false_eq_true, or_false, if_false, atPlace]
      by_cases here : there = l
      · subst here
        simp only [ne_eq, not_true_eq_false, if_false, Effect.place, Effect.ofStep]
        rw [hands]
        cases ((c.place there).subscribe c.timing (net there) every).answer with
        | error cause => rfl
        | ok stream => simp [handsOut, Except.map]
      · simp only [ne_eq, here, not_false_eq_true, if_true, Effect.place]
        cases ((c.place there).subscribe c.timing (net there) every).answer with
        | error cause => rfl
        | ok stream => simp [Except.map, here, Account.after]
  | poll h =>
    simp only [effect, dealing]
    split
    · rfl
    · split
      · next polled => exact Place.account_poll polled n
      · rfl
  | detach h =>
    simp only [effect, dealing]
    obtain ⟨⟨there, m⟩, stream⟩ := h
    by_cases here : there = l
    · subst here
      have drops := account_detach (c.place there) c.timing m stream n
      simpa [Effect.place] using drops
    · simp [here, Effect.place, Account.after]
  | closeSubscription h =>
    simp only [effect, dealing] at stays ⊢
    split at stays
    · next elsewhere => simp only [if_pos elsewhere]; rfl
    · next here =>
      simp only [if_neg here]
      exact account_closeSubscription _ _ _ stays
  | respond response =>
    simp only [effect, dealing]
    by_cases here : response.location = l
    · subst here
      cases closed : c.closed with
      | true => simp [Effect.place, Account.after]
      | false =>
        have applies := sound.account_respond c.timing (net response.location) response n
        simpa [Effect.place, Effect.ofStep] using applies
    · simp [here, Effect.place, Account.after]
  | unsubscribe there =>
    simp only [effect, dealing] at stays ⊢
    split at stays
    · next elsewhere => simp only [if_pos elsewhere]; rfl
    · next here =>
      simp only [if_neg here]
      exact account_unsubscribe _ _ stays
  | close | release => exact absurd trivial goesOn
  | wake time | elapse time => rfl

end ObservationFeed.Client
