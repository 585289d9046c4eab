import Mathlib.Data.List.Nodup
import ObservationFeed.Proofs.Client.Answering
import ObservationFeed.Proofs.Client.Course
import ObservationFeed.Proofs.Client.Traces

/-!
# Moves at outlines

Over a network that works every move does at the outline of a place what one deed
does, and then its tasks may close what is live there.  The calls that the deed
and the tasks answer are answered in the move, but for the parked ones if a
response is handed over: they go on later, one by one, and what they go on with
shows nowhere on the outline.
-/

namespace ObservationFeed.Client

open KeyedList Subscription Place

/-! ## Callers that are parked -/

namespace Awaited

variable {a : Awaited} {call : Nat}

theorem hasParked_iff :
    a.hasParked call = true ↔ ∃ c ∈ a.callers, c.call = call ∧ c.parked = true := by
  simp [hasParked, List.any_eq_true]

/-- The callers that are not parked are the others. -/
theorem mem_unparked (distinct : a.calls.Nodup) :
    call ∈ a.unparked.calls ↔ call ∈ a.calls ∧ a.hasParked call = false := by
  simp only [calls, unparked, List.mem_map, List.mem_filter, Bool.not_eq_true']
  constructor
  · rintro ⟨c, ⟨member, waits⟩, rfl⟩
    refine ⟨⟨c, member, rfl⟩, Bool.eq_false_iff.mpr fun parked => ?_⟩
    obtain ⟨other, among, same, parks⟩ := hasParked_iff.mp parked
    obtain rfl := List.inj_on_of_nodup_map distinct among member same
    cases waits.symm.trans parks
  · rintro ⟨⟨c, member, rfl⟩, nobody⟩
    refine ⟨c, ⟨member, Bool.eq_false_iff.mpr fun parks => ?_⟩, rfl⟩
    cases nobody.symm.trans (hasParked_iff.mpr ⟨c, member, rfl, parks⟩)

end Awaited

namespace Subscription

variable {s : Subscription} {now period : Nat} {transport : Transport}

/-- A response that is applied answers those who are not parked. -/
theorem shown_accept (awaited : s.next.value = .pending) {tick : Option Int64}
    (fresh : s.isStale tick = false) (now : Nat) (snapshot : Snapshot) :
    (s.accept now snapshot tick).1.interval = s.interval ∧
      (s.accept now snapshot tick).1.feed = s.feed.publish snapshot ∧
      (s.accept now snapshot tick).1.next.calls = [] ∧
      (s.accept now snapshot tick).2 = answerAll (.ok snapshot) s.next.unparked.calls := by
  have settled := Awaited.settle_pending (a := s.next.unparked) awaited (.completed snapshot) rfl
  rw [accept, if_neg (by rw [fresh]; exact Bool.false_ne_true)]
  simp only [settled]
  obtain ⟨interval, feed, calls⟩ := alike_updateLiveness
    { s with
      next := .fresh
      answered := s.answered ++ s.next.parkedCalls.map (Answered.mk · snapshot)
      highest := tick.or s.highest
      feed := s.feed.publish snapshot } now
    fun l => { l with promoted := false }
  exact ⟨interval, feed, calls, trivial⟩

/-! ## Single tasks -/

theorem returns_keepaliveEnds {result : Subscription × Emission}
    (ends : s.keepaliveEnds? transport = some result) :
    result.2.returns = [] ∧ result.1.liveness = s.liveness := by
  rw [keepaliveEnds?] at ends
  split at ends
  · cases ends
    exact ⟨returns_sendStop .., closed_sendStop ..⟩
  · cases ends

theorem returns_renews (works : ∀ kind, transport kind = none) {result : Subscription × Emission}
    (renews : s.renews? now period transport = some result) :
    result.2.returns = [] ∧ result.1.liveness = s.liveness := by
  obtain ⟨woken, wakes, rfl⟩ := Option.map_eq_some_iff.mp renews
  obtain ⟨silent, same⟩ : woken.2.returns = [] ∧ woken.1.liveness = s.liveness := by
    rw [keepaliveWakes?] at wakes
    split at wakes
    · cases wakes
    · split at wakes
      · cases wakes
      · simp only [works] at wakes
        cases wakes
        exact ⟨rfl, rfl⟩
  simp only
  split
  · cases ends : woken.1.keepaliveEnds? transport with
    | none => exact ⟨(List.append_nil _).trans silent, same⟩
    | some result =>
      obtain ⟨quiet, still⟩ := returns_keepaliveEnds ends
      refine ⟨?_, still.trans same⟩
      rw [Emission.returns_append, silent]
      exact quiet
  · exact ⟨(List.append_nil _).trans silent, same⟩

/-- A task cancels the callers of a subscription that it closes, and answers nobody else. -/
theorem returns_work (works : ∀ kind, transport kind = none) {chore : Chore}
    {result : Subscription × Emission}
    (worked : s.work? now period transport chore = some result) :
    result.2.returns = s.dismissal result.1 := by
  have unchanged {after : Subscription} (same : after.liveness = s.liveness) :
      s.dismissal after = [] := by
    rw [dismissal, same, Bool.not_and_self]
    rfl
  cases chore with
  | renew =>
    obtain ⟨silent, same⟩ := returns_renews works worked
    rw [silent, unchanged same]
  | conclude =>
    obtain ⟨silent, same⟩ := returns_keepaliveEnds worked
    rw [silent, unchanged same]
  | read task | abandon task =>
    obtain ⟨timer, -, rfl⟩ := Option.map_eq_some_iff.mp worked
    exact (unchanged rfl).symm
  | wake task =>
    obtain ⟨⟨fired, timer⟩, -, rfl⟩ := Option.map_eq_some_iff.mp worked
    cases fired with
    | false => exact (unchanged rfl).symm
    | true =>
      simp only [if_true, onIdle]
      split
      · exact (unchanged rfl).symm
      · rw [returns_close, dismissal, closed_close]
        cases s.liveness.closed <;> rfl

end Subscription

/-! ## One place -/

namespace Place

variable {born : Nat → Bool} {p : Place} {transport : Transport} {call : Nat}

/-- The number of the subscription that a call waits for, if it waits for one. -/
def waitsOn? (p : Place) (call : Nat) : Option Nat := p.opened.findIdx? fun s => s.next.has call

/-- The number of the subscription that a call is parked on, if it is parked. -/
def parkedOn? (p : Place) (call : Nat) : Option Nat :=
  p.opened.findIdx? fun s => s.next.hasParked call

/-- Nobody waits for a subscription that is not live. -/
theorem Sound.findIdx?_opened (sound : p.Sound born) (heard : p.Heard) (waits : Awaited → Bool)
    (deaf : ∀ a, a.callers = [] → waits a = false) :
    p.opened.findIdx? (fun s => waits s.next) =
      p.live?.bind fun e => if waits e.2.next then some e.1 else none := by
  have others {m : Nat} {s : Subscription} (found : p.subscription? m = some s)
      (unlisted : p.pending ≠ some (.subscription m)) : waits s.next = false :=
    deaf s.next (heard m s found (sound.spent found unlisted))
  rcases sound.live_or_vacant with ⟨n, s, live, pending, found, -⟩ | ⟨none, vacant⟩
  · obtain ⟨inside, here⟩ := List.getElem?_eq_some_iff.mp found
    have unlisted {m : Nat} (other : m ≠ n) : p.pending ≠ some (.subscription m) := by
      rw [pending]
      rintro ⟨⟩
      exact other rfl
    rw [live, Option.bind_some]
    cases waiting : waits s.next with
    | true =>
      refine List.findIdx?_eq_some_iff_getElem.mpr ⟨inside, by rw [here]; exact waiting, ?_⟩
      intro m before
      rw [others (List.getElem?_eq_getElem (Nat.lt_trans before inside))
        (unlisted (Nat.ne_of_lt before))]
      exact Bool.false_ne_true
    | false =>
      refine List.findIdx?_eq_none_iff.mpr fun other member => ?_
      obtain ⟨m, there⟩ := List.mem_iff_getElem?.mp member
      by_cases same : m = n
      · subst same
        cases found.symm.trans there
        exact waiting
      · exact others there (unlisted same)
  · rw [none]
    refine List.findIdx?_eq_none_iff.mpr fun other member => ?_
    obtain ⟨m, there⟩ := List.mem_iff_getElem?.mp member
    exact others there (vacant m)

theorem Sound.waitsOn?_eq (sound : p.Sound born) (heard : p.Heard) (call : Nat) :
    p.waitsOn? call = p.live?.bind fun e => if e.2.next.has call then some e.1 else none :=
  sound.findIdx?_opened heard (·.has call) fun a nobody => by rw [Awaited.has, nobody]; rfl

theorem Sound.parkedOn?_eq (sound : p.Sound born) (heard : p.Heard) (call : Nat) :
    p.parkedOn? call =
      p.live?.bind fun e => if e.2.next.hasParked call then some e.1 else none :=
  sound.findIdx?_opened heard (·.hasParked call) fun a nobody => by
    rw [Awaited.hasParked, nobody]
    rfl

/-- A response that is handed over does what it does to the outline, and answers those who are not
parked. -/
theorem Sound.follows_accept (sound : p.Sound born) (heard : p.Heard) (t : Timing)
    (transport : Transport) (response : Response) :
    let d : Deed := if p.takes response.serverTick then .apply response.snapshot else .nothing
    (p.accept t transport response).place.outline = (p.outline.perform d).1 ∧
      ∀ call, answersTo call (p.accept t transport response).emission.returns =
        if (p.parkedOn? call).isSome then [] else answersTo call (p.outline.perform d).2.returns := by
  intro d
  have parked := sound.parkedOn?_eq heard
  cases sound.shows with
  | idle pending outline =>
    simp only [d, Place.accept, Place.hand, takes, pending, Bool.false_eq_true, if_false]
    refine ⟨rfl, fun call => ?_⟩
    exact (ite_self _).symm
  | asked awaited pending shared outline =>
    have settled := Awaited.settle_pending shared.awaited (.completed response.snapshot) rfl
    have live : p.live? = none := by rw [live?, pending]
    simp only [d, Place.accept, Place.hand, takes, pending, if_true, settled, parked, live]
    rw [outline, outline_idle (p := { p with pending := none }) rfl]
    exact ⟨rfl, fun call => rfl⟩
  | live n s pending found isOpen outline =>
    have live : p.live? = some (n, s) := live?_eq_some.mpr ⟨pending, found⟩
    have heardBy := hand_live transport response
      (fun s => s.accept t.now response.snapshot response.serverTick) pending found isOpen.isClosed
    simp only [d, Place.accept, heardBy, takes, pending, found, Option.any_some, parked, live,
      Option.bind_some]
    cases stale : s.isStale response.serverTick with
    | true =>
      rw [accept_stale stale, outline_set_alike found ⟨rfl, rfl, rfl⟩]
      exact ⟨rfl, fun call => (ite_self _).symm⟩
    | false =>
      obtain ⟨interval, feed, calls, returns⟩ :=
        shown_accept isOpen.awaited stale t.now response.snapshot
      have distinct : s.next.calls.Nodup := isOpen.calls
      have unparked : s.next.unparked.calls.Nodup :=
        (List.filter_sublist.map Caller.call).nodup distinct
      refine ⟨?_, fun call => ?_⟩
      · rw [outline_set pending found, interval, feed, calls, outline]
        rfl
      · rw [returns, outline]
        simp only [Outline.perform, Bool.not_false, if_true]
        rw [answersTo_answerAll call _ unparked, answersTo_answerAll call _ distinct]
        simp only [Awaited.mem_unparked distinct]
        cases s.next.hasParked call with
        | true => simp
        | false => simp

theorem outline_depart (p : Place) (t : Timing) (number call : Nat) :
    (p.depart t number call).outline = p.outline := by
  rw [Place.depart]
  split
  · next s found => exact outline_set_alike found (alike_depart s t.now call)
  · rfl

/-! ## Single tasks at a place -/

theorem Heard.tend (sound : p.Sound born) (heard : p.Heard) (t : Timing) (transport : Transport)
    (m : Nat) (chore : Chore) : (p.tend t transport m chore).Heard := by
  intro n s' there spent
  have inside : (p.subscription? n).isSome = true := by
    rw [isSome_subscription?, ← length_tend p t transport m chore, ← isSome_subscription?, there]
    rfl
  obtain ⟨s, found⟩ := Option.isSome_iff_exists.mp inside
  cases (subscription?_tend found t transport m chore).symm.trans there
  by_cases here : m = n
  · simp only [here, if_true] at spent ⊢
    cases worked : s.work? t.now t.period transport chore with
    | none =>
      rw [worked] at spent
      exact heard n s found spent
    | some result =>
      rw [worked, Option.getD_some] at spent
      have toiled := toiled_work worked
      simp only [Option.getD_some]
      generalize result.1 = after at toiled spent
      cases toiled with
      | goesOn keepalive timer stopSent =>
        rcases sound.each n s found with isOpen | wasSpent
        · cases isOpen.goesOn.symm.trans spent.ended
        · exact heard n s found wasSpent
      | closes => exact Awaited.callers_cancel s.next
  · simp only [here, if_false] at spent ⊢
    exact heard n s found spent

/-- What a task lets out of the subscription that has it. -/
abbrev worked (p : Place) (t : Timing) (transport : Transport) (m : Nat) (chore : Chore) :
    Emission :=
  (((p.subscription? m).bind fun s => s.work? t.now t.period transport chore).map (·.2)).getD .none

/-- A task closes the subscription that has it: the live one, or one that was over. -/
theorem Sound.follows_closing {m : Nat} {s after : Subscription} (sound : p.Sound born)
    (heard : p.Heard) (found : p.subscription? m = some s) (unclosed : s.liveness.closed = false)
    (closed : after.liveness.closed = true) :
    ∃ closes,
      ((p.set m after).settleEntry m s after).outline =
        (p.outline.performAll (.nothing :: Outline.tasks 0 closes)).1 ∧
      s.dismissal after = (p.outline.performAll (.nothing :: Outline.tasks 0 closes)).2.returns ∧
      (closes = true → p.outline.phase.isSubscribed = true) := by
  have dropped : (p.set m after).settleEntry m s after = (p.set m after).unlist m := by
    rw [settleEntry, unclosed, closed]
    rfl
  have dismissed : s.dismissal after = (s.next.settle .cancelled).2 := by
    rw [dismissal, unclosed, closed]
    rfl
  rw [dropped, dismissed]
  rcases sound.each m s found with isOpen | spent
  · have pending := (sound.entry m).mpr ⟨s, found, isOpen.isClosed⟩
    have idle : ((p.set m after).unlist m).pending = none := by
      simp [unlist, Place.set, pending]
    refine ⟨true, ?_, ?_, fun _ => ?_⟩
    · rw [outline_idle idle, unlist, Place.set, List.length_set]
      rfl
    · rw [Awaited.settle_pending isOpen.awaited .cancelled rfl, outline_live pending found]
      exact (List.append_nil _).symm
    · rw [outline_live pending found]
      rfl
  · -- One that was over has no callers and no entry.
    have unlisted : p.pending ≠ some (.subscription m) := fun pending => by
      obtain ⟨_, there, isOpen⟩ := sound.pendingOpen pending
      cases found.symm.trans there
      exact isOpen.not_spent spent
    have same : (p.set m after).unlist m = p.set m after := by
      simp [unlist, Place.set, unlisted]
    refine ⟨false, ?_, ?_, Bool.noConfusion⟩
    · rw [same, outline_set_other found unlisted]
      rfl
    · exact Awaited.settle_nobody (heard m s found spent) .cancelled

/-- A task does nothing that shows, or closes the live subscription. -/
theorem Sound.follows_tend (sound : p.Sound born) (heard : p.Heard) (t : Timing)
    (works : ∀ kind, transport kind = none) (m : Nat) (chore : Chore) :
    ∃ closes,
      (p.tend t transport m chore).outline =
        (p.outline.performAll (.nothing :: Outline.tasks 0 closes)).1 ∧
      (p.worked t transport m chore).returns =
        (p.outline.performAll (.nothing :: Outline.tasks 0 closes)).2.returns ∧
      (closes = true → p.outline.phase.isSubscribed = true) := by
  cases found : p.subscription? m with
  | none =>
    refine ⟨false, ?_, ?_, nofun⟩
    · rw [Place.tend, found]
      rfl
    · rw [worked, found]
      rfl
  | some s =>
    cases work : s.work? t.now t.period transport chore with
    | none =>
      refine ⟨false, ?_, ?_, nofun⟩
      · simp only [Place.tend, found, tend?_eq, work]
        rfl
      · rw [worked, found, Option.bind_some, work]
        rfl
    | some result =>
      have toiled := toiled_work work
      have returns := returns_work works work
      have tends : p.tend t transport m chore =
          (p.set m result.1).settleEntry m s result.1 := by
        simp only [Place.tend, found, tend?_eq, work, Option.map_some]
      have lets : (p.worked t transport m chore).returns = result.2.returns := by
        rw [worked, found, Option.bind_some, work]
        rfl
      rw [tends, lets, returns]
      generalize result.1 = after at toiled
      cases toiled with
      | goesOn keepalive timer stopSent =>
        refine ⟨false, ?_, ?_, nofun⟩
        · have alike : Alike s { s with keepalive, timer, stopSent } := ⟨rfl, rfl, rfl⟩
          have same : (p.set m { s with keepalive, timer, stopSent }).settleEntry m s
              { s with keepalive, timer, stopSent } = p.set m { s with keepalive, timer, stopSent } :=
            if_neg (by simp)
          rw [same, outline_set_alike found alike]
          rfl
        · rw [dismissal, Bool.not_and_self]
          rfl
      | closes keepalive timer stopSent unclosed =>
        exact sound.follows_closing heard found unclosed rfl

theorem Sound.numbered (sound : p.Sound born) : p.outline.Numbered := by
  cases sound.shows with
  | idle pending outline =>
    rw [outline]
    exact ⟨List.nodup_nil, List.forall_mem_nil _⟩
  | asked awaited pending shared outline =>
    rw [outline]
    refine ⟨shared.distinct, fun call member => ?_⟩
    obtain ⟨caller, there, rfl⟩ := List.mem_map.mp member
    exact shared.called caller there
  | live n s pending found isOpen outline =>
    rw [outline]
    refine ⟨isOpen.calls, fun call member => ?_⟩
    obtain ⟨caller, there, rfl⟩ := List.mem_map.mp member
    exact sound.called n s found caller there

end Place

/-! ## Moves -/

/-- The event that a move does at a location, whether or not the tasks run after it. -/
def Move.event? (l : Location) : Move → Option Event
  | .event e => some e
  | .operation there e => if there = l then some e else none
  | .hear response => some (.respond response)
  | .shut => some .close
  | .chore .. | .depart .. => none

/-- Who has a client can use it until it is let go.  The end of a client is no operation at one
location. -/
def Move.Possible (c : Client) : Move → Prop
  | .event e => e.Possible c
  | .operation _ e => ¬ e.Ends ∧ e.Possible c
  | .hear response => (Event.respond response).Possible c
  | .shut => Event.close.Possible c
  | .chore .. | .depart .. => True

instance (e : Event) : Decidable e.Ends :=
  match e with
  | .close | .release => .isTrue trivial
  | .request _ | .abort _ | .subscribe .. | .poll _ | .detach _ | .closeSubscription _
  | .respond _ | .unsubscribe _ | .wake _ | .elapse _ => .isFalse id

instance (c : Client) (m : Move) : Decidable (m.Possible c) :=
  match m with
  | .event e => inferInstanceAs (Decidable (e.Possible c))
  | .operation _ e => inferInstanceAs (Decidable (¬ e.Ends ∧ e.Possible c))
  | .hear response => inferInstanceAs (Decidable ((Event.respond response).Possible c))
  | .shut => inferInstanceAs (Decidable (Event.close.Possible c))
  | .chore .. | .depart .. => .isTrue trivial

/-- What a move does at the outline of a place before any task runs. -/
def undertakes (c : Client) (l : Location) (m : Move) : Deed :=
  match m.event? l with
  | some e => c.deed l e
  | none => .nothing

/-- A move takes no value that is held for a call. -/
def TakesNothing (c : Client) (call : CallHandle) : Move → Prop
  | .depart h number cancelled => h.location = call.location → number = call.number →
      ((c.subscription? h).bind fun s => s.takes? number cancelled) = none
  | _ => True

/-- The number of the subscription on which a response finds a call parked, which is to go on
later. -/
def putsOff? (c : Client) (call : CallHandle) : Move → Option Nat
  | .hear _ => (c.place call.location).parkedOn? call.number
  | _ => none

variable {net : Network} {c : Client} {l : Location} {m : Move}

theorem Regular.numbered (regular : Regular c) (l : Location) : (c.place l).outline.Numbered := by
  obtain ⟨born, fit⟩ := regular.fit l
  exact fit.sound.numbered

/-- What a bare move makes of a sound place. -/
theorem turns_bare (works : ∀ l kind, net l kind = none) {born : Nat → Bool}
    (sound : (c.place l).Sound born) (bare : m.Bare) (possible : m.Possible c) :
    Turns born c.timing (c.place l) ((c.make net m).place l) := by
  have still : Turns born c.timing (c.place l) (c.place l) := (sound.acted_refl c.now).turns
  cases m with
  | event | chore => exact bare.elim
  | operation there e =>
    rw [place_operation]
    split
    · exact turns_effect sound possible.1
    · exact still
  | hear response => exact (sound.acted_accept net response).1.turns
  | depart h call cancelled => exact (sound.acted_depart h call cancelled).1.turns
  | shut =>
    rw [make, place_shut]
    split
    · exact (sound.close c.timing (works l .stop)).turns
    · exact still

theorem now_bare (bare : m.Bare) (net : Network) (c : Client) : (c.make net m).now = c.now := by
  cases m with
  | event | chore => exact bare.elim
  | operation | depart => rfl
  | hear response => exact (sameBut_accept c net response).now
  | shut =>
    rw [make, Client.shut]
    split <;> rfl

theorem Regular.bare (regular : Regular c) (works : ∀ l kind, net l kind = none) (bare : m.Bare)
    (possible : m.Possible c) : Regular (c.make net m) where
  distinct := distinct_make regular.distinct net m
  fit l := by
    obtain ⟨born, fit⟩ := regular.fit l
    obtain ⟨attempts, turned⟩ := turns_bare works fit.sound bare possible
    rw [now_bare bare]
    exact fit.turned turned
  heard l := by
    obtain ⟨born, fit⟩ := regular.fit l
    obtain ⟨attempts, turned⟩ := turns_bare works fit.sound bare possible
    exact (regular.heard l).turned fit.sound turned

theorem Regular.make (regular : Regular c) (works : ∀ l kind, net l kind = none)
    (possible : m.Possible c) : Regular (c.make net m) := by
  cases m with
  | event e => exact regular.step works possible
  | operation | hear | depart | shut => exact regular.bare works (by trivial) possible
  | chore h chore =>
    refine ⟨distinct_make regular.distinct net _, fun l => ?_, fun l => ?_⟩
    · obtain ⟨born, fit⟩ := regular.fit l
      rw [place_tend]
      split
      · exact ⟨born, fit.tend (t := c.timing) (net l) h.number chore⟩
      · exact ⟨born, fit⟩
    · obtain ⟨born, fit⟩ := regular.fit l
      rw [place_tend]
      split
      · exact (regular.heard l).tend fit.sound c.timing (net l) h.number chore
      · exact regular.heard l

/-! ### What shows of a move -/

/-- What comes of a move at a place: its deed, and what a task does that closes what is live after
it. -/
structure Ensued (net : Network) (c : Client) (l : Location) (m : Move) (closes : Bool) : Prop where
  outline : ((c.make net m).place l).outline =
    ((c.place l).outline.performAll (c.undertakes l m :: Outline.tasks 0 closes)).1
  returns : ∀ call, c.TakesNothing ⟨l, call⟩ m →
    answersTo call (c.emits net l m).returns =
      if (c.putsOff? ⟨l, call⟩ m).isSome then []
      else answersTo call
        ((c.place l).outline.performAll (c.undertakes l m :: Outline.tasks 0 closes)).2.returns
  closed : closes = true → (c.undertakes l m).attends = false ∧
    ((c.place l).outline.perform (c.undertakes l m)).1.phase.isSubscribed = true
  bare : m.Bare → closes = false

theorem Effect.Does.follows {p : Place} {d : Deed} {effect : Effect} (does : effect.Does p d) :
    ((effect.place p).outline, effect.emission) = p.outline.perform d := by
  cases does with
  | still follows | polled _ follows | moved _ _ follows => exact follows

theorem emits_bare (bare : m.Bare) (net : Network) (c : Client) (l : Location) :
    c.emits net l m = (c.bare net l m).emission := by
  cases m with
  | event | chore => exact bare.elim
  | operation there e =>
    rw [emits, Client.bare]
    split <;> rfl
  | hear | depart | shut => rfl

/-- A move that lets no task run does its deed and no more. -/
theorem ensued_alone
    (outline : ((c.make net m).place l).outline =
      ((c.place l).outline.perform (c.undertakes l m)).1)
    (returns : ∀ call, c.TakesNothing ⟨l, call⟩ m →
      answersTo call (c.emits net l m).returns =
        if (c.putsOff? ⟨l, call⟩ m).isSome then []
        else answersTo call ((c.place l).outline.perform (c.undertakes l m)).2.returns) :
    Ensued net c l m false := by
  have alone := (c.place l).outline.performAll_alone (c.undertakes l m)
  refine ⟨?_, fun call nothing => ?_, nofun, fun _ => rfl⟩
  · rw [alone]
    exact outline
  · rw [alone]
    exact returns call nothing

/-- A move that leaves the place as it was and lets nothing out there. -/
theorem ensued_idle (does : c.undertakes l m = .nothing)
    (stays : (c.make net m).place l = c.place l) (quiet : (c.emits net l m).returns = []) :
    Ensued net c l m false := by
  refine ensued_alone ?_ fun call _ => ?_
  · rw [stays, does]
    rfl
  · rw [quiet, does]
    exact (ite_self _).symm

section Bare

variable {born : Nat → Bool}

theorem ensued_operation (works : ∀ l kind, net l kind = none)
    (sound : (c.place l).Sound born) (heard : (c.place l).Heard) (there : Location) (e : Event)
    (possible : (Move.operation there e).Possible c) :
    Ensued net c l (.operation there e) false := by
  by_cases here : there = l
  · subst here
    have stays : e ≠ .release := fun release => possible.1 (release ▸ trivial)
    have follows := (effect_does works sound heard stays).follows
    have does : c.undertakes there (.operation there e) = c.deed there e := by
      simp [undertakes, Move.event?]
    refine ensued_alone ?_ fun call _ => ?_
    · rw [place_operation, if_pos rfl, does, ← follows]
    · rw [emits_bare (by trivial), does, ← follows, Client.bare, if_pos rfl]
      rfl
  · -- An operation is for one place only.
    have does : c.undertakes l (.operation there e) = .nothing := by
      simp [undertakes, Move.event?, here]
    refine ensued_idle does ?_ ?_
    · rw [place_operation, if_neg here]
    · rw [emits_bare (by trivial), Client.bare, if_neg here]
      rfl

theorem ensued_hear (net : Network) (sound : (c.place l).Sound born) (heard : (c.place l).Heard)
    (response : Response) : Ensued net c l (.hear response) false := by
  have does : c.undertakes l (.hear response) = c.deed l (.respond response) := rfl
  by_cases here : response.location = l ∧ c.closed = false
  · obtain ⟨rfl, unclosed⟩ := here
    obtain ⟨outline, returns⟩ :=
      sound.follows_accept heard c.timing (net response.location) response
    have deed : c.deed response.location (.respond response) =
        if (c.place response.location).takes response.serverTick = true then
          .apply response.snapshot
        else .nothing := by simp [Client.deed, unclosed]
    refine ensued_alone ?_ fun call _ => ?_
    · rw [make, place_accept, if_pos ⟨rfl, unclosed⟩, does, deed]
      exact outline
    · rw [emits_bare (by trivial), does, deed, Client.bare, if_pos ⟨rfl, unclosed⟩]
      exact returns call
  · have idle : c.deed l (.respond response) = .nothing := by
      by_cases there : response.location = l
      · cases closed : c.closed with
        | true => simp [Client.deed, closed]
        | false => exact absurd ⟨there, closed⟩ here
      · simp [Client.deed, there]
    refine ensued_idle (does.trans idle) ?_ ?_
    · rw [make, place_accept, if_neg here]
    · rw [emits_bare (by trivial), Client.bare, if_neg here]
      rfl

theorem ensued_depart (net : Network) (c : Client) (l : Location) (h : SubscriptionHandle)
    (number : Nat) (cancelled : Bool) : Ensued net c l (.depart h number cancelled) false := by
  refine ensued_alone ?_ fun call nothing => ?_
  · rw [make, place_depart]
    split
    · exact outline_depart ..
    · rfl
  · rw [emits_bare (by trivial), Client.bare]
    split
    · next here =>
      simp only [Effect.emission]
      cases taken : (c.subscription? h).bind fun s => s.takes? number cancelled with
      | none => rfl
      | some result =>
        -- Whoever takes a value here is another caller.
        have other : ¬ number = call := fun same => by
          cases taken.symm.trans (nothing here same)
        obtain ⟨s, -, takes⟩ := Option.bind_eq_some_iff.mp taken
        obtain ⟨a, -, rfl⟩ := Option.map_eq_some_iff.mp takes
        simp [answersTo, other, undertakes, Move.event?, Outline.perform, putsOff?, Emission.none]
    · rfl

theorem ensued_shut (works : ∀ l kind, net l kind = none) (sound : (c.place l).Sound born) :
    Ensued net c l .shut false := by
  have does : c.undertakes l .shut = c.deed l .close := rfl
  cases closed : c.closed with
  | true =>
    have idle : c.deed l .close = .nothing := by simp [Client.deed, closed]
    refine ensued_idle (does.trans idle) ?_ ?_
    · rw [make, place_shut, closed]
      rfl
    · rw [emits_bare (by trivial), Client.bare, closed]
      rfl
  | false =>
    have deed : c.deed l .close = .close := by simp [Client.deed, closed]
    have follows := sound.follows_close (works l .stop)
    refine ensued_alone ?_ fun call _ => ?_
    · rw [make, place_shut, closed, does, deed, ← follows]
      rfl
    · rw [emits_bare (by trivial), does, deed, Client.bare, closed, ← follows]
      rfl

theorem ensued_bare (works : ∀ l kind, net l kind = none) (sound : (c.place l).Sound born)
    (heard : (c.place l).Heard) (bare : m.Bare) (possible : m.Possible c) :
    Ensued net c l m false := by
  cases m with
  | event | chore => exact bare.elim
  | operation there e => exact ensued_operation works sound heard there e possible
  | hear response => exact ensued_hear net sound heard response
  | depart h number cancelled => exact ensued_depart net c l h number cancelled
  | shut => exact ensued_shut works sound

end Bare

/-- Each move does its deed at the outline of each place, and the tasks may close what is live after
it. -/
theorem Regular.ensued (regular : Regular c) (works : ∀ l kind, net l kind = none)
    (possible : m.Possible c) (l : Location) : ∃ closes, Ensued net c l m closes := by
  obtain ⟨born, fit⟩ := regular.fit l
  have heard := regular.heard l
  cases m with
  | event e =>
    obtain ⟨renewals, closes, outline, emission, closed⟩ := regular.follows works possible l
    obtain ⟨same, answers⟩ :=
      (c.place l).outline.performAll_renewals (c.deed l e) renewals closes
    refine ⟨closes, outline.trans same, fun call _ => ?_, closed, False.elim⟩
    rw [emits, emission, answers]
    rfl
  | operation | hear | depart | shut =>
    exact ⟨false, ensued_bare works fit.sound heard (by trivial) possible⟩
  | chore h chore =>
    by_cases here : h.location = l
    · subst here
      obtain ⟨closes, outline, returns, live⟩ :=
        fit.sound.follows_tend heard c.timing (works h.location) h.number chore
      refine ⟨closes, ?_, fun call _ => ?_, fun closed => ⟨rfl, live closed⟩, False.elim⟩
      · rw [place_tend, if_pos rfl]
        exact outline
      · rw [emits, if_pos rfl]
        exact congrArg (answersTo call) returns
    · refine ⟨false, ensued_alone ?_ fun call _ => ?_⟩
      · rw [place_tend, if_neg here]
        rfl
      · rw [emits, if_neg here]
        rfl

end ObservationFeed.Client
