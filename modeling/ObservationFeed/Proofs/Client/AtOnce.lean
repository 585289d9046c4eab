import ObservationFeed.Proofs.Client.Answers
import ObservationFeed.Proofs.Client.Teardown

/-!
# What goes on at once

All that an event makes ready goes on with it.  That is one of the orders in which
things can go on.  A response that arrives is handed over, the callers that it finds
parked go on one by one, and then the tasks run.  A client that closes gives up what
is pending at every location, and then the tasks run.
-/

namespace ObservationFeed.Client

open KeyedList Subscription Place

/-! ## One subscription -/

namespace Subscription

variable {s : Subscription} {now call : Nat} {calls : List Nat} {snapshot : Snapshot}
  {older rest : List Answered}

theorem updateLiveness_answered (s : Subscription) (answered : List Answered) (now : Nat)
    (change : Liveness → Liveness) :
    { s with answered }.updateLiveness now change =
      { s.updateLiveness now change with answered } := by
  unfold updateLiveness
  split <;> rfl

theorem unpark_zero (s : Subscription) (now : Nat) : s.unpark now 0 = s := by
  unfold unpark updateLiveness
  split
  · rfl
  · simp only [Nat.sub_zero]
    cases s.liveness.isLive <;> rfl

/-- Callers that go one after the other leave as those do that go together. -/
theorem unpark_unpark (s : Subscription) (now first second : Nat) :
    (s.unpark now first).unpark now second = s.unpark now (first + second) := by
  cases closed : s.liveness.closed with
  | true => simp [unpark, updateLiveness, closed]
  | false =>
    -- Interest is lost once, with the first or the second, and does not come back.
    have wanes := wanes_unpark s now first
    have fades := wanes_unpark (s.unpark now first) now second
    rw [unpark, unpark, updateLiveness_open closed] at *
    rw [updateLiveness_open (by exact closed)] at *
    rw [unpark, updateLiveness_open closed]
    simp only [Nat.sub_sub] at fades ⊢
    rw [CleanupTimer.edge_edge _ now wanes fades]

theorem depart_held (held : s.answered = older ++ ⟨call, snapshot⟩ :: rest)
    (others : ∀ a ∈ older, a.call ≠ call) :
    s.depart now call = { s.unpark now 1 with answered := older ++ rest } := by
  have there : s.answered.any (·.call = call) = true := by simp [held]
  have erased : s.answered.eraseP (·.call = call) = older ++ rest := by
    rw [held, List.eraseP_append_right]
    · simp
    · simpa using others
  rw [depart, if_pos there, erased]
  exact updateLiveness_answered ..

/-- A response whose callers go on at once leaves what it and they leave. -/
theorem publish_eq {tick : Option Int64} (fresh : s.isStale tick = false) :
    (s.publish now snapshot tick).1 =
      { (s.accept now snapshot tick).1.unpark now s.next.parkedCalls.length with
        answered := s.answered } := by
  have applied : ¬ s.isStale tick = true := by rw [fresh]; exact Bool.false_ne_true
  rw [publish, accept, if_neg applied, if_neg applied, Awaited.length_parkedCalls]
  cases closed : s.liveness.closed with
  | true => simp [unpark, updateLiveness, closed]
  | false =>
    simp only [unpark, updateLiveness, closed, Bool.false_eq_true, if_false]

theorem answered_accept {tick : Option Int64} (fresh : s.isStale tick = false) :
    (s.accept now snapshot tick).1.answered =
      s.answered ++ s.next.parkedCalls.map (Answered.mk · snapshot) := by
  rw [accept, if_neg (by rw [fresh]; exact Bool.false_ne_true)]
  exact answered_updateLiveness ..

/-- It answers those that are not parked, and then the others. -/
theorem publish_perm (awaited : s.next.value = .pending) {tick : Option Int64}
    (fresh : s.isStale tick = false) :
    (s.publish now snapshot tick).2.Perm
      ((s.accept now snapshot tick).2 ++ answerAll (.ok snapshot) s.next.parkedCalls) := by
  obtain ⟨-, -, -, all⟩ := shown_publish awaited fresh now snapshot
  obtain ⟨-, -, -, some⟩ := shown_accept awaited fresh now snapshot
  rw [all, some, answerAll, answerAll, answerAll, ← List.map_append]
  refine List.Perm.map _ ?_
  rw [Awaited.calls, Awaited.calls, Awaited.parkedCalls, ← List.map_append]
  refine List.Perm.map _ (List.perm_append_comm.trans ?_).symm
  exact List.filter_append_perm (·.parked) s.next.callers

theorem takes?_held (held : s.answered = older ++ ⟨call, snapshot⟩ :: rest)
    (others : ∀ a ∈ older, a.call ≠ call) : s.takes? call false = some ⟨call, .ok snapshot⟩ := by
  have first : s.answered.find? (·.call = call) = some ⟨call, snapshot⟩ := by
    rw [held, List.find?_append, List.find?_eq_none.mpr (by simpa using others)]
    simp
  rw [takes?, first]
  rfl

end Subscription

theorem Place.set_set (p : Place) (n : Nat) (s s' : Subscription) :
    (p.set n s).set n s' = p.set n s' := by
  simp [Place.set]

/-! ## Callers that go on one by one -/

variable {net : Network} {c : Client} {h : SubscriptionHandle} {s : Subscription}
  {calls : List Nat} {snapshot : Snapshot} {older : List Answered}

/-- Some callers go on one after the other with their values. -/
def departures (h : SubscriptionHandle) (calls : List Nat) : List Move :=
  calls.map fun call => .depart h call false

/-- Callers that hold their values take them one after the other, and what is held for others stays. -/
theorem makeAll_departures (net : Network) (found : c.subscription? h = some s)
    (held : s.answered = older ++ calls.map (Answered.mk · snapshot))
    (others : ∀ a ∈ older, a.call ∉ calls) (distinct : calls.Nodup) :
    (makeAll net c (departures h calls)).place h.location =
        (c.place h.location).set h.number
          { s.unpark c.now calls.length with answered := older } ∧
      answered net h.location c (departures h calls) = answerAll (.ok snapshot) calls := by
  induction calls generalizing c s with
  | nil =>
    have same : { s.unpark c.now 0 with answered := older } = s := by
      rw [unpark_zero]
      simp only [List.map_nil, List.append_nil] at held
      rw [← held]
    exact ⟨(set_found (same.symm ▸ found)).symm, rfl⟩
  | cons call rest ih =>
    obtain ⟨absent, distinct⟩ := List.nodup_cons.mp distinct
    have elsewhere : ∀ a ∈ older, a.call ≠ call := fun a member same =>
      others a member (same ▸ List.mem_cons_self)
    -- The first caller takes its value, and the others find theirs where they were.
    have leaves : s.depart c.now call = { s.unpark c.now 1 with
        answered := older ++ rest.map (Answered.mk · snapshot) } := depart_held held elsewhere
    have there : (c.place h.location).subscription? h.number = some s := found
    have place : (c.make net (.depart h call false)).place h.location =
        (c.place h.location).set h.number (s.depart c.now call) := by
      rw [make, place_depart, if_pos rfl, Place.depart, there]
      rfl
    have now : (c.make net (.depart h call false)).now = c.now :=
      (sameBut_depart c h call false).now
    have found' : (c.make net (.depart h call false)).subscription? h =
        some (s.depart c.now call) := by
      rw [subscription?, place, subscription?_set there, if_pos rfl]
    have held' : (s.depart c.now call).answered = older ++ rest.map (Answered.mk · snapshot) := by
      rw [leaves]
    have others' : ∀ a ∈ older, a.call ∉ rest := fun a member later =>
      others a member (List.mem_cons_of_mem _ later)
    obtain ⟨after, later⟩ := ih found' held' others' distinct
    have returns : (c.emits net h.location (.depart h call false)).returns =
        [⟨call, .ok snapshot⟩] := by
      rw [emits_bare (by trivial), Client.bare, if_pos rfl, found]
      simp only [Option.bind_some, takes?_held held elsewhere]
      rfl
    -- Interest falls by one with each, and by all of them together.
    have together : { (s.depart c.now call).unpark c.now rest.length with answered := older } =
        { s.unpark c.now (rest.length + 1) with answered := older } := by
      rw [leaves, unpark, updateLiveness_answered, ← unpark, unpark_unpark, Nat.add_comm]
    rw [place, now, together] at after
    refine ⟨after.trans ?_, ?_⟩
    · rw [set_set, List.length_cons]
    · change (c.emits net h.location (.depart h call false)).returns ++ _ = _
      rw [returns]
      exact congrArg _ later

/-! ## Responses -/

/-- A response is handed over, and the parked callers that it provides go on one after the other. -/
def inTurn (c : Client) (response : Response) : List Move :=
  .hear response :: match (c.place response.location).live? with
    | some (n, s) =>
      if s.isStale response.serverTick then []
      else departures ⟨response.location, n⟩ s.next.parkedCalls
    | none => []

/-- A response whose callers go on at once leaves its place as the response and the callers do in
turn, and answers the same calls. -/
structure RespondsInTurn (net : Network) (c : Client) (response : Response) : Prop where
  place : (makeAll net c (c.inTurn response)).place response.location =
    ((c.place response.location).respond c.timing (net response.location) response).place
  quiet : ((c.place response.location).respond c.timing (net response.location)
    response).emission.attempts = []
  returns : ((c.place response.location).respond c.timing (net response.location)
    response).emission.returns.Perm (answered net response.location c (c.inTurn response))

section Responses

variable {response : Response}

theorem place_hear (net : Network) (response : Response) (isOpen : c.closed = false) :
    (c.make net (.hear response)).place response.location =
      ((c.place response.location).accept c.timing (net response.location) response).place := by
  rw [make, place_accept, if_pos ⟨rfl, isOpen⟩]

theorem emits_hear (net : Network) (response : Response) (isOpen : c.closed = false) :
    c.emits net response.location (.hear response) =
      ((c.place response.location).accept c.timing (net response.location) response).emission := by
  rw [emits_bare (by trivial), Client.bare, if_pos ⟨rfl, isOpen⟩]
  rfl

/-- Where nobody goes on later it makes no difference. -/
theorem respondsInTurn_alone (isOpen : c.closed = false)
    (turn : c.inTurn response = [.hear response])
    (same : (c.place response.location).accept c.timing (net response.location) response =
      (c.place response.location).respond c.timing (net response.location) response)
    (quiet : ((c.place response.location).respond c.timing (net response.location)
      response).emission.attempts = []) : RespondsInTurn net c response where
  place := by
    rw [turn, ← same]
    exact place_hear net response isOpen
  quiet := quiet
  returns := by
    rw [turn, answered, emits_hear net response isOpen, same, answered, List.append_nil]

/-- A response that the live subscription takes, and that parked callers wait for. -/
theorem respondsInTurn_live {n : Nat} {born : Bool} (isOpen : c.closed = false)
    (pending : (c.place response.location).pending = some (.subscription n))
    (found : (c.place response.location).subscription? n = some s)
    (unclosed : s.Open born) (fresh : s.isStale response.serverTick = false)
    (others : ∀ a ∈ s.answered, a.call ∉ s.next.parkedCalls) : RespondsInTurn net c response := by
  have turn : c.inTurn response =
      .hear response :: departures ⟨response.location, n⟩ s.next.parkedCalls := by
    rw [inTurn, live?_eq_some.mpr ⟨pending, found⟩]
    simp only [fresh, Bool.false_eq_true, if_false]
  have accepts : (c.place response.location).accept c.timing (net response.location) response = _ :=
    hand_live (net response.location) response _ pending found unclosed.isClosed
  have responds := respond_live c.timing (net response.location) response pending found
    unclosed.isClosed
  have first := place_hear net response isOpen
  have emission := emits_hear net response isOpen
  rw [accepts] at first emission
  have now : (c.make net (.hear response)).now = c.now := (sameBut_accept c net response).now
  -- What the departures start from: the values are held for those that were parked.
  have found' : (c.make net (.hear response)).subscription? ⟨response.location, n⟩ =
      some (s.accept c.now response.snapshot response.serverTick).1 := by
    rw [subscription?, first, subscription?_set found, if_pos rfl]
    rfl
  obtain ⟨left, returns⟩ := makeAll_departures net found' (answered_accept fresh) others
    ((List.filter_sublist.map Caller.call).nodup unclosed.calls)
  refine ⟨?_, ?_, ?_⟩
  · rw [turn, responds]
    refine left.trans ?_
    rw [first, now, set_set, publish_eq fresh]
    rfl
  · rw [responds]
  · have perm : (s.publish c.now response.snapshot response.serverTick).2.Perm _ :=
      publish_perm unclosed.awaited fresh
    rw [← returns] at perm
    rw [turn, responds]
    simp only [answered, emission]
    exact perm

theorem Regular.respondsInTurn (regular : Regular c) (net : Network) (isOpen : c.closed = false)
    (unheld : ∀ call ∈ (c.place response.location).outline.calls,
      c.Unheld ⟨response.location, call⟩) : RespondsInTurn net c response := by
  obtain ⟨born, fit⟩ := regular.fit response.location
  have unturned (none : (c.place response.location).live? = none) :
      c.inTurn response = [.hear response] := by
    rw [inTurn, none]
  cases fit.sound.shows with
  | idle pending outline =>
    refine respondsInTurn_alone isOpen (unturned (by rw [Place.live?, pending])) ?_ ?_
    · simp only [Place.accept, Place.respond, hand, pending]
    · simp only [Place.respond, hand, pending]
      rfl
  | asked awaited pending shared outline =>
    refine respondsInTurn_alone isOpen (unturned (by rw [Place.live?, pending])) ?_ ?_
    · simp only [Place.accept, Place.respond, hand, pending]
    · simp only [Place.respond, hand, pending]
  | live n s pending found unclosed outline =>
    cases stale : s.isStale response.serverTick with
    | true =>
      have accepts : (c.place response.location).accept c.timing (net response.location) response =
        _ := hand_live (net response.location) response _ pending found unclosed.isClosed
      have responds := respond_live c.timing (net response.location) response pending found
        unclosed.isClosed
      refine respondsInTurn_alone isOpen ?_ ?_ (by rw [responds])
      · rw [inTurn, live?_eq_some.mpr ⟨pending, found⟩]
        simp only [stale, if_true]
      · rw [accepts, responds, accept_stale stale, publish_stale stale]
    | false =>
      -- Whoever is held a value here does not wait any more.
      refine respondsInTurn_live isOpen pending found unclosed stale fun a member there => ?_
      have waits : a.call ∈ (c.place response.location).outline.calls := by
        rw [outline]
        exact (List.filter_sublist.map Caller.call).subset there
      have nothing := unheld a.call waits n
      rw [Client.held, subscription?, found] at nothing
      have none : s.answered.filter (·.call = a.call) = [] := List.map_eq_nil_iff.mp nothing
      exact List.filter_eq_nil_iff.mp none a member (decide_eq_true rfl)

end Responses

/-- Nothing is held for whoever waits. -/
theorem Orderly.waiting_unheld (orderly : Orderly c) (works : ∀ l kind, net l kind = none)
    {m : Move} (possible : m.Possible c)
    (unheld : ∀ l, ∀ call ∈ (c.place l).outline.calls, c.Unheld ⟨l, call⟩) :
    ∀ l, ∀ call ∈ ((c.make net m).place l).outline.calls, (c.make net m).Unheld ⟨l, call⟩ := by
  intro l call waits
  by_cases waited : call ∈ (c.place l).outline.calls
  · have left := (orderly.regular.decides works possible waited (unheld l call waited)).2
    rw [left.waits.mp waits] at left
    exact left.unheld nofun
  · -- It is a new call, for which nothing has been provided yet.
    have new : (c.place l).nextCall ≤ call := Nat.le_of_not_lt fun older =>
      (orderly.regular.absent works possible waited older).2 waits
    exact orderly.regular.unheld_make (orderly.unmade l call new)
      (.inl (putsOff?_eq_none (orderly.regular.unparked_of_absent waited) m))

theorem Feasible.waiting_unheld {moves : List Move} (feasible : Feasible net c moves)
    (works : ∀ l kind, net l kind = none) (orderly : Orderly c)
    (unheld : ∀ l, ∀ call ∈ (c.place l).outline.calls, c.Unheld ⟨l, call⟩) :
    ∀ l, ∀ call ∈ ((makeAll net c moves).place l).outline.calls,
      (makeAll net c moves).Unheld ⟨l, call⟩ := by
  induction moves generalizing c with
  | nil => exact unheld
  | cons m rest ih =>
    exact ih feasible.2 (orderly.make works feasible.1)
      (orderly.waiting_unheld works feasible.1 unheld)

/-- In any run from the beginning, what a response does whose callers go on at once is what the
response and they do one after the other.  Then the tasks run. -/
theorem respond_at_once (works : ∀ l kind, net l kind = none) (config : Config) {moves : List Move}
    (feasible : Feasible net (ofConfig config) moves) (response : Response) :
    let c := makeAll net (ofConfig config) moves
    let l := response.location
    c.closed = false →
      ∃ returns, returns.Perm (answered net l c (c.inTurn response)) ∧
        ((c.step net (.respond response)).1.place l,
            emissionAt l (c.step net (.respond response)).2) =
          (Effect.moved ((makeAll net c (c.inTurn response)).place l) ⟨[], returns⟩).run c.timing
            (net l) (c.place l) := by
  intro c l isOpen
  have begun := orderly_ofConfig config
  have regular : Regular c := feasible.regular works begun.regular
  have unheld := feasible.waiting_unheld works begun (fun _ _ => nofun) l
  obtain ⟨place, quiet, perm⟩ := regular.respondsInTurn net isOpen unheld
  have run := step_run regular.distinct net (.respond response) l
  have effect : c.effect net l (.respond response) =
      .ofStep ((c.place l).respond c.timing (net l) response) := by
    simp [effect, isOpen, l]
  refine ⟨_, perm, run.trans ?_⟩
  have emission : ((c.place l).respond c.timing (net l) response).emission =
      ⟨[], ((c.place l).respond c.timing (net l) response).emission.returns⟩ :=
    congrArg (Emission.mk · _) quiet
  rw [effect, place, ← emission]
  rfl

/-! ## Closes -/

variable {past : List Record} {l : Location}

/-- Whether a place fails to close does not depend on those that were closed before. -/
theorem failures_closePlaces (net : Network) {ls : List Location} (distinct : ls.Nodup)
    (c : Client) :
    (closePlaces net ls c).2.2 =
      ls.filterMap fun l => failure? ((c.place l).close (net l)).answer := by
  induction ls generalizing c with
  | nil => rfl
  | cons l rest ih =>
    obtain ⟨absent, distinct⟩ := List.nodup_cons.mp distinct
    let after := (c.atPlace net l ((c.place l).close (net l))).client
    have later : ∀ there ∈ rest, after.place there = c.place there := by
      intro there member
      have other : l ≠ there := fun same => absent (same ▸ member)
      exact (place_setPlace c l there _).trans (if_neg other)
    have failures : (closePlaces net rest after).2.2 =
        rest.filterMap fun l => failure? ((c.place l).close (net l)).answer := by
      rw [ih distinct]
      refine List.filterMap_congr fun there member => ?_
      rw [later there member]
    rw [List.filterMap_cons, ← failures, closePlaces]
    have same : (c.atPlace net l ((c.place l).close (net l))).answer =
        ((c.place l).close (net l)).answer := rfl
    rw [same]
    cases ((c.place l).close (net l)).answer <;> rfl

theorem close_at_shut (distinct : Distinct c.places) (unclosed : c.closed = false) (net : Network)
    (l : Location) :
    ((c.close net).client.place l, emissionAt l (c.close net).log) =
      (Effect.moved ((c.shut net).client.place l) (emissionAt l (c.shut net).log)).run c.timing
        (net l) (c.place l) := by
  have run := step_run distinct net .close l
  simp only [effect, unclosed, Bool.false_eq_true, if_false, Effect.ofStep] at run
  rw [place_shut, if_pos unclosed, emissionAt_shut distinct unclosed]
  exact run

/-- What the tasks do after a close is not in its answer. -/
theorem Lives.answer_close (lives : Lives past c) (net : Network) :
    (c.close net).answer = (c.shut net).answer := by
  have distinct := lives.consistent.distinct
  have unclosed := lives.unclosed
  have vacant (l : Location) : ((c.close net).client.place l).pending = none := by
    have nothing := lives.vacant_shut net l
    have place := congrArg Prod.fst (close_at_shut distinct unclosed net l)
    have dead (n : Nat) : ((c.shut net).client.place l).pending ≠ some (.subscription n) := by
      rw [nothing]
      simp
    exact (congrArg Place.pending place).trans ((pending_runTasks_vacant _ _ dead).trans nothing)
  have shut := pendingCount_eq_zero (lives.silenced_shut net).distinct (lives.vacant_shut net)
  have closed : (c.close net).client.pendingCount = 0 :=
    pendingCount_eq_zero ((step_framed net c .close).distinct distinct) vacant
  have failures : (c.places.map fun e => (e.1, e.2.close (net e.1))).filterMap
      (fun e => failure? e.2.answer) =
        (keys c.places).filterMap fun l => failure? ((c.place l).close (net l)).answer := by
    rw [keys, List.filterMap_map, List.filterMap_map]
    refine List.filterMap_congr fun e member => ?_
    simp only [Function.comp_apply, place_of_mem distinct member]
  simp only [Client.shut, Client.close, unclosed, Bool.false_eq_true, if_false, closingAnswer]
    at shut closed ⊢
  rw [if_pos shut, if_pos closed, failures, failures_closePlaces net distinct]
  rfl

/-- A close after which the tasks run at once is the close, and then the tasks. -/
theorem Lives.close_at_once (lives : Lives past c) (net : Network) :
    (c.close net).answer = (c.shut net).answer ∧
      ∀ l, ((c.close net).client.place l, emissionAt l (c.close net).log) =
        (Effect.moved ((c.shut net).client.place l) (emissionAt l (c.shut net).log)).run c.timing
          (net l) (c.place l) :=
  ⟨lives.answer_close net, close_at_shut lives.consistent.distinct lives.unclosed net⟩

end ObservationFeed.Client
