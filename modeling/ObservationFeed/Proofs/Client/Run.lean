import ObservationFeed.Client.Basic
import ObservationFeed.Proofs.KeyedList
import ObservationFeed.Proofs.Client.Place

/-!
# Runs of a client

Everything that can happen to a client is one of a few events.  What an event
does at one location depends on the place there, on the clock and on whether the
client was closed, and on nothing else; `step_at` says so, and what the tasks do
afterwards.
-/

namespace ObservationFeed.Client

open KeyedList

/-! ## Events -/

/-- What can happen to a client.  Leaving a stream is closing its subscription and dropping it. -/
inductive Event where
  | request (l : Location)
  | abort (call : CallHandle)
  | subscribe (l : Location) (every : Interval)
  | poll (h : StreamHandle)
  | detach (h : StreamHandle)
  | closeSubscription (h : SubscriptionHandle)
  | respond (response : Response)
  | unsubscribe (l : Location)
  | close
  | release
  /-- The clock is moved to a time and the tasks run that are due. -/
  | wake (time : Nat)
  /-- The clock is moved to a time. -/
  | elapse (time : Nat)

/-- The client after an operation, and what the operation let out. -/
def Outcome.result {α : Type} (o : Outcome α) : Client × List LogEntry := (o.client, o.log)

/-- What an event does to a client. -/
def step (net : Network) (c : Client) : Event → Client × List LogEntry
  | .request l => (c.request net l).result
  | .abort call => (c.abort net call).result
  | .subscribe l every => (c.subscribe net l every).result
  | .poll h => ((c.poll h).2, [])
  | .detach h => (c.detach net h).result
  | .closeSubscription h => (c.closeSubscription net h).result
  | .respond response => (c.respond net response).result
  | .unsubscribe l => (c.unsubscribe net l).result
  | .close => (c.close net).result
  | .release => c.release net
  | .wake time => c.wakeAt net time
  | .elapse time => ({ c with now := max c.now time }, [])

/-- When an event happens. -/
def Event.time (c : Client) : Event → Nat
  | .wake time | .elapse time => max c.now time
  | _ => c.now

/-- The messages about a location that were handed to the transport. -/
def attemptsAt (l : Location) (log : List LogEntry) : List Attempt :=
  (log.filter (·.location = l)).flatMap (·.emission.attempts)

/-- The calls at a location that were answered. -/
def returnsAt (l : Location) (log : List LogEntry) : List Return :=
  (log.filter (·.location = l)).flatMap (·.emission.returns)

/-- What was let out about a location. -/
def emissionAt (l : Location) (log : List LogEntry) : Emission :=
  ⟨attemptsAt l log, returnsAt l log⟩

/-! ## One location -/

/-- What an event does at a place before its tasks run. -/
inductive Effect where
  /-- Nothing happens there and no task runs. -/
  | still
  /-- A stream is polled and no task runs. -/
  | polled (after : Place)
  | moved (after : Place) (emission : Emission)

/-- What an operation does at the place where it happens. -/
def Effect.ofStep {α : Type} (step : Step α) : Effect := .moved step.place step.emission

/-- The place after an effect, and the messages that were handed to the transport. -/
def Effect.settle (t : Timing) (transport : Transport) (p : Place) : Effect → Place × List Attempt
  | .still => (p, [])
  | .polled after => (after, [])
  | .moved after emission =>
    ((after.runTasks t transport).1,
      emission.attempts ++ (after.runTasks t transport).2.attempts)

/-- The place after an effect, and all that was let out. -/
def Effect.run (t : Timing) (transport : Transport) (p : Place) : Effect → Place × Emission
  | .still => (p, .none)
  | .polled after => (after, .none)
  | .moved after emission =>
    ((after.runTasks t transport).1, emission ++ (after.runTasks t transport).2)

/-- What an event does at a location. -/
def effect (net : Network) (c : Client) (l : Location) : Event → Effect
  | .request there =>
    if there ≠ l then .still
    else if c.closed then .ofStep ((c.place l).refuse .closed)
    else .ofStep ((c.place l).request c.timing (net l))
  | .abort call =>
    if call.location ≠ l then .still
    else .moved ((c.place l).abort c.timing call.number) .none
  | .subscribe there every =>
    if there ≠ l ∨ c.closed then .still
    else .ofStep ((c.place l).subscribe c.timing (net l) every)
  | .poll h =>
    if h.subscription.location ≠ l then .still
    else match (c.place l).poll h.subscription.number h.number with
      | some (_, p) => .polled p
      | none => .still
  | .detach h =>
    if h.subscription.location ≠ l then .still
    else .moved ((c.place l).detach c.timing h.subscription.number h.number).2 .none
  | .closeSubscription h =>
    if h.location ≠ l then .still
    else .ofStep ((c.place l).closeSubscription (net l) h.number)
  | .respond response =>
    if response.location ≠ l ∨ c.closed then .still
    else .ofStep ((c.place l).respond c.timing (net l) response)
  | .unsubscribe there =>
    if there ≠ l ∨ c.closed then .still else .ofStep ((c.place l).unsubscribe (net l))
  | .close => if c.closed then .still else .ofStep ((c.place l).close (net l))
  | .release => .moved (c.place l).endScopes .none
  | .wake _ => .moved (c.place l) .none
  | .elapse _ => .still

/-- The place after an event, and the messages that were handed to the transport there. -/
abbrev outcomeAt (net : Network) (c : Client) (l : Location) (e : Event) : Place × List Attempt :=
  (c.effect net l e).settle ⟨e.time c, c.period, c.window⟩ (net l) (c.place l)

/-! ## Places -/

theorem place_setPlace (c : Client) (there l : Location) (p : Place) :
    (c.setPlace there p).place l = if there = l then p else c.place l := by
  rw [place, setPlace, find?_put]
  split <;> rfl

theorem attemptsAt_cons (l : Location) (entry : LogEntry) (rest : List LogEntry) :
    attemptsAt l (entry :: rest) =
      (if entry.location = l then entry.emission.attempts else []) ++ attemptsAt l rest := by
  simp only [attemptsAt, List.filter_cons, decide_eq_true_eq]
  split
  · rfl
  · rfl

theorem emissionAt_append (l : Location) (a b : List LogEntry) :
    emissionAt l (a ++ b) = emissionAt l a ++ emissionAt l b := by
  simp only [emissionAt, attemptsAt, returnsAt, List.filter_append, List.flatMap_append]
  rfl

theorem emissionAt_cons (l : Location) (entry : LogEntry) (rest : List LogEntry) :
    emissionAt l (entry :: rest) =
      (if entry.location = l then entry.emission else .none) ++ emissionAt l rest := by
  simp only [emissionAt, attemptsAt, returnsAt, List.filter_cons, decide_eq_true_eq]
  split
  · rfl
  · rfl

theorem attempts_emissionAt (l : Location) (log : List LogEntry) :
    (emissionAt l log).attempts = attemptsAt l log := rfl

@[simp] theorem emissionAt_nil (l : Location) : emissionAt l [] = .none := rfl

/-- What a step at one place does at each. -/
theorem atPlace_at {α : Type} (c : Client) (net : Network) (there l : Location) (step : Step α) :
    ((c.atPlace net there step).client.place l, emissionAt l (c.atPlace net there step).log) =
      (if there = l then Effect.ofStep step else .still).run c.timing (net there)
        (c.place l) := by
  simp only [atPlace, place_setPlace, emissionAt_cons, emissionAt_nil, Emission.append_none]
  by_cases here : there = l
  · subst here
    simp [Effect.run, Effect.ofStep]
  · simp [here, Effect.run]

/-- A location that the client knows nothing of. -/
theorem place_of_not_mem {c : Client} {l : Location} (absent : l ∉ keys c.places) :
    c.place l = .empty := by
  rw [place, find?_eq_none.mpr absent]
  rfl

theorem place_of_mem {c : Client} (distinct : Distinct c.places) {e : Location × Place}
    (member : e ∈ c.places) : c.place e.1 = e.2 := by
  rw [place, (find?_eq_some distinct).mpr member]
  rfl

/-- What only places tell apart. -/
structure SameBut (c c' : Client) : Prop where
  now : c'.now = c.now
  period : c'.period = c.period
  window : c'.window = c.window
  closed : c'.closed = c.closed
  released : c'.released = c.released
  distinct : Distinct c.places → Distinct c'.places

theorem SameBut.refl (c : Client) : SameBut c c := ⟨rfl, rfl, rfl, rfl, rfl, id⟩

theorem SameBut.trans {a b c : Client} (first : SameBut a b) (second : SameBut b c) :
    SameBut a c where
  now := second.now.trans first.now
  period := second.period.trans first.period
  window := second.window.trans first.window
  closed := second.closed.trans first.closed
  released := second.released.trans first.released
  distinct := second.distinct ∘ first.distinct

theorem SameBut.timing {c c' : Client} (same : SameBut c c') : c'.timing = c.timing := by
  rw [Client.timing, Client.timing, same.now, same.period, same.window]

theorem sameBut_setPlace (c : Client) (l : Location) (p : Place) : SameBut c (c.setPlace l p) :=
  ⟨rfl, rfl, rfl, rfl, rfl, fun distinct => distinct.put l p⟩

theorem sameBut_atPlace {α : Type} (c : Client) (net : Network) (l : Location) (step : Step α) :
    SameBut c (c.atPlace net l step).client :=
  sameBut_setPlace ..

theorem answer_request (c : Client) (net : Network) (l : Location) :
    (c.request net l).answer = ⟨l, (c.place l).nextCall⟩ := by
  have numbered (p : Place) (t : Timing) (transport : Transport) :
      (p.request t transport).answer = p.nextCall := by
    rw [Place.request]
    split
    · rfl
    · rfl
    · rfl
  rw [Client.request, atPlace]
  cases c.closed with
  | true => rfl
  | false => simp only [Bool.false_eq_true, if_false, numbered]

/-! ## All places -/

theorem sameBut_runTasksAt (net : Network) (ls : List Location) (c : Client) :
    SameBut c (runTasksAt net ls c).1 := by
  induction ls generalizing c with
  | nil => exact .refl c
  | cons l rest ih => exact (sameBut_setPlace c l _).trans (ih _)

theorem sameBut_runTasks (net : Network) (c : Client) : SameBut c (c.runTasks net).1 :=
  sameBut_runTasksAt net (keys c.places) c

theorem runTasksAt_at (net : Network) {ls : List Location} (distinct : ls.Nodup) (c : Client)
    (l : Location) :
    ((runTasksAt net ls c).1.place l, emissionAt l (runTasksAt net ls c).2) =
      (if l ∈ ls then Effect.moved (c.place l) .none else .still).run c.timing (net l)
        (c.place l) := by
  induction ls generalizing c with
  | nil => rfl
  | cons there rest ih =>
    obtain ⟨absent, distinct⟩ := List.nodup_cons.mp distinct
    have later := ih distinct (c.setPlace there ((c.place there).runTasks c.timing (net there)).1)
    rw [(sameBut_setPlace c there _).timing, place_setPlace] at later
    simp only [runTasksAt, emissionAt_cons]
    -- Every place is visited once, so what happened to it earlier or later is nothing.
    by_cases here : there = l
    · subst here
      simp only [absent, if_false, Effect.run, if_true, Prod.mk.injEq] at later
      simp [later.1, later.2, Effect.run]
    · have iff : l ∈ there :: rest ↔ l ∈ rest := by simp [Ne.symm here]
      simp only [here, if_false, Emission.none_append] at later ⊢
      rw [later]
      simp only [iff]

theorem runTasks_at {c : Client} (distinct : Distinct c.places) (net : Network) (l : Location) :
    ((c.runTasks net).1.place l, emissionAt l (c.runTasks net).2) =
      (Effect.moved (c.place l) .none).run c.timing (net l) (c.place l) := by
  rw [Client.runTasks, runTasksAt_at net distinct]
  by_cases known : l ∈ keys c.places
  · rw [if_pos known]
  · rw [if_neg known, place_of_not_mem known]
    rfl

theorem sameBut_closePlaces (net : Network) (ls : List Location) (c : Client) :
    SameBut c (closePlaces net ls c).1 := by
  induction ls generalizing c with
  | nil => exact .refl c
  | cons l rest ih => exact (sameBut_atPlace c net l _).trans (ih _)

theorem closePlaces_at (net : Network) {ls : List Location} (distinct : ls.Nodup) (c : Client)
    (l : Location) :
    ((closePlaces net ls c).1.place l, emissionAt l (closePlaces net ls c).2.1) =
      (if l ∈ ls then Effect.ofStep ((c.place l).close (net l)) else .still).run c.timing (net l)
        (c.place l) := by
  induction ls generalizing c with
  | nil => rfl
  | cons there rest ih =>
    obtain ⟨absent, distinct⟩ := List.nodup_cons.mp distinct
    have first := atPlace_at c net there l ((c.place there).close (net there))
    have later := ih distinct (c.atPlace net there ((c.place there).close (net there))).client
    rw [(sameBut_atPlace c net there _).timing] at later
    simp only [closePlaces, emissionAt_append]
    by_cases here : there = l
    · subst here
      simp only [if_true, Effect.ofStep, Effect.run, Prod.mk.injEq] at first
      simp only [absent, if_false, Effect.run, Prod.mk.injEq] at later
      simp [first.1, first.2, later.1, later.2, Effect.ofStep, Effect.run]
    · have iff : l ∈ there :: rest ↔ l ∈ rest := by simp [Ne.symm here]
      simp only [here, if_false, Effect.run, Prod.mk.injEq] at first
      rw [first.1] at later
      simp only [first.2, Emission.none_append, iff]
      exact later

theorem place_release (c : Client) (l : Location) :
    ({ c with released := true, places := c.places.map fun e => (e.1, e.2.endScopes) } :
      Client).place l = (c.place l).endScopes := by
  rw [place, place, find?_map l c.places fun _ => Place.endScopes]
  cases find? l c.places <;> rfl

/-! ## One event -/

/-- An operation at one place has its effect there and none elsewhere. -/
theorem atPlace_effect {α : Type} (c : Client) (net : Network) (there l : Location) (step : Step α)
    {effect : Effect} (here : there = l → effect = .ofStep step)
    (elsewhere : there ≠ l → effect = .still) :
    ((c.atPlace net there step).client.place l, emissionAt l (c.atPlace net there step).log) =
      effect.run c.timing (net l) (c.place l) := by
  rw [atPlace_at]
  by_cases same : there = l
  · rw [if_pos same, here same, same]
  · rw [if_neg same, elsewhere same]
    rfl

/-- What an event does to a client is, at each location, its effect there. -/
theorem step_run {c : Client} (distinct : Distinct c.places) (net : Network) (e : Event)
    (l : Location) :
    ((c.step net e).1.place l, emissionAt l (c.step net e).2) =
      (c.effect net l e).run ⟨e.time c, c.period, c.window⟩ (net l) (c.place l) := by
  cases e with
  | request there =>
    refine atPlace_effect c net there l _ ?_ fun elsewhere => by simp [effect, elsewhere]
    rintro rfl
    cases closed : c.closed <;> simp [effect, closed]
  | abort call =>
    refine atPlace_effect c net call.location l _ ?_ fun elsewhere => by simp [effect, elsewhere]
    rintro rfl
    simp [effect, Effect.ofStep]
  | subscribe there every =>
    cases closed : c.closed with
    | true =>
      simp [step, Client.subscribe, effect, closed, Outcome.result, Effect.run]
    | false =>
      simp only [step, Client.subscribe, closed, Bool.false_eq_true, if_false, Outcome.result]
      refine atPlace_effect c net there l _ ?_ fun elsewhere => by simp [effect, elsewhere]
      rintro rfl
      simp [effect, closed]
  | poll h =>
    simp only [step, Client.poll, effect]
    by_cases here : h.subscription.location = l
    · subst here
      cases polled : (c.place h.subscription.location).poll h.subscription.number h.number with
      | none => simp [Effect.run]
      | some answer => simp [Effect.run, place_setPlace]
    · cases (c.place h.subscription.location).poll h.subscription.number h.number with
      | none => simp [here, Effect.run]
      | some answer => simp [here, Effect.run, place_setPlace]
  | detach h =>
    refine atPlace_effect c net h.subscription.location l _ ?_
      fun elsewhere => by simp [effect, elsewhere]
    rintro rfl
    simp only [effect, ne_eq, not_true_eq_false, if_false]
    rfl
  | closeSubscription h =>
    refine atPlace_effect c net h.location l _ ?_ fun elsewhere => by simp [effect, elsewhere]
    rintro rfl
    simp [effect]
  | respond response =>
    cases closed : c.closed with
    | true => simp [step, Client.respond, effect, closed, Outcome.result, Effect.run]
    | false =>
      simp only [step, Client.respond, closed, Bool.false_eq_true, if_false]
      refine atPlace_effect c net response.location l _ ?_
        fun elsewhere => by simp [effect, elsewhere]
      rintro rfl
      simp [effect, closed]
  | unsubscribe there =>
    cases closed : c.closed with
    | true =>
      simp [step, Client.unsubscribe, effect, closed, Outcome.result, Effect.run]
    | false =>
      simp only [step, Client.unsubscribe, closed, Bool.false_eq_true, if_false]
      refine atPlace_effect c net there l _ ?_ fun elsewhere => by simp [effect, elsewhere]
      rintro rfl
      simp [effect, closed]
  | close =>
    cases closed : c.closed with
    | true => simp [step, Client.close, effect, closed, Outcome.result, Effect.run]
    | false =>
      simp only [step, Client.close, closed, Bool.false_eq_true, if_false, effect]
      refine (closePlaces_at net distinct { c with closed := true } l).trans ?_
      -- A place without an entry is empty, and closing leaves it empty.
      by_cases known : l ∈ keys c.places
      · rw [if_pos known]
        rfl
      · rw [if_neg known, place_of_not_mem known]
        exact congrArg (Prod.mk · Emission.none) (place_of_not_mem (c := { c with closed := true }) known)
  | release =>
    refine (runTasks_at (distinct.map fun _ => Place.endScopes) net l).trans ?_
    rw [place_release]
    rfl
  | wake time => exact runTasks_at (c := { c with now := max c.now time }) distinct net l
  | elapse time => rfl

theorem step_at {c : Client} (distinct : Distinct c.places) (net : Network) (e : Event)
    (l : Location) :
    ((c.step net e).1.place l, attemptsAt l (c.step net e).2) = c.outcomeAt net l e := by
  have run := congrArg (fun r : Place × Emission => (r.1, r.2.attempts))
    (step_run distinct net e l)
  refine run.trans ?_
  rw [outcomeAt]
  cases c.effect net l e <;> rfl

/-- An event moves the clock to its time, leaves the periods alone and the places distinct, and
puts its time down. -/
structure Framed (net : Network) (c : Client) (e : Event) (result : Client × List LogEntry) :
    Prop where
  timing : result.1.timing = ⟨e.time c, c.period, c.window⟩
  distinct : Distinct c.places → Distinct result.1.places
  closed : e ≠ .close → result.1.closed = c.closed
  released : e ≠ .release → result.1.released = c.released
  times : ∀ entry ∈ result.2, entry.time = e.time c

theorem times_runTasksAt (net : Network) (ls : List Location) (c : Client) :
    ∀ entry ∈ (runTasksAt net ls c).2, entry.time = c.now := by
  induction ls generalizing c with
  | nil => nofun
  | cons l rest ih =>
    refine List.forall_mem_cons.mpr ⟨?_, fun entry member => ?_⟩
    · exact (sameBut_runTasksAt net rest _).now
    · exact ih (c.setPlace l ((c.place l).runTasks c.timing (net l)).1) entry member

theorem times_closePlaces (net : Network) (ls : List Location) (c : Client) :
    ∀ entry ∈ (closePlaces net ls c).2.1, entry.time = c.now := by
  induction ls generalizing c with
  | nil => nofun
  | cons l rest ih =>
    refine List.forall_mem_append.mpr ⟨fun entry member => ?_, fun entry member => ?_⟩
    · obtain rfl := List.mem_singleton.mp member
      rfl
    · exact ih (c.atPlace net l ((c.place l).close (net l))).client entry member

theorem framed_atPlace {α : Type} {c : Client} {net : Network} {e : Event} (l : Location)
    (step : Step α) (now : e.time c = c.now) :
    Framed net c e ((c.atPlace net l step).client, (c.atPlace net l step).log) where
  timing := by rw [now, (sameBut_atPlace c net l step).timing]; rfl
  distinct := (sameBut_atPlace c net l step).distinct
  closed _ := (sameBut_atPlace c net l step).closed
  released _ := (sameBut_atPlace c net l step).released
  times entry member := by
    obtain rfl := List.mem_singleton.mp member
    exact now.symm

theorem framed_silent {c c' : Client} {net : Network} {e : Event} (same : SameBut c c')
    (now : e.time c = c.now) : Framed net c e (c', []) where
  timing := by rw [now, same.timing]; rfl
  distinct := same.distinct
  closed _ := same.closed
  released _ := same.released
  times := nofun

theorem step_framed (net : Network) (c : Client) (e : Event) : Framed net c e (c.step net e) := by
  cases e with
  | request there => exact framed_atPlace there _ rfl
  | abort call => exact framed_atPlace call.location _ rfl
  | subscribe there every =>
    simp only [step, Client.subscribe]
    split
    · exact framed_silent (.refl c) rfl
    · exact framed_atPlace there _ rfl
  | poll h =>
    simp only [step, Client.poll]
    split
    · exact framed_silent (sameBut_setPlace c _ _) rfl
    · exact framed_silent (.refl c) rfl
  | detach h => exact framed_atPlace h.subscription.location _ rfl
  | closeSubscription h => exact framed_atPlace h.location _ rfl
  | respond response =>
    simp only [step, Client.respond]
    split
    · exact framed_silent (.refl c) rfl
    · exact framed_atPlace response.location _ rfl
  | unsubscribe there =>
    simp only [step, Client.unsubscribe]
    split
    · exact framed_silent (.refl c) rfl
    · exact framed_atPlace there _ rfl
  | close =>
    simp only [step, Client.close]
    split
    · exact framed_silent (.refl c) rfl
    · have same := sameBut_closePlaces net (keys c.places) { c with closed := true }
      exact ⟨same.timing, same.distinct, fun other => absurd rfl other, fun _ => same.released,
        times_closePlaces net _ _⟩
  | release =>
    have same := sameBut_runTasks net
      { c with released := true, places := c.places.map fun e => (e.1, e.2.endScopes) }
    exact ⟨same.timing, fun distinct => same.distinct (distinct.map fun _ => Place.endScopes),
      fun _ => same.closed, fun other => absurd rfl other, times_runTasksAt net _ _⟩
  | wake time =>
    have same := sameBut_runTasks net { c with now := max c.now time }
    exact ⟨same.timing, same.distinct, fun _ => same.closed, fun _ => same.released,
      times_runTasksAt net _ _⟩
  | elapse time => exact ⟨rfl, id, fun _ => rfl, fun _ => rfl, nofun⟩

end ObservationFeed.Client
