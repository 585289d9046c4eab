import ObservationFeed.Client.RequestLine
import ObservationFeed.Proofs.Client.Standing

/-!
# Agreement of a client and its server

One client and one server, joined by a channel that loses no request and keeps
their order.  Requests are on their way for any time; meanwhile the client acts,
responses reach it, time passes for it, the server sweeps and the world changes.

In every state that can be reached, the requests that are on their way turn what
the server holds into at most what the client has open, location by location.
So once nothing about a location is on its way any more, the server holds a
recurring registration there only if the client has an open subscription.
-/

namespace ObservationFeed

open Client Server KeyedList

/-- A client, the requests that it has sent and that have not been delivered, the first one first,
a server, and the state of the server's surroundings. -/
structure Correspondence (σ : Type) where
  client : Client
  onTheWay : List Request
  server : Registrar
  surroundings : σ

namespace Correspondence

variable {σ : Type}

/-- Nothing has happened yet. -/
def ofConfig (client : Config) (server : ServerConfig) (surroundings : σ) : Correspondence σ :=
  ⟨.ofConfig client, [], .ofConfig server, surroundings⟩

/-- Something happens to the client. -/
def act (net : Network) (e : Event) (s : Correspondence σ) : Correspondence σ :=
  { s with
    client := (s.client.step net e).1
    onTheWay := s.onTheWay ++ (s.client.step net e).2.flatMap LogEntry.sent }

/-- The first request is delivered. -/
def deliver (world : World σ) (id : ClientId) (message : Request) (rest : List Request)
    (s : Correspondence σ) : Correspondence σ :=
  let ((_, server), surroundings) := s.server.handle world id message s.surroundings
  { s with onTheWay := rest, server, surroundings }

/-- The server lets a tick pass. -/
def tick (host : Host σ) (now : Tick) (s : Correspondence σ) : Correspondence σ :=
  let ((_, server), surroundings) := s.server.tick host now s.surroundings
  { s with server, surroundings }

/-- The states that can be reached.  A response that reaches the client is one of its events, and
may be any. -/
inductive Reachable (net : Network) (host : Host σ) (id : ClientId) : Correspondence σ → Prop where
  | start (client : Config) (server : ServerConfig) (surroundings : σ) :
      Reachable net host id (ofConfig client server surroundings)
  | act (s : Correspondence σ) (e : Event) : Reachable net host id s →
      Reachable net host id (s.act net e)
  | deliver (s : Correspondence σ) (message : Request) (rest : List Request) :
      Reachable net host id s → s.onTheWay = message :: rest →
      Reachable net host id (s.deliver host.toWorld id message rest)
  | tick (s : Correspondence σ) (now : Tick) : Reachable net host id s →
      Reachable net host id (s.tick host now)
  | change (s : Correspondence σ) (surroundings : σ) : Reachable net host id s →
      Reachable net host id { s with surroundings }

/-! ## The invariant -/

/-- The requests about a location that are on their way. -/
def kindsAt (l : Location) (requests : List Request) : List RequestKind :=
  (requests.filter (·.location = l)).map (·.kind)

theorem kindsAt_append (l : Location) (a b : List Request) :
    kindsAt l (a ++ b) = kindsAt l a ++ kindsAt l b := by
  simp [kindsAt]

theorem kindsAt_cons (l : Location) (message : Request) (rest : List Request) :
    kindsAt l (message :: rest) =
      if message.location = l then message.kind :: kindsAt l rest else kindsAt l rest := by
  simp only [kindsAt, List.filter_cons, decide_eq_true_eq]
  split <;> rfl

theorem kindsAt_eq_nil {l : Location} {requests : List Request}
    (elsewhere : ∀ message ∈ requests, message.location ≠ l) : kindsAt l requests = [] := by
  rw [kindsAt, List.filter_eq_nil_iff.mpr fun message member => by
    simpa using elsewhere message member]
  rfl

/-- What goes out about a location is what the transport took of what was handed to it. -/
theorem kindsAt_sent (l : Location) (log : List LogEntry) :
    kindsAt l (log.flatMap LogEntry.sent) = taken (attemptsAt l log) := by
  induction log with
  | nil => rfl
  | cons entry rest ih =>
    rw [List.flatMap_cons, kindsAt_append, ih, attemptsAt_cons, taken_append]
    congr 1
    by_cases here : entry.location = l
    · simp [kindsAt, LogEntry.sent, Emission.sent, taken, here, Request.untimed, List.filter_map,
        Function.comp_def]
    · simp [kindsAt, LogEntry.sent, taken, here, Request.untimed, List.filter_map,
        Function.comp_def]

/-- What holds of every state that can be reached. -/
structure Agrees (id : ClientId) (s : Correspondence σ) : Prop where
  proper : s.server.table.Proper
  distinct : Distinct s.client.places
  fit : ∀ l, ∃ born, (s.client.place l).Fit born s.client.now
  stands : ∀ l, standing (s.server.table.recurs id l) (kindsAt l s.onTheWay) = true →
    (s.client.place l).isSubscribed = true

variable {net : Network} {host : Host σ} {id : ClientId} {s : Correspondence σ}

theorem agrees_ofConfig (client : Config) (server : ServerConfig) (surroundings : σ) :
    (ofConfig client server surroundings).Agrees id where
  proper := Table.proper_empty
  distinct := distinct_nil
  fit _ := ⟨fun _ => false, Place.fit_empty _ _⟩
  stands _ := nofun

theorem Agrees.act (agrees : s.Agrees id) (works : ∀ l kind, net l kind = none) (e : Event) :
    (s.act net e).Agrees id where
  proper := agrees.proper
  distinct := (step_framed net s.client e).distinct agrees.distinct
  fit l := by
    obtain ⟨born, fit⟩ := agrees.fit l
    obtain ⟨born', fit', -⟩ := fit.step works e
    rw [← step_at agrees.distinct net e l] at fit'
    have now : (s.client.step net e).1.now = e.time s.client :=
      congrArg Timing.now (step_framed net s.client e).timing
    refine ⟨born', ?_⟩
    rw [Correspondence.act, now]
    exact fit'
  stands l := by
    obtain ⟨born, fit⟩ := agrees.fit l
    have sends := fit.standing_step works e
    rw [← step_at agrees.distinct net e l] at sends
    intro stands
    -- What is sent goes behind what is on its way, so it is delivered last.
    rw [Correspondence.act, kindsAt_append, kindsAt_sent, standing_append] at stands
    exact sends.symm.trans (standing_mono (agrees.stands l) _ stands)

theorem Agrees.deliver (agrees : s.Agrees id) {message : Request} {rest : List Request}
    (first : s.onTheWay = message :: rest) :
    (s.deliver host.toWorld id message rest).Agrees id := by
  have handled := s.server.yields_handle host.toWorld id message s.surroundings
  refine ⟨handled.proper agrees.proper, agrees.distinct, agrees.fit, fun l stands => ?_⟩
  -- The server holds at most what the request asks for, and the rest is on its way as before.
  refine agrees.stands l ?_
  rw [first, kindsAt_cons]
  have held := standing_mono (handled.recurs (l := l)) _ stands
  split at held
  · next here => rwa [if_pos here]
  · next elsewhere => rwa [if_neg elsewhere]

theorem Agrees.tick (agrees : s.Agrees id) (now : Tick) : (s.tick host now).Agrees id := by
  obtain ⟨proper, held⟩ := s.server.yields_tick host now agrees.proper s.surroundings
  exact ⟨proper, agrees.distinct, agrees.fit,
    fun l stands => agrees.stands l (standing_mono (held id l) _ stands)⟩

theorem Reachable.agrees (reachable : Reachable net host id s)
    (works : ∀ l kind, net l kind = none) : s.Agrees id := by
  induction reachable with
  | start client server surroundings => exact agrees_ofConfig client server surroundings
  | act s e _ ih => exact ih.act works e
  | deliver s message rest _ first ih => exact ih.deliver first
  | tick s now _ ih => exact ih.tick now
  | change s surroundings _ ih => exact ⟨ih.proper, ih.distinct, ih.fit, ih.stands⟩

/-! ## Agreement -/

/-- Where no request is on its way, the server holds a recurring registration only if the client
has an open subscription. -/
theorem open_of_recurring (works : ∀ l kind, net l kind = none)
    (reachable : Reachable net host id s) {l : Location}
    (delivered : ∀ message ∈ s.onTheWay, message.location ≠ l) {r : Registration}
    (held : s.server.table.find? id l = some r) {every : Interval}
    (recurring : r.interval = .every every) :
    ∃ h subscription, s.client.live? l = some h ∧ s.client.subscription? h = some subscription ∧
      subscription.isClosed = false := by
  have agrees := reachable.agrees works
  have nothing := kindsAt_eq_nil delivered
  have recurs : s.server.table.recurs id l = true := by
    rw [Table.recurs, held, Option.any_some, recurring]
    rfl
  -- With nothing on its way, what the server holds is what stands at the end.
  have subscribed := agrees.stands l (by rw [nothing]; exact recurs)
  obtain ⟨n, pending⟩ := Place.isSubscribed_iff.mp subscribed
  obtain ⟨born, fit⟩ := agrees.fit l
  obtain ⟨subscription, found, isOpen⟩ := fit.sound.pendingOpen pending
  refine ⟨⟨l, n⟩, subscription, ?_, found, isOpen.isClosed⟩
  rw [live?, Place.live?_eq_some.mpr ⟨pending, found⟩]
  rfl

/-- The server holds a registration when the start of a subscription has been delivered. -/
theorem open_of_recurring_of_started :
    let net : Network := fun _ _ => none
    let host : Host Unit := {
      currentTick := pure .zero
      client := fun _ => pure (some ⟨"overworld", ⟨⟨0⟩, ⟨0⟩, ⟨0⟩⟩⟩)
      isLoaded := fun _ => pure true
      hasContainer := fun _ => pure true
      observe := fun _ _ => pure (.ok .empty)
      send := fun _ _ => pure (.ok ()) }
    let l : Location := ⟨"overworld", ⟨1, 2, 3⟩⟩
    let start : Request := .untimed l (.start (.clamp 20))
    let subscribed := (ofConfig {} {} ()).act net (.subscribe l (.clamp 20))
    let s := subscribed.deliver host.toWorld ⟨1⟩ start []
    (s.server.table.find? ⟨1⟩ l).map (·.interval) = some (.every (.clamp 20)) ∧
      ∃ h subscription, s.client.live? l = some h ∧ s.client.subscription? h = some subscription ∧
        subscription.isClosed = false := by
  intro net host l start subscribed s
  have sent : subscribed.onTheWay = [start] := by decide +kernel +zetaReduce
  have held : (s.server.table.find? ⟨1⟩ l).map (·.interval) = some (.every (.clamp 20)) := by
    decide +kernel +zetaReduce
  have nothing : s.onTheWay = [] := by decide +kernel +zetaReduce
  have delivered : ∀ message ∈ s.onTheWay, message.location ≠ l := by
    rw [nothing]
    nofun
  have reachable : Reachable net host ⟨1⟩ s := .deliver _ start [] (.act _ _ (.start {} {} ())) sent
  obtain ⟨r, found, recurring⟩ := Option.map_eq_some_iff.mp held
  exact ⟨held, open_of_recurring (fun _ _ => rfl) reachable delivered found recurring⟩

end Correspondence

end ObservationFeed
