import Mathlib.Data.List.Forall2
import ObservationFeed.Link
import ObservationFeed.Proofs.Client.Course
import ObservationFeed.Proofs.Server.Refinement

/-!
# Where frames stop counting

A list of frames begins with some that each hold exactly one message, up to the
first that does not.  A pump hands on the messages of these, in their order, and
it does so whatever is answered to them.  The frame at which it stops and
all that follow leave no trace, and neither does what comes over the connection
later.
-/

namespace ObservationFeed

open Client KeyedList Server

/-- The frames before the rest hold these messages, and the first frame of the rest, if there is
one, holds none. -/
structure Begins {α : Type} (read : Wire.Bytes → Except Wire.Error α) (frames : List Wire.Bytes)
    (messages : List α) (rest : List Wire.Bytes) : Prop where
  held : ∃ good, frames = good ++ rest ∧
    List.Forall₂ (fun frame message => read frame = .ok message) good messages
  stops : ∀ frame ∈ rest.head?, ∃ e, read frame = .error e

theorem exists_begins {α : Type} (read : Wire.Bytes → Except Wire.Error α)
    (frames : List Wire.Bytes) : ∃ messages rest, Begins read frames messages rest := by
  induction frames with
  | nil => exact ⟨[], [], ⟨[], rfl, .nil⟩, nofun⟩
  | cons frame frames ih =>
    cases outcome : read frame with
    | error e =>
      refine ⟨[], frame :: frames, ⟨[], rfl, .nil⟩, ?_⟩
      rintro _ ⟨⟩
      exact ⟨e, outcome⟩
    | ok message =>
      obtain ⟨messages, rest, ⟨good, rfl, held⟩, stops⟩ := ih
      exact ⟨message :: messages, rest, ⟨frame :: good, rfl, .cons outcome held⟩, stops⟩

/-! ## The server's pump -/

variable {σ : Type}

theorem feed_stops (world : World σ) (client : ClientId) {rest : List Wire.Bytes}
    (stops : ∀ frame ∈ rest.head?, ∃ e, Wire.requestOfBytes frame = .error e) (r : Registrar)
    (s : σ) : r.feed world client rest s = ((rest.isEmpty, r), s) := by
  cases rest with
  | nil => rfl
  | cons frame rest =>
    obtain ⟨e, refused⟩ := stops frame rfl
    rw [Registrar.feed, refused]
    rfl

/-- The server's pump goes through the requests that the frames begin with. -/
theorem Begins.feed_requests {frames rest : List Wire.Bytes} {messages : List Request}
    (begins : Begins Wire.requestOfBytes frames messages rest) (host : Host σ) (client : ClientId)
    (r : Registrar) (s : σ) :
    let run := Registrar.performAll host (messages.map (.handle client)) r s
    r.feed host.toWorld client frames s = ((rest.isEmpty, run.1.2), run.2) := by
  obtain ⟨⟨good, rfl, held⟩, stops⟩ := begins
  induction held generalizing r s with
  | nil => exact feed_stops host.toWorld client stops r s
  | cons holds held ih =>
    rw [List.cons_append, Registrar.feed, holds]
    exact ih ..

/-! ## The client's pump -/

theorem feed_stops_client (net : Network) {rest : List Wire.Bytes}
    (stops : ∀ frame ∈ rest.head?, ∃ e, Wire.responseOfBytes frame = .error e) (c : Client) :
    c.feed net rest = ⟨c, [], rest.isEmpty⟩ := by
  cases rest with
  | nil => rfl
  | cons frame rest =>
    obtain ⟨e, refused⟩ := stops frame rfl
    rw [Client.feed, refused]
    rfl

/-- The client's pump goes through the responses that the frames begin with. -/
theorem Begins.feed_responses {frames rest : List Wire.Bytes} {responses : List Response}
    (begins : Begins Wire.responseOfBytes frames responses rest) (net : Network) (c : Client) :
    let run := play net c (responses.map .respond)
    c.feed net frames = ⟨run.1, run.2, rest.isEmpty⟩ := by
  obtain ⟨⟨good, rfl, held⟩, stops⟩ := begins
  induction held generalizing c with
  | nil => exact feed_stops_client net stops c
  | cons holds held ih =>
    rw [List.cons_append, Client.feed, holds]
    simp only [ih]
    rfl

/-! ## The connection -/

namespace Link

variable {world : World σ} {id : ClientId} {link : Link σ}

theorem connection?_setConnection (link : Link σ) (id other : ClientId) (c : Connection) :
    (link.setConnection id c).connection? other =
      if id = other then some c else link.connection? other :=
  find?_put ..

/-- The server reads no more over the connection. -/
def ServerQuit (id : ClientId) (link : Link σ) : Prop :=
  ∀ c, link.connection? id = some c → c.line.hungUp = true

theorem ServerQuit.feedServer (quit : link.ServerQuit id) (frames : List Wire.Bytes) :
    link.feedServer world id frames = (false, link) := by
  rw [Link.feedServer]
  cases found : link.connection? id with
  | none => rfl
  | some c => simp only [quit c found, if_true]

/-- A malformed frame is the last that the server reads over the connection. -/
theorem serverQuit_feedServer {frames rest : List Wire.Bytes} {messages : List Request}
    (begins : Begins Wire.requestOfBytes frames messages rest) (malformed : rest ≠ [])
    (world : World σ) (id : ClientId) (link : Link σ) :
    (link.feedServer world id frames).2.ServerQuit id := by
  have fed := begins.feed_requests ⟨world, ⟨fun _ _ => return .ok ()⟩⟩ id link.server
    link.site.world
  have intact : rest.isEmpty = false := by simpa using malformed
  rw [Link.feedServer]
  cases found : link.connection? id with
  | none => exact fun c here => nomatch found.symm.trans here
  | some c =>
    intro after here
    simp only at here
    split at here
    · next hungUp =>
      cases found.symm.trans here
      exact hungUp
    · simp only [fed, intact, connection?_setConnection, if_true, Option.some.injEq] at here
      rw [← here]
      rfl

/-- The client reads no more over the connection. -/
def ClientQuit (id : ClientId) (link : Link σ) : Prop :=
  ∀ c, link.connection? id = some c → c.reading = false

theorem ClientQuit.feedClient (quit : link.ClientQuit id) (frames : List Wire.Bytes) :
    link.feedClient world id frames = (false, link, []) := by
  rw [Link.feedClient]
  cases found : link.connection? id with
  | none => rfl
  | some c => simp only [quit c found, Bool.not_false, if_true]

theorem ClientQuit.setConnection {c : Connection} (reading : c.reading = false) (link : Link σ) :
    (link.setConnection id c).ClientQuit id := by
  intro after here
  rw [connection?_setConnection, if_pos rfl] at here
  cases here
  exact reading

theorem ClientQuit.fed (quit : link.ClientQuit id) (frames : List Wire.Bytes) :
    (link.feedServer world id frames).2.ClientQuit id := by
  rw [Link.feedServer]
  cases found : link.connection? id with
  | none => exact quit
  | some c =>
    simp only
    split
    · exact quit
    · exact ClientQuit.setConnection (quit c found : { c with line := _ }.reading = false) _

theorem ClientQuit.run (quit : link.ClientQuit id) (op : Client → Network → Client × List LogEntry) :
    (link.run world id op).1.ClientQuit id := by
  rw [Link.run, perform]
  cases found : link.connection? id with
  | none => exact quit
  | some c =>
    have kept : { c with client := (op c.client c.line.network).1 }.reading = false := quit c found
    exact (ClientQuit.setConnection kept link).fed _

theorem clientQuit_stopReading (world : World σ) (id : ClientId) (link : Link σ) :
    (link.stopReading world id).1.ClientQuit id := by
  rw [stopReading]
  cases found : link.connection? id with
  | none => exact fun c here => nomatch found.symm.trans here
  | some c =>
    have quiet : { c with reading := false }.reading = false := rfl
    have quit : ClientQuit id _ := ClientQuit.setConnection quiet
      { link with site := link.site.setBoxes (link.site.boxes.hangUp id).2 }
    simp only [releaseUnheld]
    split
    · exact quit
    · split
      · exact quit
      · exact quit.run _

/-- A malformed frame is the last that the client reads over the connection. -/
theorem clientQuit_feedClient {frames rest : List Wire.Bytes} {responses : List Response}
    (begins : Begins Wire.responseOfBytes frames responses rest) (malformed : rest ≠ [])
    (world : World σ) (id : ClientId) (link : Link σ) :
    (link.feedClient world id frames).2.1.ClientQuit id := by
  have intact : rest.isEmpty = false := by simpa using malformed
  rw [Link.feedClient]
  cases found : link.connection? id with
  | none => exact fun c here => nomatch found.symm.trans here
  | some c =>
    simp only [perform, found, Option.map_some, begins.feed_responses, intact]
    split
    · next closed =>
      intro after here
      cases found.symm.trans here
      simpa using closed
    · rw [if_neg Bool.false_ne_true]
      exact clientQuit_stopReading world id _

end Link

/-- The frames before the first malformed one are all that counts at either end: the server goes
through their requests and the client through their responses, in order and whatever comes of each,
and the end that met a malformed frame reads nothing more. -/
theorem malformed_frames_are_fatal (frames : List Wire.Bytes) :
    (∃ messages rest, Begins Wire.requestOfBytes frames messages rest) ∧
    (∃ responses rest, Begins Wire.responseOfBytes frames responses rest) ∧
    (∀ messages rest, Begins Wire.requestOfBytes frames messages rest →
      ∀ (σ : Type) (host : Host σ) (client : ClientId),
        (∀ (r : Registrar) (s : σ),
          let run := Registrar.performAll host (messages.map (.handle client)) r s
          r.feed host.toWorld client frames s = ((rest.isEmpty, run.1.2), run.2)) ∧
        (rest ≠ [] → ∀ link : Link σ,
          let after := (link.feedServer host.toWorld client frames).2
          ∀ more, after.feedServer host.toWorld client more = (false, after))) ∧
    ∀ responses rest, Begins Wire.responseOfBytes frames responses rest →
      (∀ net c,
        let run := play net c (responses.map .respond)
        c.feed net frames = ⟨run.1, run.2, rest.isEmpty⟩) ∧
      (rest ≠ [] → ∀ (σ : Type) (world : World σ) (client : ClientId) (link : Link σ),
        let after := (link.feedClient world client frames).2.1
        ∀ more, after.feedClient world client more = (false, after, [])) := by
  refine ⟨exists_begins _ frames, exists_begins _ frames, ?server, ?client⟩
  case server =>
    intro messages rest begins σ host client
    refine ⟨begins.feed_requests host client, fun malformed link => ?_⟩
    exact (Link.serverQuit_feedServer begins malformed host.toWorld client link).feedServer
  case client =>
    intro responses rest begins
    refine ⟨begins.feed_responses, fun malformed σ world client link => ?_⟩
    exact (Link.clientQuit_feedClient begins malformed world client link).feedClient

/-- A start of keepalives, the same frame with a byte too many, and a stop. -/
theorem malformed_frames_are_fatal_of_trailing_byte :
    let view : World Unit := {
      currentTick := pure .zero
      client := fun _ => pure (some ⟨"hall", ⟨⟨0⟩, ⟨0⟩, ⟨0⟩⟩⟩)
      isLoaded := fun _ => pure true
      hasContainer := fun _ => pure true
      observe := fun _ _ => pure (.ok .empty) }
    let c : ClientId := ⟨1⟩
    let l : Location := ⟨"hall", ⟨0, 64, 0⟩⟩
    let start : Wire.Bytes := [4, 104, 97, 108, 108, 0, 0, 0, 0, 0, 0, 0, 64, 0, 0, 0, 0, 3, 20, 0]
    let stop : Wire.Bytes := [4, 104, 97, 108, 108, 0, 0, 0, 0, 0, 0, 0, 64, 0, 0, 0, 0, 0, 0]
    let fed := (Registrar.ofConfig {}).feed view c [start, start ++ [0], stop] ()
    fed.1.1 = false ∧ (fed.1.2.table.find? c l).isSome := by
  intro view c l start stop fed
  have begins : Begins Wire.requestOfBytes [start, start ++ [0], stop]
      [.untimed l (.start (.clamp 20))] [start ++ [0], stop] := by
    refine ⟨⟨[start], rfl, .cons (by decide +kernel) .nil⟩, ?_⟩
    rintro _ ⟨⟩
    exact ⟨.trailingBytes 1, by decide +kernel⟩
  obtain ⟨-, -, serves, -⟩ := malformed_frames_are_fatal [start, start ++ [0], stop]
  have run := (serves _ _ begins Unit ⟨view, ⟨fun _ _ => pure (.ok ())⟩⟩ c).1 (.ofConfig {}) ()
  rw [show fed = _ from run]
  exact ⟨rfl, by decide +kernel +zetaReduce⟩

end ObservationFeed
