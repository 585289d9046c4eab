import ObservationFeed.Location
import ObservationFeed.SyncError
import ObservationFeed.Tick
import ObservationFeed.Wire.Response

/-!
# The server's surroundings

Everything a server asks of the world and of the connections to its clients.
An answer may depend on the questions that came before it, so each question is
a step on a state of the surroundings.
-/

namespace ObservationFeed.Server

/-- Where a connected client is. -/
structure ClientView where
  partition : String
  position : Position
  deriving DecidableEq, Repr

/-- What a server asks of a world. -/
structure World (σ : Type) where
  /-- The tick the world is at. -/
  currentTick : StateM σ Tick
  /-- Where a client is, if it is in the world. -/
  client : ClientId → StateM σ (Option ClientView)
  /-- Whether a location is loaded. -/
  isLoaded : Location → StateM σ Bool
  /-- Whether a container is at a location. -/
  hasContainer : Location → StateM σ Bool
  /-- Observes the container at a location.  A forced observation also reports what has not
  changed. -/
  observe : Location → (force : Bool) → StateM σ (Except ObserveError Snapshot)

/-- What a server sends its responses through. -/
structure ResponseSink (σ : Type) where
  /-- Sends a response to each of some clients. -/
  send : List ClientId → Response → StateM σ (Except TransportError Unit)

/-- A world together with connections to clients. -/
structure Host (σ : Type) extends World σ, ResponseSink σ

/-- The question asked of one part of a state. -/
def onPart {σ τ α : Type} (get : τ → σ) (set : σ → τ → τ) (question : StateM σ α) :
    StateM τ α := fun state =>
  let (answer, part) := question (get state)
  (answer, set part state)

/-- A world that is part of a larger state. -/
def World.within {σ τ : Type} (get : τ → σ) (set : σ → τ → τ) (w : World σ) : World τ where
  currentTick := onPart get set w.currentTick
  client c := onPart get set (w.client c)
  isLoaded l := onPart get set (w.isLoaded l)
  hasContainer l := onPart get set (w.hasContainer l)
  observe l force := onPart get set (w.observe l force)

/-- Connections that are part of a larger state. -/
def ResponseSink.within {σ τ : Type} (get : τ → σ) (set : σ → τ → τ) (s : ResponseSink σ) :
    ResponseSink τ where
  send clients response := onPart get set (s.send clients response)

end ObservationFeed.Server
