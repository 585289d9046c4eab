import ObservationFeed.Mailbox

/-!
# Sites

What surrounds a server at work: its world and the channels to its clients.
-/

namespace ObservationFeed

open Server

/-- A world and the channels to the clients in it. -/
structure Site (σ α : Type) where
  world : σ
  boxes : Mailboxes α

namespace Site

variable {σ α : Type}

def ofWorld (world : σ) : Site σ α := ⟨world, .empty⟩

def setWorld (world : σ) (s : Site σ α) : Site σ α := { s with world }

def setBoxes (boxes : Mailboxes α) (s : Site σ α) : Site σ α := { s with boxes }

/-- The answers of a world and the sending through the channels. -/
def host (world : World σ) (sink : ResponseSink (Mailboxes α)) : Host (Site σ α) where
  toWorld := world.within Site.world setWorld
  toResponseSink := sink.within Site.boxes setBoxes

/-- The messages that wait in the channels, and the site without them. -/
def collect (s : Site σ α) : List (ClientId × α) × Site σ α :=
  let (messages, boxes) := s.boxes.collect
  (messages, { s with boxes })

end Site

end ObservationFeed
