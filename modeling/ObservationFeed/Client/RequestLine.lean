import ObservationFeed.Client.Basic

/-!
# Request lines

The way by which a client's requests leave it.  Requests travel as they are or
in their written form; in the second case one that cannot be written is
refused.  Nothing can be sent once the receiving end is gone.
-/

namespace ObservationFeed

/-- The way by which a client's requests leave it. -/
structure RequestLine where
  /-- Whether requests travel in their written form. -/
  written : Bool
  /-- How every request fails for the time being. -/
  failing : Option TransportError
  /-- Whether the receiving end is gone. -/
  hungUp : Bool
  deriving DecidableEq, Repr

namespace RequestLine

/-- A line on which requests travel as they are. -/
def direct : RequestLine := ⟨false, none, false⟩

/-- A line on which requests travel in their written form. -/
def wire : RequestLine := { direct with written := true }

/-- Why a request that has to be written cannot be. -/
def unwritten? (r : Request) : Option TransportError :=
  match Wire.writeRequest r with
  | .ok _ => none
  | .error e => some (.notEncoded e.message)

/-- Why a line refuses a request, if it does. -/
def refusal? (line : RequestLine) (r : Request) : Option TransportError :=
  line.failing.or
    ((if line.written then unwritten? r else none).or
      (if line.hungUp then some .closed else none))

def network (line : RequestLine) : Client.Network := fun location kind =>
  line.refusal? (.untimed location kind)

/-- Gives up the receiving end, and tells whether it was there. -/
def hangUp (line : RequestLine) : Bool × RequestLine :=
  (!line.hungUp, { line with hungUp := true })

end RequestLine

namespace Client.LogEntry

/-- The requests that went out. -/
def sent (entry : LogEntry) : List Request := entry.emission.sent.map (.untimed entry.location)

/-- The requests that went out, in their written form. -/
def frames (entry : LogEntry) : List Wire.Bytes :=
  entry.sent.filterMap fun r => (Wire.writeRequest r).toOption

end Client.LogEntry

end ObservationFeed
