import ObservationFeed.Observation.Snapshot

/-!
# Recorders

A container reports what it observes as a sequence of entries.  Announcing a
source lists it, recording a point replaces the point filed there before, and
clearing starts again from nothing.
-/

namespace ObservationFeed

/-- One entry of a report. -/
inductive RecordEntry where
  | announce (source : SourceKey)
  | record (source : SourceKey) (attributes : Attributes) (point : Point)
  | clear
  deriving DecidableEq, Repr

namespace Recorder

/-- Doubles can be recorded as well as whole numbers. -/
def supportsDoubles : Bool := true

def apply (s : Snapshot) : RecordEntry → Snapshot
  | .announce source => s.announce source
  | .record source attributes point => s.record source attributes point
  | .clear => .empty

/-- What a report records, started from an observation. -/
def applyAll (s : Snapshot) (entries : List RecordEntry) : Snapshot :=
  entries.foldl apply s

def run (entries : List RecordEntry) : Snapshot := applyAll .empty entries

end Recorder

end ObservationFeed
