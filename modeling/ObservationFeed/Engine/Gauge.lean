import ObservationFeed.Observation.Recorder

/-!
# Gauges

A gauge shows a percentage that drifts at random whenever it is observed.  The
random numbers come from a generator whose state is handed on.
-/

namespace ObservationFeed.Engine

/-- A generator of pseudo-random numbers. -/
structure Noise where
  state : UInt64
  deriving DecidableEq, Repr

namespace Noise

/-- Draws 64 bits.  The state takes equal steps, and what is drawn is a mixture of its bits. -/
def next (n : Noise) : UInt64 × Noise :=
  let state := n.state + 0x9e3779b97f4a7c15
  let a := (state ^^^ (state >>> 30)) * 0xbf58476d1ce4e5b9
  let b := (a ^^^ (a >>> 27)) * 0x94d049bb133111eb
  (b ^^^ (b >>> 31), ⟨state⟩)

/-- Draws a number from one up to another, which is left out. -/
def between (n : Noise) (low high : Float) : Float × Noise :=
  let (bits, n) := n.next
  (low + (high - low) * ((bits >>> 11).toFloat / 9007199254740992), n)

end Noise

/-- A gauge. -/
structure Gauge where
  name : String
  reading : Double
  deriving DecidableEq, Repr

namespace Gauge

def full : Float := 100

/-- How far a reading goes up or down at most. -/
def drift : Float := 2.5

/-- A gauge at some reading. -/
def create (name : String) (n : Noise) : Gauge × Noise :=
  let (reading, n) := n.between 0 full
  (⟨name, .ofFloat reading⟩, n)

/-- Lets the reading drift, within its bounds. -/
def step (g : Gauge) (n : Noise) : Gauge × Noise :=
  let (change, n) := n.between (-drift) drift
  let reading := g.reading.toFloat + change
  let reading := if reading < 0 then 0 else if full < reading then full else reading
  ({ g with reading := .ofFloat reading }, n)

/-- The reading as the nearest whole number, the one further from zero of two. -/
def rounded (g : Gauge) : Int64 := g.reading.toFloat.round.toInt64

/-- What an observation of the gauge reports.  A forced one is marked by a second source. -/
def report (g : Gauge) (force : Bool) : List RecordEntry :=
  let level : SourceKey := ⟨g.name, 0⟩
  let unit : Attributes := [⟨"unit", .text "percent"⟩]
  let point := if Recorder.supportsDoubles then .both g.reading g.rounded else .long g.rounded
  let mark : SourceKey := ⟨g.name, 1⟩
  [.announce level, .record level unit point] ++
    if force then [.announce mark, .record mark [] (.long 1)] else []

end Gauge

end ObservationFeed.Engine
