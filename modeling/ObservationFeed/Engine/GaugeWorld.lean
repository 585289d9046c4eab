import ObservationFeed.Engine.Gauge
import ObservationFeed.KeyedList
import ObservationFeed.Server.Host

/-!
# Gauge worlds

A row of gauges along the first axis, and clients standing wherever they were
put.  The places of the gauges are loaded and no others.
-/

namespace ObservationFeed.Engine

open KeyedList Server

/-- A world with a row of gauges. -/
structure GaugeWorld where
  tick : Tick
  clients : List (ClientId × ClientView)
  /-- The gauges in the order of the row. -/
  gauges : List (Location × Gauge)
  noise : Noise
  deriving DecidableEq, Repr

namespace GaugeWorld

/-- Blocks from one gauge to the next. -/
def spacing : Nat := 4

def height : Int32 := 64

/-- The number of gauges for which there are coordinates. -/
def mostGauges : Nat := 2147483648 / spacing

def locationOf (partition : String) (index : Nat) : Location :=
  ⟨partition, ⟨Int32.ofNat (spacing * index), height, 0⟩⟩

/-- The part of the row from an index on, with a number of gauges. -/
def rowFrom (partition : String) (index : Nat) : Nat → Noise → List (Location × Gauge) × Noise
  | 0, n => ([], n)
  | count + 1, n =>
    let (gauge, n) := Gauge.create ("gauge-" ++ toString index) n
    let (row, n) := rowFrom partition (index + 1) count n
    ((locationOf partition index, gauge) :: row, n)

/-- A world with a number of gauges in a partition. -/
def build (partition : String) (count : Nat) (noise : Noise) : GaugeWorld :=
  let (gauges, noise) := rowFrom partition 0 (min count mostGauges) noise
  ⟨.zero, [], gauges, noise⟩

/-- The places of the gauges, in the order of the row. -/
def locations (w : GaugeWorld) : List Location := keys w.gauges

def place (w : GaugeWorld) (client : ClientId) (view : ClientView) : GaugeWorld :=
  { w with clients := put client view w.clients }

/-- Lets one tick pass, and tells which tick it is then. -/
def advance (w : GaugeWorld) : Tick × GaugeWorld := (w.tick.next, { w with tick := w.tick.next })

def observe (l : Location) (force : Bool) (w : GaugeWorld) :
    Except ObserveError Snapshot × GaugeWorld :=
  match find? l w.gauges with
  | none => (.error (.unavailable "no gauge"), w)
  | some gauge =>
    let (gauge, noise) := gauge.step w.noise
    (.ok (Recorder.run (gauge.report force)), { w with gauges := put l gauge w.gauges, noise })

def world : World GaugeWorld where
  currentTick w := (w.tick, w)
  client c w := (find? c w.clients, w)
  isLoaded l w := ((find? l w.gauges).isSome, w)
  hasContainer l w := ((find? l w.gauges).isSome, w)
  observe l force w := observe l force w

end GaugeWorld

end ObservationFeed.Engine
