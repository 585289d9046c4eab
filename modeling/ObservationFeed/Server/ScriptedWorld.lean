import ObservationFeed.KeyedList
import ObservationFeed.Observation.Recorder
import ObservationFeed.Server.Host

/-!
# Scripted worlds

A world whose answers are set by hand: its tick, where its clients are, which
locations are loaded, and containers that report what they are told to.  A
container may be set to be found only so many times.
-/

namespace ObservationFeed.Server

/-- A container that reports what it is told to. -/
structure ScriptedContainer where
  /-- What every observation reports first. -/
  entries : List RecordEntry
  /-- How every observation then fails. -/
  failure : Option ObserveError
  /-- Whether an observation that has not failed reports how many there were. -/
  counting : Bool
  /-- How often the container was observed. -/
  observed : Nat
  /-- How often the container can still be found, without end if absent. -/
  lookups : Option Nat
  deriving DecidableEq, Repr

namespace ScriptedContainer

def counter : SourceKey := ⟨"counter", 0⟩

/-- What the next observation reports. -/
def report (c : ScriptedContainer) (force : Bool) : Except ObserveError Snapshot :=
  let snapshot := Recorder.run c.entries
  match c.failure with
  | some e => .error e
  | none =>
    .ok (if c.counting then
      snapshot.record counter [⟨"force", .bool force⟩] (.long (Int64.ofNat (c.observed + 1)))
    else snapshot)

end ScriptedContainer

/-- A world whose answers are set by hand. -/
structure ScriptedWorld where
  tick : Tick
  clients : List (ClientId × ClientView)
  loaded : List Location
  containers : List (Location × ScriptedContainer)
  deriving DecidableEq, Repr

namespace ScriptedWorld

open KeyedList

/-- A world at its first tick with nothing in it. -/
def empty : ScriptedWorld := ⟨.zero, [], [], []⟩

def place (w : ScriptedWorld) (client : ClientId) (view : ClientView) : ScriptedWorld :=
  { w with clients := put client view w.clients }

def placeOn (w : ScriptedWorld) (client : ClientId) (l : Location) : ScriptedWorld :=
  w.place client ⟨l.partition, l.block.center⟩

def leave (w : ScriptedWorld) (client : ClientId) : ScriptedWorld :=
  { w with clients := erase client w.clients }

def load (w : ScriptedWorld) (l : Location) : ScriptedWorld :=
  { w with loaded := if l ∈ w.loaded then w.loaded else l :: w.loaded }

/-- Unloads a location, which keeps its container. -/
def unload (w : ScriptedWorld) (l : Location) : ScriptedWorld :=
  { w with loaded := w.loaded.filter (· ≠ l) }

/-- Loads a location and puts a container there. -/
def putContainer (w : ScriptedWorld) (l : Location) (c : ScriptedContainer) : ScriptedWorld :=
  { w.load l with containers := put l c w.containers }

def takeContainer (w : ScriptedWorld) (l : Location) : ScriptedWorld :=
  { w with containers := erase l w.containers }

/-- How often the container at a location was observed. -/
def observed? (w : ScriptedWorld) (l : Location) : Option Nat :=
  (find? l w.containers).map (·.observed)

/-- Looks for a container, which uses up one of the times it can be found. -/
def lookUp (l : Location) (w : ScriptedWorld) : Bool × ScriptedWorld :=
  match find? l w.containers with
  | none => (false, w)
  | some c =>
    match c.lookups with
    | none => (true, w)
    | some 0 => (false, w)
    | some (n + 1) =>
      (true, { w with containers := put l { c with lookups := some n } w.containers })

def observe (l : Location) (force : Bool) (w : ScriptedWorld) :
    Except ObserveError Snapshot × ScriptedWorld :=
  match find? l w.containers with
  | none => (.error (.unavailable "no container"), w)
  | some c =>
    (c.report force,
      { w with containers := put l { c with observed := c.observed + 1 } w.containers })

def world : World ScriptedWorld where
  currentTick w := (w.tick, w)
  client c w := (find? c w.clients, w)
  isLoaded l w := (w.loaded.contains l, w)
  hasContainer l w := lookUp l w
  observe l force w := observe l force w

end ScriptedWorld

end ObservationFeed.Server
