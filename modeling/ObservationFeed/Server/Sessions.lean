import ObservationFeed.Server.Registrar

/-!
# Sessions

The servers of several worlds.  A world has one running server at most.  A
server that was stopped has lost its registrations but goes on answering
whoever still holds it; starting the world again opens another.
-/

namespace ObservationFeed.Server

/-- The servers that one world has had. -/
structure WorldHistory where
  /-- The servers opened for the world, the last one first. -/
  opened : List Registrar
  /-- Whether the last one is running. -/
  running : Bool
  deriving DecidableEq, Repr

/-- The servers of several worlds. -/
structure Sessions where
  config : ServerConfig
  worlds : List (WorldId × WorldHistory)
  deriving DecidableEq, Repr

namespace Sessions

open KeyedList

/-- No server, and the settings for those to come. -/
def ofConfig (config : ServerConfig) : Sessions := ⟨config, []⟩

def history (s : Sessions) (world : WorldId) : WorldHistory :=
  (find? world s.worlds).getD ⟨[], false⟩

def get? (s : Sessions) (world : WorldId) : Option Registrar :=
  let h := s.history world
  if h.running then h.opened.head? else none

/-- The server last opened for a world, running or not. -/
def last? (s : Sessions) (world : WorldId) : Option Registrar := (s.history world).opened.head?

def runningCount (s : Sessions) : Nat := (s.worlds.filter fun e => e.2.running).length

/-- Puts the server last opened for a world into another state. -/
def setLast (s : Sessions) (world : WorldId) (r : Registrar) : Sessions :=
  let h := s.history world
  { s with worlds := put world { h with opened := r :: h.opened.tail } s.worlds }

/-- Opens a server for a world that has none running. -/
def start (s : Sessions) (world : WorldId) : Except SyncError Sessions :=
  let h := s.history world
  if h.running then .error (.alreadyRunning world)
  else .ok { s with worlds := put world ⟨.ofConfig s.config :: h.opened, true⟩ s.worlds }

/-- Stops the server of a world and drops its registrations. -/
def stop (s : Sessions) (world : WorldId) : Except SyncError Sessions :=
  match s.get? world with
  | none => .error (.notRunning world)
  | some r =>
    let opened := r.clear.2 :: (s.history world).opened.tail
    .ok { s with worlds := put world ⟨opened, false⟩ s.worlds }

variable {σ : Type}

/-- Lets one tick pass for each world of a list whose server is running. -/
def tickWorlds (hosts : WorldId → Host σ) :
    List (WorldId × WorldHistory) → StateM σ (List (WorldId × SweepReport) × List (WorldId × WorldHistory))
  | [] => return ([], [])
  | (world, h) :: rest =>
    match h.running, h.opened with
    | true, r :: earlier => do
      let (report, r) ← r.tickWorld (hosts world)
      let (reports, rest) ← tickWorlds hosts rest
      return ((report.map fun report => (world, report)).toList ++ reports,
        (world, { h with opened := r :: earlier }) :: rest)
    | _, _ => do
      let (reports, rest) ← tickWorlds hosts rest
      return (reports, (world, h) :: rest)

/-- Lets one tick pass for every running server, each at its own world's tick, and returns the
reports of those that swept. -/
def tickAll (s : Sessions) (hosts : WorldId → Host σ) :
    StateM σ (List (WorldId × SweepReport) × Sessions) := do
  let (reports, worlds) ← tickWorlds hosts s.worlds
  return (reports, { s with worlds })

end Sessions

end ObservationFeed.Server
