import ObservationFeed.Server.Limits
import ObservationFeed.Server.Table

/-!
# Sweeps

A sweep goes over all registrations once.  It drops those that fail a check
and those that have expired, collects at each location the clients that are
due, observes the location once if there are any, and sends the observation to
them all.  A location that cannot be observed or a message that cannot be
sent is counted and stops nothing.
-/

namespace ObservationFeed.Server

/-- What a sweep did. -/
structure Tally where
  /-- Locations looked at. -/
  locations : Nat
  /-- Registrations dropped. -/
  removed : Nat
  /-- Locations whose observation went to every due client. -/
  broadcasts : Nat
  /-- Due clients of those locations. -/
  notified : Nat
  /-- Locations whose observation failed or did not go to every due client. -/
  failures : Nat
  deriving DecidableEq, Repr

namespace Tally

def zero : Tally := ⟨0, 0, 0, 0, 0⟩

def add (a b : Tally) : Tally :=
  ⟨a.locations + b.locations, a.removed + b.removed, a.broadcasts + b.broadcasts,
    a.notified + b.notified, a.failures + b.failures⟩

end Tally

/-- What a sweep did, and when. -/
structure SweepReport where
  tick : Tick
  tally : Tally
  deriving DecidableEq, Repr

/-- The registrations of a location after a sweep. -/
structure Checked where
  kept : Clients
  /-- The clients to send the observation to. -/
  due : List ClientId
  /-- The number of registrations dropped. -/
  removed : Nat
  deriving DecidableEq, Repr

/-- What came of the observation of a location. -/
inductive Broadcast where
  /-- There was no container to observe. -/
  | nothing
  | sent
  | failed (cause : SyncError)
  deriving Repr

namespace Sweep

variable {σ : Type} (host : Host σ) (limits : Limits) (now : Tick)

/-- Checks the registrations of a location one by one. -/
def checkClients (location : Location) : Clients → StateM σ Checked
  | [] => return ⟨[], [], 0⟩
  | (client, registration) :: rest => do
    if ← limits.canInteract host.toWorld client location .all then
      let (due, registration) := registration.poll now
      let checked ← checkClients location rest
      let due := if due then client :: checked.due else checked.due
      if registration.isExpired now then
        return ⟨checked.kept, due, checked.removed + 1⟩
      else
        return ⟨(client, registration) :: checked.kept, due, checked.removed⟩
    else
      let checked ← checkClients location rest
      return { checked with removed := checked.removed + 1 }

/-- Observes a location and sends what was observed to some clients. -/
def broadcast (location : Location) (due : List ClientId) : StateM σ Broadcast := do
  if ← host.hasContainer location then
    match ← host.observe location true with
    | .error cause => return .failed (.observe cause)
    | .ok snapshot =>
      match ← host.send due ⟨location, snapshot, now.signed?⟩ with
      | .error cause => return .failed (.transport cause)
      | .ok () => return .sent
  else return .nothing

/-- What a broadcast adds to the tally. -/
def tallyOf (due : List ClientId) : Broadcast → Tally
  | .nothing => .zero
  | .sent => ⟨0, 0, 1, due.length, 0⟩
  | .failed _ => ⟨0, 0, 0, 0, 1⟩

/-- Sweeps one location that has registrations. -/
def sweepClients (location : Location) (clients : Clients) : StateM σ (Clients × Tally) := do
  if ← Limits.isInteractable host.toWorld location then
    let checked ← checkClients host limits now location clients
    let outcome ←
      if checked.due.isEmpty then pure .nothing
      else broadcast host now location checked.due
    let tally : Tally := ⟨1, checked.removed, 0, 0, 0⟩
    return (checked.kept, tally.add (tallyOf checked.due outcome))
  else
    return ([], ⟨1, clients.length, 0, 0, 0⟩)

def sweepLocation (location : Location) (clients : Clients) : StateM σ (Clients × Tally) :=
  if clients.isEmpty then return ([], ⟨1, 0, 0, 0, 0⟩)
  else sweepClients host limits now location clients

/-- Sweeps the blocks of a partition and drops those left without registrations. -/
def sweepBlocks (partition : String) : Blocks → StateM σ (Blocks × Tally)
  | [] => return ([], .zero)
  | (block, clients) :: rest => do
    let (clients, here) ← sweepLocation host limits now ⟨partition, block⟩ clients
    let (rest, there) ← sweepBlocks partition rest
    return (if clients.isEmpty then rest else (block, clients) :: rest, here.add there)

/-- Sweeps all partitions and drops those left without blocks. -/
def sweepPartitions : List (String × Blocks) → StateM σ (List (String × Blocks) × Tally)
  | [] => return ([], .zero)
  | (partition, blocks) :: rest => do
    let (blocks, here) ← sweepBlocks host limits now partition blocks
    let (rest, there) ← sweepPartitions rest
    return (if blocks.isEmpty then rest else (partition, blocks) :: rest, here.add there)

def run (t : Table) : StateM σ (Table × SweepReport) := do
  let (partitions, tally) ← sweepPartitions host limits now t.partitions
  return (⟨partitions⟩, ⟨now, tally⟩)

end Sweep

end ObservationFeed.Server
