import ObservationFeed.KeyedList
import ObservationFeed.Location
import ObservationFeed.Server.Registration

/-!
# Registration tables

Registrations are filed by partition, then by block, then by client, in no
particular order.  A block whose last registration goes is dropped at once.  A
partition that a request for it has brought in stays until a sweep finds it
without blocks.
-/

namespace ObservationFeed.Server

/-- The registrations at one location. -/
abbrev Clients := List (ClientId × Registration)

/-- The registrations in one partition. -/
abbrev Blocks := List (Block × Clients)

/-- All registrations. -/
structure Table where
  partitions : List (String × Blocks)
  deriving DecidableEq, Repr

namespace Table

open KeyedList

def empty : Table := ⟨[]⟩

def blocks (t : Table) (partition : String) : Blocks := (find? partition t.partitions).getD []

def clients (t : Table) (location : Location) : Clients :=
  (find? location.block (t.blocks location.partition)).getD []

/-- The registration of a client at a location. -/
def find? (t : Table) (client : ClientId) (location : Location) : Option Registration :=
  KeyedList.find? client (t.clients location)

/-- Files a registration in place of the one there was. -/
def update (t : Table) (client : ClientId) (location : Location)
    (change : Option Registration → Registration) : Table :=
  let clients := put client (change (t.find? client location)) (t.clients location)
  ⟨put location.partition (put location.block clients (t.blocks location.partition)) t.partitions⟩

/-- The blocks of a partition after the registrations at one of them have changed. -/
def refile (block : Block) (clients : Clients) (blocks : Blocks) : Blocks :=
  if clients.isEmpty then erase block blocks else put block clients blocks

def remove (t : Table) (client : ClientId) (location : Location) : Table :=
  match KeyedList.find? location.partition t.partitions with
  | none => t
  | some blocks =>
    match KeyedList.find? location.block blocks with
    | none => t
    | some clients =>
      ⟨put location.partition (refile location.block (erase client clients) blocks) t.partitions⟩

def registrationCount (t : Table) : Nat := total (total List.length) t.partitions

/-- The number of blocks that are filed. -/
def locationCount (t : Table) : Nat := total List.length t.partitions

/-- The number of partitions that are filed. -/
def partitionCount (t : Table) : Nat := t.partitions.length

end Table

end ObservationFeed.Server
