import ObservationFeed.Double.Shortest
import ObservationFeed.Server.Host

/-!
# Interaction limits

A client may observe a location if it is in the world, in the location's
partition and near enough along both horizontal axes, and if the location is
loaded and holds a container.  Each check can be left out; the first that
fails says why the client is refused.
-/

namespace ObservationFeed.Server

/-- Which checks a request has to pass. -/
structure Checks where
  partition : Bool
  distance : Bool
  loaded : Bool
  /-- A container can only be at a loaded location, so this check brings that one with it. -/
  container : Bool
  deriving DecidableEq, Repr

namespace Checks

def all : Checks := ⟨true, true, true, true⟩

/-- Every check but the one for a container, for subscriptions that begin before it is placed. -/
def relaxed : Checks := { all with container := false }

end Checks

/-- Why a client is refused. -/
inductive Rejection where
  | clientRemoved
  | partitionMismatch (client : String)
  /-- The distances to the middle of the block along the two axes. -/
  | outOfRange (dx dz : Double)
  | unloaded
  | noContainer
  deriving DecidableEq, Repr

namespace Rejection

def message : Rejection → String
  | clientRemoved => "client has been removed"
  | partitionMismatch client => "partition mismatch, client is in " ++ client
  | outOfRange dx dz => "client is " ++ dx.text ++ "," ++ dz.text ++ " (x,z) blocks away"
  | unloaded => "position is unloaded"
  | noContainer => "position holds no observation container"

/-- The word for the kind of a refusal, the same whatever its details. -/
def kind : Rejection → String
  | clientRemoved => "ClientRemoved"
  | partitionMismatch _ => "PartitionMismatch"
  | outOfRange .. => "OutOfRange"
  | unloaded => "Unloaded"
  | noContainer => "NoContainer"

end Rejection

/-- How near a client has to be. -/
structure Limits where
  range : Double
  deriving DecidableEq, Repr

namespace Limits

/-- The usual range of forty blocks. -/
def defaultRange : Double := ⟨0x4044000000000000⟩

def distance (a b : Double) : Double := .ofFloat (a.toFloat - b.toFloat).abs

/-- The refusal of a position that is out of range of a block. -/
def offset? (limits : Limits) (position : Position) (block : Block) : Option Rejection :=
  let dx := distance block.center.x position.x
  let dz := distance block.center.z position.z
  let range := limits.range.toFloat
  if dx.toFloat ≥ range || dz.toFloat ≥ range then some (.outOfRange dx dz) else none

/-- Whether a position is in range of a block. -/
def withinRange (limits : Limits) (position : Position) (block : Block) : Bool :=
  (limits.offset? position block).isNone

variable {σ : Type}

/-- Whether a location is loaded and holds a container. -/
def isInteractable (world : World σ) (location : Location) : StateM σ Bool := do
  if ← world.isLoaded location then world.hasContainer location else return false

/-- The refusal of a client at a location that is in range. -/
def checkPlace (world : World σ) (location : Location) (checks : Checks) :
    StateM σ (Option Rejection) := do
  let loaded ← if checks.loaded || checks.container then world.isLoaded location else pure true
  if !loaded then return some .unloaded
  let held ← if checks.container then world.hasContainer location else pure true
  return if held then none else some .noContainer

/-- The first refusal of a client at a location, absent if every selected check passes. -/
def check (limits : Limits) (world : World σ) (client : ClientId) (location : Location)
    (checks : Checks) : StateM σ (Option Rejection) := do
  match ← world.client client with
  | none => return some .clientRemoved
  | some view =>
    if checks.partition && view.partition != location.partition then
      return some (.partitionMismatch view.partition)
    match (if checks.distance then limits.offset? view.position location.block else none) with
    | some rejection => return some rejection
    | none => checkPlace world location checks

/-- Whether a client passes the selected checks at a location. -/
def canInteract (limits : Limits) (world : World σ) (client : ClientId) (location : Location)
    (checks : Checks) : StateM σ Bool := do
  return (← limits.check world client location checks).isNone

end Limits

end ObservationFeed.Server
