import ObservationFeed.SyncError

/-!
# Deferred values

A value that will be provided later, or never.  It is settled once: the first
of a value and a cancellation stands, and what comes after it is ignored.

Several handles can share one deferred value, and several waits can stand on
it; whoever waits on a settled value is answered at once.
-/

namespace ObservationFeed

/-- A value that will be provided later. -/
inductive Deferred (α : Type) where
  | pending
  | completed (value : α)
  | cancelled
  deriving DecidableEq, Repr

namespace Deferred

variable {α : Type}

/-- Whether neither a value nor a cancellation has been provided. -/
def isPending : Deferred α → Bool
  | pending => true
  | _ => false

/-- Provides an outcome, and tells whether it stands. -/
def settle (outcome : Deferred α) : Deferred α → Bool × Deferred α
  | pending => (true, outcome)
  | settled => (false, settled)

def complete (d : Deferred α) (value : α) : Bool × Deferred α := settle (completed value) d

/-- Cancels whoever waits. -/
def cancel (d : Deferred α) : Bool × Deferred α := settle cancelled d

/-- What a wait is answered, once there is an answer. -/
def result? : Deferred α → Option (Except SyncError α)
  | pending => none
  | completed value => some (.ok value)
  | cancelled => some (.error .cancelled)

end Deferred

/-- Deferred values with handles to them and waits on them. -/
structure DeferredPool (α : Type) where
  cells : List (Deferred α)
  /-- The cell of each handle. -/
  handles : List (Nat × Nat)
  /-- The cell of each wait that has no answer yet. -/
  waits : List (Nat × Nat)
  deriving Repr

namespace DeferredPool

variable {α : Type}

def empty : DeferredPool α := ⟨[], [], []⟩

def cell? (p : DeferredPool α) (handle : Nat) : Option Nat := p.handles.lookup handle

/-- Forgets a handle, and tells whether there was one. -/
def drop (p : DeferredPool α) (handle : Nat) : Bool × DeferredPool α :=
  ((p.cell? handle).isSome, { p with handles := p.handles.filter (·.1 != handle) })

/-- Points a handle to a cell. -/
def point (p : DeferredPool α) (handle cell : Nat) : DeferredPool α :=
  { p with handles := (handle, cell) :: (p.drop handle).2.handles }

def create (p : DeferredPool α) (handle : Nat) : DeferredPool α :=
  ({ p with cells := p.cells ++ [.pending] } : DeferredPool α).point handle p.cells.length

/-- A second handle to a value. -/
def clone (p : DeferredPool α) (handle source : Nat) : DeferredPool α :=
  match p.cell? source with
  | some cell => p.point handle cell
  | none => p

/-- Settles the value of a handle, and tells whether the outcome stands. -/
def settle (p : DeferredPool α) (handle : Nat) (outcome : Deferred α) : Bool × DeferredPool α :=
  match (p.cell? handle).bind fun cell => (p.cells[cell]?).map fun d => (cell, d) with
  | some (cell, d) =>
    let (stands, d) := outcome.settle d
    (stands, { p with cells := p.cells.set cell d })
  | none => (false, p)

def same (p : DeferredPool α) (a b : Nat) : Bool := p.cell? a == p.cell? b

def wait (p : DeferredPool α) (handle task : Nat) : DeferredPool α :=
  match p.cell? handle with
  | some cell => { p with waits := p.waits ++ [(task, cell)] }
  | none => p

def answer? (p : DeferredPool α) (cell : Nat) : Option (Except SyncError α) :=
  (p.cells[cell]?).bind Deferred.result?

/-- The waits that have an answer, and the pool without them. -/
def finish (p : DeferredPool α) : List (Nat × Except SyncError α) × DeferredPool α :=
  (p.waits.filterMap fun (task, cell) => (p.answer? cell).map fun r => (task, r),
    { p with waits := p.waits.filter fun (_, cell) => (p.answer? cell).isNone })

/-- The handles, and whether their values are pending. -/
def pending (p : DeferredPool α) : List (Nat × Bool) :=
  p.handles.map fun (handle, cell) => (handle, (p.cells[cell]?).elim false Deferred.isPending)

end DeferredPool

end ObservationFeed
