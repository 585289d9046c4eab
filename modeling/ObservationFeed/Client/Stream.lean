/-!
# Streams

A consumer's view of the values that a subscription publishes.  Publications
are numbered; a stream remembers the last one that it has seen.  It yields the
current value first, if there is one, and then each time it is polled after
another publication the latest value.  It ends when its subscription has ended
and it has yielded the last value.
-/

namespace ObservationFeed.Client

/-- The published values: how many there were, and the last. -/
structure Feed (α : Type) where
  version : Nat
  latest : Option α
  deriving DecidableEq, Repr

namespace Feed

variable {α : Type}

def empty : Feed α := ⟨0, none⟩

def publish (f : Feed α) (value : α) : Feed α := ⟨f.version + 1, some value⟩

end Feed

/-- How far a stream has got. -/
structure Stream where
  /-- The number of the last publication that the stream has seen. -/
  seen : Nat
  /-- Whether the stream has been polled. -/
  primed : Bool
  /-- Whether the stream has reported its end. -/
  finished : Bool
  deriving DecidableEq, Repr

/-- What a poll of a stream finds. -/
inductive Poll (α : Type) where
  | value (value : α)
  | pending
  | finished
  deriving DecidableEq, Repr

namespace Stream

variable {α : Type}

/-- A stream that begins now. -/
def begin (f : Feed α) : Stream := ⟨f.version, false, false⟩

/-- Polls a stream.  The first poll takes up the current value even if it is older than the
stream. -/
def poll (f : Feed α) (ended : Bool) (s : Stream) : Poll α × Stream :=
  if s.finished then (.finished, s)
  else
    match (if s.primed && f.version == s.seen then none else f.latest) with
    | some value => (.value value, ⟨f.version, true, false⟩)
    | none =>
      if ended then (.finished, ⟨f.version, true, true⟩) else (.pending, ⟨f.version, true, false⟩)

end Stream

end ObservationFeed.Client
