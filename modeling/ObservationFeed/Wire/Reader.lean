import ObservationFeed.Wire.Error

/-!
# Readers

A reader takes bytes from the front of a buffer and returns what it read, or
why it could not, together with the bytes it left.  A failed reader has used
up what it looked at before it failed: a varint its bytes, a text its length
and, if they were there, its bytes.  A field of fixed size is taken whole or
not at all.
-/

namespace ObservationFeed.Wire

/-- The bytes of a message, or of a part of one. -/
abbrev Bytes := List UInt8

/-- Reads a value from the front of a buffer. -/
def Reader (α : Type) : Type := Bytes → Except Error α × Bytes

namespace Reader

variable {α β σ : Type}

def pure (a : α) : Reader α := fun bytes => (.ok a, bytes)

def fail (e : Error) : Reader α := fun bytes => (.error e, bytes)

/-- Reads one value and then another that depends on it. -/
def bind (r : Reader α) (f : α → Reader β) : Reader β := fun bytes =>
  match r bytes with
  | (.ok a, rest) => f a rest
  | (.error e, rest) => (.error e, rest)

instance : Monad Reader where
  pure := pure
  bind := bind

/-- Splits a number of bytes off the front, if there are that many. -/
def split : Nat → Bytes → Option (Bytes × Bytes)
  | 0, bytes => some ([], bytes)
  | _ + 1, [] => none
  | n + 1, b :: bytes => (split n bytes).map fun (front, rest) => (b :: front, rest)

def take (n : Nat) (field : String) : Reader Bytes := fun bytes =>
  match split n bytes with
  | some (front, rest) => (.ok front, rest)
  | none => (.error (.unexpectedEnd field), bytes)

/-- Reads one byte. -/
def byte (field : String) : Reader UInt8 := fun bytes =>
  match bytes with
  | b :: rest => (.ok b, rest)
  | [] => (.error (.unexpectedEnd field), [])

/-- Runs a step a number of times, each on the state the last one left. -/
def repeated (step : σ → Reader σ) : Nat → σ → Reader σ
  | 0, s, bytes => (.ok s, bytes)
  | n + 1, s, bytes =>
    match step s bytes with
    | (.ok s, rest) => repeated step n s rest
    | (.error e, rest) => (.error e, rest)

/-- Reads a value that has to use up the whole buffer. -/
def exactly (r : Reader α) (bytes : Bytes) : Except Error α :=
  match r bytes with
  | (.ok a, []) => .ok a
  | (.ok _, rest) => .error (.trailingBytes rest.length)
  | (.error e, _) => .error e

theorem bind_apply (r : Reader α) (f : α → Reader β) (bytes : Bytes) :
    (r >>= f) bytes =
      match r bytes with
      | (.ok a, rest) => f a rest
      | (.error e, rest) => (.error e, rest) := rfl

end Reader

end ObservationFeed.Wire
