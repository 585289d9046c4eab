import ObservationFeed.Wire.Reader

/-!
# Variable-length integers

A number is written in groups of seven bits, the lowest first; the top bit of
a byte says that another follows.  A signed number is written as its unsigned
reading, so every negative number takes the longest form.  A reader accepts
groups that add nothing and drops bits above the width of the number.
-/

namespace ObservationFeed.Wire.Varint

/-- The longest form of a 32-bit number. -/
abbrev maxBytes32 : Nat := 5

/-- The longest form of a 64-bit number. -/
abbrev maxBytes64 : Nat := 10

/-- The groups of a number, at most a given number of them. -/
def groups : Nat → Nat → Bytes
  | 0, _ => []
  | k + 1, n =>
    if n < 128 then [UInt8.ofNat n] else UInt8.ofNat (128 + n % 128) :: groups k (n / 128)

/-- Reads at most `k` groups; `limit` is the number of groups allowed at the start. -/
def readGroups (limit : Nat) (field : String) : Nat → Reader Nat
  | 0, bytes => (.error (.varintTooLong limit), bytes)
  | _ + 1, [] => (.error (.unexpectedEnd field), [])
  | k + 1, b :: bytes =>
    if b < 128 then (.ok b.toNat, bytes)
    else
      match readGroups limit field k bytes with
      | (.ok n, rest) => (.ok (b.toNat % 128 + 128 * n), rest)
      | (.error e, rest) => (.error e, rest)

def write32 (n : Int32) : Bytes := groups maxBytes32 n.toUInt32.toNat

def write64 (n : Int64) : Bytes := groups maxBytes64 n.toUInt64.toNat

def read32 (field : String) : Reader Int32 := do
  let n ← readGroups maxBytes32 field maxBytes32
  return (UInt32.ofNat n).toInt32

def read64 (field : String) : Reader Int64 := do
  let n ← readGroups maxBytes64 field maxBytes64
  return (UInt64.ofNat n).toInt64

end ObservationFeed.Wire.Varint
