/-!
# Hexadecimal digits

Numbers written with a fixed count of lower-case hexadecimal digits, and read
from digits of either case.
-/

namespace ObservationFeed.Hex

/-- The digit of a number below sixteen. -/
def digit (n : Nat) : Char :=
  if n < 10 then Char.ofNat (48 + n) else Char.ofNat (87 + n)

def value? (c : Char) : Option Nat :=
  if '0' ≤ c ∧ c ≤ '9' then some (c.toNat - 48)
  else if 'a' ≤ c ∧ c ≤ 'f' then some (c.toNat - 87)
  else if 'A' ≤ c ∧ c ≤ 'F' then some (c.toNat - 55)
  else none

/-- The lowest `k` digits of a number, the highest of them first. -/
def digits : Nat → Nat → List Char
  | 0, _ => []
  | k + 1, n => digits k (n / 16) ++ [digit (n % 16)]

/-- The number that continues `n` by some digits. -/
def continue? (n : Nat) : List Char → Option Nat
  | [] => some n
  | c :: rest => (value? c).bind fun d => continue? (n * 16 + d) rest

def number? (cs : List Char) : Option Nat := continue? 0 cs

/-- Bytes as text, two digits each. -/
def ofBytes (bytes : List UInt8) : String :=
  String.ofList (bytes.flatMap fun b => digits 2 b.toNat)

/-- The bytes that pairs of digits stand for, after some that are given in reverse. -/
def bytesAfter? (before : List UInt8) : List Char → Option (List UInt8)
  | [] => some before.reverse
  | a :: b :: rest => (number? [a, b]).bind fun n => bytesAfter? (UInt8.ofNat n :: before) rest
  | [_] => none

/-- The bytes that pairs of digits stand for. -/
def bytes? (text : String) : Option (List UInt8) := bytesAfter? [] text.toList

end ObservationFeed.Hex
