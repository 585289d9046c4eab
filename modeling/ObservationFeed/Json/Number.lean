import ObservationFeed.Double

/-!
# Numbers in JSON

A number is kept as it is written.  As a whole number it has no fraction and no
exponent, and minus zero is none.  As a double it is its leading digits, as many
as fit in 64 bits, multiplied or divided by a power of ten in double
arithmetic.
-/

namespace ObservationFeed.Json

/-- A number as it is written. -/
structure Number where
  negative : Bool
  /-- The digits before the point. -/
  whole : List Nat
  /-- The digits after the point, none if there is no point. -/
  fraction : List Nat
  /-- The sign and the digits of the exponent. -/
  exponent : Option (Bool × List Nat)
  deriving DecidableEq, Repr

namespace Number

/-- The number that continues `n` by some digits. -/
def decimal (n : Nat) (digits : List Nat) : Nat := digits.foldl (fun n d => n * 10 + d) n

def int32? (n : Number) : Option Int32 :=
  let size := decimal 0 n.whole
  let value : Int := if n.negative then -(size : Int) else size
  if n.fraction.isEmpty ∧ n.exponent.isNone ∧ ¬(n.negative ∧ size = 0) ∧
      -2147483648 ≤ value ∧ value ≤ 2147483647 then
    some (Int32.ofInt value)
  else none

/-- Continues a significand by digits as long as it fits in 64 bits, and counts the digits that
are left over. -/
def absorb (significand : Nat) : List Nat → Nat × Nat
  | [] => (significand, 0)
  | d :: rest =>
    if significand * 10 + d ≤ 18446744073709551615 then absorb (significand * 10 + d) rest
    else (significand, rest.length + 1)

/-- The largest power of ten that is a double. -/
def largestPower : Nat := 308

/-- Divides by a power of ten that may be too large for a double. -/
def divide : Nat → Float → Nat → Float
  | 0, x, _ => x
  | fuel + 1, x, power =>
    if power ≤ largestPower then x / Float.ofScientific 1 false power
    else if x == 0 then x
    else divide fuel (x / Float.ofScientific 1 false largestPower) (power - largestPower)

/-- Scales a significand by a power of ten, if the result is not too large. -/
def scale? (significand : Nat) (power : Int) : Option Float :=
  let x := (UInt64.ofNat significand).toFloat
  if 0 ≤ power then
    if power.toNat ≤ largestPower then
      let y := x * Float.ofScientific 1 false power.toNat
      if y.isInf then none else some y
    else if x == 0 then some x
    else none
  else some (divide 8 x (-power).toNat)

/-- The double that is written, if it is not too large. -/
def double? (n : Number) : Option Double :=
  let (significand, dropped) := absorb 0 n.whole
  let (significand, ignored) := absorb significand n.fraction
  let power : Int := dropped - (n.fraction.length - ignored : Nat)
  let magnitude :=
    match n.exponent with
    | none => scale? significand power
    | some (down, digits) =>
      let e := decimal 0 digits
      if e ≤ 2147483647 then scale? significand (if down then power - e else power + e)
      else if significand ≠ 0 ∧ ¬down then none
      else some 0
  magnitude.map fun x => .ofFloat (if n.negative then -x else x)

end Number

end ObservationFeed.Json
