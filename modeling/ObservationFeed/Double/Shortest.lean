import ObservationFeed.Double

/-!
# Shortest decimals

The text of a double is the decimal with the fewest digits that reads back as
the same double, and of those the one nearest to it; a tie goes up.  It is
written out in full, without an exponent and without a fraction that is zero.

A finite positive double is a fraction `num / den`; the numbers that read back
as it lie around it, within `below / den` and `above / den`, the ends included
if its significand is even.
-/

namespace ObservationFeed

/-- A positive number and the distances within which others round to it. -/
structure RoundingRange where
  num : Nat
  den : Nat
  below : Nat
  above : Nat
  ends : Bool

namespace RoundingRange

/-- The range of a positive double, in quarters of its last place. -/
def ofBits (exponent fraction : Nat) : RoundingRange :=
  let significand := if exponent = 0 then fraction else fraction + Double.implicitBit
  let power := max exponent 1
  let narrow := fraction = 0 ∧ 1 < exponent
  let scaled (units : Nat) : Nat := if 1077 ≤ power then units <<< (power - 1077) else units
  { num := scaled (4 * significand)
    den := if 1077 ≤ power then 1 else 1 <<< (1077 - power)
    below := scaled (if narrow then 1 else 2)
    above := scaled 2
    ends := significand % 2 = 0 }

/-- Whether the number `n * unit / scale` reads back as the double. -/
def holds (r : RoundingRange) (n unit scale : Nat) : Bool :=
  let candidate := n * unit * r.den
  let value := r.num * scale
  if candidate ≤ value then
    let gap := value - candidate
    gap < r.below * scale || (r.ends && gap == r.below * scale)
  else
    let gap := candidate - value
    gap < r.above * scale || (r.ends && gap == r.above * scale)

/-- The number of decimal digits before the point, or minus the number of zeros after it. -/
def magnitude (r : RoundingRange) : Int :=
  if r.den ≤ r.num then (toString (r.num / r.den)).length
  else
    let leading := (List.range 330).takeWhile fun zeros => r.num * Nat.pow 10 (zeros + 1) < r.den
    (0 : Int) - leading.length

/-- The nearest decimal with `count` digits that reads back, as a number of units
`10 ^ (magnitude - count)`. -/
def digits? (r : RoundingRange) (count : Nat) : Option Nat :=
  let power := r.magnitude - count
  let unit := Nat.pow 10 power.toNat
  let scale := Nat.pow 10 (-power).toNat
  let low := r.num * scale / (r.den * unit)
  let nearerUp := 2 * (r.num * scale - low * (r.den * unit)) ≥ r.den * unit
  match r.holds low unit scale, r.holds (low + 1) unit scale with
  | true, true => some (if nearerUp then low + 1 else low)
  | true, false => some low
  | false, true => some (low + 1)
  | false, false => none

/-- The first count of digits with a decimal that reads back, and that decimal. -/
def shortest (r : RoundingRange) : Nat × Int :=
  match (List.range 17).findSome? fun i => (r.digits? (i + 1)).map fun n => (n, i + 1) with
  | some (n, count) => (n, r.magnitude - count)
  | none => (0, 0)

end RoundingRange

namespace Double

/-- The decimal `n * 10 ^ power` written out. -/
def positional (n : Nat) (power : Int) : String :=
  let digits := toString n
  if 0 ≤ power then digits ++ "".pushn '0' power.toNat
  else
    let places := (-power).toNat
    let padded := ("".pushn '0' (places + 1 - digits.length) ++ digits).toList
    let whole := String.ofList (padded.take (padded.length - places))
    let fraction := (padded.drop (padded.length - places)).reverse.dropWhile (· == '0')
    if fraction.isEmpty then whole else whole ++ "." ++ String.ofList fraction.reverse

/-- The shortest decimal that reads back as the double. -/
def text (d : Double) : String :=
  if d.isNaN then "NaN"
  else
    let sign := if d.bits ≥ 0x8000000000000000 then "-" else ""
    let magnitude := (d.bits &&& 0x7fffffffffffffff).toNat
    let (exponent, fraction) := (magnitude / implicitBit, magnitude % implicitBit)
    if exponent = 2047 then sign ++ "inf"
    else if magnitude = 0 then sign ++ "0"
    else
      let (n, power) := (RoundingRange.ofBits exponent fraction).shortest
      sign ++ positional n power

end Double

end ObservationFeed
