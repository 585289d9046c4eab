import ObservationFeed.Double

/-!
# Nearest doubles

The double nearest to a decimal.  Of two that are equally near, the one with an
even significand is taken, and a decimal too large for every double is
infinite.

A finite positive double is `significand * 2 ^ (power - 1074)`.  Its significand
has 53 bits, or fewer if the power is zero.  Its bits, read as a number, are the
power times `2 ^ 52` plus the significand; so a significand that is rounded up
beyond 53 bits gives the next double all the same.
-/

namespace ObservationFeed.Double

/-- The whole number nearest to a fraction.  Of two, the even one is taken. -/
def roundToEven (num den : Nat) : Nat :=
  let low := num / den
  let twice := 2 * (num % den)
  if twice < den ∨ (twice = den ∧ low % 2 = 0) then low else low + 1

/-- The power of two below a fraction, as an exponent. -/
def binaryExponent (num den : Nat) : Int :=
  let guess : Int := (num.log2 : Int) - den.log2
  if num <<< (-guess).toNat < den <<< guess.toNat then guess - 1 else guess

def infinityBits : Nat := 0x7ff0000000000000

/-- The bits of the double nearest to a positive fraction. -/
def bitsOfFraction (num den : Nat) : Nat :=
  let power := (binaryExponent num den + 1022).toNat
  min infinityBits
    (power * implicitBit + roundToEven (num <<< (1074 - power)) (den <<< (power - 1074)))

/-- The bits of the double nearest to `n * 10 ^ power`.  Decimals far outside the range of doubles
are decided by their number of digits alone. -/
def bitsOfDecimal (n : Nat) (power : Int) : Nat :=
  let places : Int := (toString n).length + power
  if n = 0 ∨ places < -400 then 0
  else if 400 < places then infinityBits
  else bitsOfFraction (n * Nat.pow 10 power.toNat) (Nat.pow 10 (-power).toNat)

/-- A double with the given sign, whose other bits are given. -/
def signed (negative : Bool) (magnitude : Nat) : Double :=
  ⟨UInt64.ofNat (magnitude + if negative then signBit else 0)⟩

end ObservationFeed.Double
