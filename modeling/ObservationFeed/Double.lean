/-!
# Doubles

A double-precision number is carried as its 64 bits.  Two doubles are equal
when their bits are, so a value survives storage and transport exactly,
negative zero and every not-a-number included.
-/

namespace ObservationFeed

/-- A double-precision number, given by its bits. -/
structure Double where
  bits : UInt64
  deriving DecidableEq, Repr, Inhabited

namespace Double

/-- The place of the sign among the bits. -/
abbrev signBit : Nat := 0x8000000000000000

/-- The highest bit of a full significand, which is not written, and the number of fractions. -/
abbrev implicitBit : Nat := 0x10000000000000

def toFloat (d : Double) : Float := Float.ofBits d.bits

def ofFloat (x : Float) : Double := ⟨x.toBits⟩

/-- Whether the exponent is all ones and the fraction is not zero. -/
def isNaN (d : Double) : Bool := d.bits &&& 0x7fffffffffffffff > 0x7ff0000000000000

/-- Whether the exponent is not all ones. -/
def isFinite (d : Double) : Bool := d.bits &&& 0x7fffffffffffffff < 0x7ff0000000000000

end Double

end ObservationFeed
