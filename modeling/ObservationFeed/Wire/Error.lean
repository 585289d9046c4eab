import ObservationFeed.Hex
import ObservationFeed.Interval

/-!
# Wire errors

Why a message could not be read or written.
-/

namespace ObservationFeed.Wire

/-- A fault of one message. -/
inductive Error where
  /-- The bytes ended inside a field. -/
  | unexpectedEnd (field : String)
  /-- The last allowed byte of a variable-length integer announces another. -/
  | varintTooLong (maxBytes : Nat)
  | unknownRequestTag (tag : UInt8)
  | invalidInterval (value : Int)
  /-- The tick, or its shifted form, is the one number without a partner. -/
  | tickOutOfRange (tick : Int64)
  | invalidLength (length : Int) (max : Nat) (field : String)
  | invalidUtf8 (field : String)
  | unknownAttributeTag (tag : UInt8)
  /-- A point announces neither of its representations. -/
  | missingValue (flags : UInt8)
  | trailingBytes (count : Nat)
  deriving DecidableEq, Repr

namespace Error

def message : Error → String
  | unexpectedEnd field => "unexpected end of buffer while reading " ++ field
  | varintTooLong maxBytes =>
    "variable-length integer longer than " ++ toString maxBytes ++ " bytes"
  | unknownRequestTag tag => "unknown observation request type: " ++ toString tag.toNat
  | invalidInterval value =>
    "invalid tick interval " ++ toString value ++ ": must be between 1 and " ++
      toString Interval.maxTicks
  | tickOutOfRange tick => "tick " ++ toString tick.toInt ++ " cannot be encoded"
  | invalidLength length max field =>
    "invalid length " ++ toString length ++ " for " ++ field ++ " (max " ++ toString max ++ ")"
  | invalidUtf8 field => "invalid UTF-8 in " ++ field
  | unknownAttributeTag tag => "unknown attribute value type: " ++ toString tag.toNat
  | missingValue flags => "observation point without value (flags 0x" ++
      String.ofList (Hex.digits 2 flags.toNat) ++ ")"
  | trailingBytes count => toString count ++ " trailing bytes after message"

/-- The word for the kind of a fault, the same whatever its details. -/
def kind : Error → String
  | unexpectedEnd _ => "UnexpectedEof"
  | varintTooLong _ => "VarIntTooLong"
  | unknownRequestTag _ => "UnknownRequestTag"
  | invalidInterval _ => "InvalidInterval"
  | tickOutOfRange _ => "TickOutOfRange"
  | invalidLength .. => "InvalidLength"
  | invalidUtf8 _ => "InvalidUtf8"
  | unknownAttributeTag _ => "UnknownAttributeTag"
  | missingValue _ => "MissingObservationValue"
  | trailingBytes _ => "TrailingBytes"

end Error

end ObservationFeed.Wire
