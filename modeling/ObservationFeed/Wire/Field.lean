import ObservationFeed.Location
import ObservationFeed.Wire.Varint

/-!
# Message fields

The fields that requests and responses share: big-endian numbers, lengths,
texts, locations and optional ticks.

A tick is written one higher, so that zero can stand for its absence.  A tick
of minus one therefore reads back as absent, and the largest tick cannot be
written.
-/

namespace ObservationFeed.Wire

/-- The longest text a message may hold, in bytes. -/
abbrev maxTextBytes : Nat := 32767

/-- The largest 32-bit number, above which no length can be written. -/
abbrev maxLength : Nat := 2147483647

def utf8 (s : String) : Bytes := s.toUTF8.data.toList

/-- The lowest `k` bytes of a number, the highest of them first. -/
def bigEndian : Nat → Nat → Bytes
  | 0, _ => []
  | k + 1, n => bigEndian k (n / 256) ++ [UInt8.ofNat n]

/-- The number written by some bytes, the highest first. -/
def ofBigEndian (bytes : Bytes) : Nat :=
  bytes.foldl (fun n b => n * 256 + b.toNat) 0

/-! ## Writing -/

/-- Writes a 32-bit number in four bytes. -/
def writeInt32 (n : Int32) : Bytes := bigEndian 4 n.toUInt32.toNat

def writeInt64 (n : Int64) : Bytes := bigEndian 8 n.toUInt64.toNat

/-- Writes the bits of a double in eight bytes. -/
def writeDouble (d : Double) : Bytes := bigEndian 8 d.bits.toNat

def writeLength (length max : Nat) (field : String) : Except Error Bytes :=
  if length ≤ max ∧ length ≤ maxLength then
    .ok (Varint.write32 (UInt32.ofNat length).toInt32)
  else .error (.invalidLength (min length 9223372036854775807 : Nat) max field)

/-- Writes a text after its length in bytes. -/
def writeText (s : String) (field : String) : Except Error Bytes := do
  let length ← writeLength s.utf8ByteSize maxTextBytes field
  return length ++ utf8 s

/-- Writes a location: the partition name and the three coordinates. -/
def writeLocation (l : Location) : Except Error Bytes := do
  let name ← writeText l.partition "partition"
  return name ++ writeInt32 l.block.x ++ writeInt32 l.block.y ++ writeInt32 l.block.z

def writeTick : Option Int64 → Except Error Bytes
  | none => .ok (Varint.write64 0)
  | some tick =>
    if tick = Int64.maxValue then .error (.tickOutOfRange tick)
    else .ok (Varint.write64 (tick + 1))

/-! ## Reading -/

def readInt32 (field : String) : Reader Int32 := do
  let bytes ← Reader.take 4 field
  return (UInt32.ofNat (ofBigEndian bytes)).toInt32

def readInt64 (field : String) : Reader Int64 := do
  let bytes ← Reader.take 8 field
  return (UInt64.ofNat (ofBigEndian bytes)).toInt64

/-- Reads the bits of a double of eight bytes. -/
def readDouble (field : String) : Reader Double := do
  let bytes ← Reader.take 8 field
  return ⟨UInt64.ofNat (ofBigEndian bytes)⟩

def readLength (max : Nat) (field : String) : Reader Nat := do
  let n ← Varint.read32 field
  if 0 ≤ n.toInt ∧ n.toInt ≤ max then return n.toInt.toNat
  else Reader.fail (.invalidLength n.toInt max field)

/-- Reads a text after its length in bytes. -/
def readText (field : String) : Reader String := do
  let length ← readLength maxTextBytes field
  let bytes ← Reader.take length field
  match String.fromUTF8? ⟨bytes.toArray⟩ with
  | some s => return s
  | none => Reader.fail (.invalidUtf8 field)

def readLocation : Reader Location := do
  let partition ← readText "partition"
  let x ← readInt32 "block x"
  let y ← readInt32 "block y"
  let z ← readInt32 "block z"
  return ⟨partition, x, y, z⟩

def readTick (field : String) : Reader (Option Int64) := do
  let raw ← Varint.read64 field
  if raw = 0 then return none
  else if raw = Int64.minValue then Reader.fail (.tickOutOfRange raw)
  else return some (raw - 1)

end ObservationFeed.Wire
