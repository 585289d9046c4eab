import ObservationFeed.Observation.Snapshot
import ObservationFeed.Wire.Field

/-!
# Responses

What the server observed at one location, and its layout:

    location
    source count, then for each source
      name | slot | point count, then for each point
        attribute count, then for each attribute
          key | tag | value
        flags | whole number, if flag 1 | double, if flag 2
    server tick

An attribute's tag is 0 for a text, 1 for a whole number and 2 for a truth
value.  A reader files sources and points in the order in which they come, so
that the last of several equal ones stays.
-/

namespace ObservationFeed

/-- A message from the server to a client. -/
structure Response where
  location : Location
  snapshot : Snapshot
  serverTick : Option Int64
  deriving DecidableEq, Repr

namespace Wire

/-- The largest number of sources, points or attributes in one collection. -/
abbrev maxEntries : Nat := 65536

/-! ## Writing -/

/-- Writes the elements of a list one after the other. -/
def writeAll {α : Type} (write : α → Except Error Bytes) (items : List α) : Except Error Bytes := do
  let parts ← items.mapM write
  return parts.flatten

/-- Writes a list after the number of its elements. -/
def writeCounted {α : Type} (write : α → Except Error Bytes) (field : String) (items : List α) :
    Except Error Bytes := do
  let count ← writeLength items.length maxEntries field
  let elements ← writeAll write items
  return count ++ elements

def writeAttribute (a : Attribute) : Except Error Bytes := do
  let key ← writeText a.key "attribute key"
  match a.value with
  | .text value => do
    let value ← writeText value "attribute text"
    return key ++ 0 :: value
  | .long value => return key ++ 1 :: writeInt64 value
  | .bool value => return key ++ [2, if value then 1 else 0]

/-- Writes a point: its flags and its representations. -/
def writePoint : Point → Bytes
  | .long n => 1 :: writeInt64 n
  | .double d => 2 :: writeDouble d
  | .both d n => 3 :: (writeInt64 n ++ writeDouble d)

/-- Writes a point after its attributes. -/
def writeEntry (entry : Attributes × Point) : Except Error Bytes := do
  let attributes ← writeCounted writeAttribute "attribute count" entry.1
  return attributes ++ writePoint entry.2

def writeSource (source : SourceKey × Points) : Except Error Bytes := do
  let name ← writeText source.1.name "source name"
  let points ← writeCounted writeEntry "point count" source.2.toList
  return name ++ source.1.slot :: points

def writeSnapshot (s : Snapshot) : Except Error Bytes :=
  writeCounted writeSource "source count" s.sources.toList

def writeResponse (r : Response) : Except Error Bytes := do
  let location ← writeLocation r.location
  let snapshot ← writeSnapshot r.snapshot
  let tick ← writeTick r.serverTick
  return location ++ snapshot ++ tick

/-! ## Reading -/

/-- Reads a number of elements into a collection. -/
def readCounted {σ : Type} (step : σ → Reader σ) (field : String) (start : σ) : Reader σ := do
  let count ← readLength maxEntries field
  Reader.repeated step count start

def readAttribute : Reader Attribute := do
  let key ← readText "attribute key"
  let tag ← Reader.byte "attribute tag"
  if tag = 0 then return ⟨key, .text (← readText "attribute text")⟩
  else if tag = 1 then return ⟨key, .long (← readInt64 "attribute long")⟩
  else if tag = 2 then
    let b ← Reader.byte "attribute bool"
    return ⟨key, .bool (b != 0)⟩
  else Reader.fail (.unknownAttributeTag tag)

def readAttributes : Reader Attributes := do
  let backwards ← readCounted (fun read => do return (← readAttribute) :: read) "attribute count" []
  return backwards.reverse

/-- Reads a representation of a point if its flag is set. -/
def readFlagged {α : Type} (flag : Bool) (read : Reader α) : Reader (Option α) :=
  if flag then do return some (← read) else return none

def readPoint : Reader Point := do
  let flags ← Reader.byte "point flags"
  let long ← readFlagged (flags &&& 1 != 0) (readInt64 "point long")
  let double ← readFlagged (flags &&& 2 != 0) (readDouble "point double")
  match Point.ofParts? long double with
  | some point => return point
  | none => Reader.fail (.missingValue flags)

/-- Reads a point and files it. -/
def readEntry (points : Points) : Reader Points := do
  let attributes ← readAttributes
  let point ← readPoint
  return points.insert attributes point

/-- Reads a source with its points and files it. -/
def readSource (sources : SortedMap SourceKey Points) : Reader (SortedMap SourceKey Points) := do
  let name ← readText "source name"
  let slot ← Reader.byte "source slot"
  let points ← readCounted readEntry "point count" .empty
  return sources.insert ⟨name, slot⟩ points

def readSnapshot : Reader Snapshot := do
  let sources ← readCounted readSource "source count" .empty
  return ⟨sources⟩

def readResponse : Reader Response := do
  let location ← readLocation
  let snapshot ← readSnapshot
  let tick ← readTick "server_tick"
  return ⟨location, snapshot, tick⟩

/-- The response that a whole message holds. -/
def responseOfBytes : Bytes → Except Error Response := Reader.exactly readResponse

end Wire

end ObservationFeed
