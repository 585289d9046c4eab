import ObservationFeed.Identity
import ObservationFeed.Json.Basic
import ObservationFeed.Location

/-!
# Locations and identities in JSON

A record is an object with one member for each field, among which others may
stand, or an array of the fields in their order.
-/

namespace ObservationFeed

namespace Json

/-- The value of a member that occurs once. -/
def member? (name : String) (members : List (Option String × Json)) : Option Json :=
  match members.filter fun m => m.1 == some name with
  | [(_, value)] => some value
  | _ => none

def fields? (names : List String) : Json → Option (List Json)
  | array items => if items.length = names.length then some items else none
  | object members =>
    if members.any fun m => m.1.isNone then none
    else names.mapM fun name => member? name members
  | _ => none

def int32? : Json → Option Int32
  | number n => n.int32?
  | _ => none

def double? : Json → Option Double
  | number n => n.double?
  | _ => none

def chars? : Json → Option String
  | string s => s
  | _ => none

def block? (j : Json) : Option Block := do
  match ← j.fields? ["x", "y", "z"] with
  | [x, y, z] => return ⟨← x.int32?, ← y.int32?, ← z.int32?⟩
  | _ => none

def position? (j : Json) : Option Position := do
  match ← j.fields? ["x", "y", "z"] with
  | [x, y, z] => return ⟨← x.double?, ← y.double?, ← z.double?⟩
  | _ => none

def location? (j : Json) : Option Location := do
  match ← j.fields? ["partition", "pos"] with
  | [partition, pos] => return ⟨← partition.chars?, ← pos.block?⟩
  | _ => none

/-- The client that a value is: its number without the label. -/
def client? (j : Json) : Option ClientId := do
  return ⟨← Uuid.parse? (← j.chars?)⟩

end Json

def Block.json (b : Block) : String :=
  "\x7b\"x\":" ++ toString b.x.toInt ++ ",\"y\":" ++ toString b.y.toInt ++
    ",\"z\":" ++ toString b.z.toInt ++ "\x7d"

def Location.json (l : Location) : String :=
  "\x7b\"partition\":" ++ Json.quote l.partition ++ ",\"pos\":" ++ l.block.json ++ "\x7d"

end ObservationFeed
