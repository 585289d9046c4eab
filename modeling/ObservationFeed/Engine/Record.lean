import ObservationFeed.Double.Shortest
import ObservationFeed.Engine.LogFilter
import ObservationFeed.Json.Basic

/-!
# Log records

What happens is recorded as a message with named values.  A record is shown as
a line of text or as a line of JSON.
-/

namespace ObservationFeed.Engine

/-- A value in a record. -/
inductive FieldValue where
  | number (value : Int)
  | double (value : Double)
  | text (value : String)
  /-- No value, where there could be one. -/
  | absent
  deriving DecidableEq, Repr

namespace FieldValue

def shown : FieldValue → String
  | number n => toString n
  | double d => d.text
  | text s => s
  | absent => "none"

def json : FieldValue → String
  | text s => Json.quote s
  | absent => "null"
  | value => value.shown

end FieldValue

def origin : String := "telemetry_engine"

/-- Something that has happened. -/
structure Record where
  level : Level
  message : String
  fields : List (String × FieldValue)
  deriving DecidableEq, Repr

namespace Record

/-- The names of a record's fields, its message among them. -/
def names (r : Record) : List String := "message" :: r.fields.map (·.1)

def shown (r : Record) : String :=
  r.level.text ++ " " ++ origin ++ ": " ++
    " ".intercalate (r.message :: r.fields.map fun (name, value) => name ++ "=" ++ value.shown)

def json (r : Record) : String :=
  let member (name value : String) : String := Json.quote name ++ ":" ++ value
  let object (members : List String) : String := "\x7b" ++ ",".intercalate members ++ "\x7d"
  let fields := r.fields.map fun (name, value) => member name value.json
  object [member "level" (Json.quote r.level.text),
    member "fields" (object (member "message" (Json.quote r.message) :: fields)),
    member "target" (Json.quote origin)]

end Record

end ObservationFeed.Engine
