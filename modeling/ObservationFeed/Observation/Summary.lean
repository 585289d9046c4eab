import ObservationFeed.Hex
import ObservationFeed.Observation.Snapshot

/-!
# Summaries

An observation on one line: the sources with their points, each point with its
attributes and its values.  Doubles are shown by their bits.
-/

namespace ObservationFeed

/-- The bits of a double in sixteen digits, the same for every not-a-number. -/
def Double.hexText (d : Double) : String :=
  String.ofList (Hex.digits 16 (if d.isNaN then 0x7ff8000000000000 else d.bits.toNat))

def Attribute.summary (a : Attribute) : String := a.key ++ "=" ++ a.value.shown

/-- The values of a point on one line, each after a letter for its kind. -/
def Point.summary (p : Point) : String :=
  p.long?.elim "" (fun n => "L" ++ toString n.toInt) ++ p.double?.elim "" ("D" ++ ·.hexText)

def Snapshot.summary (s : Snapshot) : String :=
  let point : Attributes × Point → String := fun (attributes, p) =>
    "[" ++ ",".intercalate (attributes.map Attribute.summary) ++ "]" ++ p.summary
  ";".intercalate (s.sources.toList.map fun (key, points) =>
    key.text ++ "\x7b" ++ ",".intercalate (points.toList.map point) ++ "\x7d")

end ObservationFeed
