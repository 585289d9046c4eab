import ObservationFeed.Double
import ObservationFeed.SortedMap
import ObservationFeed.Observation.Attribute

/-!
# Snapshots

One observation of a location.  Each source of the location's container reports
points, each filed under its attribute tuple; a point is a whole number, a
double, or both.
-/

namespace ObservationFeed

/-- A measured value, in one representation or in both. -/
inductive Point where
  | long (value : Int64)
  | double (value : Double)
  | both (double : Double) (long : Int64)
  deriving DecidableEq, Repr

namespace Point

def long? : Point → Option Int64
  | long n => some n
  | double _ => none
  | both _ n => some n

def double? : Point → Option Double
  | long _ => none
  | double d => some d
  | both d _ => some d

/-- The point with these representations, absent if there is neither. -/
def ofParts? : Option Int64 → Option Double → Option Point
  | none, none => none
  | some n, none => some (long n)
  | none, some d => some (double d)
  | some n, some d => some (both d n)

@[simp] theorem ofParts?_parts (p : Point) : ofParts? p.long? p.double? = some p := by
  cases p <;> rfl

end Point

/-- The identity of a source inside its container. -/
structure SourceKey where
  name : String
  slot : UInt8
  deriving DecidableEq, Repr

namespace SourceKey

def text (k : SourceKey) : String := k.name ++ "#" ++ toString k.slot.toNat

instance : Ord SourceKey := ⟨compareLex (compareOn name) (compareOn slot)⟩

instance : Std.TransOrd SourceKey :=
  inferInstanceAs (Std.TransCmp (compareLex (compareOn name) (compareOn slot)))

instance : Std.LawfulEqOrd SourceKey where
  compare_self {a} := by
    change (compare a.name a.name).then (compare a.slot a.slot) = .eq
    simp
  eq_of_compare {a b} := by
    change (compare a.name b.name).then (compare a.slot b.slot) = .eq → a = b
    cases a; cases b
    simp [Ordering.then_eq_eq]

end SourceKey

/-- The points of one source. -/
abbrev Points := SortedMap Attributes Point

/-- What was observed at a location. -/
structure Snapshot where
  sources : SortedMap SourceKey Points
  deriving DecidableEq, Repr

namespace Snapshot

def empty : Snapshot := ⟨.empty⟩

instance : Inhabited Snapshot := ⟨empty⟩

def pointCount (s : Snapshot) : Nat :=
  s.sources.toList.foldr (fun source count => source.2.size + count) 0

/-- The points of a source, none if the source did not report. -/
def points (s : Snapshot) (source : SourceKey) : Points :=
  (s.sources.find? source).getD .empty

/-- The observation with a source listed, whether or not it has points. -/
def announce (s : Snapshot) (source : SourceKey) : Snapshot :=
  ⟨s.sources.insert source (s.points source)⟩

/-- The observation with a point filed under a source and an attribute tuple. -/
def record (s : Snapshot) (source : SourceKey) (attributes : Attributes) (point : Point) :
    Snapshot :=
  ⟨s.sources.insert source ((s.points source).insert attributes point)⟩

end Snapshot

end ObservationFeed
