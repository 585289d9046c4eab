import ObservationFeed.Double

/-!
# Locations

A location is a block in a named partition of the world.  Locations of
different partitions are different even where their coordinates agree.
-/

namespace ObservationFeed

/-- The integer coordinates of a block. -/
structure Block where
  x : Int32
  y : Int32
  z : Int32
  deriving DecidableEq, Repr

/-- A point of space inside a partition. -/
structure Position where
  x : Double
  y : Double
  z : Double
  deriving DecidableEq, Repr

/-- A block in a partition. -/
structure Location where
  partition : String
  block : Block
  deriving DecidableEq, Repr

namespace Block

def text (b : Block) : String :=
  "(" ++ toString b.x.toInt ++ ", " ++ toString b.y.toInt ++ ", " ++ toString b.z.toInt ++ ")"

/-- The middle of the side that starts at a coordinate. -/
def middle (n : Int32) : Double := .ofFloat (Float.ofInt n.toInt + 0.5)

def center (b : Block) : Position := ⟨middle b.x, middle b.y, middle b.z⟩

/-- Blocks are ordered by their coordinates in turn. -/
def order (a b : Block) : Ordering :=
  (compare a.x b.x).then ((compare a.y b.y).then (compare a.z b.z))

instance : Ord Block := ⟨order⟩

end Block

namespace Location

def text (l : Location) : String := l.partition ++ "@" ++ l.block.text

/-- Locations are ordered by partition name and then by block. -/
def order (a b : Location) : Ordering :=
  (compare a.partition b.partition).then (compare a.block b.block)

instance : Ord Location := ⟨order⟩

end Location

end ObservationFeed
