/-!
# Update intervals

A subscription asks for a snapshot every so many ticks.  An interval is at
least one tick and at most one hour at twenty ticks per second.
-/

namespace ObservationFeed

/-- The longest interval a subscription may ask for. -/
abbrev Interval.maxTicks : Nat := 72000

/-- The update interval of a subscription. -/
structure Interval where
  ticks : Nat
  one_le : 1 ≤ ticks
  le_max : ticks ≤ Interval.maxTicks
  deriving DecidableEq, Repr

namespace Interval

/-- The interval of this many ticks, if it is in range. -/
def ofNat? (n : Nat) : Option Interval :=
  if h : 1 ≤ n ∧ n ≤ maxTicks then some ⟨n, h.1, h.2⟩ else none

/-- The interval nearest to a number of ticks. -/
def clamp (n : Int) : Interval :=
  ⟨max 1 (min n.toNat maxTicks), by omega, by simp only [maxTicks]; omega⟩

def text (i : Interval) : String := toString i.ticks ++ " ticks"

theorem ofNat?_ticks (i : Interval) : ofNat? i.ticks = some i := by
  simp [ofNat?, i.one_le, i.le_max]

theorem ofNat?_eq_some {n : Nat} {i : Interval} (h : ofNat? n = some i) : i.ticks = n := by
  unfold ofNat? at h
  split at h
  · cases h; rfl
  · cases h

end Interval

end ObservationFeed
