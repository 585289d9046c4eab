/-!
# Clocks

Time is counted in milliseconds.  A clock that is set on by hand is set on by
thirty years at most, each of 365 days.
-/

namespace ObservationFeed.Clock

/-- The most milliseconds that pass at once. -/
def longestStep : Nat := 30 * 365 * 24 * 60 * 60 * 1000

/-- How many milliseconds pass at once, if some are asked for. -/
def step (ms : Nat) : Nat := min ms longestStep

end ObservationFeed.Clock
