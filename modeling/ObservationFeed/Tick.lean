/-!
# World ticks

A tick is a count of world steps held in 64 bits.  Sums stop at the last tick
and differences stop at the first, so that a mark computed from a tick near
either end of the range stays on the right side of it.
-/

namespace ObservationFeed

/-- The largest tick a world can reach. -/
abbrev Tick.maxCount : Nat := 18446744073709551615

/-- A point on a world's clock. -/
structure Tick where
  count : Nat
  count_le : count ≤ Tick.maxCount
  deriving DecidableEq, Repr

namespace Tick

/-- The tick with this count, or the last tick if the count is out of range. -/
def ofNat (n : Nat) : Tick :=
  ⟨min n maxCount, Nat.min_le_right ..⟩

def zero : Tick := ⟨0, Nat.zero_le _⟩

def last : Tick := ⟨maxCount, Nat.le_refl _⟩

instance : Inhabited Tick := ⟨zero⟩

/-- The tick `n` steps later, at most the last tick. -/
def add (t : Tick) (n : Nat) : Tick := ofNat (t.count + n)

/-- The tick one step earlier, at least the first tick. -/
def pred (t : Tick) : Tick :=
  ⟨t.count - 1, Nat.le_trans (Nat.sub_le ..) t.count_le⟩

/-- The next tick, at most the last tick. -/
def next (t : Tick) : Tick := t.add 1

def earlier (s t : Tick) : Tick := if s.count ≤ t.count then s else t

/-- The tick as a signed 64-bit number, absent above the signed range. -/
def signed? (t : Tick) : Option Int64 :=
  if t.count < 9223372036854775808 then some (Int64.ofNat t.count) else none

@[ext] theorem ext {s t : Tick} (h : s.count = t.count) : s = t := by
  cases s; cases t; cases h; rfl

@[simp] theorem count_ofNat (n : Nat) : (ofNat n).count = min n maxCount := rfl

@[simp] theorem count_add (t : Tick) (n : Nat) :
    (t.add n).count = min (t.count + n) maxCount := rfl

@[simp] theorem count_pred (t : Tick) : t.pred.count = t.count - 1 := rfl

@[simp] theorem count_earlier (s t : Tick) :
    (s.earlier t).count = min s.count t.count := by
  unfold earlier
  split <;> omega

end Tick

end ObservationFeed
