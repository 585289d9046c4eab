import ObservationFeed.Proofs.Wire.Reads

/-!
# Variable-length integers read back

A number is the value of its groups as long as it fits into them, which every
32-bit and 64-bit number does with the groups it may have.
-/

namespace ObservationFeed.Wire.Varint

theorem toNat_last {n : Nat} (last : n < 128) : (UInt8.ofNat n).toNat = n := by
  rw [UInt8.toNat_ofNat']
  omega

theorem toNat_more (n : Nat) : (UInt8.ofNat (128 + n % 128)).toNat = 128 + n % 128 := by
  rw [UInt8.toNat_ofNat']
  omega

theorem last_lt {n : Nat} (last : n < 128) : UInt8.ofNat n < 128 := by
  rw [UInt8.lt_iff_toNat_lt, toNat_last last]
  exact last

theorem not_more_lt (n : Nat) : ¬ UInt8.ofNat (128 + n % 128) < 128 := by
  rw [UInt8.lt_iff_toNat_lt, toNat_more]
  exact Nat.not_lt.mpr (Nat.le_add_right ..)

/-- A number that is not in its last group has another one left. -/
theorem left_of_more {k n : Nat} (fits : n < Nat.pow 128 (k + 1)) (more : ¬ n < 128) : 0 < k := by
  rcases Nat.eq_zero_or_pos k with rfl | left
  · exact absurd fits more
  · exact left

theorem reads_groups (limit : Nat) (field : String) {k n : Nat} (some : 0 < k)
    (fits : n < Nat.pow 128 k) : Reads (readGroups limit field k) (groups k n) n := by
  induction k generalizing n with
  | zero => cases some
  | succ k ih =>
    intro rest
    by_cases last : n < 128
    · rw [groups, if_pos last, List.singleton_append, readGroups, if_pos (last_lt last),
        toNat_last last]
    · have power : Nat.pow 128 (k + 1) = Nat.pow 128 k * 128 := rfl
      have left := left_of_more fits last
      rw [groups, if_neg last, List.cons_append, readGroups, if_neg (not_more_lt n),
        ih left (by omega : n / 128 < Nat.pow 128 k), toNat_more]
      have value : (128 + n % 128) % 128 + 128 * (n / 128) = n := by omega
      simp only [value]

theorem reads_write32 (n : Int32) (field : String) : Reads (read32 field) (write32 n) n := by
  have fits : n.toUInt32.toNat < Nat.pow 128 maxBytes32 :=
    Nat.lt_trans n.toUInt32.toNat_lt (by decide)
  have groups := reads_groups maxBytes32 field (by decide) fits
  have reads := groups.map fun n => (UInt32.ofNat n).toInt32
  rwa [UInt32.ofNat_toNat] at reads

theorem reads_write64 (n : Int64) (field : String) : Reads (read64 field) (write64 n) n := by
  have fits : n.toUInt64.toNat < Nat.pow 128 maxBytes64 :=
    Nat.lt_trans n.toUInt64.toNat_lt (by decide)
  have groups := reads_groups maxBytes64 field (by decide) fits
  have reads := groups.map fun n => (UInt64.ofNat n).toInt64
  rwa [UInt64.ofNat_toNat] at reads

end ObservationFeed.Wire.Varint
