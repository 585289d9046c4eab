import Mathlib.Data.List.Induction
import ObservationFeed.Proofs.Wire.Varint

/-!
# Fields read back

Which fields can be written, and that each reads back as what was written.  The
one field that does not is a tick of minus one, which reads back as absent.
-/

namespace ObservationFeed.Wire

/-! ## Numbers of fixed size -/

@[simp] theorem length_bigEndian (k n : Nat) : (bigEndian k n).length = k := by
  induction k generalizing n with
  | zero => rfl
  | succ k ih => simp [bigEndian, ih]

theorem ofBigEndian_append_singleton (bytes : Bytes) (b : UInt8) :
    ofBigEndian (bytes ++ [b]) = ofBigEndian bytes * 256 + b.toNat := by
  simp [ofBigEndian]

theorem ofBigEndian_bigEndian {k n : Nat} (fits : n < Nat.pow 256 k) :
    ofBigEndian (bigEndian k n) = n := by
  induction k generalizing n with
  | zero => exact (Nat.lt_one_iff.mp fits).symm
  | succ k ih =>
    -- The last byte holds the remainder, and the bytes before it the quotient.
    have power : Nat.pow 256 (k + 1) = Nat.pow 256 k * 256 := rfl
    rw [bigEndian, ofBigEndian_append_singleton, ih (by omega), UInt8.toNat_ofNat']
    omega

theorem ofBigEndian_lt (bytes : Bytes) : ofBigEndian bytes < Nat.pow 256 bytes.length := by
  induction bytes using List.reverseRecOn with
  | nil => exact Nat.one_pos
  | append_singleton bytes b ih =>
    rw [ofBigEndian_append_singleton, List.length_append, List.length_singleton]
    have power : Nat.pow 256 (bytes.length + 1) = Nat.pow 256 bytes.length * 256 := rfl
    have byte := b.toNat_lt
    omega

theorem bigEndian_ofBigEndian (bytes : Bytes) :
    bigEndian bytes.length (ofBigEndian bytes) = bytes := by
  induction bytes using List.reverseRecOn with
  | nil => rfl
  | append_singleton bytes b ih =>
    rw [ofBigEndian_append_singleton, List.length_append, List.length_singleton, bigEndian]
    have byte := b.toNat_lt
    have quotient : (ofBigEndian bytes * 256 + b.toNat) / 256 = ofBigEndian bytes := by omega
    have remainder : UInt8.ofNat (ofBigEndian bytes * 256 + b.toNat) = b := by
      rw [← UInt8.toNat_inj, UInt8.toNat_ofNat']
      omega
    rw [quotient, remainder, ih]

theorem reads_bigEndian (k n : Nat) (field : String) :
    Reads (Reader.take k field) (bigEndian k n) (bigEndian k n) := by
  have reads := reads_take (bigEndian k n) field
  rwa [length_bigEndian] at reads

theorem reads_writeInt32 (n : Int32) (field : String) :
    Reads (readInt32 field) (writeInt32 n) n := by
  have reads := (reads_bigEndian 4 n.toUInt32.toNat field).map
    fun bytes => (UInt32.ofNat (ofBigEndian bytes)).toInt32
  rwa [ofBigEndian_bigEndian n.toUInt32.toNat_lt, UInt32.ofNat_toNat] at reads

theorem reads_writeInt64 (n : Int64) (field : String) :
    Reads (readInt64 field) (writeInt64 n) n := by
  have reads := (reads_bigEndian 8 n.toUInt64.toNat field).map
    fun bytes => (UInt64.ofNat (ofBigEndian bytes)).toInt64
  rwa [ofBigEndian_bigEndian n.toUInt64.toNat_lt, UInt64.ofNat_toNat] at reads

theorem reads_writeDouble (d : Double) (field : String) :
    Reads (readDouble field) (writeDouble d) d := by
  have reads := (reads_bigEndian 8 d.bits.toNat field).map
    fun bytes => (⟨UInt64.ofNat (ofBigEndian bytes)⟩ : Double)
  rwa [ofBigEndian_bigEndian d.bits.toNat_lt, UInt64.ofNat_toNat] at reads

/-! ## Lengths -/

theorem written_writeLength {length max : Nat} (field : String) (small : max ≤ maxLength) :
    Written (writeLength length max field) ↔ length ≤ max := by
  unfold writeLength
  split
  · next fits => exact iff_of_true (written_ok _) fits.1
  · next fails =>
    exact iff_of_false (not_written_error _) fun fits => fails ⟨fits, Nat.le_trans fits small⟩

theorem writeLength_of_gt {length max : Nat} (field : String) (long : max < length) :
    writeLength length max field =
      .error (.invalidLength (min length 9223372036854775807 : Nat) max field) := by
  have fails : ¬ (length ≤ max ∧ length ≤ maxLength) := fun fits => Nat.not_le.mpr long fits.1
  rw [writeLength, if_neg fails]

theorem reads_writeLength {length max : Nat} {field : String} {bytes : Bytes}
    (written : writeLength length max field = .ok bytes) :
    Reads (readLength max field) bytes length := by
  unfold writeLength at written
  split at written
  · next fits =>
    cases written
    have number : (UInt32.ofNat length).toInt32.toInt = length :=
      Int32.toInt_ofNat_of_lt (Nat.lt_succ_of_le fits.2)
    have inRange : (0 : Int) ≤ length ∧ (length : Int) ≤ max :=
      ⟨Int.natCast_nonneg length, Int.ofNat_le.mpr fits.1⟩
    intro rest
    rw [readLength, Reader.bind_apply, Varint.reads_write32]
    simp only [number, if_pos inRange]
    rfl
  · cases written

/-! ## Texts and locations -/

theorem written_writeText (s field : String) :
    Written (writeText s field) ↔ s.utf8ByteSize ≤ maxTextBytes :=
  (written_map _).trans (written_writeLength field (by decide))

theorem length_utf8 (s : String) : (utf8 s).length = s.utf8ByteSize := rfl

theorem fromUTF8?_utf8 (s : String) : String.fromUTF8? ⟨(utf8 s).toArray⟩ = some s := by
  have valid : ByteArray.IsValidUTF8 ⟨(utf8 s).toArray⟩ := s.isValidUTF8
  rw [String.fromUTF8?, dif_pos valid]
  rfl

theorem utf8_of_fromUTF8? {bytes : Bytes} {s : String}
    (decoded : String.fromUTF8? ⟨bytes.toArray⟩ = some s) : utf8 s = bytes := by
  unfold String.fromUTF8? at decoded
  split at decoded
  · cases decoded
    rfl
  · cases decoded

theorem reads_writeText {s field : String} {bytes : Bytes}
    (written : writeText s field = .ok bytes) : Reads (readText field) bytes s := by
  obtain ⟨length, first, same⟩ := bind_eq_ok.mp written
  cases same
  refine (reads_writeLength first).bind ?_
  -- The length that was read is the length of the bytes to be taken.
  rw [← length_utf8]
  intro rest
  rw [Reader.bind_apply, reads_take]
  simp only [fromUTF8?_utf8]
  rfl

theorem written_writeLocation (l : Location) :
    Written (writeLocation l) ↔ l.partition.utf8ByteSize ≤ maxTextBytes :=
  (written_map _).trans (written_writeText _ _)

theorem reads_writeLocation {l : Location} {bytes : Bytes} (written : writeLocation l = .ok bytes) :
    Reads readLocation bytes l := by
  obtain ⟨name, first, same⟩ := bind_eq_ok.mp written
  cases same
  rw [List.append_assoc, List.append_assoc]
  exact (reads_writeText first).bind ((reads_writeInt32 l.block.x _).bind
    ((reads_writeInt32 l.block.y _).bind ((reads_writeInt32 l.block.z _).map _)))

/-! ## Ticks -/

/-- What a reader makes of a tick. -/
def carried (tick : Option Int64) : Option Int64 := tick.filter (· ≠ -1)

theorem carried_eq (tick : Option Int64) :
    carried tick = if tick = some (-1) then none else tick := by
  cases tick with
  | none => rfl
  | some tick => by_cases absent : tick = -1 <;> simp [carried, absent]

theorem written_writeTick (tick : Option Int64) :
    Written (writeTick tick) ↔ tick ≠ some Int64.maxValue := by
  cases tick with
  | none => exact iff_of_true (written_ok _) nofun
  | some tick =>
    rw [writeTick, ne_eq, Option.some_inj]
    split
    · next last => exact iff_of_false (not_written_error _) fun h => h last
    · next other => exact iff_of_true (written_ok _) other

theorem reads_writeTick {tick : Option Int64} {bytes : Bytes} (field : String)
    (written : writeTick tick = .ok bytes) : Reads (readTick field) bytes (carried tick) := by
  cases tick with
  | none =>
    cases written
    exact (Varint.reads_write64 0 field).map fun _ => none
  | some tick =>
    rw [writeTick] at written
    split at written
    · cases written
    · next other =>
      cases written
      intro rest
      rw [readTick, Reader.bind_apply, Varint.reads_write64]
      by_cases absent : tick = -1
      · subst absent
        rfl
      · -- A tick is written one higher, with zero for an absent one.
        have back : tick = tick + 1 - 1 := (Int64.add_sub_cancel tick 1).symm
        have shifted : tick + 1 ≠ 0 := by
          intro zero
          rw [zero] at back
          exact absent back
        have notLeast : tick + 1 ≠ Int64.minValue := by
          intro least
          rw [least] at back
          exact other back
        have kept : carried (some tick) = some tick := by simp [carried, absent]
        simp only [if_neg shifted, if_neg notLeast, Int64.add_sub_cancel, kept]
        rfl

end ObservationFeed.Wire
