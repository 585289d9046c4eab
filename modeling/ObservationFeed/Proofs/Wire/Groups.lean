import Mathlib.Algebra.BigOperators.Fin
import ObservationFeed.Proofs.Wire.Varint

/-!
# Groups of seven bits

What bytes stand for as groups of seven bits is said here by a sum, and by masks and shifts on words
of a fixed width.  The writer and the reader of numbers agree with both: the writer gives the fewest
groups for the bits of a number, and the reader makes of any bytes what the sum over their groups
says, or fails where no byte ends the number.

`terminated_groups` and `groups_shortest` are about the writer, by induction on the groups that may
still come and on the bytes of another writer; `readGroups_eq` is about the reader.
-/

namespace ObservationFeed.Wire.Varint

open scoped BigOperators

/-! ## Groups of seven bits -/

/-- Bytes that announce another one by their top bit, and a last byte that does not. -/
inductive Terminated : Bytes → Prop where
  | last {b : UInt8} (ending : b &&& 0x80 = 0) : Terminated [b]
  | more {b : UInt8} {bytes : Bytes} (announcing : b &&& 0x80 ≠ 0) (rest : Terminated bytes) :
    Terminated (b :: bytes)

/-- The number whose groups are the lower seven bits of each byte, the lowest group first. -/
def value (bytes : Bytes) : Nat :=
  ∑ i : Fin bytes.length, (bytes[i] &&& 0x7f).toNat * 2 ^ (7 * (i : Nat))

theorem toNat_low (b : UInt8) : (b &&& 0x7f).toNat = b.toNat % 128 := by
  rw [UInt8.toNat_and]
  exact Nat.and_two_pow_sub_one_eq_mod b.toNat 7

theorem ends_iff (b : UInt8) : b &&& 0x80 = 0 ↔ b < 128 := by
  -- No arithmetic lemma knows a mask of one high bit, and there are only so many bytes.
  have bits : ∀ n < 256, n &&& 128 = 0 ↔ n < 128 := by decide +kernel
  rw [← UInt8.toNat_inj, UInt8.lt_iff_toNat_lt, UInt8.toNat_and]
  exact bits b.toNat b.toNat_lt

@[simp] theorem value_nil : value [] = 0 := rfl

@[simp] theorem value_cons (b : UInt8) (bytes : Bytes) :
    value (b :: bytes) = b.toNat % 128 + 128 * value bytes := by
  have shifted (i : Fin bytes.length) : (bytes[i] &&& 0x7f).toNat * 2 ^ (7 * ((i : Nat) + 1)) =
      128 * ((bytes[i] &&& 0x7f).toNat * 2 ^ (7 * (i : Nat))) := by
    rw [Nat.mul_succ, Nat.pow_add, ← Nat.mul_assoc, Nat.mul_comm]
  calc value (b :: bytes)
      = (b &&& 0x7f).toNat * 2 ^ 0 +
          ∑ i : Fin bytes.length, (bytes[i] &&& 0x7f).toNat * 2 ^ (7 * ((i : Nat) + 1)) :=
        Fin.sum_univ_succ fun i : Fin (bytes.length + 1) =>
          ((b :: bytes)[i] &&& 0x7f).toNat * 2 ^ (7 * (i : Nat))
    _ = b.toNat % 128 + 128 * value bytes := by
      simp only [shifted, value, Finset.mul_sum, toNat_low b, Nat.pow_zero, Nat.mul_one]

/-! ## Writing -/

theorem terminated_groups {k n : Nat} (some : 0 < k) (fits : n < 128 ^ k) :
    Terminated (groups k n) ∧ value (groups k n) = n := by
  induction k generalizing n with
  | zero => cases some
  | succ k ih =>
    rw [groups]
    split
    · next last =>
      refine ⟨.last ((ends_iff _).mpr (last_lt last)), ?_⟩
      rw [value_cons, value_nil, toNat_last last]
      omega
    · next more =>
      have left := left_of_more fits more
      rw [Nat.pow_succ] at fits
      obtain ⟨rest, high⟩ := ih left (by omega : n / 128 < 128 ^ k)
      refine ⟨.more (mt (ends_iff _).mp (not_more_lt n)) rest, ?_⟩
      rw [value_cons, high, toNat_more]
      omega

theorem length_groups_le (k n : Nat) : (groups k n).length ≤ k := by
  induction k generalizing n with
  | zero => exact Nat.le_refl 0
  | succ k ih =>
    rw [groups]
    split
    · exact Nat.succ_le_succ (Nat.zero_le k)
    · exact Nat.succ_le_succ (ih (n / 128))

/-- A number that does not fit into `j` groups takes more of them. -/
theorem lt_length_groups {j k n : Nat} (more : j < k) (large : 128 ^ j ≤ n) :
    j < (groups k n).length := by
  induction j generalizing k n with
  | zero =>
    obtain ⟨k, rfl⟩ := Nat.exists_eq_succ_of_ne_zero (Nat.pos_iff_ne_zero.mp more)
    rw [groups]
    split <;> exact Nat.succ_pos _
  | succ j ih =>
    have left : 0 < k := Nat.zero_lt_of_lt more
    obtain ⟨k, rfl⟩ := Nat.exists_eq_succ_of_ne_zero (Nat.pos_iff_ne_zero.mp left)
    rw [Nat.pow_succ] at large
    have positive : 0 < 128 ^ j := Nat.pow_pos (by decide)
    rw [groups, if_neg (by omega)]
    exact Nat.succ_lt_succ (ih (Nat.lt_of_succ_lt_succ more) (by omega))

theorem Terminated.length_pos {bytes : Bytes} (terminated : Terminated bytes) :
    0 < bytes.length := by
  cases terminated <;> exact Nat.succ_pos _

/-- Bytes that stand for the number and are not its groups are more of them. -/
theorem groups_shortest {k n : Nat} {bytes : Bytes} (terminated : Terminated bytes)
    (same : value bytes = n) : bytes = groups k n ∨ (groups k n).length < bytes.length := by
  induction terminated generalizing k n with
  | @last b ending =>
    have small : b.toNat < 128 := UInt8.lt_iff_toNat_lt.mp ((ends_iff b).mp ending)
    rw [value_cons, value_nil] at same
    cases k with
    | zero => exact .inr Nat.one_pos
    | succ k =>
      have number : n = b.toNat := by omega
      rw [groups, if_pos (by omega), number, UInt8.ofNat_toNat]
      exact .inl rfl
  | @more b bytes announcing rest ih =>
    have large : ¬ b.toNat < 128 := fun small =>
      announcing ((ends_iff b).mpr (UInt8.lt_iff_toNat_lt.mpr small))
    have byte := b.toNat_lt
    rw [value_cons] at same
    cases k with
    | zero => exact .inr (Nat.succ_pos _)
    | succ k =>
      rw [groups]
      split
      · exact .inr (Nat.succ_lt_succ rest.length_pos)
      · -- The first group is the same, so all depends on the bytes after it.
        have low : 128 + n % 128 = b.toNat := by omega
        rw [low, UInt8.ofNat_toNat]
        rcases ih (k := k) (by omega : value bytes = n / 128) with equal | longer
        · exact .inl (congrArg (b :: ·) equal)
        · exact .inr (Nat.succ_lt_succ longer)

/-! ## Reading -/

/-- What comes of reading a number of at most `most` groups off the front of some bytes. -/
def reading {α : Type} (most : Nat) (number : Nat → α) (field : String) : Reader α := fun bytes =>
  match (bytes.take most).findIdx? fun b => b &&& 0x80 == 0 with
  | some last => (.ok (number (value (bytes.take (last + 1)))), bytes.drop (last + 1))
  | none =>
    if bytes.length < most then (.error (.unexpectedEnd field), [])
    else (.error (.varintTooLong most), bytes.drop most)

theorem readGroups_eq (limit k : Nat) (field : String) (bytes : Bytes) :
    readGroups limit field k bytes =
      match (bytes.take k).findIdx? fun b => b &&& 0x80 == 0 with
      | some last => (.ok (value (bytes.take (last + 1))), bytes.drop (last + 1))
      | none =>
        if bytes.length < k then (.error (.unexpectedEnd field), [])
        else (.error (.varintTooLong limit), bytes.drop k) := by
  -- Each byte takes one off the groups that may still come, whatever the limit in the fault says.
  induction k generalizing bytes with
  | zero => simp [readGroups]
  | succ k ih =>
    cases bytes with
    | nil => simp [readGroups]
    | cons b bytes =>
      rw [List.take_succ_cons, List.findIdx?_cons, readGroups]
      by_cases ending : b &&& 0x80 = 0
      · have small := (ends_iff b).mp ending
        have low : b.toNat % 128 = b.toNat := Nat.mod_eq_of_lt (UInt8.lt_iff_toNat_lt.mp small)
        rw [if_pos small, if_pos (beq_iff_eq.mpr ending)]
        simp [low]
      · rw [if_neg (mt (ends_iff b).mpr ending), if_neg (mt beq_iff_eq.mp ending), ih]
        cases (bytes.take k).findIdx? fun b => b &&& 0x80 == 0 with
        | some last => simp
        | none =>
          by_cases short : bytes.length < k <;> simp [short]

theorem reading_of_readGroups {α : Type} (most : Nat) (number : Nat → α) (field : String) :
    (readGroups most field most >>= fun n => pure (number n)) = reading most number field := by
  funext bytes
  rw [Reader.bind_apply, readGroups_eq, reading]
  cases (bytes.take most).findIdx? fun b => b &&& 0x80 == 0 with
  | some last => rfl
  | none =>
    by_cases short : bytes.length < most <;> simp only [short, if_true, if_false]

/-! ## Masks and shifts -/

variable {w : Nat}

/-- The lowest seven bits of a word. -/
def lowest (word : BitVec w) : UInt8 := ⟨(word &&& 0x7f#w).setWidth 8⟩

/-- A word cut into groups by a mask and shifts, until no bits are left. -/
def cut : Nat → BitVec w → Bytes
  | 0, _ => []
  | k + 1, word =>
    if word >>> 7 = 0 then [lowest word] else (lowest word ||| 0x80) :: cut k (word >>> 7)

/-- A word that groups are put into by shifts, the next of them at a given place. -/
def gather (word : BitVec w) (place : Nat) : Bytes → BitVec w
  | [] => word
  | b :: bytes =>
    gather (word ||| (b &&& 0x7f).toBitVec.setWidth w <<< (7 * place)) (place + 1) bytes

theorem toNat_mark {b : UInt8} (small : b.toNat < 128) : (b ||| 0x80).toNat = 128 + b.toNat := by
  have disjoint := Nat.two_pow_add_eq_or_of_lt (i := 7) small 1
  rw [UInt8.toNat_or, Nat.or_comm]
  exact disjoint.symm

theorem toNat_lowest (wide : 8 ≤ w) (word : BitVec w) :
    (lowest word).toNat = word.toNat % 128 := by
  have mask : 127 < 2 ^ w :=
    Nat.lt_of_lt_of_le (by decide : 127 < 2 ^ 8) (Nat.pow_le_pow_right (by decide) wide)
  change ((word &&& 0x7f#w).setWidth 8).toNat = _
  rw [BitVec.toNat_setWidth, BitVec.toNat_and, BitVec.toNat_ofNat, Nat.mod_eq_of_lt mask,
    Nat.and_two_pow_sub_one_eq_mod word.toNat 7]
  omega

theorem cut_eq (wide : 8 ≤ w) (k : Nat) (word : BitVec w) : cut k word = groups k word.toNat := by
  induction k generalizing word with
  | zero => rfl
  | succ k ih =>
    have low := toNat_lowest wide word
    have shifted : (word >>> 7).toNat = word.toNat / 128 := by
      rw [BitVec.toNat_ushiftRight, Nat.shiftRight_eq_div_pow]
    have last : word >>> 7 = 0 ↔ word.toNat < 128 := by
      rw [← BitVec.toNat_inj, shifted]
      simp
    rw [cut, groups]
    by_cases small : word.toNat < 128
    · rw [if_pos (last.mpr small), if_pos small, ← UInt8.ofNat_toNat (x := lowest word), low,
        Nat.mod_eq_of_lt small]
    · have marked := toNat_mark (b := lowest word) (by omega)
      rw [if_neg (mt last.mp small), if_neg small, ih, shifted, ← low, ← marked,
        UInt8.ofNat_toNat]

/-- A group above all bits of a word is put in as it would be added. -/
theorem or_group {x place : Nat} (below : x < 2 ^ (7 * place)) (b : UInt8) :
    (BitVec.ofNat w x ||| (b &&& 0x7f).toBitVec.setWidth w <<< (7 * place)) =
      BitVec.ofNat w (x + 2 ^ (7 * place) * (b.toNat % 128)) := by
  have group : (b &&& 0x7f).toBitVec.setWidth w = BitVec.ofNat w (b.toNat % 128) := by
    apply BitVec.eq_of_toNat_eq
    rw [BitVec.toNat_setWidth, BitVec.toNat_ofNat, ← toNat_low]
    rfl
  apply BitVec.eq_of_toNat_eq
  rw [group, BitVec.toNat_or, BitVec.toNat_shiftLeft, BitVec.toNat_ofNat, BitVec.toNat_ofNat,
    BitVec.toNat_ofNat, Nat.shiftLeft_eq, Nat.mod_mul_mod, ← Nat.or_mod_two_pow, Nat.or_comm,
    Nat.mul_comm, ← Nat.two_pow_add_eq_or_of_lt below, Nat.add_comm]

theorem gather_eq {x place : Nat} (below : x < 2 ^ (7 * place)) (bytes : Bytes) :
    gather (BitVec.ofNat w x) place bytes =
      BitVec.ofNat w (x + 2 ^ (7 * place) * value bytes) := by
  induction bytes generalizing x place with
  | nil => simp [gather]
  | cons b bytes ih =>
    have power : 2 ^ (7 * (place + 1)) = 2 ^ (7 * place) * 128 := by
      rw [Nat.mul_succ, Nat.pow_add]
    have group : b.toNat % 128 ≤ 127 := by omega
    have bound := Nat.mul_le_mul_left (2 ^ (7 * place)) group
    rw [gather, or_group below, ih (by omega), value_cons, power, Nat.mul_add, Nat.mul_assoc,
      Nat.add_assoc]

/-! ## Both widths -/

/-- How numbers of `w` bits stand in at most `most` groups of seven bits. -/
structure Codes {α : Type} (w most : Nat) (bits : α → BitVec w) (ofBits : BitVec w → α)
    (write : α → Bytes) (read : String → Reader α) : Prop where
  grouped (n : α) : Terminated (write n) ∧ value (write n) = (bits n).toNat
  shortest (n : α) (bytes : Bytes) : Terminated bytes → value bytes = (bits n).toNat →
    bytes = write n ∨ (write n).length < bytes.length
  bounded (n : α) : (write n).length ≤ most
  negative (n : α) : (bits n).toInt < 0 → (write n).length = most
  reads (field : String) : read field = reading most (fun v => ofBits (BitVec.ofNat w v)) field
  returns (n : α) (field : String) (rest : Bytes) : read field (write n ++ rest) = (.ok n, rest)
  /-- A writer comes to the same bytes by masks and shifts. -/
  cuts (n : α) : write n = cut most (bits n)
  /-- A reader comes to the same word by putting shifted groups together. -/
  gathers (bytes : Bytes) : BitVec.ofNat w (value bytes) = gather 0 0 bytes

theorem codes_of_groups {α : Type} {most : Nat} {bits : α → BitVec w} {ofBits : BitVec w → α}
    {write : α → Bytes} {read : String → Reader α} (wide : 8 ≤ w)
    (enough : 2 ^ w ≤ 128 ^ (most + 1)) (needed : 2 * 128 ^ most ≤ 2 ^ w)
    (writes : ∀ n, write n = groups (most + 1) (bits n).toNat)
    (reads : ∀ field, read field =
      readGroups (most + 1) field (most + 1) >>= fun v => pure (ofBits (BitVec.ofNat w v)))
    (back : ∀ n, ofBits (bits n) = n) : Codes w (most + 1) bits ofBits write read := by
  have fits (n : α) : (bits n).toNat < 128 ^ (most + 1) :=
    Nat.lt_of_lt_of_le (bits n).isLt enough
  constructor
  case grouped =>
    intro n
    rw [writes]
    exact terminated_groups (Nat.succ_pos most) (fits n)
  case shortest =>
    intro n bytes terminated same
    rw [writes]
    exact groups_shortest terminated same
  case bounded =>
    intro n
    rw [writes]
    exact length_groups_le ..
  case negative =>
    intro n negative
    have large : 128 ^ most ≤ (bits n).toNat := by
      have := BitVec.toInt_neg_iff.mp negative
      omega
    rw [writes]
    exact Nat.le_antisymm (length_groups_le ..) (lt_length_groups (Nat.lt_succ_self most) large)
  case reads =>
    intro field
    rw [reads, reading_of_readGroups]
  case returns =>
    intro n field
    have groups := reads_groups (most + 1) field (Nat.succ_pos most) (fits n)
    have returned := groups.map fun v => ofBits (BitVec.ofNat w v)
    rw [BitVec.ofNat_toNat, BitVec.setWidth_eq, back, ← writes, ← reads] at returned
    exact returned
  case cuts =>
    intro n
    rw [writes, cut_eq wide]
  case gathers =>
    intro bytes
    have below : 0 < 2 ^ (7 * 0) := Nat.one_pos
    have gathered := gather_eq (w := w) below bytes
    rw [Nat.mul_zero, Nat.pow_zero, Nat.one_mul, Nat.zero_add] at gathered
    exact gathered.symm

/-- Signed numbers of 32 and of 64 bits are written in the fewest groups of seven bits that hold
their bits, and read from any bytes as the sum of the groups up to the first byte that announces no
other, within five and ten bytes. -/
theorem numbers_in_fewest_groups :
    Codes 32 5 Int32.toBitVec Int32.ofBitVec write32 read32 ∧
      Codes 64 10 Int64.toBitVec Int64.ofBitVec write64 read64 := by
  constructor
  · apply codes_of_groups
    case wide => decide
    case enough => decide
    case needed => decide
    case writes => exact fun _ => rfl
    case reads => exact fun _ => rfl
    case back => exact fun _ => rfl
  · apply codes_of_groups
    case wide => decide
    case enough => decide
    case needed => decide
    case writes => exact fun _ => rfl
    case reads => exact fun _ => rfl
    case back => exact fun _ => rfl

example : read32 "length" [0xff, 0xff, 0xff, 0xff, 0x7f, 3] = (.ok (-1), [3]) := rfl

end ObservationFeed.Wire.Varint
