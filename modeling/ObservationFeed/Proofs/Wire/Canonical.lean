import Mathlib.Algebra.Group.Nat.Defs
import ObservationFeed.Proofs.Wire.Consumption
import ObservationFeed.Proofs.Wire.Request
import ObservationFeed.Proofs.Wire.Response

/-!
# What is read can be written again

Every message that a reader accepts, however its bytes came about, can be
written, in no more bytes than it was read from, and what is written reads back
as the same message.

A number takes the fewest groups that hold it, a field of fixed size its size,
and an entry that another one replaced is not written any more.  So each reader
has one fact here: it took at least as many bytes as the writer of the same
layout needs for what it read.
-/

namespace ObservationFeed

namespace Wire

/-! ## Variable-length integers -/

namespace Varint

theorem takes_readGroups (limit : Nat) (field : String) (k : Nat) :
    Takes (readGroups limit field k) fun n used => 0 < used ∧ n < 128 ^ used := by
  induction k with
  | zero =>
    intro bytes n rest run
    cases run
  | succ k ih =>
    intro bytes n rest run
    cases bytes with
    | nil => cases run
    | cons b bytes =>
      rw [readGroups] at run
      split at run
      · next last =>
        cases run
        exact ⟨[b], rfl, Nat.one_pos, UInt8.lt_iff_toNat_lt.mp last⟩
      · split at run
        · next high _ here =>
          cases run
          obtain ⟨used, split, _, bound⟩ := ih bytes high rest here
          refine ⟨b :: used, by rw [split, List.cons_append], Nat.succ_pos _, ?_⟩
          -- A group below 128 and as many more groups as the rest took.
          rw [List.length_cons, Nat.pow_succ]
          omega
        · cases run

theorem length_groups {k n used : Nat} (positive : 0 < used) (bound : n < 128 ^ used) :
    (groups k n).length ≤ used := by
  induction k generalizing n used with
  | zero => exact Nat.zero_le used
  | succ k ih =>
    rw [groups]
    split
    · exact positive
    · next many =>
      obtain ⟨used, rfl⟩ := Nat.exists_eq_succ_of_ne_zero (Nat.pos_iff_ne_zero.mp positive)
      rw [Nat.pow_succ] at bound
      have left : 0 < used := by
        rcases Nat.eq_zero_or_pos used with rfl | left
        · omega
        · exact left
      exact Nat.succ_le_succ (ih left (by omega))

theorem takes_read32 (field : String) :
    Takes (read32 field) fun n used => 0 < used ∧ n.toUInt32.toNat < 128 ^ used := by
  apply (takes_readGroups maxBytes32 field maxBytes32).map
  rintro n used ⟨positive, bound⟩
  -- Dropping the bits above the width makes the number no larger.
  have lower : (UInt32.ofNat n).toInt32.toUInt32.toNat ≤ n := by
    rw [UInt32.toUInt32_toInt32, UInt32.toNat_ofNat']
    exact Nat.mod_le ..
  exact ⟨positive, Nat.lt_of_le_of_lt lower bound⟩

theorem takes_read64 (field : String) :
    Takes (read64 field) fun n used => 0 < used ∧ (write64 n).length ≤ used := by
  apply (takes_readGroups maxBytes64 field maxBytes64).map
  rintro n used ⟨positive, bound⟩
  have lower : (UInt64.ofNat n).toInt64.toUInt64.toNat ≤ n := by
    rw [UInt64.toUInt64_toInt64, UInt64.toNat_ofNat']
    exact Nat.mod_le ..
  exact ⟨positive, length_groups positive (Nat.lt_of_le_of_lt lower bound)⟩

/-- A number no larger than one that was read takes no more bytes. -/
theorem length_write32_of_le {n : Int32} {used fewer : Nat} (positive : 0 ≤ n.toInt)
    (positive : 0 < used) (bound : n.toUInt32.toNat < 128 ^ used) (le : fewer ≤ n.toInt.toNat) :
    (write32 (UInt32.ofNat fewer).toInt32).length ≤ used := by
  apply length_groups positive
  have whole : n.toInt.toNat = n.toUInt32.toNat := by
    have bits := n.toBitVec.toInt_eq_toNat_cond
    change n.toInt = _ at bits
    change n.toInt.toNat = n.toBitVec.toNat
    have width := n.toBitVec.isLt
    split at bits <;> omega
  rw [UInt32.toUInt32_toInt32, UInt32.toNat_ofNat']
  have lower := Nat.mod_le fewer (2 ^ 32)
  omega

end Varint

/-! ## Fields -/

theorem takes_readInt32 (field : String) : Takes (readInt32 field) fun _ n => n = 4 :=
  (takes_take 4 field).map fun _ _ taken => taken.2

theorem takes_readInt64 (field : String) : Takes (readInt64 field) fun _ n => n = 8 :=
  (takes_take 8 field).map fun _ _ taken => taken.2

theorem takes_readDouble (field : String) : Takes (readDouble field) fun _ n => n = 8 :=
  (takes_take 8 field).map fun _ _ taken => taken.2

@[simp] theorem length_writeInt32 (n : Int32) : (writeInt32 n).length = 4 := length_bigEndian ..

@[simp] theorem length_writeInt64 (n : Int64) : (writeInt64 n).length = 8 := length_bigEndian ..

@[simp] theorem length_writeDouble (d : Double) : (writeDouble d).length = 8 := length_bigEndian ..

/-- A length that was read can be written, and so can every smaller one. -/
theorem takes_readLength {max : Nat} (small : max ≤ maxLength) (field : String) :
    Takes (readLength max field) fun length n =>
      ∀ fewer ≤ length, Within (writeLength fewer max field) n := by
  apply (Varint.takes_read32 field).bind
  rintro n used ⟨positive, bound⟩
  apply takes_ite
  · rintro ⟨natural, inRange⟩
    apply takes_pure
    intro fewer le
    have fits : fewer ≤ max ∧ fewer ≤ maxLength := by omega
    rw [writeLength, if_pos fits]
    exact within_ok (Varint.length_write32_of_le natural positive bound le)
  · intro _
    exact takes_fail _ _

theorem takes_readText (field : String) :
    Takes (readText field) fun s n => Within (writeText s field) n := by
  apply (takes_readLength (by decide) field).bind
  intro length n lengths
  apply (takes_take length field).bind
  rintro bytes m ⟨size, taken⟩
  split
  · next s decoded =>
    apply takes_pure
    have same := utf8_of_fromUTF8? decoded
    have bytesOf : s.utf8ByteSize = length := by rw [← length_utf8, same, size]
    rw [writeText, bytesOf]
    apply (lengths length (Nat.le_refl _)).bind
    intro front small
    apply within_pure
    rw [List.length_append, same]
    omega
  · exact takes_fail _ _

theorem takes_readLocation : Takes readLocation fun l n => Within (writeLocation l) n := by
  apply (takes_readText "partition").bind
  intro name n written
  apply (takes_readInt32 "block x").bind
  intro x _ rfl
  apply (takes_readInt32 "block y").bind
  intro y _ rfl
  apply (takes_readInt32 "block z").map
  intro z _ rfl
  apply written.bind
  intro front small
  apply within_pure
  simp only [List.length_append, length_writeInt32]
  omega

/-- A tick that was read is carried by what is written for it. -/
theorem takes_readTick (field : String) :
    Takes (readTick field) fun tick n => carried tick = tick ∧ Within (writeTick tick) n := by
  apply (Varint.takes_read64 field).bind
  rintro raw n ⟨positive, small⟩
  apply takes_ite
  · intro absent
    subst absent
    exact takes_pure ⟨rfl, within_ok small⟩
  intro present
  apply takes_ite
  · intro _
    exact takes_fail _ _
  intro other
  apply takes_pure
  have back : raw - 1 + 1 = raw := Int64.sub_add_cancel raw 1
  constructor
  · have shown : raw - 1 ≠ -1 := by
      intro last
      rw [last] at back
      exact present back.symm
    simp [carried, shown]
  · have low : raw - 1 ≠ Int64.maxValue := by
      intro most
      rw [most] at back
      exact other back.symm
    rw [writeTick, if_neg low, back]
    exact within_ok small

/-! ## Collections -/

section Counted

variable {α σ : Type} {write : α → Except Error Bytes}

/-- A collection that was read, by steps each of which adds one item and drops nothing but
items. -/
theorem takes_readCounted {step : σ → Reader σ} (view : σ → List α)
    (each : ∀ s, Takes (step s) fun s' n => ∃ a kept,
      Within (write a) n ∧ kept.Sublist (view s) ∧ (view s').Perm (a :: kept))
    {start : σ} (none : view start = []) (field : String) :
    Takes (readCounted step field start) fun s n =>
      ∀ items, (view s).Perm items → Within (writeCounted write field items) n := by
  apply (takes_readLength (by decide) field).bind
  intro count n lengths
  have round (s : σ) (count taken : Nat) (collected : Collected write (view s) count taken) :
      Takes (step s) fun s' n => Collected write (view s') (count + 1) (taken + n) := by
    apply (each s).imp
    rintro s' n ⟨a, kept, within, part, same⟩
    exact ((collected.sublist part).cons within).perm same.symm
  have begun : Collected write (view start) 0 0 := none ▸ collected_nil
  apply (takes_repeated round begun count).imp
  intro s m collected items same
  rw [Nat.zero_add, Nat.zero_add] at collected
  have all := collected.perm same
  apply (lengths items.length all.few).bind
  intro front small
  apply all.within.bind
  intro back small'
  apply within_pure
  rw [List.length_append]
  omega

/-- A map that was read, by steps each of which files one entry. -/
theorem takes_readFiled {κ ν : Type} [Ord κ] [Std.TransOrd κ] [Std.LawfulEqOrd κ]
    {write : κ × ν → Except Error Bytes} {step : SortedMap κ ν → Reader (SortedMap κ ν)}
    (each : ∀ m, Takes (step m) fun m' n => ∃ entry : κ × ν,
      m' = m.insert entry.1 entry.2 ∧ Within (write entry) n) (field : String) :
    Takes (readCounted step field .empty) fun m n =>
      Within (writeCounted write field m.toList) n := by
  have filed (m : SortedMap κ ν) : Takes (step m) fun m' n => ∃ entry kept,
      Within (write entry) n ∧ kept.Sublist m.entries ∧ m'.entries.Perm (entry :: kept) := by
    apply (each m).imp
    rintro m' n ⟨entry, same, within⟩
    subst same
    obtain ⟨kept, part, same⟩ := insertDown_perm entry.1 entry.2 m.entries
    exact ⟨entry, kept, within, part, same⟩
  apply (takes_readCounted SortedMap.entries filed rfl field).imp
  intro m n all
  exact all m.toList m.perm_toList

end Counted

/-! ## Attributes and points -/

theorem takes_readAttribute : Takes readAttribute fun a n => Within (writeAttribute a) n := by
  apply (takes_readText "attribute key").bind
  intro key n written
  apply (takes_byte "attribute tag").bind
  intro tag _ rfl
  apply takes_ite
  · intro _
    apply (takes_readText "attribute text").map
    intro value m written'
    apply written.bind
    intro front small
    apply written'.bind
    intro back small'
    apply within_pure
    rw [List.length_append, List.length_cons]
    omega
  intro _
  apply takes_ite
  · intro _
    apply (takes_readInt64 "attribute long").map
    intro value _ rfl
    apply written.bind
    intro front small
    apply within_pure
    rw [List.length_append, List.length_cons, length_writeInt64]
    omega
  intro _
  apply takes_ite
  · intro _
    apply (takes_byte "attribute bool").map
    intro value _ rfl
    apply written.bind
    intro front small
    apply within_pure
    simp only [List.length_append, List.length_cons, List.length_nil]
    omega
  · intro _
    exact takes_fail _ _

theorem takes_readAttributes :
    Takes readAttributes fun attributes n =>
      Within (writeCounted writeAttribute "attribute count" attributes) n := by
  have each (read : List Attribute) :
      Takes (readAttribute >>= fun a => pure (a :: read)) fun s n => ∃ a kept,
        Within (writeAttribute a) n ∧ kept.Sublist read ∧ s.Perm (a :: kept) :=
    takes_readAttribute.map fun a n within =>
      ⟨a, read, within, List.Sublist.refl _, List.Perm.refl _⟩
  apply (takes_readCounted id each rfl "attribute count").map
  intro backwards n all
  exact all backwards.reverse (List.reverse_perm _).symm

theorem takes_readFlagged {α : Type} {read : Reader α} {size : Nat}
    (reads : Takes read fun _ n => n = size) (flag : Bool) :
    Takes (readFlagged flag read) fun part n => n = if part.isSome then size else 0 := by
  unfold readFlagged
  apply takes_ite
  · intro _
    exact reads.map fun _ _ taken => taken
  · intro _
    exact takes_pure rfl

/-- Only the representations that a point has were read. -/
theorem takes_readPoint : Takes readPoint fun p n => (writePoint p).length ≤ n := by
  apply (takes_byte "point flags").bind
  intro flags _ rfl
  apply (takes_readFlagged (takes_readInt64 "point long") _).bind
  intro long n taken
  apply (takes_readFlagged (takes_readDouble "point double") _).bind
  intro double m taken'
  subst taken taken'
  cases long <;> cases double
  case none.none => exact takes_fail _ _
  all_goals exact takes_pure (by simp [writePoint])

theorem takes_readEntry (points : Points) :
    Takes (readEntry points) fun points' n => ∃ entry : Attributes × Point,
      points' = points.insert entry.1 entry.2 ∧ Within (writeEntry entry) n := by
  apply takes_readAttributes.bind
  intro attributes n written
  apply takes_readPoint.map
  intro point m small
  refine ⟨(attributes, point), rfl, ?_⟩
  apply written.bind
  intro front small'
  apply within_pure
  rw [List.length_append]
  exact Nat.add_le_add small' small

/-! ## Messages -/

theorem takes_readSource (sources : SortedMap SourceKey Points) :
    Takes (readSource sources) fun sources' n => ∃ source : SourceKey × Points,
      sources' = sources.insert source.1 source.2 ∧ Within (writeSource source) n := by
  apply (takes_readText "source name").bind
  intro name n written
  apply (takes_byte "source slot").bind
  intro slot _ rfl
  apply (takes_readFiled takes_readEntry "point count").map
  intro points m written'
  refine ⟨(⟨name, slot⟩, points), rfl, ?_⟩
  apply written.bind
  intro front small
  apply written'.bind
  intro back small'
  apply within_pure
  rw [List.length_append, List.length_cons]
  omega

theorem takes_readSnapshot : Takes readSnapshot fun s n => Within (writeSnapshot s) n :=
  (takes_readFiled takes_readSource "source count").map fun _ _ written => written

theorem takes_readResponse :
    Takes readResponse fun r n => r.carried = r ∧ Within (writeResponse r) n := by
  apply takes_readLocation.bind
  intro location n written
  apply takes_readSnapshot.bind
  intro snapshot m written'
  apply (takes_readTick "server_tick").map
  rintro tick k ⟨kept, written''⟩
  constructor
  · rw [Response.carried, kept]
  apply written.bind
  intro first small
  apply written'.bind
  intro second small'
  apply written''.bind
  intro third small''
  apply within_pure
  simp only [List.length_append]
  omega

theorem takes_readInterval :
    Takes readInterval fun every n => (writeInterval every).length ≤ n := by
  apply (Varint.takes_read32 "tick interval").bind
  rintro n used ⟨positive, bound⟩
  split
  · next every inRange =>
    apply takes_pure
    split at inRange
    · next natural =>
      have same := Interval.ofNat?_eq_some inRange
      exact Varint.length_write32_of_le natural positive bound (Nat.le_of_eq same)
    · cases inRange
  · exact takes_fail _ _

theorem takes_readKind : Takes readKind fun kind n => (writeKind kind).length ≤ n := by
  have withInterval {kind : Interval → RequestKind}
      (layout : ∀ every, writeKind (kind every) = (kind every).tag :: writeInterval every) :
      Takes (readInterval >>= fun every => pure (kind every)) fun kind n =>
        (writeKind kind).length ≤ 1 + n := by
    apply takes_readInterval.map
    intro every n small
    rw [layout, List.length_cons]
    omega
  apply (takes_byte "request type").bind
  intro tag _ rfl
  apply takes_ite
  · intro _
    exact takes_pure (Nat.le_refl 1)
  intro _
  apply takes_ite
  · intro _
    exact takes_pure (Nat.le_refl 1)
  intro _
  apply takes_ite
  · intro _
    exact withInterval fun _ => rfl
  intro _
  apply takes_ite
  · intro _
    exact withInterval fun _ => rfl
  · intro _
    exact takes_fail _ _

theorem takes_readRequest :
    Takes readRequest fun r n => r.carried = r ∧ Within (writeRequest r) n := by
  apply takes_readLocation.bind
  intro location n written
  apply takes_readKind.bind
  intro kind m small
  apply (takes_readTick "client_tick").map
  rintro tick k ⟨kept, written'⟩
  constructor
  · rw [Request.carried, kept]
  apply written.bind
  intro first small'
  apply written'.bind
  intro last small''
  apply within_pure
  simp only [List.length_append]
  omega

/-! ## Reading and writing again -/

/-- Whatever is read from the front of some bytes can be written in no more bytes than were used
up, and the bytes that are written read back as the same, with nothing left over. -/
def Canonicalises {α : Type} (read : Reader α) (write : α → Except Error Bytes) : Prop :=
  ∀ bytes a rest, read bytes = (.ok a, rest) →
    ∃ used out, bytes = used ++ rest ∧ write a = .ok out ∧ out.length ≤ used.length ∧
      read out = (.ok a, [])

theorem canonicalises_of_takes {α : Type} {read : Reader α} {write : α → Except Error Bytes}
    {carried : α → α} (takes : Takes read fun a n => carried a = a ∧ Within (write a) n)
    (reads : ∀ {a bytes}, write a = .ok bytes → Reads read bytes (carried a)) :
    Canonicalises read write := by
  intro bytes a rest run
  obtain ⟨used, split, kept, out, written, small⟩ := takes bytes a rest run
  refine ⟨used, out, split, written, small, ?_⟩
  have back := reads written []
  rwa [List.append_nil, kept] at back

/-- Whatever bytes a request or a response is read from, writing it again gives no more bytes, and
these are the message's own. -/
theorem read_canonicalises :
    Canonicalises readRequest writeRequest ∧ Canonicalises readResponse writeResponse :=
  ⟨canonicalises_of_takes takes_readRequest reads_writeRequest,
    canonicalises_of_takes takes_readResponse reads_writeResponse⟩

/-- A response with padded numbers, a truth value of seven, an unknown flag, a source that is named
twice and a point that is filed twice. -/
theorem read_canonicalises_of_padded :
    let name : Bytes := [129, 0, 119]
    let block : Bytes := [0, 0, 0, 0, 0, 0, 0, 64, 0, 0, 0, 0]
    let replaced : Bytes := [1, 102, 0, 0]
    let first : Bytes := [1, 1, 107, 2, 1, 1, 0, 0, 0, 0, 0, 0, 0, 8]
    let second : Bytes := [1, 1, 107, 2, 7, 5, 0, 0, 0, 0, 0, 0, 0, 9]
    let tick : Bytes := [129, 128, 0]
    let padded := name ++ block ++ 2 :: (replaced ++ [1, 102, 0, 2] ++ first ++ second) ++ tick
    let points := SortedMap.empty.insert [⟨"k", .bool true⟩] (.long 9)
    let r : Response := ⟨⟨"w", ⟨0, 64, 0⟩⟩, ⟨SortedMap.empty.insert ⟨"f", 0⟩ points⟩, some 0⟩
    readResponse (padded ++ [9]) = (.ok r, [9]) ∧
      ∃ out, writeResponse r = .ok out ∧ out.length ≤ padded.length ∧
        readResponse out = (.ok r, []) := by
  intro name block replaced first second tick padded points r
  have run : readResponse (padded ++ [9]) = (.ok r, [9]) := by rfl
  obtain ⟨used, out, split, written, small, back⟩ := read_canonicalises.2 (padded ++ [9]) r [9] run
  have same : padded = used := List.append_cancel_right split
  exact ⟨run, out, written, same ▸ small, back⟩

end Wire

end ObservationFeed
