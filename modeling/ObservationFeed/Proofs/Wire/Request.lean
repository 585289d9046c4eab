import ObservationFeed.Wire.Request
import ObservationFeed.Proofs.Wire.Field

/-!
# Requests read back

A request that is written reads back as it was, except for a client tick of
minus one.  It cannot be written if the name of its partition is too long, or
else if its client tick is the largest number.
-/

namespace ObservationFeed

/-- What a reader makes of a request. -/
def Request.carried (r : Request) : Request := { r with clientTick := Wire.carried r.clientTick }

namespace Wire

/-- An interval as it stands in a request. -/
def writeInterval (every : Interval) : Bytes := Varint.write32 (UInt32.ofNat every.ticks).toInt32

theorem reads_writeInterval (every : Interval) :
    Reads readInterval (writeInterval every) every := by
  have number : (UInt32.ofNat every.ticks).toInt32.toInt = every.ticks := by
    apply Int32.toInt_ofNat_of_lt
    exact Nat.lt_of_le_of_lt every.le_max (by decide)
  intro rest
  rw [readInterval, Reader.bind_apply, writeInterval, Varint.reads_write32]
  simp only [number, if_pos (Int.natCast_nonneg _), Int.toNat_natCast, Interval.ofNat?_ticks]
  rfl

theorem reads_writeKind (kind : RequestKind) : Reads readKind (writeKind kind) kind := by
  cases kind with
  | stop => exact (reads_byte 0 _).bind (reads_pure _)
  | single => exact (reads_byte 1 _).bind (reads_pure _)
  | keepalive every => exact (reads_byte 2 _).bind ((reads_writeInterval every).map _)
  | start every => exact (reads_byte 3 _).bind ((reads_writeInterval every).map _)

theorem reads_writeRequest {r : Request} {bytes : Bytes} (written : writeRequest r = .ok bytes) :
    Reads readRequest bytes r.carried := by
  obtain ⟨location, first, written⟩ := bind_eq_ok.mp written
  obtain ⟨tick, second, same⟩ := bind_eq_ok.mp written
  cases same
  rw [List.append_assoc]
  exact (reads_writeLocation first).bind ((reads_writeKind r.kind).bind
    ((reads_writeTick _ second).map _))

theorem written_writeRequest (r : Request) :
    Written (writeRequest r) ↔
      r.location.partition.utf8ByteSize ≤ maxTextBytes ∧ r.clientTick ≠ some Int64.maxValue := by
  have tick (location : Bytes) : Written (writeTick r.clientTick >>= fun tick =>
      pure (location ++ writeKind r.kind ++ tick)) ↔ r.clientTick ≠ some Int64.maxValue :=
    (written_map _).trans (written_writeTick r.clientTick)
  rw [writeRequest, written_bind tick, written_writeLocation]

theorem writeRequest_of_long {r : Request}
    (long : maxTextBytes < r.location.partition.utf8ByteSize) :
    ∃ length, writeRequest r = .error (.invalidLength length maxTextBytes "partition") := by
  have fault := writeLength_of_gt "partition" long
  exact ⟨_, by rw [writeRequest, writeLocation, writeText, fault]; rfl⟩

theorem writeRequest_of_last_tick {r : Request}
    (short : r.location.partition.utf8ByteSize ≤ maxTextBytes)
    (last : r.clientTick = some Int64.maxValue) :
    writeRequest r = .error (.tickOutOfRange Int64.maxValue) := by
  obtain ⟨location, written⟩ := (written_writeLocation r.location).mpr short
  rw [writeRequest, written, last]
  rfl

/-- Requests that are carried as the same one differ in nothing but a tick that is not carried. -/
theorem eq_of_carried_eq {r r' : Request} (same : r.carried = r'.carried) :
    r' = r ∨ (r.clientTick = some (-1) ∧ r' = { r with clientTick := none }) ∨
      (r.clientTick = none ∧ r' = { r with clientTick := some (-1) }) := by
  obtain ⟨location, kind, tick⟩ := r
  obtain ⟨location', kind', tick'⟩ := r'
  simp only [Request.carried, carried_eq, Request.mk.injEq] at same
  obtain ⟨rfl, rfl, same⟩ := same
  grind

/-- What becomes of a request that is written: its fault, or bytes that read back as it was but for
a tick of minus one; and which requests become the same bytes. -/
theorem writeRequest_round_trip (r : Request) :
    ((∃ length max field, writeRequest r = .error (.invalidLength length max field)) ↔
        maxTextBytes < r.location.partition.utf8ByteSize) ∧
      ((∃ tick, writeRequest r = .error (.tickOutOfRange tick)) ↔
        r.location.partition.utf8ByteSize ≤ maxTextBytes ∧
          r.clientTick = some Int64.maxValue) ∧
      ((∃ bytes, writeRequest r = .ok bytes) ↔
        r.location.partition.utf8ByteSize ≤ maxTextBytes ∧
          r.clientTick ≠ some Int64.maxValue) ∧
      ∀ bytes, writeRequest r = .ok bytes →
        (∀ rest, readRequest (bytes ++ rest) =
          (.ok { r with clientTick := if r.clientTick = some (-1) then none else r.clientTick },
            rest)) ∧
        ∀ r', writeRequest r' = .ok bytes →
          r' = r ∨ (r.clientTick = some (-1) ∧ r' = { r with clientTick := none }) ∨
            (r.clientTick = none ∧ r' = { r with clientTick := some (-1) }) := by
  -- A request is too long, or else has the last tick, or else is written.
  have outcome : (maxTextBytes < r.location.partition.utf8ByteSize ∧
        ∃ length, writeRequest r = .error (.invalidLength length maxTextBytes "partition")) ∨
      (r.location.partition.utf8ByteSize ≤ maxTextBytes ∧ r.clientTick = some Int64.maxValue ∧
        writeRequest r = .error (.tickOutOfRange Int64.maxValue)) ∨
      (r.location.partition.utf8ByteSize ≤ maxTextBytes ∧ r.clientTick ≠ some Int64.maxValue ∧
        ∃ bytes, writeRequest r = .ok bytes) := by
    rcases Nat.lt_or_ge maxTextBytes r.location.partition.utf8ByteSize with long | short
    · exact .inl ⟨long, writeRequest_of_long long⟩
    · by_cases last : r.clientTick = some Int64.maxValue
      · exact .inr (.inl ⟨short, last, writeRequest_of_last_tick short last⟩)
      · exact .inr (.inr ⟨short, last, (written_writeRequest r).mpr ⟨short, last⟩⟩)
  refine ⟨?_, ?_, written_writeRequest r, ?_⟩
  · grind
  · grind
  · intro bytes written
    constructor
    · have reads := reads_writeRequest written
      rwa [Request.carried, carried_eq] at reads
    · intro r' written'
      have same := (reads_writeRequest written).exactly.symm.trans
        (reads_writeRequest written').exactly
      exact eq_of_carried_eq (Except.ok.inj same)

/-- The longest interval, asked for at the least tick, and one request more under each of the two
ticks that are special: one is not carried, the other cannot be written. -/
theorem writeRequest_round_trip_special_ticks :
    let every : Interval := ⟨72000, by decide, by decide⟩
    let r : Request := ⟨⟨"w", ⟨-1, 64, -2147483648⟩⟩, .start every, some Int64.minValue⟩
    (∃ bytes, writeRequest r = .ok bytes ∧
        ∀ rest, readRequest (bytes ++ rest) = (.ok r, rest)) ∧
      (∃ bytes, writeRequest { r with clientTick := some (-1) } = .ok bytes ∧
        ∀ rest, readRequest (bytes ++ rest) = (.ok { r with clientTick := none }, rest)) ∧
      ∃ tick, writeRequest { r with clientTick := some Int64.maxValue } =
        .error (.tickOutOfRange tick) := by
  intro every r
  obtain ⟨-, -, written, reads⟩ := writeRequest_round_trip r
  obtain ⟨-, -, written', reads'⟩ := writeRequest_round_trip { r with clientTick := some (-1) }
  obtain ⟨-, last, -, -⟩ :=
    writeRequest_round_trip { r with clientTick := some Int64.maxValue }
  obtain ⟨bytes, run⟩ := written.mpr ⟨by decide, by decide⟩
  obtain ⟨bytes', run'⟩ := written'.mpr ⟨by decide, by decide⟩
  exact ⟨⟨bytes, run, (reads bytes run).1⟩, ⟨bytes', run', (reads' bytes' run').1⟩,
    last.mpr ⟨by decide, rfl⟩⟩

end Wire

end ObservationFeed
