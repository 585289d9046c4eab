import ObservationFeed.Wire.Request
import ObservationFeed.Proofs.Wire.Consumption

/-!
# Reading from a buffer that grows

A receiver may have only the front of a message, or more than one message.
What a reader makes of a buffer is settled by the bytes it used: bytes after
them change nothing, and before the last of them has come the only fault is
that the bytes end.  A fault of any other kind is final.

`Streams` says this of one reader.  It composes along `>>=`, so that each
reader has it from the readers it is made of.
-/

namespace ObservationFeed.Wire

variable {α β σ : Type}

/-- The reader finds that the bytes end inside a field. -/
def Starves (r : Reader α) (bytes : Bytes) : Prop :=
  ∃ field left, r bytes = (.error (.unexpectedEnd field), left)

/-- The outcome depends on the bytes that were used and on no others. -/
structure Streams (r : Reader α) : Prop where
  /-- A value comes from the same bytes whatever follows them, and from no fewer of them. -/
  value : ∀ bytes a rest, r bytes = (.ok a, rest) → ∃ used, bytes = used ++ rest ∧
    Reads r used a ∧ ∀ k < used.length, Starves r (used.take k)
  /-- A fault other than the end of the bytes stays whatever follows. -/
  fault : ∀ bytes e left, r bytes = (.error e, left) → (∀ field, e ≠ .unexpectedEnd field) →
    ∀ more, r (bytes ++ more) = (.error e, left ++ more)

/-! ## Putting readers together -/

theorem streams_pure (a : α) : Streams (pure a : Reader α) where
  value := by
    intro bytes b rest run
    cases run
    exact ⟨[], rfl, reads_pure a, fun k few => absurd few (Nat.not_lt_zero k)⟩
  fault := by
    intro bytes e left run
    cases run

theorem streams_fail (e : Error) : Streams (Reader.fail e : Reader α) where
  value := by
    intro bytes a rest run
    cases run
  fault := by
    intro bytes e' left run _ more
    cases run
    rfl

theorem Starves.bind {r : Reader α} {bytes : Bytes} (starves : Starves r bytes)
    (f : α → Reader β) : Starves (r >>= f) bytes := by
  obtain ⟨field, left, run⟩ := starves
  refine ⟨field, left, ?_⟩
  rw [Reader.bind_apply, run]

theorem Streams.bind {r : Reader α} {f : α → Reader β} (first : Streams r)
    (second : ∀ a, Streams (f a)) : Streams (r >>= f) where
  value := by
    intro bytes b rest run
    rw [Reader.bind_apply] at run
    split at run
    · next a middle here =>
      obtain ⟨front, split, reads, short⟩ := first.value bytes a middle here
      obtain ⟨back, split', reads', short'⟩ := (second a).value middle b rest run
      subst split split'
      refine ⟨front ++ back, (List.append_assoc ..).symm, reads.bind reads', ?_⟩
      intro k few
      rw [List.length_append] at few
      rw [List.take_append]
      -- The cut is in the part of the first reader, or at its end or later.
      rcases Nat.lt_or_ge k front.length with inside | past
      · rw [Nat.sub_eq_zero_of_le (Nat.le_of_lt inside), List.take_zero, List.append_nil]
        exact (short k inside).bind f
      · obtain ⟨field, left, run'⟩ := short' (k - front.length) (by omega)
        refine ⟨field, left, ?_⟩
        rw [List.take_of_length_le past, Reader.bind_apply, reads]
        exact run'
    · cases run
  fault := by
    intro bytes e left run other more
    rw [Reader.bind_apply] at run
    split at run
    · next a middle here =>
      obtain ⟨front, split, reads, _⟩ := first.value bytes a middle here
      subst split
      rw [Reader.bind_apply, List.append_assoc, reads]
      exact (second a).fault middle e left run other more
    · next e' _ here =>
      cases run
      rw [Reader.bind_apply, first.fault bytes e left here other more]

/-- The last step of a reader, which reads nothing more. -/
theorem Streams.map {r : Reader α} (streams : Streams r) (f : α → β) :
    Streams (r >>= fun a => pure (f a)) :=
  streams.bind fun a => streams_pure (f a)

theorem streams_ite {p : Prop} [Decidable p] {r s : Reader α} (yes : Streams r)
    (no : Streams s) : Streams (if p then r else s) := by
  split
  · exact yes
  · exact no

theorem streams_byte (field : String) : Streams (Reader.byte field) where
  value := by
    intro bytes b rest run
    cases bytes with
    | nil => cases run
    | cons b' bytes =>
      cases run
      refine ⟨[b], rfl, reads_byte b field, ?_⟩
      intro k few
      rw [Nat.lt_one_iff.mp few]
      exact ⟨field, [], rfl⟩
  fault := by
    intro bytes e left run other
    cases bytes with
    | nil =>
      cases run
      exact absurd rfl (other field)
    | cons b bytes => cases run

theorem split_eq_none {n : Nat} {bytes : Bytes} (few : bytes.length < n) :
    Reader.split n bytes = none := by
  cases split : Reader.split n bytes with
  | none => rfl
  | some parts =>
    obtain ⟨joined, length⟩ := split_eq_some split
    rw [joined, List.length_append] at few
    omega

theorem streams_take (n : Nat) (field : String) : Streams (Reader.take n field) where
  value := by
    intro bytes front rest run
    unfold Reader.take at run
    split at run
    · next split =>
      cases run
      obtain ⟨joined, length⟩ := split_eq_some split
      subst length
      refine ⟨front, joined, reads_take front field, ?_⟩
      intro k few
      refine ⟨field, front.take k, ?_⟩
      rw [Reader.take, split_eq_none (Nat.lt_of_le_of_lt (List.length_take_le k front) few)]
    · cases run
  fault := by
    intro bytes e left run other
    unfold Reader.take at run
    split at run
    · cases run
    · cases run
      exact absurd rfl (other field)

/-- Every round of a repeated step streams, and so do all of them, by induction on their number. -/
theorem streams_repeated {step : σ → Reader σ} (each : ∀ s, Streams (step s)) (times : Nat)
    (s : σ) : Streams (Reader.repeated step times s) := by
  induction times generalizing s with
  | zero => exact streams_pure s
  | succ times ih =>
    rw [repeated_succ]
    exact (each s).bind ih

/-! ## Fields -/

/-- One byte, and if it announces another group, the groups after it: the recursion is on the
number of groups that may still come. -/
theorem streams_readGroups (limit : Nat) (field : String) (k : Nat) :
    Streams (Varint.readGroups limit field k) := by
  induction k with
  | zero => exact streams_fail (.varintTooLong limit)
  | succ k ih =>
    rw [Varint.readGroups_succ]
    exact (streams_byte field).bind fun b => streams_ite (streams_pure _) (ih.map _)

theorem streams_read32 (field : String) : Streams (Varint.read32 field) :=
  (streams_readGroups Varint.maxBytes32 field Varint.maxBytes32).map _

theorem streams_read64 (field : String) : Streams (Varint.read64 field) :=
  (streams_readGroups Varint.maxBytes64 field Varint.maxBytes64).map _

theorem streams_readInt32 (field : String) : Streams (readInt32 field) :=
  (streams_take 4 field).map _

theorem streams_readInt64 (field : String) : Streams (readInt64 field) :=
  (streams_take 8 field).map _

theorem streams_readDouble (field : String) : Streams (readDouble field) :=
  (streams_take 8 field).map _

theorem streams_readLength (max : Nat) (field : String) : Streams (readLength max field) :=
  (streams_read32 field).bind fun _ => streams_ite (streams_pure _) (streams_fail _)

theorem streams_readText (field : String) : Streams (readText field) := by
  apply (streams_readLength maxTextBytes field).bind
  intro length
  apply (streams_take length field).bind
  intro bytes
  split
  · exact streams_pure _
  · exact streams_fail _

theorem streams_readLocation : Streams readLocation :=
  (streams_readText "partition").bind fun _ => (streams_readInt32 "block x").bind fun _ =>
    (streams_readInt32 "block y").bind fun _ => (streams_readInt32 "block z").map _

theorem streams_readTick (field : String) : Streams (readTick field) :=
  (streams_read64 field).bind fun _ =>
    streams_ite (streams_pure _) (streams_ite (streams_fail _) (streams_pure _))

/-! ## Requests -/

theorem streams_readInterval : Streams readInterval := by
  apply (streams_read32 "tick interval").bind
  intro n
  split
  · exact streams_pure _
  · exact streams_fail _

theorem streams_readKind : Streams readKind :=
  (streams_byte "request type").bind fun _ =>
    streams_ite (streams_pure _) <| streams_ite (streams_pure _) <|
      streams_ite (streams_readInterval.map _) <|
        streams_ite (streams_readInterval.map _) (streams_fail _)

theorem streams_readRequest : Streams readRequest :=
  streams_readLocation.bind fun _ => streams_readKind.bind fun _ =>
    (streams_readTick "client_tick").map _

/-! ## Responses -/

theorem streams_readCounted {step : σ → Reader σ} (each : ∀ s, Streams (step s))
    (field : String) (start : σ) : Streams (readCounted step field start) :=
  (streams_readLength maxEntries field).bind fun count => streams_repeated each count start

theorem streams_readAttribute : Streams readAttribute :=
  (streams_readText "attribute key").bind fun _ => (streams_byte "attribute tag").bind fun _ =>
    streams_ite ((streams_readText "attribute text").map _) <|
      streams_ite ((streams_readInt64 "attribute long").map _) <|
        streams_ite ((streams_byte "attribute bool").map _) (streams_fail _)

theorem streams_readAttributes : Streams readAttributes :=
  (streams_readCounted (fun _ => streams_readAttribute.map _) "attribute count" []).map _

theorem streams_readFlagged {read : Reader α} (streams : Streams read) (flag : Bool) :
    Streams (readFlagged flag read) :=
  streams_ite (streams.map _) (streams_pure _)

theorem streams_readPoint : Streams readPoint := by
  apply (streams_byte "point flags").bind
  intro flags
  apply (streams_readFlagged (streams_readInt64 "point long") _).bind
  intro long
  apply (streams_readFlagged (streams_readDouble "point double") _).bind
  intro double
  split
  · exact streams_pure _
  · exact streams_fail _

theorem streams_readEntry (points : Points) : Streams (readEntry points) :=
  streams_readAttributes.bind fun _ => streams_readPoint.map _

theorem streams_readSource (sources : SortedMap SourceKey Points) :
    Streams (readSource sources) :=
  (streams_readText "source name").bind fun _ => (streams_byte "source slot").bind fun _ =>
    (streams_readCounted streams_readEntry "point count" .empty).map _

theorem streams_readSnapshot : Streams readSnapshot :=
  (streams_readCounted streams_readSource "source count" .empty).map _

theorem streams_readResponse : Streams readResponse :=
  streams_readLocation.bind fun _ => streams_readSnapshot.bind fun _ =>
    (streams_readTick "server_tick").map _

/-! ## Messages -/

/-- Requests and responses can be read from a buffer as it fills up. -/
theorem read_streams : Streams readRequest ∧ Streams readResponse :=
  ⟨streams_readRequest, streams_readResponse⟩

/-- A request for a single observation, whole and then without its last byte, and one whose tag is
unknown. -/
theorem read_streams_of_single :
    let place : Bytes := [1, 119, 0, 0, 0, 0, 0, 0, 0, 64, 0, 0, 0, 0]
    let single : Request := ⟨⟨"w", ⟨0, 64, 0⟩⟩, .single, some 127⟩
    readRequest (place ++ [1, 128, 1] ++ [9]) = (.ok single, [9]) ∧
      Starves readRequest (place ++ [1, 128]) ∧
      ∀ more, readRequest (place ++ [4] ++ more) = (.error (.unknownRequestTag 4), more) := by
  intro place single
  have run : readRequest (place ++ [1, 128, 1] ++ [9]) = (.ok single, [9]) := by rfl
  have refused : readRequest (place ++ [4]) = (.error (.unknownRequestTag 4), []) := by rfl
  obtain ⟨used, split, _, short⟩ := read_streams.1.value _ single [9] run
  have same : place ++ [1, 128, 1] = used := List.append_cancel_right split
  refine ⟨run, ?_, ?_⟩
  · subst same
    exact short 16 (by decide)
  · exact read_streams.1.fault _ _ [] refused nofun

end ObservationFeed.Wire
