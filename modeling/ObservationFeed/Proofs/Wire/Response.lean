import ObservationFeed.Proofs.SortedMap
import ObservationFeed.Proofs.Wire.Field

/-!
# Responses read back

A response nests four collections: sources, points, attributes and texts.  Each
level says which values can be written and that they read back, from the same
facts about the level below it.  Sources and points are filed into maps by the
reader; they come in the order of their keys, so the maps are the ones that
were written.
-/

namespace ObservationFeed

open Wire

/-! ## What can be written -/

/-- The texts of an attribute can be written. -/
def Attribute.Fits (a : Attribute) : Prop :=
  a.key.utf8ByteSize ≤ maxTextBytes ∧
    ∀ text, a.value = .text text → text.utf8ByteSize ≤ maxTextBytes

/-- An attribute tuple can be written. -/
def Attributes.Fits (attributes : Attributes) : Prop :=
  attributes.length ≤ maxEntries ∧ ∀ a ∈ attributes, a.Fits

/-- A source and its points can be written. -/
def SourceKey.Fits (key : SourceKey) (points : Points) : Prop :=
  key.name.utf8ByteSize ≤ maxTextBytes ∧ points.size ≤ maxEntries ∧
    ∀ entry ∈ points.toList, Attributes.Fits entry.1

/-- An observation can be written. -/
def Snapshot.Fits (s : Snapshot) : Prop :=
  s.sources.size ≤ maxEntries ∧ ∀ source ∈ s.sources.toList, source.1.Fits source.2

/-- A response can be written. -/
def Response.Fits (r : Response) : Prop :=
  r.location.partition.utf8ByteSize ≤ maxTextBytes ∧ r.snapshot.Fits ∧
    r.serverTick ≠ some Int64.maxValue

/-- What a reader makes of a response. -/
def Response.carried (r : Response) : Response := { r with serverTick := Wire.carried r.serverTick }

namespace Wire

/-! ## Collections -/

section Counted

variable {α σ : Type} {write : α → Except Error Bytes}

theorem written_writeCounted (field : String) (items : List α) :
    Written (writeCounted write field items) ↔
      items.length ≤ maxEntries ∧ ∀ a ∈ items, Written (write a) := by
  have elements (count : Bytes) : Written (writeAll write items >>= fun e => pure (count ++ e)) ↔
      ∀ a ∈ items, Written (write a) :=
    (written_map _).trans (written_writeAll items)
  rw [writeCounted, written_bind elements, written_writeLength field (by decide)]

theorem reads_writeCounted {step : σ → Reader σ} (file : σ → α → σ) {items : List α}
    (each : ∀ a ∈ items, ∀ bytes, write a = .ok bytes → ∀ s, Reads (step s) bytes (file s a))
    {field : String} {bytes : Bytes} (written : writeCounted write field items = .ok bytes)
    (s : σ) :
    Reads (readCounted step field s) bytes (items.foldl file s) := by
  obtain ⟨count, first, written⟩ := bind_eq_ok.mp written
  obtain ⟨elements, later, same⟩ := bind_eq_ok.mp written
  cases same
  exact (reads_writeLength first).bind (reads_repeated file each later s)

end Counted

/-! ## Attributes -/

theorem written_writeAttribute (a : Attribute) : Written (writeAttribute a) ↔ a.Fits := by
  obtain ⟨key, value⟩ := a
  rw [writeAttribute, Attribute.Fits]
  cases value with
  | text value =>
    have second (front : Bytes) : Written (writeText value "attribute text" >>= fun bytes =>
        pure (front ++ 0 :: bytes)) ↔ value.utf8ByteSize ≤ maxTextBytes :=
      (written_map _).trans (written_writeText value _)
    rw [written_bind second, written_writeText]
    simp
  | long value => rw [written_map, written_writeText]; simp
  | bool value => rw [written_map, written_writeText]; simp

theorem reads_writeAttribute {a : Attribute} {bytes : Bytes}
    (written : writeAttribute a = .ok bytes) : Reads readAttribute bytes a := by
  obtain ⟨key, value⟩ := a
  obtain ⟨front, first, written⟩ := bind_eq_ok.mp written
  cases value with
  | text value =>
    obtain ⟨back, second, same⟩ := bind_eq_ok.mp written
    cases same
    exact (reads_writeText first).bind ((reads_byte 0 _).bind ((reads_writeText second).map _))
  | long value =>
    cases written
    exact (reads_writeText first).bind ((reads_byte 1 _).bind ((reads_writeInt64 value _).map _))
  | bool value =>
    cases written
    cases value with
    | false => exact (reads_writeText first).bind ((reads_byte 2 _).bind ((reads_byte 0 _).map _))
    | true => exact (reads_writeText first).bind ((reads_byte 2 _).bind ((reads_byte 1 _).map _))

theorem written_writeAttributes (attributes : Attributes) :
    Written (writeCounted writeAttribute "attribute count" attributes) ↔
      Attributes.Fits attributes := by
  simp only [written_writeCounted, written_writeAttribute, Attributes.Fits]

theorem reads_writeAttributes {attributes : Attributes} {bytes : Bytes}
    (written : writeCounted writeAttribute "attribute count" attributes = .ok bytes) :
    Reads readAttributes bytes attributes := by
  have reads := (reads_writeCounted (fun (read : Attributes) a => a :: read)
    (fun a _ bytes wrote read => (reads_writeAttribute wrote).map fun x => x :: read)
    written []).map List.reverse
  -- The reader puts each attribute in front of those before it, and reverses them at the end.
  rwa [List.foldl_flip_cons_eq_append', List.append_nil, List.reverse_reverse] at reads

/-! ## Points -/

theorem reads_writePoint (p : Point) : Reads readPoint (writePoint p) p := by
  -- A representation without its flag takes no bytes.
  cases p with
  | long n =>
    have layout : writePoint (.long n) = [1] ++ (writeInt64 n ++ ([] ++ [])) := by simp [writePoint]
    rw [layout]
    exact (reads_byte 1 _).bind (((reads_writeInt64 n _).map some).bind
      ((reads_pure none).bind (reads_pure (Point.long n))))
  | double d =>
    have layout : writePoint (.double d) = [2] ++ ([] ++ (writeDouble d ++ [])) := by
      simp [writePoint]
    rw [layout]
    exact (reads_byte 2 _).bind ((reads_pure none).bind
      (((reads_writeDouble d _).map some).bind (reads_pure (Point.double d))))
  | both d n =>
    have layout : writePoint (.both d n) = [3] ++ (writeInt64 n ++ (writeDouble d ++ [])) := by
      simp [writePoint]
    rw [layout]
    exact (reads_byte 3 _).bind (((reads_writeInt64 n _).map some).bind
      (((reads_writeDouble d _).map some).bind (reads_pure (Point.both d n))))

theorem written_writeEntry (entry : Attributes × Point) :
    Written (writeEntry entry) ↔ Attributes.Fits entry.1 :=
  (written_map _).trans (written_writeAttributes entry.1)

theorem reads_writeEntry {entry : Attributes × Point} {bytes : Bytes}
    (written : writeEntry entry = .ok bytes) (points : Points) :
    Reads (readEntry points) bytes (points.insert entry.1 entry.2) := by
  obtain ⟨attributes, first, same⟩ := bind_eq_ok.mp written
  cases same
  exact (reads_writeAttributes first).bind ((reads_writePoint entry.2).map _)

/-! ## Sources -/

theorem written_writeSource (source : SourceKey × Points) :
    Written (writeSource source) ↔ source.1.Fits source.2 := by
  have points (name : Bytes) : Written (writeCounted writeEntry "point count" source.2.toList >>=
      fun points => pure (name ++ source.1.slot :: points)) ↔
      source.2.size ≤ maxEntries ∧ ∀ entry ∈ source.2.toList, Attributes.Fits entry.1 := by
    rw [written_map, written_writeCounted, SortedMap.length_toList]
    simp only [written_writeEntry]
  rw [writeSource, written_bind points, written_writeText, SourceKey.Fits]

theorem reads_writeSource {source : SourceKey × Points} {bytes : Bytes}
    (written : writeSource source = .ok bytes) (sources : SortedMap SourceKey Points) :
    Reads (readSource sources) bytes (sources.insert source.1 source.2) := by
  obtain ⟨name, first, written⟩ := bind_eq_ok.mp written
  obtain ⟨points, second, same⟩ := bind_eq_ok.mp written
  cases same
  have filed := reads_writeCounted (fun points entry => SortedMap.insert points entry.1 entry.2)
    (fun entry _ bytes wrote points => reads_writeEntry wrote points) second .empty
  -- The points were written in the order of their keys, so filing them gives the same map.
  have all := SortedMap.ofList_toList source.2
  rw [SortedMap.ofList] at all
  rw [all] at filed
  exact (reads_writeText first).bind ((reads_byte source.1.slot _).bind (filed.map _))

/-! ## Responses -/

theorem written_writeSnapshot (s : Snapshot) : Written (writeSnapshot s) ↔ s.Fits := by
  rw [writeSnapshot, written_writeCounted, SortedMap.length_toList, Snapshot.Fits]
  simp only [written_writeSource]

theorem reads_writeSnapshot {s : Snapshot} {bytes : Bytes} (written : writeSnapshot s = .ok bytes) :
    Reads readSnapshot bytes s := by
  have filed := reads_writeCounted
    (fun sources source => SortedMap.insert sources source.1 source.2)
    (fun source _ bytes wrote sources => reads_writeSource wrote sources) written .empty
  have all := SortedMap.ofList_toList s.sources
  rw [SortedMap.ofList] at all
  rw [all] at filed
  exact filed.map _

theorem written_writeResponse (r : Response) : Written (writeResponse r) ↔ r.Fits := by
  have tick (location snapshot : Bytes) : Written (writeTick r.serverTick >>= fun tick =>
      pure (location ++ snapshot ++ tick)) ↔ r.serverTick ≠ some Int64.maxValue :=
    (written_map _).trans (written_writeTick r.serverTick)
  have later (location : Bytes) : Written (writeSnapshot r.snapshot >>= fun snapshot =>
      writeTick r.serverTick >>= fun tick => pure (location ++ snapshot ++ tick)) ↔
      r.snapshot.Fits ∧ r.serverTick ≠ some Int64.maxValue := by
    rw [written_bind (tick location), written_writeSnapshot]
  rw [writeResponse, written_bind later, written_writeLocation, Response.Fits]

theorem reads_writeResponse {r : Response} {bytes : Bytes} (written : writeResponse r = .ok bytes) :
    Reads readResponse bytes r.carried := by
  obtain ⟨location, first, written⟩ := bind_eq_ok.mp written
  obtain ⟨snapshot, second, written⟩ := bind_eq_ok.mp written
  obtain ⟨tick, third, same⟩ := bind_eq_ok.mp written
  cases same
  rw [List.append_assoc]
  exact (reads_writeLocation first).bind ((reads_writeSnapshot second).bind
    ((reads_writeTick _ third).map _))

/-- A response is written exactly if it fits, and what is written reads back whatever follows it. -/
theorem writeResponse_round_trip (r : Response) :
    ((∃ bytes, writeResponse r = .ok bytes) ↔ r.Fits) ∧
      ∀ bytes, writeResponse r = .ok bytes →
        (∀ rest, readResponse (bytes ++ rest) = (.ok r.carried, rest)) ∧
          responseOfBytes bytes = .ok r.carried := by
  refine ⟨written_writeResponse r, fun bytes written => ?_⟩
  have reads := reads_writeResponse written
  exact ⟨reads, reads.exactly⟩

/-- A response with a point under an attribute and the one tick that is not carried. -/
theorem writeResponse_round_trip_negative_tick :
    let attributes : Attributes := [⟨"item", .text "iron_ore"⟩]
    let snapshot :=
      Snapshot.empty.record ⟨"furnace", 1⟩ attributes (.both ⟨0x3ff8000000000000⟩ (-2))
    let r : Response := ⟨⟨"overworld", ⟨-1, 64, 2⟩⟩, snapshot, some (-1)⟩
    ∃ bytes, writeResponse r = .ok bytes ∧
      (∀ rest, readResponse (bytes ++ rest) = (.ok { r with serverTick := none }, rest)) ∧
        responseOfBytes bytes = .ok { r with serverTick := none } := by
  intro attributes snapshot r
  have fits : r.Fits := by
    refine ⟨by decide, ⟨by decide, ?_⟩, by decide⟩
    intro source member
    obtain rfl := List.mem_singleton.mp member
    refine ⟨by decide, by decide, ?_⟩
    intro entry member
    obtain rfl := List.mem_singleton.mp member
    refine ⟨by decide, ?_⟩
    intro a member
    obtain rfl := List.mem_singleton.mp member
    refine ⟨by decide, ?_⟩
    rintro _ ⟨⟩
    decide
  obtain ⟨bytes, written⟩ := (writeResponse_round_trip r).1.mpr fits
  exact ⟨bytes, written, (writeResponse_round_trip r).2 bytes written⟩

end Wire

end ObservationFeed
