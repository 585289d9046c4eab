import ObservationFeed.Proofs.SortedMap
import ObservationFeed.Proofs.Wire.Consumption
import ObservationFeed.Proofs.Wire.Form

/-!
# Readers accept the layout

Each reader reads the forms of its field, whatever follows them, and nothing
else: a reader that succeeds has split a form off the front of its bytes.
`Accepts` says this of one reader.  Successful runs are taken apart by the
`run_` lemmas, one for each way to put readers together.
-/

namespace ObservationFeed.Wire

variable {α β σ φ : Type}

/-! ## Successful runs -/

@[simp] theorem run_pure {a b : α} {bytes rest : Bytes} :
    (pure a : Reader α) bytes = (.ok b, rest) ↔ a = b ∧ bytes = rest := by
  show (Except.ok a, bytes) = (Except.ok b, rest) ↔ _
  simp

@[simp] theorem run_fail {e : Error} {a : α} {bytes rest : Bytes} :
    (Reader.fail e : Reader α) bytes = (.ok a, rest) ↔ False :=
  iff_of_false nofun id

theorem run_bind {r : Reader α} {f : α → Reader β} {b : β} {bytes rest : Bytes} :
    (r >>= f) bytes = (.ok b, rest) ↔
      ∃ a middle, r bytes = (.ok a, middle) ∧ f a middle = (.ok b, rest) := by
  rw [Reader.bind_apply]
  cases run : r bytes with
  | mk outcome middle =>
    cases outcome with
    | error e => simp
    | ok a =>
      constructor
      · exact fun later => ⟨a, middle, rfl, later⟩
      · rintro ⟨a, middle, ⟨⟩, later⟩
        exact later

theorem run_byte {field : String} {b : UInt8} {bytes rest : Bytes} :
    Reader.byte field bytes = (.ok b, rest) ↔ bytes = b :: rest := by
  cases bytes <;> simp [Reader.byte]

theorem run_take {n : Nat} {field : String} {front bytes rest : Bytes} :
    Reader.take n field bytes = (.ok front, rest) ↔ bytes = front ++ rest ∧ front.length = n := by
  constructor
  · intro run
    unfold Reader.take at run
    split at run
    · next split =>
      cases run
      exact split_eq_some split
    · cases run
  · rintro ⟨rfl, rfl⟩
    exact reads_take front field rest

theorem run_ite {p : Prop} [Decidable p] {r s : Reader α} {a : α} {bytes rest : Bytes} :
    (if p then r else s) bytes = (.ok a, rest) ↔
      p ∧ r bytes = (.ok a, rest) ∨ ¬ p ∧ s bytes = (.ok a, rest) := by
  split <;> simp_all

theorem exactly_eq_ok {r : Reader α} {a : α} {bytes : Bytes} :
    Reader.exactly r bytes = .ok a ↔ r bytes = (.ok a, []) := by
  unfold Reader.exactly
  split <;> simp_all

/-- The reader takes a form off the front of its bytes and reads its value, and fails if no form
stands there. -/
def Accepts (r : Reader α) (bytes : φ → Bytes) (value : φ → α) : Prop :=
  ∀ input a rest, r input = (.ok a, rest) ↔ ∃ f, input = bytes f ++ rest ∧ value f = a

/-! ## Fields -/

/-- One byte, and if it announces another, the form of the groups after it: the recursion is on the
number of groups that may still come. -/
theorem accepts_readGroups (limit : Nat) (field : String) (k : Nat) :
    Accepts (Varint.readGroups limit field k) NumberForm.bytes (@NumberForm.number k) := by
  induction k with
  | zero =>
    intro input n rest
    exact iff_of_false nofun fun ⟨f, _⟩ => absurd f.short (Nat.not_lt_zero _)
  | succ k ih =>
    intro input n rest
    rw [Varint.readGroups_succ, run_bind]
    simp only [run_byte, run_ite, run_bind, run_pure]
    constructor
    · rintro ⟨b, middle, rfl, ⟨last, rfl, rfl⟩ | ⟨more, high, rest', later, rfl, rfl⟩⟩
      · exact ⟨⟨[], b, nofun, last, Nat.succ_pos k⟩, rfl, rfl⟩
      · obtain ⟨f, rfl, rfl⟩ := (ih _ _ _).mp later
        exact ⟨⟨b :: f.front, f.last, List.forall_mem_cons.mpr ⟨more, f.announcing⟩, f.ending,
          Nat.succ_lt_succ f.short⟩, rfl, rfl⟩
    · rintro ⟨⟨front, last, announcing, ending, short⟩, rfl, rfl⟩
      cases front with
      | nil => exact ⟨last, rest, rfl, .inl ⟨ending, rfl, rfl⟩⟩
      | cons b front =>
        obtain ⟨more, announcing⟩ := List.forall_mem_cons.mp announcing
        let f : NumberForm k := ⟨front, last, announcing, ending, Nat.lt_of_succ_lt_succ short⟩
        have later := (ih (f.bytes ++ rest) f.number rest).mpr ⟨f, rfl, rfl⟩
        exact ⟨b, f.bytes ++ rest, rfl, .inr ⟨more, f.number, rest, later, rfl, rfl⟩⟩

/-- A reader's last step turns the value of the form into another. -/
theorem Accepts.map {r : Reader α} {bytes : φ → Bytes} {value : φ → α}
    (accepts : Accepts r bytes value) (g : α → β) :
    Accepts (r >>= fun a => pure (g a)) bytes fun f => g (value f) := by
  intro input b rest
  simp only [run_bind, run_pure]
  constructor
  · rintro ⟨a, middle, run, rfl, rfl⟩
    obtain ⟨f, split, rfl⟩ := (accepts _ _ _).mp run
    exact ⟨f, split, rfl⟩
  · rintro ⟨f, split, rfl⟩
    exact ⟨value f, rest, (accepts _ _ _).mpr ⟨f, split, rfl⟩, rfl, rfl⟩

theorem accepts_read32 (field : String) :
    Accepts (Varint.read32 field) NumberForm.bytes NumberForm.int32 :=
  (accepts_readGroups _ field _).map _

theorem accepts_read64 (field : String) :
    Accepts (Varint.read64 field) NumberForm.bytes NumberForm.int64 :=
  (accepts_readGroups _ field _).map _

/-- A field of fixed size, all of whose bytes are free. -/
theorem accepts_fixed {k : Nat} {write : α → Bytes} {value : Bytes → α} (field : String)
    (size : ∀ a, (write a).length = k) (back : ∀ a, value (write a) = a)
    (again : ∀ bytes, bytes.length = k → write (value bytes) = bytes) :
    Accepts (Reader.take k field >>= fun bytes => pure (value bytes)) write id := by
  intro input a rest
  simp only [run_bind, run_take, run_pure]
  constructor
  · rintro ⟨bytes, middle, ⟨rfl, length⟩, rfl, rfl⟩
    exact ⟨value bytes, by rw [again bytes length], rfl⟩
  · rintro ⟨a, rfl, rfl⟩
    exact ⟨write a, rest, ⟨rfl, size a⟩, back a, rfl⟩

theorem accepts_readInt32 (field : String) : Accepts (readInt32 field) writeInt32 id := by
  apply accepts_fixed
  · exact fun n => length_bigEndian ..
  · intro n
    rw [writeInt32, ofBigEndian_bigEndian n.toUInt32.toNat_lt, UInt32.ofNat_toNat]
    rfl
  · intro bytes length
    have bound := ofBigEndian_lt bytes
    have whole := bigEndian_ofBigEndian bytes
    rw [length] at bound whole
    rw [writeInt32, UInt32.toUInt32_toInt32, UInt32.toNat_ofNat_of_lt' bound, whole]

theorem accepts_readInt64 (field : String) : Accepts (readInt64 field) writeInt64 id := by
  apply accepts_fixed
  · exact fun n => length_bigEndian ..
  · intro n
    rw [writeInt64, ofBigEndian_bigEndian n.toUInt64.toNat_lt, UInt64.ofNat_toNat]
    rfl
  · intro bytes length
    have bound := ofBigEndian_lt bytes
    have whole := bigEndian_ofBigEndian bytes
    rw [length] at bound whole
    rw [writeInt64, UInt64.toUInt64_toInt64, UInt64.toNat_ofNat_of_lt' bound, whole]

theorem accepts_readDouble (field : String) : Accepts (readDouble field) writeDouble id := by
  apply accepts_fixed
  · exact fun d => length_bigEndian ..
  · intro d
    rw [writeDouble, ofBigEndian_bigEndian d.bits.toNat_lt, UInt64.ofNat_toNat]
  · intro bytes length
    have bound := ofBigEndian_lt bytes
    have whole := bigEndian_ofBigEndian bytes
    rw [length] at bound whole
    rw [writeDouble, UInt64.toNat_ofNat_of_lt' bound, whole]

theorem accepts_readLength (max : Nat) (field : String) :
    Accepts (readLength max field) LengthForm.bytes (@LengthForm.length max) := by
  intro input length rest
  simp only [readLength, run_bind, run_ite, run_pure, run_fail, accepts_read32 field _ _ _]
  constructor
  · rintro ⟨n, middle, ⟨f, rfl, rfl⟩, ⟨⟨nonneg, le_max⟩, rfl, rfl⟩ | ⟨_, ⟨⟩⟩⟩
    exact ⟨⟨f, nonneg, le_max⟩, rfl, rfl⟩
  · rintro ⟨⟨f, nonneg, le_max⟩, rfl, rfl⟩
    exact ⟨f.int32, rest, ⟨f, rfl, rfl⟩, .inl ⟨⟨nonneg, le_max⟩, rfl, rfl⟩⟩

theorem accepts_readText (field : String) :
    Accepts (readText field) TextForm.bytes TextForm.text := by
  intro input text rest
  simp only [readText, run_bind, run_take, accepts_readLength _ field _ _ _]
  constructor
  · rintro ⟨_, _, ⟨length, rfl, rfl⟩, bytes, middle, ⟨rfl, measured⟩, run⟩
    cases decoded : String.fromUTF8? ⟨bytes.toArray⟩ with
    | none =>
      simp only [decoded, run_fail] at run
    | some text' =>
      simp only [decoded, run_pure] at run
      obtain ⟨rfl, rfl⟩ := run
      obtain rfl := utf8_of_fromUTF8? decoded
      exact ⟨⟨length, text', measured⟩, by rw [TextForm.bytes, List.append_assoc], rfl⟩
  · rintro ⟨⟨length, text, measured⟩, rfl, rfl⟩
    refine ⟨_, utf8 text ++ rest, ⟨length, ?_, rfl⟩, utf8 text, rest, ⟨rfl, measured⟩, ?_⟩
    · rw [TextForm.bytes, List.append_assoc]
    · simp only [fromUTF8?_utf8]
      rfl

theorem accepts_readLocation :
    Accepts readLocation LocationForm.bytes LocationForm.location := by
  intro input location rest
  simp only [readLocation, run_bind, run_pure, accepts_readText _ _ _ _,
    accepts_readInt32 _ _ _ _]
  constructor
  · rintro ⟨_, _, ⟨partition, rfl, rfl⟩, _, _, ⟨x, rfl, rfl⟩, _, _, ⟨y, rfl, rfl⟩, _, _,
      ⟨z, rfl, rfl⟩, rfl, rfl⟩
    exact ⟨⟨partition, x, y, z⟩, by simp only [LocationForm.bytes, List.append_assoc], rfl⟩
  · rintro ⟨⟨partition, x, y, z⟩, rfl, rfl⟩
    simp only [LocationForm.bytes, List.append_assoc]
    exact ⟨_, _, ⟨partition, rfl, rfl⟩, _, _, ⟨x, rfl, rfl⟩, _, _, ⟨y, rfl, rfl⟩, _, _,
      ⟨z, rfl, rfl⟩, rfl, rfl⟩

theorem accepts_readTick (field : String) :
    Accepts (readTick field) TickForm.bytes TickForm.tick := by
  intro input tick rest
  simp only [readTick, run_bind, run_ite, run_pure, run_fail, and_false, false_or,
    accepts_read64 field _ _ _]
  constructor
  · rintro ⟨n, middle, ⟨f, rfl, rfl⟩, ⟨absent, rfl, rfl⟩ | ⟨present, inRange, rfl, rfl⟩⟩
    · refine ⟨⟨f, ?_⟩, rfl, if_pos absent⟩
      rw [absent]
      decide
    · exact ⟨⟨f, inRange⟩, rfl, if_neg present⟩
  · rintro ⟨⟨f, inRange⟩, rfl, rfl⟩
    refine ⟨f.int64, rest, ⟨f, rfl, rfl⟩, ?_⟩
    by_cases absent : f.int64 = 0
    · exact .inl ⟨absent, (if_pos absent).symm, rfl⟩
    · exact .inr ⟨absent, inRange, (if_neg absent).symm, rfl⟩

/-! ## Requests -/

theorem accepts_readInterval :
    Accepts readInterval IntervalForm.bytes IntervalForm.interval := by
  intro input every rest
  simp only [readInterval, run_bind, accepts_read32 _ _ _ _]
  constructor
  · rintro ⟨n, middle, ⟨f, rfl, rfl⟩, run⟩
    by_cases nonneg : 0 ≤ f.int32.toInt
    · cases inRange : Interval.ofNat? f.int32.toInt.toNat with
      | none => simp only [if_pos nonneg, inRange, run_fail] at run
      | some every' =>
        simp only [if_pos nonneg, inRange, run_pure] at run
        obtain ⟨rfl, rfl⟩ := run
        have ticks := Interval.ofNat?_eq_some inRange
        obtain ⟨ticks', one_le, le_max⟩ := every'
        obtain rfl : ticks' = f.int32.toInt.toNat := ticks
        exact ⟨⟨f, by omega, by omega⟩, rfl, rfl⟩
    · simp only [if_neg nonneg, run_fail] at run
  · rintro ⟨f, rfl, rfl⟩
    refine ⟨f.number.int32, rest, ⟨f.number, rfl, rfl⟩, ?_⟩
    have inRange : Interval.ofNat? f.number.int32.toInt.toNat = some f.interval :=
      Interval.ofNat?_ticks f.interval
    rw [if_pos (Int.le_trans Int.one_nonneg f.one_le), inRange]
    rfl

theorem accepts_readKind : Accepts readKind KindForm.bytes KindForm.kind := by
  intro input kind rest
  simp only [readKind, run_bind, run_byte, run_ite, run_pure, run_fail, and_false, or_false,
    accepts_readInterval _ _ _]
  constructor
  · rintro ⟨tag, middle, rfl, ⟨rfl, rfl, rfl⟩ | ⟨_, ⟨rfl, rfl, rfl⟩ |
      ⟨_, ⟨rfl, _, _, ⟨every, rfl, rfl⟩, rfl, rfl⟩ | ⟨_, rfl, _, _, ⟨every, rfl, rfl⟩, rfl, rfl⟩⟩⟩⟩
    · exact ⟨.stop, rfl, rfl⟩
    · exact ⟨.single, rfl, rfl⟩
    · exact ⟨.keepalive every, rfl, rfl⟩
    · exact ⟨.start every, rfl, rfl⟩
  · rintro ⟨f, rfl, rfl⟩
    cases f with
    | stop => exact ⟨0, rest, rfl, .inl ⟨rfl, rfl, rfl⟩⟩
    | single => exact ⟨1, rest, rfl, .inr ⟨by decide, .inl ⟨rfl, rfl, rfl⟩⟩⟩
    | keepalive every =>
      exact ⟨2, every.bytes ++ rest, rfl, .inr ⟨by decide, .inr ⟨by decide, .inl
        ⟨rfl, every.interval, rest, ⟨every, rfl, rfl⟩, rfl, rfl⟩⟩⟩⟩
    | start every =>
      exact ⟨3, every.bytes ++ rest, rfl, .inr ⟨by decide, .inr ⟨by decide, .inr
        ⟨by decide, rfl, every.interval, rest, ⟨every, rfl, rfl⟩, rfl, rfl⟩⟩⟩⟩

theorem accepts_readRequest :
    Accepts readRequest RequestForm.bytes RequestForm.request := by
  intro input request rest
  simp only [readRequest, run_bind, run_pure, accepts_readLocation _ _ _, accepts_readKind _ _ _,
    accepts_readTick _ _ _ _]
  constructor
  · rintro ⟨_, _, ⟨location, rfl, rfl⟩, _, _, ⟨kind, rfl, rfl⟩, _, _, ⟨tick, rfl, rfl⟩, rfl, rfl⟩
    exact ⟨⟨location, kind, tick⟩, by simp only [RequestForm.bytes, List.append_assoc], rfl⟩
  · rintro ⟨⟨location, kind, tick⟩, rfl, rfl⟩
    simp only [RequestForm.bytes, List.append_assoc]
    exact ⟨_, _, ⟨location, rfl, rfl⟩, _, _, ⟨kind, rfl, rfl⟩, _, _, ⟨tick, rfl, rfl⟩, rfl, rfl⟩

/-! ## Collections -/

/-- Steps that each file one form, repeated, by induction on their number. -/
theorem run_repeated {step : σ → Reader σ} {bytes : φ → Bytes} {file : σ → φ → σ}
    (each : ∀ s, Accepts (step s) bytes (file s)) {count : Nat} {s s' : σ} {input rest : Bytes} :
    Reader.repeated step count s input = (.ok s', rest) ↔
      ∃ items : List φ, items.length = count ∧ input = items.flatMap bytes ++ rest ∧
        items.foldl file s = s' := by
  induction count generalizing s input with
  | zero =>
    constructor
    · rintro ⟨⟩
      exact ⟨[], rfl, rfl, rfl⟩
    · rintro ⟨items, none, rfl, rfl⟩
      obtain rfl := List.length_eq_zero_iff.mp none
      rfl
  | succ count ih =>
    simp only [repeated_succ, run_bind, each _ _ _ _, ih]
    constructor
    · rintro ⟨_, _, ⟨item, rfl, rfl⟩, items, rfl, rfl, rfl⟩
      exact ⟨item :: items, rfl, by rw [List.flatMap_cons, List.append_assoc], rfl⟩
    · rintro ⟨items, length, rfl, rfl⟩
      obtain ⟨item, items, rfl⟩ := List.exists_cons_of_length_eq_add_one length
      rw [List.flatMap_cons, List.append_assoc]
      exact ⟨_, _, ⟨item, rfl, rfl⟩, items, Nat.succ.inj length, rfl, rfl⟩

theorem accepts_readCounted {step : σ → Reader σ} {bytes : φ → Bytes} {file : σ → φ → σ}
    (each : ∀ s, Accepts (step s) bytes (file s)) (field : String) (start : σ) :
    Accepts (readCounted step field start) (fun f : CountedForm φ => f.bytes bytes)
      fun f => f.items.foldl file start := by
  intro input s rest
  simp only [readCounted, run_bind, accepts_readLength _ _ _ _ _, run_repeated each]
  constructor
  · rintro ⟨_, _, ⟨count, rfl, rfl⟩, items, counted, rfl, rfl⟩
    exact ⟨⟨count, items, counted⟩, by rw [CountedForm.bytes, List.append_assoc], rfl⟩
  · rintro ⟨⟨count, items, counted⟩, rfl, rfl⟩
    rw [CountedForm.bytes, List.append_assoc]
    exact ⟨_, _, ⟨count, rfl, rfl⟩, items, counted, rfl, rfl⟩

/-! ## Responses -/

theorem accepts_readAttribute :
    Accepts readAttribute AttributeForm.bytes AttributeForm.named := by
  intro input a rest
  simp only [readAttribute, run_bind, run_byte, run_ite, run_pure, run_fail, and_false, or_false,
    accepts_readText _ _ _ _, accepts_readInt64 _ _ _ _]
  constructor
  · rintro ⟨_, _, ⟨key, rfl, rfl⟩, tag, _, rfl, ⟨rfl, _, _, ⟨value, rfl, rfl⟩, rfl, rfl⟩ |
      ⟨_, ⟨rfl, _, _, ⟨value, rfl, rfl⟩, rfl, rfl⟩ | ⟨_, rfl, shown, _, rfl, rfl, rfl⟩⟩⟩
    · exact ⟨⟨key, .text value⟩, by rw [AttributeForm.bytes, List.append_assoc]; rfl, rfl⟩
    · exact ⟨⟨key, .long value⟩, by rw [AttributeForm.bytes, List.append_assoc]; rfl, rfl⟩
    · exact ⟨⟨key, .bool shown⟩, by rw [AttributeForm.bytes, List.append_assoc]; rfl, rfl⟩
  · rintro ⟨⟨key, value⟩, rfl, rfl⟩
    rw [AttributeForm.bytes, List.append_assoc]
    refine ⟨_, _, ⟨key, rfl, rfl⟩, ?_⟩
    cases value with
    | text value => exact ⟨0, _, rfl, .inl ⟨rfl, _, _, ⟨value, rfl, rfl⟩, rfl, rfl⟩⟩
    | long value =>
      exact ⟨1, _, rfl, .inr ⟨by decide, .inl ⟨rfl, _, _, ⟨value, rfl, rfl⟩, rfl, rfl⟩⟩⟩
    | bool shown =>
      exact ⟨2, _, rfl, .inr ⟨by decide, .inr ⟨by decide, rfl, shown, _, rfl, rfl, rfl⟩⟩⟩

/-- Reading backwards and turning round again gives the elements in their order. -/
theorem accepts_readAttributes :
    Accepts readAttributes (fun f : CountedForm AttributeForm => f.bytes AttributeForm.bytes)
      fun f => f.items.map AttributeForm.named := by
  have each (read : List Attribute) := accepts_readAttribute.map (· :: read)
  have all := (accepts_readCounted each "attribute count" []).map List.reverse
  have order (items : List AttributeForm) (read : List Attribute) :
      (items.foldl (fun read f => f.named :: read) read).reverse =
        read.reverse ++ items.map AttributeForm.named := by
    simp
  simp only [order] at all
  exact all

theorem run_readFlagged {flag : Bool} {read : Reader α} {part : Option α} {bytes rest : Bytes} :
    readFlagged flag read bytes = (.ok part, rest) ↔
      (∃ a, flag = true ∧ part = some a ∧ read bytes = (.ok a, rest)) ∨
        flag = false ∧ part = none ∧ bytes = rest := by
  cases flag with
  | false =>
    have absent : readFlagged false read bytes = (.ok part, rest) ↔ none = part ∧ bytes = rest :=
      run_pure
    simp [absent, eq_comm]
  | true =>
    have present : readFlagged true read bytes = (.ok part, rest) ↔
        ∃ a middle, read bytes = (.ok a, middle) ∧ some a = part ∧ middle = rest := by
      simp only [readFlagged, if_true, run_bind, run_pure]
    simp [present, and_comm, eq_comm]

theorem accepts_readPoint : Accepts readPoint PointForm.bytes PointForm.point := by
  intro input point rest
  simp only [readPoint, run_bind, run_byte, run_readFlagged, accepts_readInt64 _ _ _ _,
    accepts_readDouble _ _ _ _]
  constructor
  · rintro ⟨flags, _, rfl, _, _, ⟨_, set, rfl, n, rfl, rfl⟩ | ⟨clear, rfl, rfl⟩, _, _,
      ⟨_, set', rfl, d, rfl, rfl⟩ | ⟨clear', rfl, rfl⟩, run⟩
    -- Both flags, one of them or none: without a flag there is no point.
    · obtain ⟨rfl, rfl⟩ := run_pure.mp run
      refine ⟨⟨flags, .both d n, set.symm, set'.symm⟩, ?_, rfl⟩
      exact congrArg (flags :: ·) (List.append_assoc ..).symm
    · obtain ⟨rfl, rfl⟩ := run_pure.mp run
      refine ⟨⟨flags, .long n, set.symm, clear'.symm⟩, ?_, rfl⟩
      exact congrArg (fun front => flags :: (front ++ _)) (List.append_nil _).symm
    · obtain ⟨rfl, rfl⟩ := run_pure.mp run
      exact ⟨⟨flags, .double d, clear.symm, set'.symm⟩, rfl, rfl⟩
    · exact absurd run nofun
  · rintro ⟨⟨flags, point, set, set'⟩, rfl, rfl⟩
    refine ⟨flags, _, rfl, ?_⟩
    cases point with
    | long n =>
      refine ⟨some n, rest, .inl ⟨n, set.symm, rfl, n, ?_, rfl⟩, none, rest,
        .inr ⟨set'.symm, rfl, rfl⟩, rfl⟩
      exact congrArg (· ++ rest) (List.append_nil _)
    | double d =>
      exact ⟨none, _, .inr ⟨set.symm, rfl, rfl⟩, some d, rest,
        .inl ⟨d, set'.symm, rfl, d, rfl, rfl⟩, rfl⟩
    | both d n =>
      refine ⟨some n, _, .inl ⟨n, set.symm, rfl, n, List.append_assoc .., rfl⟩, some d, rest,
        .inl ⟨d, set'.symm, rfl, d, rfl, rfl⟩, rfl⟩

theorem accepts_readEntry (points : Points) :
    Accepts (readEntry points) EntryForm.bytes fun f => points.insert f.tuple f.point.point := by
  intro input points' rest
  simp only [readEntry, run_bind, run_pure, accepts_readAttributes _ _ _, accepts_readPoint _ _ _]
  constructor
  · rintro ⟨_, _, ⟨attributes, rfl, rfl⟩, _, _, ⟨point, rfl, rfl⟩, rfl, rfl⟩
    exact ⟨⟨attributes, point⟩, by rw [EntryForm.bytes, List.append_assoc], rfl⟩
  · rintro ⟨⟨attributes, point⟩, rfl, rfl⟩
    rw [EntryForm.bytes, List.append_assoc]
    exact ⟨_, _, ⟨attributes, rfl, rfl⟩, _, _, ⟨point, rfl, rfl⟩, rfl, rfl⟩

theorem accepts_readSource (sources : SortedMap SourceKey Points) :
    Accepts (readSource sources) SourceForm.bytes fun f => sources.insert f.key f.filed := by
  intro input sources' rest
  have filed := accepts_readCounted accepts_readEntry "point count" .empty
  simp only [readSource, run_bind, run_pure, run_byte, accepts_readText _ _ _ _, filed _ _ _]
  constructor
  · rintro ⟨_, _, ⟨name, rfl, rfl⟩, slot, _, rfl, _, _, ⟨points, rfl, rfl⟩, rfl, rfl⟩
    refine ⟨⟨name, slot, points⟩, ?_, ?_⟩
    · rw [SourceForm.bytes, List.append_assoc]
      rfl
    · rw [SourceForm.filed, SortedMap.ofList, List.foldl_map]
      rfl
  · rintro ⟨⟨name, slot, points⟩, rfl, rfl⟩
    rw [SourceForm.bytes, List.append_assoc, SourceForm.filed, SortedMap.ofList, List.foldl_map]
    exact ⟨_, _, ⟨name, rfl, rfl⟩, slot, _, rfl, _, _, ⟨points, rfl, rfl⟩, rfl, rfl⟩

theorem accepts_readResponse :
    Accepts readResponse ResponseForm.bytes ResponseForm.response := by
  intro input response rest
  have filed := accepts_readCounted accepts_readSource "source count" .empty
  simp only [readResponse, readSnapshot, run_bind, run_pure, accepts_readLocation _ _ _,
    filed _ _ _, accepts_readTick _ _ _ _]
  constructor
  · rintro ⟨_, _, ⟨location, rfl, rfl⟩, _, _, ⟨_, _, ⟨sources, rfl, rfl⟩, rfl, rfl⟩, _, _,
      ⟨tick, rfl, rfl⟩, rfl, rfl⟩
    refine ⟨⟨location, sources, tick⟩, ?_, ?_⟩
    · simp only [ResponseForm.bytes, List.append_assoc]
    · rw [ResponseForm.response, SortedMap.ofList, List.foldl_map]
  · rintro ⟨⟨location, sources, tick⟩, rfl, rfl⟩
    simp only [ResponseForm.bytes, ResponseForm.response, SortedMap.ofList, List.append_assoc,
      List.foldl_map]
    exact ⟨_, _, ⟨location, rfl, rfl⟩, _, _, ⟨_, _, ⟨sources, rfl, rfl⟩, rfl, rfl⟩, _, _,
      ⟨tick, rfl, rfl⟩, rfl, rfl⟩

/-! ## Messages -/

/-- What a source reports under an attribute tuple is the last point filed under it. -/
theorem SourceForm.find?_filed (f : SourceForm) (attributes : Attributes) :
    f.filed.find? attributes =
      (f.points.items.reverse.find? fun entry => attributes = entry.tuple).map (·.point.point) := by
  rw [filed, SortedMap.find?_ofList, ← List.map_reverse, List.find?_map, Option.map_map]
  rfl

theorem ResponseForm.find?_sources (f : ResponseForm) (key : SourceKey) :
    f.response.snapshot.sources.find? key =
      (f.sources.items.reverse.find? fun source => key = source.key).map SourceForm.filed := by
  rw [response, SortedMap.find?_ofList, ← List.map_reverse, List.find?_map, Option.map_map]
  rfl

/-- A whole buffer is read as a message exactly if it is the bytes of a form, there is one such form
at most, and the message is the one that the form stands for: of several sources of one key, and of
several points of one attribute tuple, the last. -/
theorem read_iff_form :
    (∀ bytes request, requestOfBytes bytes = .ok request ↔
        ∃ f : RequestForm, f.bytes = bytes ∧ f.request = request) ∧
      (∀ f g : RequestForm, f.bytes = g.bytes → f = g) ∧
      (∀ bytes response, responseOfBytes bytes = .ok response ↔
        ∃ f : ResponseForm, f.bytes = bytes ∧ f.response = response) ∧
      (∀ f g : ResponseForm, f.bytes = g.bytes → f = g) ∧
      (∀ (f : ResponseForm) key, f.response.snapshot.sources.find? key =
        (f.sources.items.reverse.find? fun source => key = source.key).map SourceForm.filed) ∧
      ∀ (f : SourceForm) attributes, f.filed.find? attributes =
        (f.points.items.reverse.find? fun entry => attributes = entry.tuple).map
          (·.point.point) := by
  refine ⟨?_, fun f g => unambiguous_requestForm.inj, ?_, fun f g => unambiguous_responseForm.inj,
    ResponseForm.find?_sources, SourceForm.find?_filed⟩
  · intro bytes request
    rw [requestOfBytes, exactly_eq_ok, accepts_readRequest]
    simp only [List.append_nil, eq_comm]
  · intro bytes response
    rw [responseOfBytes, exactly_eq_ok, accepts_readResponse]
    simp only [List.append_nil, eq_comm]

/-- A request all of whose numbers are padded, and a response that names a source twice. -/
theorem read_iff_form_of_padded :
    let place : Bytes := [129, 0, 119, 0, 0, 0, 0, 0, 0, 0, 64, 0, 0, 0, 0]
    let asked : Bytes := place ++ [3, 148, 128, 0, 128, 0]
    let told : Bytes := place ++ [2, 1, 102, 0, 0, 1, 102, 0, 1, 0, 5] ++ writeInt64 9 ++ [0]
    let there : Location := ⟨"w", ⟨0, 64, 0⟩⟩
    let points := SortedMap.empty.insert [] (.long 9)
    (∃ f : RequestForm, f.bytes = asked ∧
        f.request = ⟨there, .start ⟨20, by decide, by decide⟩, none⟩ ∧
        ∀ g : RequestForm, g.bytes = asked → g = f) ∧
      ∃ f : ResponseForm, f.bytes = told ∧
        f.response = ⟨there, ⟨SortedMap.empty.insert ⟨"f", 0⟩ points⟩, none⟩ ∧
        ∀ g : ResponseForm, g.bytes = told → g = f := by
  intro place asked told there points
  obtain ⟨requests, request_unique, responses, response_unique, -, -⟩ := read_iff_form
  constructor
  · obtain ⟨f, bytes, request⟩ := (requests asked _).mp rfl
    exact ⟨f, bytes, request, fun g same => request_unique g f (same.trans bytes.symm)⟩
  · obtain ⟨f, bytes, response⟩ := (responses told _).mp rfl
    exact ⟨f, bytes, response, fun g same => response_unique g f (same.trans bytes.symm)⟩

end ObservationFeed.Wire
