import ObservationFeed.Wire.Response

/-!
# What a reader takes

A reader and some bytes fit if the reader takes exactly these bytes, whatever
follows them.  Fitting pairs compose along the steps of a reader, so that the
layout of a message can be read off the reader's text.

Writers fail or give bytes; `Written` is the side of success, with one lemma
for each way to put writers together.
-/

namespace ObservationFeed.Wire

variable {α β σ : Type}

/-! ## Readers -/

/-- The reader takes exactly these bytes, whatever follows, and reads this value from them. -/
def Reads (r : Reader α) (bytes : Bytes) (a : α) : Prop :=
  ∀ rest, r (bytes ++ rest) = (.ok a, rest)

theorem reads_pure (a : α) : Reads (pure a) [] a :=
  fun _ => rfl

theorem Reads.bind {r : Reader α} {f : α → Reader β} {front back : Bytes} {a : α} {b : β}
    (first : Reads r front a) (second : Reads (f a) back b) :
    Reads (r >>= f) (front ++ back) b := by
  intro rest
  rw [Reader.bind_apply, List.append_assoc, first]
  exact second rest

/-- The last step of a reader, which reads nothing more. -/
theorem Reads.map {r : Reader α} {bytes : Bytes} {a : α} (reads : Reads r bytes a) (f : α → β) :
    Reads (r >>= fun x => pure (f x)) bytes (f a) := by
  intro rest
  rw [Reader.bind_apply, reads]
  rfl

theorem reads_byte (b : UInt8) (field : String) : Reads (Reader.byte field) [b] b :=
  fun _ => rfl

theorem split_append (front rest : Bytes) :
    Reader.split front.length (front ++ rest) = some (front, rest) := by
  induction front with
  | nil => rfl
  | cons b front ih => simp [Reader.split, ih]

theorem reads_take (bytes : Bytes) (field : String) :
    Reads (Reader.take bytes.length field) bytes bytes := by
  intro rest
  rw [Reader.take, split_append]

theorem Reads.exactly {r : Reader α} {bytes : Bytes} {a : α} (reads : Reads r bytes a) :
    Reader.exactly r bytes = .ok a := by
  have whole := reads []
  rw [List.append_nil] at whole
  rw [Reader.exactly, whole]

/-! ## Writers -/

/-- Some bytes are written. -/
def Written (w : Except Error Bytes) : Prop := ∃ bytes, w = .ok bytes

theorem written_ok (bytes : Bytes) : Written (.ok bytes) := ⟨bytes, rfl⟩

theorem not_written_error (e : Error) : ¬ Written (.error e) := by
  rintro ⟨_, ⟨⟩⟩

theorem bind_eq_ok {x : Except Error α} {f : α → Except Error β} {b : β} :
    (x >>= f) = .ok b ↔ ∃ a, x = .ok a ∧ f a = .ok b := by
  cases x with
  | error e =>
    constructor
    · rintro ⟨⟩
    · rintro ⟨_, ⟨⟩, _⟩
  | ok a =>
    constructor
    · exact fun run => ⟨a, rfl, run⟩
    · rintro ⟨_, ⟨⟩, run⟩
      exact run

/-- One part after another is written if both are, what is written second not depending on the
bytes of the first. -/
theorem written_bind {x : Except Error Bytes} {f : Bytes → Except Error Bytes} {good : Prop}
    (second : ∀ bytes, Written (f bytes) ↔ good) : Written (x >>= f) ↔ Written x ∧ good := by
  constructor
  · rintro ⟨bytes, run⟩
    obtain ⟨front, first, later⟩ := bind_eq_ok.mp run
    exact ⟨⟨front, first⟩, (second front).mp ⟨bytes, later⟩⟩
  · rintro ⟨⟨front, first⟩, fits⟩
    obtain ⟨bytes, later⟩ := (second front).mpr fits
    exact ⟨bytes, bind_eq_ok.mpr ⟨front, first, later⟩⟩

theorem written_map {x : Except Error Bytes} (f : Bytes → Bytes) :
    Written (x >>= fun bytes => pure (f bytes)) ↔ Written x := by
  have both : Written (x >>= fun bytes => pure (f bytes)) ↔ Written x ∧ True :=
    written_bind fun bytes => iff_of_true (written_ok (f bytes)) trivial
  rwa [and_true] at both

/-! ## Lists -/

variable {write : α → Except Error Bytes}

theorem writeAll_cons (a : α) (rest : List α) :
    writeAll write (a :: rest) = do
      let front ← write a
      let back ← writeAll write rest
      return front ++ back := by
  simp only [writeAll, List.mapM_cons, bind_assoc, pure_bind, List.flatten_cons]

theorem written_writeAll (items : List α) :
    Written (writeAll write items) ↔ ∀ a ∈ items, Written (write a) := by
  induction items with
  | nil => exact iff_of_true (written_ok _) (by simp)
  | cons a rest ih =>
    rw [writeAll_cons, written_bind fun front => (written_map _).trans ih, List.forall_mem_cons]

/-- Reading element after element what was written element after element. -/
theorem reads_repeated {step : σ → Reader σ} (file : σ → α → σ) {items : List α}
    (each : ∀ a ∈ items, ∀ bytes, write a = .ok bytes → ∀ s, Reads (step s) bytes (file s a))
    {bytes : Bytes} (written : writeAll write items = .ok bytes) (s : σ) :
    Reads (Reader.repeated step items.length s) bytes (items.foldl file s) := by
  induction items generalizing bytes s with
  | nil =>
    cases written
    exact fun _ => rfl
  | cons a rest ih =>
    rw [writeAll_cons] at written
    obtain ⟨front, first, written⟩ := bind_eq_ok.mp written
    obtain ⟨back, later, same⟩ := bind_eq_ok.mp written
    cases same
    -- What follows the first element is the other elements and then whatever follows them.
    intro more
    have here := each a List.mem_cons_self front first s
    rw [List.length_cons, Reader.repeated, List.append_assoc, here]
    exact ih (fun a member => each a (List.mem_cons_of_mem _ member)) later (file s a) more

end ObservationFeed.Wire
