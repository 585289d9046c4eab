import ObservationFeed.Proofs.Wire.Reads

/-!
# What a successful read says

`Reads` starts from bytes that some writer made.  Here nothing is known of the
bytes but that a reader accepted them: `Takes` says what then holds of the value
and of the number of bytes it was read from.  `Within` is the other side, a
writer that succeeds and stays within a number of bytes.  Both compose along
`>>=`, so that a reader and the writer of the same layout can be gone through
side by side.
-/

namespace ObservationFeed.Wire

variable {α β σ : Type}

/-! ## Readers -/

/-- Whatever the reader reads has this property, together with the number of bytes it took. -/
def Takes (r : Reader α) (good : α → Nat → Prop) : Prop :=
  ∀ bytes a rest, r bytes = (.ok a, rest) → ∃ used, bytes = used ++ rest ∧ good a used.length

theorem Takes.imp {r : Reader α} {good better : α → Nat → Prop} (takes : Takes r good)
    (more : ∀ a n, good a n → better a n) : Takes r better := by
  intro bytes a rest run
  obtain ⟨used, split, holds⟩ := takes bytes a rest run
  exact ⟨used, split, more a _ holds⟩

theorem takes_pure {a : α} {good : α → Nat → Prop} (holds : good a 0) :
    Takes (pure a) good := by
  intro bytes b rest run
  cases run
  exact ⟨[], rfl, holds⟩

theorem takes_fail (e : Error) (good : α → Nat → Prop) : Takes (Reader.fail e) good := by
  intro bytes a rest run
  cases run

theorem takes_ite {p : Prop} [Decidable p] {r s : Reader α} {good : α → Nat → Prop}
    (yes : p → Takes r good) (no : ¬ p → Takes s good) : Takes (if p then r else s) good := by
  split
  · next holds => exact yes holds
  · next fails => exact no fails

/-- A second reader goes on where the first one stopped, so what they took adds up. -/
theorem Takes.bind {r : Reader α} {f : α → Reader β} {first : α → Nat → Prop}
    {good : β → Nat → Prop} (takes : Takes r first)
    (later : ∀ a n, first a n → Takes (f a) fun b m => good b (n + m)) : Takes (r >>= f) good := by
  intro bytes b rest run
  rw [Reader.bind_apply] at run
  split at run
  · next a middle here =>
    obtain ⟨front, split, holds⟩ := takes bytes a middle here
    obtain ⟨back, split', holds'⟩ := later a _ holds middle b rest run
    subst split'
    rw [← List.length_append] at holds'
    exact ⟨front ++ back, by rw [split, List.append_assoc], holds'⟩
  · cases run

/-- The last step of a reader, which reads nothing more. -/
theorem Takes.map {r : Reader α} {f : α → β} {first : α → Nat → Prop} {good : β → Nat → Prop}
    (takes : Takes r first) (later : ∀ a n, first a n → good (f a) n) :
    Takes (r >>= fun a => pure (f a)) good :=
  takes.bind fun a n holds => takes_pure (later a n holds)

theorem takes_byte (field : String) : Takes (Reader.byte field) fun _ n => n = 1 := by
  intro bytes a rest run
  cases bytes with
  | nil => cases run
  | cons b bytes =>
    cases run
    exact ⟨[a], rfl, rfl⟩

theorem split_eq_some {n : Nat} {bytes front rest : Bytes}
    (split : Reader.split n bytes = some (front, rest)) :
    bytes = front ++ rest ∧ front.length = n := by
  induction n generalizing bytes front with
  | zero =>
    cases split
    exact ⟨rfl, rfl⟩
  | succ n ih =>
    cases bytes with
    | nil => cases split
    | cons b bytes =>
      obtain ⟨⟨front', rest'⟩, here, same⟩ := Option.map_eq_some_iff.mp split
      cases same
      obtain ⟨joined, length⟩ := ih here
      exact ⟨by rw [joined, List.cons_append], by rw [List.length_cons, length]⟩

theorem takes_take (n : Nat) (field : String) :
    Takes (Reader.take n field) fun front m => front.length = n ∧ m = n := by
  intro bytes a rest run
  unfold Reader.take at run
  split at run
  · next split =>
    cases run
    obtain ⟨joined, length⟩ := split_eq_some split
    exact ⟨a, joined, length, length⟩
  · cases run

/-- One round of a repeated step is the step and then the rest of the rounds. -/
theorem repeated_succ (step : σ → Reader σ) (times : Nat) (s : σ) :
    Reader.repeated step (times + 1) s = step s >>= Reader.repeated step times := by
  funext bytes
  rw [Reader.bind_apply]
  rfl

/-- One group of a number, and the groups after it if it announces any. -/
theorem Varint.readGroups_succ (limit : Nat) (field : String) (k : Nat) :
    readGroups limit field (k + 1) = Reader.byte field >>= fun b =>
      if b < 128 then pure b.toNat
      else readGroups limit field k >>= fun n => pure (b.toNat % 128 + 128 * n) := by
  funext bytes
  rw [Reader.bind_apply]
  cases bytes with
  | nil => rfl
  | cons b bytes =>
    by_cases last : b < 128
    · simp only [readGroups, Reader.byte, if_pos last]
      rfl
    · simp only [readGroups, Reader.byte, if_neg last]
      rw [Reader.bind_apply]
      cases readGroups limit field k bytes with
      | mk outcome rest => cases outcome <;> rfl

/-- A step repeated: what one step adds to what was true before it, by induction on their
number. -/
theorem takes_repeated {step : σ → Reader σ} {holds : σ → Nat → Nat → Prop}
    (each : ∀ s count taken, holds s count taken →
      Takes (step s) fun s' n => holds s' (count + 1) (taken + n)) {s : σ} {taken count : Nat}
    (start : holds s count taken) (times : Nat) :
    Takes (Reader.repeated step times s) fun s' n => holds s' (count + times) (taken + n) := by
  induction times generalizing s taken count with
  | zero => exact takes_pure start
  | succ times ih =>
    rw [repeated_succ]
    apply (each s count taken start).bind
    intro s' n after
    apply (ih after).imp
    intro s'' m last
    rwa [Nat.add_assoc, Nat.add_comm 1 times, Nat.add_assoc] at last

/-! ## Writers -/

/-- Some bytes are written, at most this many. -/
def Within (w : Except Error Bytes) (n : Nat) : Prop := ∃ bytes, w = .ok bytes ∧ bytes.length ≤ n

theorem within_ok {bytes : Bytes} {n : Nat} (small : bytes.length ≤ n) :
    Within (.ok bytes) n := ⟨bytes, rfl, small⟩

theorem within_pure {bytes : Bytes} {n : Nat} (small : bytes.length ≤ n) :
    Within (pure bytes) n := within_ok small

theorem Within.mono {w : Except Error Bytes} {n m : Nat} (within : Within w n) (le : n ≤ m) :
    Within w m := by
  obtain ⟨bytes, written, small⟩ := within
  exact ⟨bytes, written, Nat.le_trans small le⟩

theorem Within.bind {w : Except Error Bytes} {f : Bytes → Except Error Bytes} {n m : Nat}
    (first : Within w n) (later : ∀ bytes, bytes.length ≤ n → Within (f bytes) m) :
    Within (w >>= f) m := by
  obtain ⟨bytes, written, small⟩ := first
  obtain ⟨out, written', small'⟩ := later bytes small
  exact ⟨out, bind_eq_ok.mpr ⟨bytes, written, written'⟩, small'⟩

/-! ## Lists -/

/-- These items are at most so many, each of them can be written, and all together they take at
most so many bytes. -/
structure Collected (write : α → Except Error Bytes) (items : List α) (count taken : Nat) :
    Prop where
  few : items.length ≤ count
  within : Within (writeAll write items) taken

variable {write : α → Except Error Bytes}

theorem within_writeAll_cons {a : α} {items : List α} {n : Nat} :
    Within (writeAll write (a :: items)) n ↔
      ∃ k m, k + m = n ∧ Within (write a) k ∧ Within (writeAll write items) m := by
  rw [writeAll_cons]
  constructor
  · rintro ⟨bytes, written, small⟩
    obtain ⟨front, first, written⟩ := bind_eq_ok.mp written
    obtain ⟨back, later, same⟩ := bind_eq_ok.mp written
    cases same
    rw [List.length_append] at small
    exact ⟨front.length, n - front.length, by omega, ⟨front, first, Nat.le_refl _⟩,
      ⟨back, later, by omega⟩⟩
  · rintro ⟨k, m, total, first, later⟩
    apply first.bind
    intro front small
    apply later.bind
    intro back small'
    apply within_pure
    rw [List.length_append]
    omega

theorem collected_nil : Collected write [] 0 0 := ⟨Nat.le_refl 0, within_pure (Nat.le_refl 0)⟩

theorem Collected.cons {a : α} {items : List α} {count taken n : Nat}
    (collected : Collected write items count taken) (within : Within (write a) n) :
    Collected write (a :: items) (count + 1) (taken + n) where
  few := Nat.succ_le_succ collected.few
  within := within_writeAll_cons.mpr ⟨n, taken, Nat.add_comm .., within, collected.within⟩

theorem Collected.perm {items other : List α} {count taken : Nat}
    (collected : Collected write items count taken) (same : items.Perm other) :
    Collected write other count taken := by
  refine ⟨same.length_eq ▸ collected.few, ?_⟩
  have within := collected.within
  clear collected
  induction same generalizing taken with
  | nil => exact within
  | cons a _ ih =>
    obtain ⟨k, m, total, first, later⟩ := within_writeAll_cons.mp within
    exact within_writeAll_cons.mpr ⟨k, m, total, first, ih later⟩
  | swap a b items =>
    obtain ⟨k, m, total, first, later⟩ := within_writeAll_cons.mp within
    obtain ⟨k', m', total', second, later⟩ := within_writeAll_cons.mp later
    have rest := within_writeAll_cons.mpr ⟨k, m', rfl, first, later⟩
    exact within_writeAll_cons.mpr ⟨k', k + m', by omega, second, rest⟩
  | trans _ _ ih ih' => exact ih' (ih within)

theorem Collected.sublist {items other : List α} {count taken : Nat}
    (collected : Collected write items count taken) (part : other.Sublist items) :
    Collected write other count taken := by
  refine ⟨Nat.le_trans part.length_le collected.few, ?_⟩
  have within := collected.within
  clear collected
  induction part generalizing taken with
  | slnil => exact within
  | cons a _ ih =>
    obtain ⟨k, m, total, first, later⟩ := within_writeAll_cons.mp within
    exact (ih later).mono (by omega)
  | cons_cons a _ ih =>
    obtain ⟨k, m, total, first, later⟩ := within_writeAll_cons.mp within
    exact within_writeAll_cons.mpr ⟨k, m, total, first, ih later⟩

end ObservationFeed.Wire
