import ObservationFeed.Proofs.Client.Outline

/-!
# Answers at an outline

On the outline of a place every call that waits is answered alike: by the deed of
what happens there, and by whether the tasks close what is live after it.  A call
that does not wait is not answered, and no call waits twice.
-/

namespace ObservationFeed.Client

/-- The answers of a call. -/
def answersTo (call : Nat) (returns : List Return) : List (Except SyncError Snapshot) :=
  (returns.filter (·.call = call)).map Return.result

theorem answersTo_append (call : Nat) (a b : List Return) :
    answersTo call (a ++ b) = answersTo call a ++ answersTo call b := by
  rw [answersTo, List.filter_append, List.map_append]
  rfl

theorem answersTo_answerAll (call : Nat) (result : Except SyncError Snapshot) {calls : List Nat}
    (distinct : calls.Nodup) :
    answersTo call (answerAll result calls) = if call ∈ calls then [result] else [] := by
  induction calls with
  | nil => rfl
  | cons first rest ih =>
    obtain ⟨absent, distinct⟩ := List.nodup_cons.mp distinct
    have ih := ih distinct
    rw [answersTo, answerAll] at ih
    rw [answersTo, answerAll, List.map_cons, List.filter_cons]
    by_cases same : first = call
    · subst same
      rw [if_neg absent] at ih
      simp [ih]
    · simp [same, ih, Ne.symm same]

namespace Outline

variable {o : Outline} {d : Deed} {call renewals : Nat} {closes : Bool}

/-- Calls are numbered in order, and each waits once. -/
structure Numbered (o : Outline) : Prop where
  distinct : o.calls.Nodup
  called : ∀ call ∈ o.calls, call < o.nextCall

theorem Numbered.perform (numbered : o.Numbered) (d : Deed) : (o.perform d).1.Numbered := by
  obtain ⟨distinct, called⟩ := numbered
  cases d with
  | nothing | renew => exact ⟨distinct, called⟩
  | call =>
    refine ⟨List.nodup_append.mpr ⟨distinct, List.pairwise_singleton .., ?_⟩, ?_⟩
    · rintro older member last newest rfl
      obtain rfl := List.mem_singleton.mp newest
      exact Nat.lt_irrefl _ (called _ member)
    · intro call member
      rcases List.mem_append.mp member with older | newest
      · exact Nat.lt_succ_of_lt (called call older)
      · obtain rfl := List.mem_singleton.mp newest
        exact Nat.lt_succ_self _
  | refuse => exact ⟨distinct, fun call member => Nat.lt_succ_of_lt (called call member)⟩
  | giveUp call =>
    exact ⟨List.filter_sublist.nodup distinct,
      fun other member => called other (List.mem_filter.mp member).1⟩
  | subscribe every =>
    rw [Outline.perform]
    split
    · exact ⟨distinct, called⟩
    · exact ⟨distinct, called⟩
  | apply snapshot => exact ⟨List.nodup_nil, List.forall_mem_nil _⟩
  | close => exact ⟨List.nodup_nil, List.forall_mem_nil _⟩

/-- The answer of every call that waits, by a deed and by whether the tasks close what is live after
it. -/
def answer? (closes : Bool) : Deed → Option (Except SyncError Snapshot)
  | .apply snapshot => some (.ok snapshot)
  | .close => some (.error .cancelled)
  | _ => if closes then some (.error .cancelled) else none

theorem answer?_of_not_apply (closes : Bool) (other : ∀ snapshot, d ≠ .apply snapshot) :
    answer? closes d =
      if d = .close ∨ closes = true then some (.error .cancelled) else none := by
  cases d with
  | apply snapshot => exact absurd rfl (other snapshot)
  | close => rfl
  | _ => cases closes <;> rfl

/-- A deed answers the calls that wait, or leaves them waiting. -/
theorem perform_waiting (numbered : o.Numbered) (waits : call ∈ o.calls) (kept : d ≠ .giveUp call) :
    answersTo call (o.perform d).2.returns = (answer? false d).toList ∧
      (call ∈ (o.perform d).1.calls ↔ answer? false d = none) := by
  have older := numbered.called call waits
  cases d with
  | nothing | renew => exact ⟨rfl, iff_of_true waits rfl⟩
  | call => exact ⟨rfl, iff_of_true (List.mem_append_left _ waits) rfl⟩
  | refuse =>
    refine ⟨?_, iff_of_true waits rfl⟩
    simp [Outline.perform, answerAll, answersTo, answer?, Nat.ne_of_gt older]
  | giveUp other =>
    have another : call ≠ other := fun same => kept (same ▸ rfl)
    exact ⟨rfl, iff_of_true (List.mem_filter.mpr ⟨waits, by simpa using another⟩) rfl⟩
  | subscribe every =>
    rw [Outline.perform]
    split
    · exact ⟨rfl, iff_of_true waits rfl⟩
    · exact ⟨rfl, iff_of_true waits rfl⟩
  | apply snapshot =>
    refine ⟨?_, iff_of_false List.not_mem_nil (Option.some_ne_none _)⟩
    simp [Outline.perform, answersTo_answerAll call _ numbered.distinct, waits, answer?]
  | close =>
    refine ⟨?_, iff_of_false List.not_mem_nil (Option.some_ne_none _)⟩
    simp [Outline.perform, answersTo_answerAll call _ numbered.distinct, waits, answer?]

/-- A call that does not wait is not answered, and does not wait later. -/
theorem perform_absent (numbered : o.Numbered) (absent : call ∉ o.calls)
    (older : call < o.nextCall) :
    answersTo call (o.perform d).2.returns = [] ∧ call ∉ (o.perform d).1.calls := by
  cases d with
  | nothing | renew => exact ⟨rfl, absent⟩
  | call =>
    refine ⟨rfl, fun member => ?_⟩
    rcases List.mem_append.mp member with member | newest
    · exact absent member
    · obtain rfl := List.mem_singleton.mp newest
      exact Nat.lt_irrefl _ older
  | refuse =>
    refine ⟨?_, absent⟩
    simp [Outline.perform, answerAll, answersTo, Nat.ne_of_gt older]
  | giveUp other => exact ⟨rfl, fun member => absent (List.mem_filter.mp member).1⟩
  | subscribe every =>
    rw [Outline.perform]
    split
    · exact ⟨rfl, absent⟩
    · exact ⟨rfl, absent⟩
  | apply snapshot =>
    refine ⟨?_, List.not_mem_nil⟩
    simp [Outline.perform, answersTo_answerAll call _ numbered.distinct, absent]
  | close =>
    refine ⟨?_, List.not_mem_nil⟩
    simp [Outline.perform, answersTo_answerAll call _ numbered.distinct, absent]

theorem nextCall_perform (o : Outline) (d : Deed) : o.nextCall ≤ (o.perform d).1.nextCall := by
  cases d with
  | call | refuse => exact Nat.le_succ _
  | subscribe every =>
    rw [Outline.perform]
    split
    · exact Nat.le_refl _
    · exact Nat.le_refl _
  | nothing | renew | giveUp | apply | close => exact Nat.le_refl _

theorem nextCall_performAll (o : Outline) (deeds : List Deed) :
    o.nextCall ≤ (o.performAll deeds).1.nextCall := by
  induction deeds generalizing o with
  | nil => exact Nat.le_refl _
  | cons d rest ih => exact Nat.le_trans (nextCall_perform o d) (ih (o.perform d).1)

/-- Only calls that were made are answered. -/
theorem returned_perform (numbered : o.Numbered) (d : Deed) :
    ∀ r ∈ (o.perform d).2.returns, r.call < (o.perform d).1.nextCall := by
  have made (result : Except SyncError Snapshot) :
      ∀ r ∈ answerAll result o.calls, r.call < o.nextCall := by
    intro r member
    obtain ⟨call, waits, rfl⟩ := List.mem_map.mp member
    exact numbered.called call waits
  cases d with
  | apply snapshot => exact made (.ok snapshot)
  | close => exact made (.error .cancelled)
  | refuse =>
    intro r member
    obtain rfl := List.mem_singleton.mp member
    exact Nat.lt_succ_self _
  | subscribe every =>
    rw [Outline.perform]
    split
    · exact List.forall_mem_nil _
    · exact List.forall_mem_nil _
  | nothing | call | giveUp | renew => exact List.forall_mem_nil _

theorem returned_performAll (numbered : o.Numbered) (deeds : List Deed) :
    ∀ r ∈ (o.performAll deeds).2.returns, r.call < (o.performAll deeds).1.nextCall := by
  induction deeds generalizing o with
  | nil => exact List.forall_mem_nil _
  | cons d rest ih =>
    intro r member
    rcases List.mem_append.mp member with first | later
    · exact Nat.lt_of_lt_of_le (returned_perform numbered d r first) (nextCall_performAll ..)
    · exact ih (numbered.perform d) r later

/-! ### With the tasks -/

theorem answersTo_tasks (numbered : o.Numbered) (call renewals : Nat) (closes : Bool) :
    answersTo call (o.performAll (tasks renewals closes)).2.returns =
      if closes = true ∧ call ∈ o.calls then [.error .cancelled] else [] := by
  rw [tasks, performAll_append, performAll_renew]
  cases closes with
  | true =>
    have answers := answersTo_answerAll call (.error .cancelled) numbered.distinct
    simp only [true_and]
    rw [← answers]
    exact congrArg (answersTo call) (List.append_nil _)
  | false => rfl

/-- Where no task closes anything a deed is all that is done. -/
theorem performAll_alone (o : Outline) (d : Deed) :
    o.performAll (d :: tasks 0 false) = o.perform d :=
  congrArg (Prod.mk (o.perform d).1) (Emission.append_none _)

/-- How often the tasks renew is nothing to the calls. -/
theorem performAll_renewals (o : Outline) (d : Deed) (renewals : Nat) (closes : Bool) :
    (o.performAll (d :: tasks renewals closes)).1 = (o.performAll (d :: tasks 0 closes)).1 ∧
      (o.performAll (d :: tasks renewals closes)).2.returns =
        (o.performAll (d :: tasks 0 closes)).2.returns := by
  refine ⟨?_, ?_⟩
  · simp only [performAll, performAll_tasks]
  · simp only [performAll, Emission.returns_append, tasks, performAll_append, performAll_renew]

/-- Every call that waits and is not given up is decided by the deed and by the tasks. -/
theorem performAll_waiting (numbered : o.Numbered) (waits : call ∈ o.calls)
    (kept : d ≠ .giveUp call) (renewals : Nat) (closes : Bool) :
    answersTo call (o.performAll (d :: tasks renewals closes)).2.returns =
        (answer? closes d).toList ∧
      (call ∈ (o.performAll (d :: tasks renewals closes)).1.calls ↔ answer? closes d = none) := by
  obtain ⟨answers, stays⟩ := perform_waiting numbered waits kept
  have later := answersTo_tasks (numbered.perform d) call renewals closes
  rw [performAll, performAll_tasks]
  refine ⟨?_, ?_⟩
  · rw [Emission.returns_append, answersTo_append, answers, later]
    simp only [stays]
    cases closes <;> cases d <;> rfl
  · cases closes with
    | false => exact stays
    | true =>
      refine iff_of_false List.not_mem_nil ?_
      cases d <;> exact Option.some_ne_none _

theorem performAll_absent (numbered : o.Numbered) (absent : call ∉ o.calls)
    (older : call < o.nextCall) (deeds : List Deed) :
    answersTo call (o.performAll deeds).2.returns = [] ∧ call ∉ (o.performAll deeds).1.calls := by
  induction deeds generalizing o with
  | nil => exact ⟨rfl, absent⟩
  | cons d rest ih =>
    obtain ⟨answers, absent⟩ := perform_absent (d := d) numbered absent older
    obtain ⟨later, absent⟩ := ih (numbered.perform d) absent
      (Nat.lt_of_lt_of_le older (nextCall_perform o d))
    refine ⟨?_, absent⟩
    rw [performAll, Emission.returns_append, answersTo_append, answers, later]
    rfl

/-- Nothing has been published to those who wait: a one-shot call is pending, or a subscription that
has published nothing. -/
def Unheard (o : Outline) : Prop :=
  o.phase = .asked ∨ ∃ n every, o.phase = .subscribed n every .empty

/-- It stays so as long as some call waits. -/
theorem Unheard.performAll (unheard : o.Unheard)
    (still : call ∈ (o.performAll (d :: tasks renewals closes)).1.calls) :
    (o.performAll (d :: tasks renewals closes)).1.Unheard := by
  obtain ⟨phase, calls, nextCall, opened⟩ := o
  rw [Outline.performAll, performAll_tasks] at still ⊢
  cases closes with
  | true => cases still
  | false =>
    rcases unheard with asked | ⟨n, every, fresh⟩
    · cases asked
      cases d with
      | apply | close => cases still
      | subscribe every => exact .inr ⟨opened, every, rfl⟩
      | _ => exact .inl rfl
    · cases fresh
      cases d with
      | apply | close => cases still
      | _ => exact .inr ⟨n, every, rfl⟩

end Outline

end ObservationFeed.Client
