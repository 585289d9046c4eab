import ObservationFeed.Proofs.Client.Place

/-!
# What the tasks at a place do

The tasks run subscription by subscription, and those of one see nothing of the
others.  Only the pending subscription has something to send, and its entry goes
exactly if its tasks close it.
-/

namespace ObservationFeed.Client.Place

open Subscription

/-! ## One subscription after the other -/

section Tasks

variable (t : Timing) (transport : Transport)

/-- What its tasks make of a subscription now. -/
abbrev ran (s : Subscription) : Subscription × Emission := s.runTasks t.now t.period transport

/-- The tasks of a subscription close it now. -/
def closesNow (p : Place) (n : Nat) : Bool :=
  (p.subscription? n).any fun s => !s.liveness.closed && (ran t transport s).1.liveness.closed

theorem subscription?_settleEntry (p : Place) (n m : Nat) (before after : Subscription) :
    (p.settleEntry n before after).subscription? m = p.subscription? m := by
  unfold settleEntry
  split <;> rfl

theorem runTasksUpTo_succ_none {p : Place} {k : Nat}
    (absent : (runTasksUpTo t transport k p).1.subscription? k = none) :
    runTasksUpTo t transport (k + 1) p = runTasksUpTo t transport k p := by
  rw [runTasksUpTo]
  simp only [absent]

theorem runTasksUpTo_succ_some {p : Place} {k : Nat} {s : Subscription}
    (found : (runTasksUpTo t transport k p).1.subscription? k = some s) :
    runTasksUpTo t transport (k + 1) p =
      (((runTasksUpTo t transport k p).1.set k (ran t transport s).1).settleEntry k s
          (ran t transport s).1,
        (runTasksUpTo t transport k p).2 ++ (ran t transport s).2) := by
  rw [runTasksUpTo]
  simp only [found]

/-- The tasks of each subscription see it as it was. -/
theorem subscription?_runTasksUpTo (p : Place) (k n : Nat) :
    (runTasksUpTo t transport k p).1.subscription? n =
      if n < k then (p.subscription? n).map fun s => (ran t transport s).1
      else p.subscription? n := by
  induction k generalizing n with
  | zero => rfl
  | succ k ih =>
    -- The tasks of those before it have not touched it.
    have here : (runTasksUpTo t transport k p).1.subscription? k = p.subscription? k := by
      rw [ih, if_neg (Nat.lt_irrefl k)]
    cases found : p.subscription? k with
    | none =>
      rw [runTasksUpTo_succ_none t transport (here.trans found), ih]
      by_cases same : n = k
      · subst same
        simp [found]
      · have iff : n < k + 1 ↔ n < k := by omega
        simp only [iff]
    | some s =>
      rw [runTasksUpTo_succ_some t transport (here.trans found)]
      simp only
      rw [subscription?_settleEntry, subscription?_set (here.trans found), ih]
      by_cases same : k = n
      · subst same
        simp [found]
      · have iff : n < k + 1 ↔ n < k := by omega
        simp only [same, iff, if_false]

theorem nextCall_runTasksUpTo (p : Place) (k : Nat) :
    (runTasksUpTo t transport k p).1.nextCall = p.nextCall := by
  induction k with
  | zero => rfl
  | succ k ih =>
    cases found : (runTasksUpTo t transport k p).1.subscription? k with
    | none => rw [runTasksUpTo_succ_none t transport found, ih]
    | some s =>
      rw [runTasksUpTo_succ_some t transport found, settleEntry]
      split <;> exact ih

theorem length_runTasksUpTo (p : Place) (k : Nat) :
    (runTasksUpTo t transport k p).1.opened.length = p.opened.length := by
  induction k with
  | zero => rfl
  | succ k ih =>
    cases found : (runTasksUpTo t transport k p).1.subscription? k with
    | none => rw [runTasksUpTo_succ_none t transport found, ih]
    | some s =>
      rw [runTasksUpTo_succ_some t transport found, settleEntry]
      split <;> exact List.length_set.trans ih

/-- Messages and answers go out subscription by subscription. -/
theorem part_runTasksUpTo {β : Type} (part : Emission → List β) (nothing : part .none = [])
    (append : ∀ a b, part (a ++ b) = part a ++ part b) (p : Place) (k : Nat) :
    part (runTasksUpTo t transport k p).2 = (List.range k).flatMap fun n =>
      ((p.subscription? n).map fun s => part (ran t transport s).2).getD [] := by
  induction k with
  | zero => exact nothing
  | succ k ih =>
    have here : (runTasksUpTo t transport k p).1.subscription? k = p.subscription? k := by
      rw [subscription?_runTasksUpTo, if_neg (Nat.lt_irrefl k)]
    rw [List.range_succ, List.flatMap_append, List.flatMap_singleton, ← ih]
    cases found : p.subscription? k with
    | none =>
      rw [runTasksUpTo_succ_none t transport (here.trans found)]
      simp
    | some s =>
      rw [runTasksUpTo_succ_some t transport (here.trans found)]
      exact append _ _

theorem attempts_runTasksUpTo (p : Place) (k : Nat) :
    (runTasksUpTo t transport k p).2.attempts = (List.range k).flatMap fun n =>
      ((p.subscription? n).map fun s => (ran t transport s).2.attempts).getD [] :=
  part_runTasksUpTo t transport Emission.attempts rfl (fun _ _ => rfl) p k

/-- The pending subscription is one of the first, and its tasks close it now. -/
def entryCloses (p : Place) (k : Nat) : Bool :=
  match p.pending with
  | some (.subscription n) => decide (n < k) && closesNow t transport p n
  | _ => false

theorem pending_runTasksUpTo_succ (p : Place) (k : Nat) :
    (runTasksUpTo t transport (k + 1) p).1.pending =
      if closesNow t transport p k = true ∧
          (runTasksUpTo t transport k p).1.pending = some (.subscription k) then none
      else (runTasksUpTo t transport k p).1.pending := by
  have here : (runTasksUpTo t transport k p).1.subscription? k = p.subscription? k := by
    rw [subscription?_runTasksUpTo, if_neg (Nat.lt_irrefl k)]
  cases found : p.subscription? k with
  | none =>
    rw [runTasksUpTo_succ_none t transport (here.trans found)]
    simp [closesNow, found]
  | some s =>
    rw [runTasksUpTo_succ_some t transport (here.trans found), settleEntry]
    simp only [closesNow, found, Option.any_some]
    cases !s.liveness.closed && (ran t transport s).1.liveness.closed
    · simp [Place.set]
    · by_cases same : (runTasksUpTo t transport k p).1.pending = some (.subscription k) <;>
        simp [Place.set, unlist, same]

/-- The entry of the pending subscription is dropped if its tasks close it. -/
theorem pending_runTasksUpTo (p : Place) (k : Nat) :
    (runTasksUpTo t transport k p).1.pending =
      if entryCloses t transport p k then none else p.pending := by
  induction k with
  | zero =>
    have never : entryCloses t transport p 0 = false := by
      rw [entryCloses]
      split <;> simp
    rw [never]
    rfl
  | succ k ih =>
    rw [pending_runTasksUpTo_succ, ih]
    cases pending : p.pending with
    | none => simp
    | some what =>
      cases what with
      | single awaited => simp [entryCloses, pending]
      | subscription n =>
        simp only [entryCloses, pending]
        -- Only the tasks of the pending subscription itself can drop its entry.
        by_cases last : n = k
        · subst last
          cases closes : closesNow t transport p n <;> simp
        · have iff : n < k + 1 ↔ n < k := by omega
          have other : ¬ (Pending.subscription n = .subscription k) := by simpa using last
          simp only [iff]
          split <;> simp [other]

end Tasks

/-! ## All tasks of a place -/

variable {born : Nat → Bool} {p : Place} {t : Timing} {transport : Transport}

theorem subscription?_runTasks (t : Timing) (transport : Transport) (p : Place) (n : Nat) :
    (p.runTasks t transport).1.subscription? n =
      (p.subscription? n).map fun s => (ran t transport s).1 := by
  rw [Place.runTasks, subscription?_runTasksUpTo]
  split
  · rfl
  · next outside =>
    have absent : p.subscription? n = none := List.getElem?_eq_none (Nat.not_lt.mp outside)
    rw [absent]
    rfl

theorem nextCall_runTasks (t : Timing) (transport : Transport) (p : Place) :
    (p.runTasks t transport).1.nextCall = p.nextCall :=
  nextCall_runTasksUpTo t transport p p.opened.length

theorem length_runTasks (t : Timing) (transport : Transport) (p : Place) :
    (p.runTasks t transport).1.opened.length = p.opened.length :=
  length_runTasksUpTo t transport p p.opened.length

theorem flatMap_range_single {α : Type} (f : Nat → List α) {k n : Nat} (inside : n < k)
    (others : ∀ m, m ≠ n → f m = []) : (List.range k).flatMap f = f n := by
  have absent {k : Nat} (outside : k ≤ n) : (List.range k).flatMap f = [] := by
    refine List.flatMap_eq_nil_iff.mpr fun m member => others m ?_
    have below := List.mem_range.mp member
    omega
  induction k with
  | zero => cases inside
  | succ k ih =>
    rw [List.range_succ, List.flatMap_append, List.flatMap_singleton]
    by_cases last : n = k
    · subst last
      rw [absent (Nat.le_refl n), List.nil_append]
    · rw [ih (by omega), others k (Ne.symm last), List.append_nil]

/-- Where the others let out nothing, only what the pending subscription lets out is seen. -/
theorem Sound.part_runTasks (sound : p.Sound born) (t : Timing) (transport : Transport) {β : Type}
    (part : Emission → List β) (nothing : part .none = [])
    (append : ∀ a b, part (a ++ b) = part a ++ part b)
    (silent : ∀ m s, p.subscription? m = some s → p.pending ≠ some (.subscription m) →
      part (ran t transport s).2 = []) :
    part (p.runTasks t transport).2 =
      match p.live? with
      | some (_, s) => part (ran t transport s).2
      | none => [] := by
  have silent (m : Nat) (closed : p.pending ≠ some (.subscription m)) :
      ((p.subscription? m).map fun s => part (ran t transport s).2).getD [] = [] := by
    cases found : p.subscription? m with
    | none => rfl
    | some s => exact silent m s found closed
  rw [Place.runTasks, part_runTasksUpTo t transport part nothing append]
  rcases sound.live_or_vacant with ⟨n, s, live, pending, found, -⟩ | ⟨none, vacant⟩
  · rw [live]
    have inside : n < p.opened.length := (List.getElem?_eq_some_iff.mp found).1
    rw [flatMap_range_single _ inside fun m other => silent m fun also => ?_, found]
    · rfl
    · rw [pending] at also
      cases also
      exact other rfl
  · rw [none]
    exact List.flatMap_eq_nil_iff.mpr fun m _ => silent m (vacant m)

/-- A subscription that is not pending is over. -/
theorem Sound.spent (sound : p.Sound born) {m : Nat} {s : Subscription}
    (found : p.subscription? m = some s) (closed : p.pending ≠ some (.subscription m)) :
    Spent s := by
  rcases sound.each m s found with isOpen | spent
  · exact absurd ((sound.entry m).mpr ⟨s, found, isOpen.isClosed⟩) closed
  · exact spent

/-- Only the pending subscription has something to send. -/
theorem Sound.attempts_runTasks (sound : p.Sound born) (t : Timing) (transport : Transport) :
    (p.runTasks t transport).2.attempts =
      match p.live? with
      | some (_, s) => (ran t transport s).2.attempts
      | none => [] :=
  sound.part_runTasks t transport Emission.attempts rfl (fun _ _ => rfl) fun _ _ found closed =>
    ((sound.spent found closed).runTasks t.now t.period transport).2

theorem pending_runTasks_vacant (t : Timing) (transport : Transport)
    (vacant : ∀ n, p.pending ≠ some (.subscription n)) :
    (p.runTasks t transport).1.pending = p.pending := by
  have stays : entryCloses t transport p p.opened.length = false := by
    unfold entryCloses
    split
    · next n pending => exact absurd pending (vacant n)
    · rfl
  rw [Place.runTasks, pending_runTasksUpTo, stays]
  rfl

theorem pending_runTasks_live (t : Timing) (transport : Transport) {n : Nat} {s : Subscription}
    (pending : p.pending = some (.subscription n)) (found : p.subscription? n = some s)
    (unclosed : s.liveness.closed = false) :
    (p.runTasks t transport).1.pending =
      if (ran t transport s).1.liveness.closed then none else p.pending := by
  have inside : n < p.opened.length := (List.getElem?_eq_some_iff.mp found).1
  have closes : entryCloses t transport p p.opened.length =
      (ran t transport s).1.liveness.closed := by
    simp [entryCloses, pending, inside, closesNow, found, unclosed]
  rw [Place.runTasks, pending_runTasksUpTo, closes]

end ObservationFeed.Client.Place
