import ObservationFeed.Proofs.Server.FlatSweep

/-!
# What a sweep finds at one place

A sweep comes to a location with the surroundings as the locations before it
have left them, and to a client of the location after the clients filed before
it.  Here the sweep is run up to one location or one client, so that what it
finds there can be named in any world, also in one whose answers change on the
way: which clients it marks due, and whether a client and its location pass
their checks.  What is left of a registration is determined by that.
-/

namespace ObservationFeed.Server

open KeyedList

variable {σ : Type}

theorem run_bind {α β : Type} (first : StateM σ α) (next : α → StateM σ β) (s : σ) :
    (first >>= next) s = next (first s).1 (first s).2 := rfl

namespace Sweep

variable (host : Host σ) (limits : Limits) (now : Tick)

/-- Sweeps the locations that are filed before one, and returns the registrations of that one. -/
def reach (l : Location) : List (Location × Clients) → StateM σ Clients
  | [] => return []
  | (there, clients) :: rest =>
    if there = l then return clients
    else do
      let _ ← sweepLocation host limits now there clients
      reach l rest

/-- The clients that are marked due among the registrations of a location. -/
def dueAmong (l : Location) (clients : Clients) : StateM σ (List ClientId) := do
  if ← Limits.isInteractable host.toWorld l then
    return (← checkClients host limits now l clients).due
  else return []

/-- Whether a client passes its check, which comes after those of the clients filed before it. -/
def passes (c : ClientId) (l : Location) : Clients → StateM σ Bool
  | [] => return false
  | (other, _) :: rest => do
    let ok ← limits.canInteract host.toWorld other l .all
    if other = c then return ok else passes c l rest

/-- Whether the location and then the client pass their checks. -/
def admittedAmong (c : ClientId) (l : Location) (clients : Clients) : StateM σ Bool := do
  if ← Limits.isInteractable host.toWorld l then passes host limits c l clients else return false

/-- The clients that a sweep marks due at a location. -/
def dueAt (t : Table) (l : Location) : StateM σ (List ClientId) := do
  dueAmong host limits now l (← reach host limits now l t.filed)

/-- Whether a location and a client there pass the checks of a sweep. -/
def admittedAt (t : Table) (c : ClientId) (l : Location) : StateM σ Bool := do
  admittedAmong host limits c l (← reach host limits now l t.filed)

/-- What a sweep leaves of a registration, by whether its location and its client passed. -/
def spared (admitted : Bool) (r : Registration) : Option Registration :=
  if admitted && !r.isExpired now then some (r.poll now).2 else none

/-! ## One location -/

theorem isExpired_poll (r : Registration) : (r.poll now).2.isExpired now = r.isExpired now := by
  unfold Registration.poll Registration.fired
  split
  · split <;> rfl
  · rfl

theorem poll_fst (r : Registration) : (r.poll now).1 = r.isDue now := by
  unfold Registration.poll
  split
  · next due => exact due.symm
  · next due => exact (Bool.not_eq_true _ ▸ due).symm

/-- The check of the first client, and then that of the others. -/
theorem checkClients_cons (l : Location) (c : ClientId) (r : Registration) (rest : Clients)
    (s : σ) :
    let ok := limits.canInteract host.toWorld c l .all s
    let others := (checkClients host limits now l rest ok.2).1
    let first := (checkClients host limits now l ((c, r) :: rest) s).1
    first.due = (if ok.1 && r.isDue now then c :: others.due else others.due) ∧
      first.kept = ((spared now ok.1 r).map fun left => (c, left)).toList ++ others.kept := by
  intro ok others first
  have unfolded : checkClients host limits now l ((c, r) :: rest) s =
      (if ok.1 = true then do
        let checked ← checkClients host limits now l rest
        let due := if (r.poll now).1 then c :: checked.due else checked.due
        if (r.poll now).2.isExpired now then
          return (⟨checked.kept, due, checked.removed + 1⟩ : Checked)
        else return ⟨(c, (r.poll now).2) :: checked.kept, due, checked.removed⟩
      else do
        let checked ← checkClients host limits now l rest
        return { checked with removed := checked.removed + 1 }) ok.2 := rfl
  have passed : first = (checkClients host limits now l ((c, r) :: rest) s).1 := rfl
  rw [unfolded] at passed
  clear unfolded
  generalize ok.1 = admitted at passed ⊢
  cases admitted with
  | false =>
    rw [passed]
    exact ⟨rfl, rfl⟩
  | true =>
    simp only [if_true, poll_fst, isExpired_poll] at passed
    unfold spared
    cases expired : r.isExpired now with
    | false =>
      rw [expired] at passed
      rw [passed]
      exact ⟨rfl, rfl⟩
    | true =>
      rw [expired] at passed
      rw [passed]
      exact ⟨rfl, rfl⟩

theorem passes_cons (c other : ClientId) (l : Location) (r : Registration) (rest : Clients) (s : σ) :
    passes host limits c l ((other, r) :: rest) s =
      let ok := limits.canInteract host.toWorld other l .all s
      if other = c then ok else passes host limits c l rest ok.2 := by
  simp only [passes, run_bind]
  split <;> rfl

theorem find?_checkClients {clients : Clients} (distinct : Distinct clients) (c : ClientId)
    (l : Location) (s : σ) :
    find? c (checkClients host limits now l clients s).1.kept =
      (find? c clients).bind (spared now (passes host limits c l clients s).1) := by
  induction clients generalizing s with
  | nil => rfl
  | cons entry rest ih =>
    obtain ⟨other, r⟩ := entry
    obtain ⟨fresh, distinct⟩ := distinct_cons.mp distinct
    obtain ⟨-, kept⟩ := checkClients_cons host limits now l other r rest s
    rw [kept]
    have later := ih distinct (limits.canInteract host.toWorld other l .all s).2
    by_cases same : other = c
    · subst same
      -- The client is filed once, so it is not among those after it.
      rw [find?_eq_none.mpr fresh, Option.bind_none] at later
      rw [passes_cons, if_pos rfl, find?_cons, if_pos rfl, Option.bind_some]
      cases spared now (limits.canInteract host.toWorld other l .all s).1 r with
      | none => exact later
      | some left => exact if_pos rfl
    · rw [passes_cons, if_neg same, find?_cons, if_neg same, ← later]
      cases spared now (limits.canInteract host.toWorld other l .all s).1 r with
      | none => rfl
      | some left => exact if_neg same

theorem mem_due_checkClients {clients : Clients} (distinct : Distinct clients) (c : ClientId)
    (l : Location) (s : σ) :
    c ∈ (checkClients host limits now l clients s).1.due ↔
      (passes host limits c l clients s).1 = true ∧
        ∃ r, find? c clients = some r ∧ r.isDue now = true := by
  induction clients generalizing s with
  | nil => exact iff_of_false List.not_mem_nil fun found => nomatch found.1
  | cons entry rest ih =>
    obtain ⟨other, r⟩ := entry
    obtain ⟨fresh, distinct⟩ := distinct_cons.mp distinct
    obtain ⟨due, -⟩ := checkClients_cons host limits now l other r rest s
    rw [due]
    have later := ih distinct (limits.canInteract host.toWorld other l .all s).2
    by_cases same : other = c
    · subst same
      have absent : find? other rest = none := find?_eq_none.mpr fresh
      simp only [absent, reduceCtorEq, false_and, exists_false, and_false, iff_false] at later
      simp only [passes_cons, find?_cons, if_true, Option.some.injEq, exists_eq_left']
      split
      · next both =>
        rw [Bool.and_eq_true] at both
        exact iff_of_true List.mem_cons_self both
      · next both =>
        rw [Bool.and_eq_true] at both
        exact iff_of_false later both
    · rw [passes_cons, if_neg same, find?_cons, if_neg same, ← later]
      split
      · rw [List.mem_cons, or_iff_right (Ne.symm same)]
      · rfl

theorem find?_sweepLocation {clients : Clients} (distinct : Distinct clients) (c : ClientId)
    (l : Location) (s : σ) :
    find? c (sweepLocation host limits now l clients s).1.1 =
      (find? c clients).bind (spared now (admittedAmong host limits c l clients s).1) := by
  cases clients with
  | nil => rfl
  | cons entry rest =>
    have unfolded : (sweepLocation host limits now l (entry :: rest) s).1.1 =
        if (Limits.isInteractable host.toWorld l s).1 = true then
          (checkClients host limits now l (entry :: rest)
            (Limits.isInteractable host.toWorld l s).2).1.kept
        else [] := by
      have opened : sweepLocation host limits now l (entry :: rest) s =
          sweepClients host limits now l (entry :: rest) s := rfl
      rw [opened, sweepClients, run_bind]
      split
      · -- Whether an observation is owed makes no difference to what stays.
        rw [run_bind]
        simp only
        split <;> rfl
      · rfl
    have admitted : (admittedAmong host limits c l (entry :: rest) s).1 =
        if (Limits.isInteractable host.toWorld l s).1 = true then
          (passes host limits c l (entry :: rest) (Limits.isInteractable host.toWorld l s).2).1
        else false := by
      rw [admittedAmong, run_bind]
      split <;> rfl
    rw [unfolded, admitted]
    split
    · exact find?_checkClients host limits now distinct c l _
    · cases find? c (entry :: rest) <;> rfl

/-! ## All locations -/

theorem reach_cons (l there : Location) (clients : Clients) (rest : List (Location × Clients))
    (s : σ) :
    reach host limits now l ((there, clients) :: rest) s =
      if there = l then (clients, s)
      else reach host limits now l rest (sweepLocation host limits now there clients s).2 := by
  rw [reach]
  split <;> rfl

/-- What is reached is what is filed. -/
theorem yields_reach (l : Location) (filed : List (Location × Clients)) :
    Yields (reach host limits now l filed) fun clients => clients = (find? l filed).getD [] := by
  induction filed with
  | nil => exact yields_pure rfl
  | cons entry rest ih =>
    obtain ⟨there, clients⟩ := entry
    intro s
    rw [reach_cons, find?_cons]
    split
    · rfl
    · exact ih _

theorem find?_sweepFiled {filed : List (Location × Clients)} (distinct : Distinct filed)
    (clients : ∀ e ∈ filed, Distinct e.2) (c : ClientId) (l : Location) (s : σ) :
    (find? l (sweepFiled host limits now filed s).1.1).bind (find? c) =
      ((find? l filed).bind (find? c)).bind (spared now
        ((reach host limits now l filed >>= admittedAmong host limits c l) s).1) := by
  induction filed generalizing s with
  | nil => rfl
  | cons entry rest ih =>
    obtain ⟨there, here⟩ := entry
    obtain ⟨fresh, distinct⟩ := distinct_cons.mp distinct
    have unfolded : (sweepFiled host limits now ((there, here) :: rest) s).1.1 =
        (there, (sweepLocation host limits now there here s).1.1) ::
          (sweepFiled host limits now rest (sweepLocation host limits now there here s).2).1.1 := rfl
    rw [unfolded, find?_cons, find?_cons, run_bind, reach_cons]
    by_cases same : there = l
    · subst same
      simp only [if_true, Option.bind_some]
      exact find?_sweepLocation host limits now (clients _ List.mem_cons_self) c there s
    · -- The locations after this one are swept in the surroundings that it leaves.
      simp only [if_neg same]
      exact ih distinct (fun e member => clients e (List.mem_cons_of_mem _ member)) _

/-- A sweep leaves of each registration what its checks and its own marks say. -/
theorem find?_run {t : Table} (tidy : t.Tidy) (c : ClientId) (l : Location) (s : σ) :
    (run host limits now t s).1.1.find? c l =
      (t.find? c l).bind (spared now (admittedAt host limits now t c l s).1) := by
  have proper : (run host limits now t s).1.1.Proper :=
    tidy.thins (yields_run host limits (sameInterval_poll now) t s)
  obtain ⟨left, -⟩ := run_filed host limits now t s
  have distinct : Distinct (sweepFiled host limits now t.filed s).1.1 := by
    rw [Distinct, keys_sweepFiled host limits now t.filed s]
    exact tidy.distinct_filed
  rw [proper.find?_eq_bind, left, find?_occupied distinct,
    find?_sweepFiled host limits now tidy.distinct_filed tidy.clients_filed, ← tidy.find?_eq_bind]
  rfl

/-- The clients that are marked due are those that pass and whose registration is due. -/
theorem mem_dueAt {t : Table} (tidy : t.Tidy) (c : ClientId) (l : Location) (s : σ) :
    c ∈ (dueAt host limits now t l s).1 ↔ (admittedAt host limits now t c l s).1 = true ∧
      ∃ r, t.find? c l = some r ∧ r.isDue now = true := by
  have reached := yields_reach host limits now l t.filed s
  have held : t.find? c l = find? c (reach host limits now l t.filed s).1 := by
    rw [tidy.find?_eq_bind, reached]
    cases find? l t.filed <;> rfl
  have distinct : Distinct (reach host limits now l t.filed s).1 := by
    rw [reached]
    cases here : find? l t.filed with
    | none => exact distinct_nil
    | some clients => exact tidy.clients_filed _ (mem_of_find? here)
  rw [held, dueAt, admittedAt, run_bind, run_bind, dueAmong, admittedAmong, run_bind, run_bind]
  split
  · exact mem_due_checkClients host limits now distinct c l _
  · exact iff_of_false List.not_mem_nil fun found => Bool.false_ne_true found.1

end Sweep

end ObservationFeed.Server
