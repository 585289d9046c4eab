import ObservationFeed.Proofs.Server.FlatRegistrar

/-!
# Sweeps of one map

A sweep of a table does to the map of the table what a flat sweep does in the
order of the table.  In between stands the sweep of a plain list of locations,
from which a table keeps the locations that have registrations left, and a map
everything.
-/

namespace ObservationFeed.Server

open KeyedList

variable {σ : Type} (host : Host σ) (limits : Limits) (now : Tick)

/-! ## Lists of locations -/

/-- Sweeps locations with their registrations and keeps all of them, also those left with none. -/
def sweepFiled : List (Location × Clients) → StateM σ (List (Location × Clients) × Tally)
  | [] => return ([], .zero)
  | (l, clients) :: rest => do
    let (left, here) ← Sweep.sweepLocation host limits now l clients
    let (others, there) ← sweepFiled rest
    return ((l, left) :: others, here.add there)

theorem keys_sweepFiled (filed : List (Location × Clients)) :
    Yields (sweepFiled host limits now filed) fun swept => keys swept.1 = keys filed := by
  induction filed with
  | nil => exact yields_pure rfl
  | cons entry rest ih =>
    refine yields_bind fun here => ih.bind fun others same => yields_pure ?_
    rw [keys_cons, keys_cons, same]

/-- Two programs that go on from results that look alike. -/
theorem bind_congr_map {α β γ δ : Type} {x : StateM σ α} {y : StateM σ β} {p : α → δ} {q : β → δ}
    (same : p <$> x = q <$> y) {f : α → StateM σ γ} {g : β → StateM σ γ}
    (next : ∀ a b, p a = q b → f a = g b) : x >>= f = y >>= g := by
  funext s
  have results : (p (x s).1, (x s).2) = (q (y s).1, (y s).2) := congrFun same s
  obtain ⟨alike, state⟩ := Prod.mk.inj results
  show f (x s).1 (x s).2 = g (y s).1 (y s).2
  rw [next _ _ alike, state]

theorem Tally.add_assoc (a b c : Tally) : (a.add b).add c = a.add (b.add c) := by
  simp only [Tally.add, Nat.add_assoc]

theorem Tally.zero_add (a : Tally) : Tally.zero.add a = a := by
  simp only [Tally.add, Tally.zero, Nat.zero_add]

theorem sweepFiled_append (first second : List (Location × Clients)) :
    sweepFiled host limits now (first ++ second) = do
      let one ← sweepFiled host limits now first
      let two ← sweepFiled host limits now second
      return (one.1 ++ two.1, one.2.add two.2) := by
  induction first with
  | nil => simp [sweepFiled, Tally.zero_add]
  | cons entry rest ih =>
    simp only [List.cons_append, sweepFiled, ih, bind_assoc, pure_bind, Tally.add_assoc]

/-- The locations that still have registrations. -/
def occupied (filed : List (Location × Clients)) : List (Location × Clients) :=
  filed.filter fun e => !e.2.isEmpty

/-- The blocks of a partition as locations. -/
def located (partition : String) (blocks : Blocks) : List (Location × Clients) :=
  blocks.map fun b => (⟨partition, b.1⟩, b.2)

/-- A partition is swept block after block. -/
theorem located_sweepBlocks (partition : String) (blocks : Blocks) :
    (fun swept => (located partition swept.1, swept.2)) <$>
        Sweep.sweepBlocks host limits now partition blocks =
      (fun swept => (occupied swept.1, swept.2)) <$>
        sweepFiled host limits now (located partition blocks) := by
  induction blocks with
  | nil => rfl
  | cons entry rest ih =>
    simp only [located, List.map_cons, Sweep.sweepBlocks, sweepFiled, map_bind, map_pure]
    refine bind_congr fun here => bind_congr_map ih fun others others' same => ?_
    obtain ⟨left, tally⟩ := Prod.mk.inj same
    simp only [tally]
    -- A block without registrations is dropped on either side.
    cases here.1 with
    | nil => exact congrArg (fun left => pure (left, _)) left
    | cons => exact congrArg (fun left => pure (_ :: left, _)) left

theorem filed_sweepPartitions (partitions : List (String × Blocks)) :
    (fun swept => (Table.filed ⟨swept.1⟩, swept.2)) <$>
        Sweep.sweepPartitions host limits now partitions =
      (fun swept => (occupied swept.1, swept.2)) <$>
        sweepFiled host limits now (Table.filed ⟨partitions⟩) := by
  induction partitions with
  | nil => rfl
  | cons entry rest ih =>
    obtain ⟨partition, blocks⟩ := entry
    have front : Table.filed ⟨(partition, blocks) :: rest⟩ =
        located partition blocks ++ Table.filed ⟨rest⟩ := List.flatMap_cons
    rw [front, sweepFiled_append]
    simp only [Sweep.sweepPartitions, map_bind, map_pure]
    refine bind_congr_map (located_sweepBlocks host limits now partition blocks)
      fun here here' same => bind_congr_map ih fun others others' sameLater => ?_
    obtain ⟨left, tally⟩ := Prod.mk.inj same
    obtain ⟨leftLater, tallyLater⟩ := Prod.mk.inj sameLater
    have joined : occupied (here'.1 ++ others'.1) =
        located partition here.1 ++ Table.filed ⟨others.1⟩ := by
      rw [left, leftLater]
      exact List.filter_append ..
    rw [joined, tally, tallyLater]
    -- A partition without blocks has no locations.
    cases here.1 <;> rfl

/-- A table is swept as the list of its locations. -/
theorem run_filed (t : Table) (s : σ) :
    let swept := sweepFiled host limits now t.filed s
    (Sweep.run host limits now t s).1.1.filed = occupied swept.1.1 ∧
      (Sweep.run host limits now t s).1.2.tally = swept.1.2 ∧
      (Sweep.run host limits now t s).2 = swept.2 := by
  have swept := congrFun (filed_sweepPartitions host limits now t.partitions) s
  exact ⟨congrArg (·.1.1) swept, congrArg (·.1.2) swept, congrArg Prod.snd swept⟩

/-- What becomes of the registrations as location after location is replaced. -/
def replaceAll (m : Registrations) (left : List (Location × Clients)) : Registrations :=
  left.foldl (fun m e => m.replace e.1 e.2) m

theorem replaceAll_apply (m : Registrations) {left : List (Location × Clients)}
    (distinct : Distinct left) (c : ClientId) (l : Location) :
    replaceAll m left c l = match find? l left with
      | some clients => find? c clients
      | none => m c l := by
  induction left generalizing m with
  | nil => rfl
  | cons entry rest ih =>
    obtain ⟨fresh, distinct⟩ := distinct_cons.mp distinct
    rw [replaceAll, List.foldl_cons]
    refine (ih (m.replace entry.1 entry.2) distinct).trans ?_
    rw [find?_cons]
    by_cases same : entry.1 = l
    · subst same
      rw [find?_eq_none.mpr fresh, if_pos rfl]
      exact if_pos rfl
    · rw [if_neg same]
      cases find? l rest with
      | none => exact if_neg (Ne.symm same)
      | some clients => rfl

theorem select_keys {m : Registrations} {l : Location} {clients : Clients}
    (here : ∀ e ∈ clients, m e.1 l = some e.2) : m.select l (keys clients) = clients := by
  induction clients with
  | nil => rfl
  | cons entry rest ih =>
    obtain ⟨first, later⟩ := List.forall_mem_cons.mp here
    rw [Registrations.select, keys_cons, List.filterMap_cons, first]
    exact congrArg (entry :: ·) (ih later)

/-- The flat sweep in the order of a list of locations. -/
theorem sweep_eq (filed : List (Location × Clients)) (distinct : Distinct filed)
    (clients : ∀ e ∈ filed, Distinct e.2) (m : Registrations)
    (here : ∀ e ∈ filed, ∀ c, m c e.1 = find? c e.2) :
    FlatRegistrar.sweep host limits now (filed.map fun e => (e.1, keys e.2)) m =
      (fun swept => (replaceAll m swept.1, swept.2)) <$> sweepFiled host limits now filed := by
  induction filed generalizing m with
  | nil => rfl
  | cons entry rest ih =>
    obtain ⟨fresh, distinct⟩ := distinct_cons.mp distinct
    have first : ∀ e ∈ entry.2, m e.1 entry.1 = some e.2 := by
      intro e member
      rw [here entry List.mem_cons_self]
      exact (find?_eq_some (clients entry List.mem_cons_self)).mpr member
    rw [List.map_cons, FlatRegistrar.sweep, select_keys first]
    simp only [sweepFiled, map_bind, map_pure]
    refine bind_congr fun swept => ?_
    -- The locations to come are others, so their registrations are still the old ones.
    have later : ∀ e ∈ rest, ∀ c, m.replace entry.1 swept.1 c e.1 = find? c e.2 := by
      intro e member c
      have other : e.1 ≠ entry.1 := fun same => fresh (same ▸ mem_keys_of_mem member)
      exact (if_neg other).trans (here e (List.mem_cons_of_mem _ member) c)
    rw [ih distinct (fun e member => clients e (List.mem_cons_of_mem _ member)) _ later]
    simp only [bind_map_left]
    rfl

theorem find?_occupied {filed : List (Location × Clients)} (distinct : Distinct filed)
    (l : Location) (c : ClientId) :
    (find? l (occupied filed)).bind (find? c) = (find? l filed).bind (find? c) := by
  induction filed with
  | nil => rfl
  | cons entry rest ih =>
    obtain ⟨there, clients⟩ := entry
    obtain ⟨fresh, distinct⟩ := distinct_cons.mp distinct
    have ih := ih distinct
    cases clients with
    | nil =>
      -- Nothing is found under an entry without registrations, nor behind it.
      refine ih.trans ?_
      rw [find?_cons]
      by_cases same : there = l
      · rw [if_pos same, find?_eq_none.mpr (same ▸ fresh)]
        rfl
      · rw [if_neg same]
    | cons first others =>
      have kept : occupied ((there, first :: others) :: rest) =
          (there, first :: others) :: occupied rest := rfl
      rw [kept, find?_cons, find?_cons]
      by_cases same : there = l
      · rw [if_pos same, if_pos same]
      · rw [if_neg same, if_neg same, ih]

theorem replaceAll_eq_find? {t t' : Table} {left : List (Location × Clients)} (proper : t.Proper)
    (proper' : t'.Proper) (same : keys left = keys t.filed) (kept : t'.filed = occupied left) :
    replaceAll t.find? left = t'.find? := by
  have distinct : Distinct left := by
    rw [Distinct, same]
    exact proper.distinct_filed
  funext c l
  rw [replaceAll_apply _ distinct, proper'.find?_eq_bind, kept, find?_occupied distinct]
  cases gone : find? l left with
  | some clients => rfl
  | none =>
    -- A location that was not swept had no registrations.
    have absent : find? l t.filed = none := by
      rw [find?_eq_none, ← same, ← find?_eq_none]
      exact gone
    rw [Option.bind_none]
    show t.find? c l = none
    rw [proper.find?_eq_bind, absent, Option.bind_none]

/-- A sweep of a table, on the map of the table. -/
theorem sweep_order {t : Table} (tidy : t.Tidy) :
    FlatRegistrar.sweep host limits now t.order t.find? =
      (fun swept => (Table.find? ⟨swept.1⟩, swept.2)) <$>
        Sweep.sweepPartitions host limits now t.partitions := by
  have here : ∀ e ∈ t.filed, ∀ c, t.find? c e.1 = find? c e.2 := by
    intro e here c
    rw [tidy.find?_eq_bind, (find?_eq_some tidy.distinct_filed).mpr here, Option.bind_some]
  rw [Table.order, sweep_eq host limits now t.filed tidy.distinct_filed tidy.clients_filed _ here]
  funext s
  have swept : (_, _) = (_, _) := congrFun (filed_sweepPartitions host limits now t.partitions) s
  obtain ⟨results, state⟩ := Prod.mk.inj swept
  obtain ⟨kept, tally⟩ := Prod.mk.inj results
  have proper : Table.Proper ⟨(Sweep.sweepPartitions host limits now t.partitions s).1.1⟩ :=
    tidy.thins (Sweep.yields_sweepPartitions host limits (sameInterval_poll now) t.partitions s)
  have same := keys_sweepFiled host limits now t.filed s
  refine Prod.ext (Prod.ext ?_ tally.symm) state.symm
  exact replaceAll_eq_find? tidy.toProper proper same kept

end ObservationFeed.Server
