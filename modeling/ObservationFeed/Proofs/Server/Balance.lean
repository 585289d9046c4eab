import ObservationFeed.Proofs.Server.Refinement

/-!
# What a sweep counts

The numbers that a sweep reports add up: each location is counted once, each
registration is kept or counted as dropped, and a location that counts as
broadcast or as failed had a client due.  Every location is in balance by itself,
so nothing needs to be known of the order of the locations, nor of a world whose
answers change while the sweep goes on.
-/

namespace ObservationFeed.Server

open KeyedList

/-- The numbers that are right for some locations, from so many registrations at them before and
after. -/
structure Balanced (before after places : Nat) (tally : Tally) : Prop where
  locations : tally.locations = places
  removed : tally.removed + after = before
  once : tally.broadcasts + tally.failures ≤ places
  addressed : tally.broadcasts ≤ tally.notified
  most : tally.notified ≤ before

theorem Balanced.zero : Balanced 0 0 0 .zero :=
  ⟨rfl, rfl, Nat.le_refl 0, Nat.le_refl 0, Nat.le_refl 0⟩

theorem Balanced.add {before after places before' after' places' : Nat} {here there : Tally}
    (first : Balanced before after places here) (second : Balanced before' after' places' there) :
    Balanced (before + before') (after + after') (places + places') (here.add there) where
  locations := by simp only [Tally.add, first.locations, second.locations]
  removed := by
    have one := first.removed
    have two := second.removed
    simp only [Tally.add]
    omega
  once := by
    have one := first.once
    have two := second.once
    simp only [Tally.add]
    omega
  addressed := Nat.add_le_add first.addressed second.addressed
  most := Nat.add_le_add first.most second.most

namespace Sweep

variable {σ : Type} (host : Host σ) (limits : Limits) (now : Tick)

/-! ## One location -/

theorem yields_checkClients_balanced (l : Location) (clients : Clients) :
    Yields (checkClients host limits now l clients) fun checked =>
      checked.removed + checked.kept.length = clients.length ∧
        checked.due.length ≤ clients.length := by
  induction clients with
  | nil => exact yields_pure ⟨rfl, Nat.le_refl 0⟩
  | cons entry rest ih =>
    obtain ⟨c, r⟩ := entry
    refine yields_bind fun passes => ?_
    cases passes with
    | false =>
      refine ih.bind fun checked ⟨removed, due⟩ => yields_pure ?_
      simp only [List.length_cons]
      omega
    | true =>
      refine ih.bind fun checked ⟨removed, due⟩ => ?_
      -- A registration that is due counts as such, whether or not it has expired.
      have owed : (if (r.poll now).1 = true then c :: checked.due else checked.due).length ≤
          rest.length + 1 := by
        split
        · exact Nat.succ_le_succ due
        · omega
      simp only
      split
      · exact yields_pure ⟨by simp only [List.length_cons]; omega, owed⟩
      · exact yields_pure ⟨by simp only [List.length_cons]; omega, owed⟩

/-- A location some of whose registrations are dropped, and whose observation is asked for only if a
client is due. -/
theorem balanced_tallyOf {before after removed : Nat} {due : List ClientId} {outcome : Broadcast}
    (balance : removed + after = before) (within : due.length ≤ before)
    (asked : due = [] → outcome = .nothing) :
    Balanced before after 1 (Tally.add ⟨1, removed, 0, 0, 0⟩ (tallyOf due outcome)) := by
  cases outcome with
  | nothing => exact ⟨rfl, balance, Nat.zero_le 1, Nat.le_refl 0, Nat.zero_le before⟩
  | sent =>
    have someone : 1 ≤ due.length := List.length_pos_iff.mpr fun nobody => nomatch asked nobody
    refine ⟨rfl, balance, Nat.le_refl 1, ?_, ?_⟩
    · simpa only [Tally.add, tallyOf, Nat.zero_add] using someone
    · simpa only [Tally.add, tallyOf, Nat.zero_add] using within
  | failed cause => exact ⟨rfl, balance, Nat.le_refl 1, Nat.le_refl 0, Nat.zero_le before⟩

theorem yields_sweepLocation_balanced (l : Location) (clients : Clients) :
    Yields (sweepLocation host limits now l clients) fun swept =>
      Balanced clients.length swept.1.length 1 swept.2 := by
  cases clients with
  | nil => exact yields_pure ⟨rfl, rfl, Nat.zero_le 1, Nat.le_refl 0, Nat.le_refl 0⟩
  | cons entry rest =>
    refine yields_bind fun interactable => ?_
    cases interactable with
    | false =>
      exact yields_pure ⟨rfl, rfl, Nat.zero_le 1, Nat.le_refl 0, Nat.zero_le _⟩
    | true =>
      refine (yields_checkClients_balanced host limits now l (entry :: rest)).bind
        fun checked ⟨removed, due⟩ => ?_
      simp only
      split
      · exact yields_pure (balanced_tallyOf removed due fun _ => rfl)
      · next some =>
        refine yields_bind fun outcome => yields_pure ?_
        refine balanced_tallyOf removed due fun nobody => absurd ?_ some
        rw [nobody]
        rfl

/-! ## All locations -/

theorem yields_sweepFiled_balanced (filed : List (Location × Clients)) :
    Yields (sweepFiled host limits now filed) fun swept =>
      Balanced (total List.length filed) (total List.length swept.1) filed.length swept.2 := by
  induction filed with
  | nil => exact yields_pure .zero
  | cons entry rest ih =>
    refine (yields_sweepLocation_balanced host limits now entry.1 entry.2).bind fun here first =>
      ih.bind fun others second => yields_pure ?_
    have both := first.add second
    rwa [Nat.add_comm 1] at both

theorem total_occupied (filed : List (Location × Clients)) :
    total List.length (occupied filed) = total List.length filed := by
  induction filed with
  | nil => rfl
  | cons entry rest ih =>
    obtain ⟨l, clients⟩ := entry
    cases clients with
    | nil => exact ih.trans (Nat.zero_add _).symm
    | cons first others => exact congrArg (_ + ·) ih

theorem balanced_run (t : Table) (s : σ) :
    let swept := (run host limits now t s).1
    Balanced t.registrationCount swept.1.registrationCount t.locationCount swept.2.tally := by
  obtain ⟨left, tally, -⟩ := run_filed host limits now t s
  have balanced := yields_sweepFiled_balanced host limits now t.filed s
  have places : t.filed.length = t.locationCount :=
    length_flatMap_eq_total List.length _ (fun p => List.length_map ..) t.partitions
  rw [t.total_filed, places, ← tally, ← total_occupied, ← left, Table.total_filed] at balanced
  exact balanced

end Sweep

namespace Registrar

/-- Whatever a server was asked before, and whatever a world answers and a sink does in a sweep of
its table, the report counts each location that was filed once, and as dropped what is gone from
the table.  At most one broadcast or failure is counted for a location, at least one notified client
for a broadcast, and no more of these than there were registrations.  The sweep adds none. -/
theorem sweep_conserves {τ : Type} (config : ServerConfig) (host : Host σ)
    (operations : List (Operation σ)) (s : σ) (other : Host τ) (now : Tick) (s' : τ) :
    let r := ((ofConfig config).performAll host operations s).1.2
    let swept := (Sweep.run other r.limits now r.table s').1
    let tally := swept.2.tally
    tally.locations = r.table.locationCount ∧
      swept.1.registrationCount ≤ r.table.registrationCount ∧
      tally.removed = r.table.registrationCount - swept.1.registrationCount ∧
      tally.broadcasts + tally.failures ≤ tally.locations ∧
      tally.broadcasts ≤ tally.notified ∧ tally.notified ≤ r.table.registrationCount ∧
      ∀ c l, (swept.1.find? c l).isSome → (r.table.find? c l).isSome := by
  intro r swept tally
  have balanced : Balanced r.table.registrationCount swept.1.registrationCount
      r.table.locationCount tally := Sweep.balanced_run other r.limits now r.table s'
  have removed := balanced.removed
  have tidy : r.table.Tidy := (performAll_tidy host operations Table.tidy_empty s).1
  have thins := Sweep.yields_run other r.limits (sameInterval_poll now) r.table s'
  refine ⟨balanced.locations, by omega, by omega, balanced.locations ▸ balanced.once,
    balanced.addressed, balanced.most, fun c l left => ?_⟩
  obtain ⟨new, found⟩ := Option.isSome_iff_exists.mp left
  obtain ⟨old, there, -⟩ := Table.find?_thins tidy.toProper thins found
  exact Option.isSome_iff_exists.mpr ⟨old, there⟩

end Registrar

end ObservationFeed.Server
