import ObservationFeed.Proofs.Server.Turns

/-!
# Leases

The lease of a recurring registration is its expiry mark: a sweep up to the mark
leaves the registration, and a sweep past it drops it.  Where requests are
accepted and sweeps pass their checks, the lease follows from the messages, and a
sweep that comes in time leaves it as it is.
-/

namespace ObservationFeed.Server

variable {σ : Type}

/-- The expiry mark of a registration, if it is recurring. -/
def Registration.lease? (x : Registration) : Option Nat :=
  if x.interval.recurs then some x.expiry.count else none

/-- The expiry mark of the recurring registration of a client at a location. -/
def Table.lease? (t : Table) (c : ClientId) (l : Location) : Option Nat :=
  (t.find? c l).bind Registration.lease?

theorem Registration.lease?_eq_some {x : Registration} {mark : Nat} (lease : x.lease? = some mark) :
    (∃ every, x.interval = .every every) ∧ x.expiry.count = mark := by
  unfold lease? at lease
  cases interval : x.interval with
  | never =>
    rw [interval] at lease
    cases lease
  | every every =>
    rw [interval] at lease
    exact ⟨⟨every, rfl⟩, Option.some.inj lease⟩

theorem Table.lease?_eq_some {t : Table} {c : ClientId} {l : Location} {mark : Nat}
    (lease : t.lease? c l = some mark) :
    ∃ x, t.find? c l = some x ∧ (∃ every, x.interval = .every every) ∧ x.expiry.count = mark := by
  obtain ⟨x, held, lease⟩ := Option.bind_eq_some_iff.mp lease
  exact ⟨x, held, Registration.lease?_eq_some lease⟩

theorem lease?_poll (now : Tick) (x : Registration) : (x.poll now).2.lease? = x.lease? := by
  unfold Registration.poll Registration.fired Registration.lease?
  split
  · split <;> simp only [*]
  · rfl

/-- A request that is accepted does to the lease what it does to a mark. -/
theorem lease?_change {maxAge : Nat} {c : ClientId} {kind : RequestKind}
    {change : Tick → Option Registration → Registration}
    (same : Registrar.change? maxAge c kind = some change) (now : Tick)
    (old : Option Registration) :
    (change now old).lease? =
      kind.lasts (now.add maxAge).count (old.bind Registration.lease?) := by
  cases kind with
  | stop => cases same
  | single | start | keepalive =>
    cases same
    cases old <;> rfl

namespace Turn

variable {host : Host σ} {now : Tick} {c : ClientId} {l : Location} {t : Turn σ}

/-- A turn at a tick of the world at which a location and a client pass every check. -/
structure Passes (host : Host σ) (now : Tick) (c : ClientId) (l : Location) (t : Turn σ) :
    Prop where
  clock : ∀ seen, t.seen? host = some seen → seen = now
  accepts : t.operation.own? = some (c, l) → t.operation.kind? ≠ some .stop →
    t.answer host = .passed true
  admits : (t.held c l).isSome → (t.sweep? host).isSome → t.admits host c l = true

theorem seen?_of_sweep {tick : Tick} {s : σ} (swept : t.sweep? host = some (tick, s)) :
    t.seen? host = some tick := by
  rw [seen?, if_neg, swept]
  · rfl
  · intro own
    cases (t.sweep?_eq_none_of_own host own).symm.trans swept

theorem passes_of_own (own : t.operation.own?.isSome) (seen : t.seen? host = some now)
    (accepted : t.answer host = .passed true) : t.Passes host now c l where
  clock _ sees := (Option.some.inj (seen.symm.trans sees)).symm
  accepts _ _ := accepted
  admits _ swept := by
    rw [t.sweep?_eq_none_of_own host own] at swept
    cases swept

theorem passes_of_sweep (swept : (t.sweep? host).map (·.1) = some now)
    (admitted : t.admits host c l = true) : t.Passes host now c l := by
  obtain ⟨⟨tick, s⟩, sweep, rfl⟩ := Option.map_eq_some_iff.mp swept
  refine ⟨fun _ sees => ?_, fun own => ?_, fun _ _ => admitted⟩
  · exact (Option.some.inj ((seen?_of_sweep sweep).symm.trans sees)).symm
  · cases (t.sweep?_eq_none_of_own host (by rw [own]; rfl)).symm.trans sweep

theorem Passes.left_of_sweep (passes : t.Passes host now c l) (tidy : t.registrar.table.Tidy)
    (swept : (t.sweep? host).isSome) {x : Registration} (held : t.held c l = some x)
    (inTime : now.count ≤ x.expiry.count) : t.left host c l = some (x.poll now).2 := by
  obtain ⟨⟨tick, s⟩, sweep⟩ := Option.isSome_iff_exists.mp swept
  obtain rfl := passes.clock tick (seen?_of_sweep sweep)
  have admitted := passes.admits (by rw [held]; rfl) swept
  have unexpired : x.isExpired tick = false := decide_eq_false (Nat.not_lt.mpr inTime)
  rw [t.left_of_sweep host tidy sweep, held, admitted, Option.bind_some, Sweep.spared, unexpired]
  rfl

/-- A request does to the lease what its message does to a mark. -/
theorem Passes.lease_own (passes : t.Passes host now c l) (own : t.operation.own? = some (c, l))
    {kind : RequestKind} (asks : t.operation.kind? = some kind) :
    (t.after host).table.lease? c l =
      kind.lasts (now.add t.registrar.maxAge).count (t.registrar.table.lease? c l) := by
  rcases t.left_of_own host own asks c l with
    ⟨change, seen, change', sees, -, left⟩ | ⟨refused, left⟩
  · obtain rfl := passes.clock seen sees
    rw [if_pos ⟨rfl, rfl⟩] at left
    rw [Table.lease?, ← Turn.left, left]
    exact lease?_change change' seen (t.held c l)
  · rw [if_pos ⟨rfl, rfl⟩] at left
    have stops : kind = .stop := by
      refine refused.elim id fun refused => Classical.byContradiction fun other => ?_
      have accepted := passes.accepts own (by simpa [asks] using other)
      cases refused.symm.trans accepted
    rw [Table.lease?, ← Turn.left, left, stops]
    rfl

/-- Whatever else happens before the lease is over leaves it alone. -/
theorem Passes.lease_other (passes : t.Passes host now c l) (tidy : t.registrar.table.Tidy)
    (own : t.operation.own? ≠ some (c, l)) (uncleared : t.operation ≠ .clear)
    (inTime : ∀ mark, t.registrar.table.lease? c l = some mark → now.count ≤ mark) :
    (t.after host).table.lease? c l = t.registrar.table.lease? c l := by
  have fate := t.fate host tidy c l
  rw [Table.lease?, Table.lease?, ← Turn.left, ← Turn.held]
  rw [Table.lease?, ← Turn.held] at inTime
  generalize left : t.left host c l = after at fate
  cases fate with
  | same => rfl
  | cleared cleared => exact absurd cleared uncleared
  | denied denied => exact absurd denied.own own
  | granted _ grants => exact absurd grants.own own
  | @swept tick s sweep =>
    cases held : t.held c l with
    | none => rfl
    | some x =>
      rw [held, Option.bind_some] at inTime left
      rw [Option.bind_some, Option.bind_some]
      cases lease : x.lease? with
      | none =>
        -- A registration that does not recur may go, and if it stays it still does not recur.
        unfold Sweep.spared
        split
        · exact (lease?_poll tick x).trans lease
        · rfl
      | some mark =>
        have still := inTime mark lease
        rw [← (Registration.lease?_eq_some lease).2] at still
        have spares := passes.left_of_sweep tidy (by rw [sweep]; rfl) held still
        rw [left] at spares
        rw [spares]
        exact (lease?_poll now x).trans lease

theorem maxAge_after (host : Host σ) (t : Turn σ) : (t.after host).maxAge = t.registrar.maxAge := by
  have ticks (now : Tick) (s : σ) :
      (t.registrar.tick host now s).1.2.maxAge = t.registrar.maxAge := by
    rw [Registrar.tick]
    split <;> rfl
  cases own : t.operation.own? with
  | some mine =>
    obtain ⟨table, ok, after, -⟩ := t.after_of_own host (Option.isSome_of_eq_some own)
    rw [after]
  | none =>
    unfold after
    cases op : t.operation with
    | stop | single | start | keepalive | handle => rw [op] at own; cases own
    | setTickInterval | clearCooldown | clear | elsewhere => rfl
    | tick now => exact ticks now t.state
    | tickWorld => exact ticks _ _

end Turn

end ObservationFeed.Server
