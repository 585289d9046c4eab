import ObservationFeed.Proofs.Server.OneShots

/-!
# The sweep after a one-shot

A request for one observation puts the update mark one tick back, and nothing
that is accepted until the next sweep puts it further away again.  So that sweep
finds the registration due, and one that was filed for the occasion also expired.

The tick before the first one is the first one.  At the first tick the marks are
therefore not behind, and a sweep there neither fires the registration nor drops
it.
-/

namespace ObservationFeed.Server

variable {σ : Type} {host : Host σ} {t : Turn σ} {c : ClientId} {l : Location}

/-! ## One turn -/

/-- A request for one observation was accepted. -/
structure Turn.Hastens (host : Host σ) (t : Turn σ) (now : Tick) (c : ClientId) (l : Location) :
    Prop where
  own : t.operation.own? = some (c, l)
  kind : t.operation.kind? = some .single
  passed : t.answer host = .passed true
  seen : t.seen? host = some now

/-- No sweep, and nothing that takes the registration away. -/
structure Turn.Spares (host : Host σ) (t : Turn σ) (c : ClientId) (l : Location) : Prop where
  idle : t.sweep? host = none
  uncleared : t.operation ≠ .clear
  accepted : ¬ t.Denies host c l

/-- A request that is accepted files its change at the tick it sees. -/
theorem Turn.left_of_grants {kind : RequestKind} (grants : t.Grants host c l)
    (asks : t.operation.kind? = some kind) :
    ∃ change now, Registrar.change? t.registrar.maxAge c kind = some change ∧
      t.seen? host = some now ∧ t.left host c l = some (change now (t.held c l)) := by
  rcases t.left_of_own host grants.own asks c l with
    ⟨change, now, same, seen, -, left⟩ | ⟨refused | refused, -⟩
  · exact ⟨change, now, same, seen, by rw [left, if_pos ⟨rfl, rfl⟩]⟩
  · exact absurd (asks.trans (congrArg some refused)) grants.kind
  · cases grants.passed.symm.trans refused

theorem Turn.Hastens.left {now : Tick} (hastens : t.Hastens host now c l) :
    t.left host c l = some (Registrar.singleChange c now (t.held c l)) := by
  have grants : t.Grants host c l :=
    ⟨hastens.own, by rw [hastens.kind]; nofun, hastens.passed⟩
  obtain ⟨change, seen, same, sees, left⟩ := Turn.left_of_grants grants hastens.kind
  cases same
  cases hastens.seen.symm.trans sees
  exact left

/-- The registration that is left is due at the tick of the request, unless there is no tick before
it. -/
theorem nextUpdate_singleChange (c : ClientId) (now : Tick) (old : Option Registration) :
    (Registrar.singleChange c now old).nextUpdate.count ≤ now.count - 1 := by
  cases old with
  | none => exact Nat.le_refl _
  | some x =>
    simp only [Registrar.singleChange, Registration.hasten, Tick.count_earlier, Tick.count_pred]
    omega

/-- What is held stays, with no later update mark, and with the same expiry mark if no start and no
keepalive is accepted. -/
theorem Turn.Spares.left (spares : t.Spares host c l) (tidy : t.registrar.table.Tidy)
    {x : Registration} (held : t.held c l = some x) :
    ∃ y, t.left host c l = some y ∧ y.nextUpdate.count ≤ x.nextUpdate.count ∧
      ((t.Grants host c l → t.operation.kind? = some .single) → y.expiry = x.expiry) := by
  have fate := t.fate host tidy c l
  generalize left : t.left host c l = after at fate
  cases fate with
  | same => exact ⟨x, held, Nat.le_refl _, fun _ => rfl⟩
  | cleared clear => exact absurd clear spares.uncleared
  | denied denies => exact absurd denies spares.accepted
  | granted now grants same =>
    rw [held] at left ⊢
    refine ⟨_, rfl, nextUpdate_change same now x, fun singles => ?_⟩
    obtain ⟨change, seen, same, -, found⟩ := Turn.left_of_grants grants (singles grants)
    cases same
    rw [held] at found
    rw [Option.some.inj (left.symm.trans found)]
    rfl
  | swept swept => cases spares.idle.symm.trans swept

/-! ## Runs -/

/-- What a turn leaves is what the turn after some others finds, if each of them keeps it. -/
theorem Registrar.course_between {motive : Registrar → Prop} {operations : List (Operation σ)}
    {r : Registrar} {s : σ} {past span later : List (Turn σ)} {first last : Turn σ}
    (split : r.course host operations s = past ++ first :: (span ++ last :: later))
    (start : motive (first.after host))
    (step : ∀ t ∈ span, motive t.registrar → motive (t.after host)) : motive last.registrar := by
  induction span generalizing past first with
  | nil =>
    rw [Registrar.course_next split]
    exact start
  | cons next rest ih =>
    obtain ⟨here, others⟩ := List.forall_mem_cons.mp step
    have found : next.registrar = first.after host := Registrar.course_next split
    have onward : r.course host operations s =
        (past ++ [first]) ++ next :: (rest ++ last :: later) := by
      rw [split, List.append_assoc]
      rfl
    exact ih onward (here (found ▸ start)) others

/-- From any table, a request for one observation is accepted, nothing then takes the registration
away, and the next sweep, in which the location and the client pass, comes no earlier.  It marks the
registration due exactly if it is not at the first tick.  If there was no registration before, and
no start and no keepalive has followed, that sweep also drops it, with the same exception. -/
theorem next_sweep_fires {r : Registrar} (tidy : r.table.Tidy) {operations : List (Operation σ)}
    {s s' : σ} {past span later : List (Turn σ)} {first last : Turn σ} {asked now : Tick}
    (split : r.course host operations s = past ++ first :: (span ++ last :: later))
    (hastens : first.Hastens host asked c l) (spares : ∀ t ∈ span, t.Spares host c l)
    (swept : last.sweep? host = some (now, s')) (onTime : asked.count ≤ now.count)
    (admitted : last.admits host c l = true) :
    (last.marks host c l = true ↔ 0 < now.count) ∧
    (first.held c l = none →
      (∀ t ∈ span, t.Grants host c l → t.operation.kind? = some .single) →
      (last.left host c l = none ↔ 0 < now.count)) := by
  have began : first.registrar.table.Tidy :=
    Registrar.course_invariant (motive := fun _ r => r.table.Tidy)
      (fun _ _ tidy => Turn.tidy_after host tidy) tidy split
  -- The update mark stays behind the request, and the expiry mark where it was filed.
  let brief := first.held c l = none ∧
    ∀ t ∈ span, t.Grants host c l → t.operation.kind? = some .single
  let Waits (r : Registrar) := r.table.Tidy ∧ ∃ x, r.table.find? c l = some x ∧
    x.nextUpdate.count ≤ asked.count - 1 ∧ (brief → x.expiry = asked.pred)
  have start : Waits (first.after host) := by
    refine ⟨Turn.tidy_after host began, _, hastens.left, nextUpdate_singleChange .., ?_⟩
    rintro ⟨absent, -⟩
    rw [absent]
    rfl
  have step : ∀ t ∈ span, Waits t.registrar → Waits (t.after host) := by
    rintro t member ⟨tidy, x, held, behind, expiry⟩
    obtain ⟨y, left, nearer, keeps⟩ := (spares t member).left tidy held
    refine ⟨Turn.tidy_after host tidy, y, left, Nat.le_trans nearer behind, fun brief => ?_⟩
    exact (keeps (brief.2 t member)).trans (expiry brief)
  obtain ⟨tidy, x, held, behind, expiry⟩ := Registrar.course_between split start step
  constructor
  · have due : x.isDue now = true ↔ 0 < now.count := by
      rw [Registration.isDue, decide_eq_true_eq]
      omega
    rw [Turn.marks_iff host tidy swept, ← due]
    constructor
    · rintro ⟨-, y, found, due⟩
      cases held.symm.trans found
      exact due
    · exact fun due => ⟨admitted, x, held, due⟩
  · intro absent singles
    have gone : x.isExpired now = true ↔ 0 < now.count := by
      rw [Registration.isExpired, decide_eq_true_eq, expiry ⟨absent, singles⟩, Tick.count_pred]
      omega
    have left := Turn.left_of_sweep host tidy swept c l
    rw [show last.held c l = some x from held, admitted, Option.bind_some] at left
    rw [left, ← gone, Sweep.spared]
    cases x.isExpired now <;> simp

/-- A client asks twice for one observation, and the sweep at the tick after that answers it and
lets it go. -/
theorem next_sweep_fires_of_asked_twice :
    let host : Host Nat := {
      currentTick := fun s => (.ofNat s, s)
      client := fun _ => pure (some ⟨"overworld", ⟨⟨0⟩, ⟨0⟩, ⟨0⟩⟩⟩)
      isLoaded := fun _ => pure true
      hasContainer := fun _ => pure true
      observe := fun _ _ => pure (.ok .empty)
      send := fun _ _ => pure (.ok ()) }
    let c : ClientId := ⟨1⟩
    let l : Location := ⟨"overworld", ⟨1, 2, 3⟩⟩
    let turns := (Registrar.ofConfig {}).course host
      [.single c l, .single c l, .elsewhere (· + 1), .tickWorld] 0
    turns.getLast?.map (fun t => (t.marks host c l, t.left host c l)) = some (true, none) := by
  intro host c l turns
  let next (t : Turn Nat) (op : Operation Nat) : Turn Nat :=
    ⟨t.after host, (t.registrar.perform host t.operation t.state).2, op⟩
  let first : Turn Nat := ⟨.ofConfig {}, 0, .single c l⟩
  let again := next first (.single c l)
  let passing := next again (.elsewhere (· + 1))
  let last := next passing .tickWorld
  have split : turns = [] ++ first :: ([again, passing] ++ last :: []) := rfl
  have hastens : first.Hastens host (.ofNat 0) c l :=
    ⟨rfl, rfl, by decide +kernel +zetaReduce, by decide +kernel +zetaReduce⟩
  have spares : ∀ t ∈ [again, passing], t.Spares host c l := by
    refine List.forall_mem_cons.mpr ⟨⟨by decide +kernel +zetaReduce, nofun, ?_⟩,
      List.forall_mem_singleton.mpr ⟨by decide +kernel +zetaReduce, nofun, ?_⟩⟩
    · rintro ⟨-, stops | refused⟩
      · cases stops
      · revert refused
        decide +kernel +zetaReduce
    · rintro ⟨own, -⟩
      cases own
  have singles : ∀ t ∈ [again, passing], t.Grants host c l → t.operation.kind? = some .single := by
    refine List.forall_mem_cons.mpr ⟨fun _ => rfl, List.forall_mem_singleton.mpr ?_⟩
    rintro ⟨own, -, -⟩
    cases own
  have swept : last.sweep? host = some (.ofNat 1, 1) := by decide +kernel +zetaReduce
  obtain ⟨marked, dropped⟩ := next_sweep_fires Table.tidy_empty split hastens spares swept
    (by decide) (by decide +kernel +zetaReduce)
  have fires := marked.mpr (by decide)
  have drops := (dropped rfl singles).mpr (by decide)
  change some (last.marks host c l, last.left host c l) = _
  rw [fires, drops]

/-- At the first tick a client asks for one observation, and the sweep at that tick neither marks
the registration due nor drops it. -/
theorem first_tick_passes_over :
    let host : Host Nat := {
      currentTick := fun s => (.ofNat s, s)
      client := fun _ => pure (some ⟨"overworld", ⟨⟨0⟩, ⟨0⟩, ⟨0⟩⟩⟩)
      isLoaded := fun _ => pure true
      hasContainer := fun _ => pure true
      observe := fun _ _ => pure (.ok .empty)
      send := fun _ _ => pure (.ok ()) }
    let c : ClientId := ⟨1⟩
    let l : Location := ⟨"overworld", ⟨1, 2, 3⟩⟩
    let turns := (Registrar.ofConfig {}).course host [.single c l, .tickWorld] 0
    turns.map (fun t => (t.answer host == .passed true, t.seen? host)) =
        [(true, some .zero), (false, some .zero)] ∧
      turns.getLast?.map (fun t => (t.admits host c l, t.marks host c l, t.left host c l)) =
        some (true, false, some (.single c .zero)) := by
  decide +kernel +zetaReduce

end ObservationFeed.Server
