import ObservationFeed.Proofs.Server.Lease
import ObservationFeed.Proofs.Server.NextSweep
import ObservationFeed.Proofs.Server.Schedule

/-!
# When registrations expire

A registration outlives its last renewal by the expiry window and by no more.
Only a start and a keepalive put the expiry mark anywhere, and they put it where
the window that begins with them ends, whatever registration they find.

The mark is a tick and stops at the last one.  No sweep comes after that, so a
sweep is past the mark exactly if it is past the sum without a bound.
-/

namespace ObservationFeed.Server

variable {σ : Type} {host : Host σ} {t : Turn σ} {c : ClientId} {l : Location}

/-! ## One turn -/

/-- A start or a keepalive is accepted. -/
structure Turn.Renews (host : Host σ) (t : Turn σ) (now : Tick) (c : ClientId) (l : Location) :
    Prop where
  grants : t.Grants host c l
  asks : (t.operation.kind?.bind RequestKind.interval?).isSome
  seen : t.seen? host = some now

theorem expiry_poll (now : Tick) (x : Registration) : (x.poll now).2.expiry = x.expiry := by
  unfold Registration.poll Registration.fired
  split
  · split <;> rfl
  · rfl

theorem isExpired_iff {x : Registration} {renewed : Tick} {maxAge : Nat}
    (mark : x.expiry = renewed.add maxAge) (now : Tick) :
    x.isExpired now = true ↔ renewed.count + maxAge < now.count := by
  have range := now.count_le
  rw [Registration.isExpired, mark, Tick.count_add, decide_eq_true_eq]
  omega

theorem Turn.Renews.left {now : Tick} (renews : t.Renews host now c l) :
    ∃ x, t.left host c l = some x ∧ x.expiry = now.add t.registrar.maxAge := by
  obtain ⟨every, asks⟩ := Option.isSome_iff_exists.mp renews.asks
  obtain ⟨kind, asked, interval⟩ := Option.bind_eq_some_iff.mp asks
  obtain ⟨change, seen, same, sees, left⟩ := Turn.left_of_grants renews.grants asked
  cases renews.seen.symm.trans sees
  cases Registrar.change?_of_interval? interval same
  refine ⟨_, left, ?_⟩
  cases t.held c l <;> rfl

/-- Whatever is left after a turn that is no renewal has the expiry mark it had. -/
theorem Turn.expiry_left (tidy : t.registrar.table.Tidy) {x y : Registration}
    (held : t.held c l = some x) (left : t.left host c l = some y)
    (unrenewed : ∀ now, ¬ t.Renews host now c l) : y.expiry = x.expiry := by
  have fate := t.fate host tidy c l
  generalize found : t.left host c l = after at fate left
  cases fate with
  | same =>
    cases held.symm.trans left
    rfl
  | cleared | denied => cases left
  | granted now grants _ seen =>
    -- What is accepted and does not renew is a request for one observation.
    obtain ⟨kind, asks⟩ := Turn.isSome_kind_of_own (Option.isSome_of_eq_some grants.own)
    obtain ⟨change, _, same, -, filed⟩ := Turn.left_of_grants grants asks
    rw [found, left, held] at filed
    cases kind with
    | stop => cases same
    | single =>
      cases same
      cases filed
      rfl
    | start | keepalive => exact absurd ⟨grants, by rw [asks]; rfl, seen⟩ (unrenewed now)
  | swept =>
    rw [held, Option.bind_some, Sweep.spared] at left
    split at left
    · cases left
      exact expiry_poll _ x
    · cases left

/-! ## Runs -/

/-- The server lets registrations last so long, and this one until the window that began with its
last renewal ends. -/
structure Dated (maxAge : Nat) (renewed : Tick) (c : ClientId) (l : Location) (r : Registrar) :
    Prop where
  tidy : r.table.Tidy
  window : r.maxAge = maxAge
  mark : ∃ x, r.table.find? c l = some x ∧ x.expiry = renewed.add maxAge

theorem Dated.turn {maxAge : Nat} {renewed : Tick} (dated : Dated maxAge renewed c l t.registrar)
    (left : (t.left host c l).isSome) (unrenewed : ∀ now, ¬ t.Renews host now c l) :
    Dated maxAge renewed c l (t.after host) := by
  obtain ⟨tidy, same, x, held, mark⟩ := dated
  obtain ⟨y, left⟩ := Option.isSome_iff_exists.mp left
  exact ⟨Turn.tidy_after host tidy, (Turn.maxAge_after host t).trans same, y, left,
    (Turn.expiry_left tidy held left unrenewed).trans mark⟩

/-- From any table, a start or a keepalive is accepted, whether or not there is a registration and
whatever kind it is of, and then the registration stays without being renewed again.  Singles,
firings and the requests of others leave its expiry mark where it is.  A sweep in which the location
and the client pass every check drops it exactly if its tick is past the renewal by more than the
window. -/
theorem expires_after_window {r : Registrar} (tidy : r.table.Tidy) {operations : List (Operation σ)}
    {s s' : σ} {past span later : List (Turn σ)} {first last : Turn σ} {renewed now : Tick}
    (split : r.course host operations s = past ++ first :: (span ++ last :: later))
    (renews : first.Renews host renewed c l)
    (stays : ∀ t ∈ span, (t.left host c l).isSome ∧ ∀ now, ¬ t.Renews host now c l)
    (swept : last.sweep? host = some (now, s')) (admitted : last.admits host c l = true) :
    (last.left host c l = none ↔ renewed.count + r.maxAge < now.count) ∧
      ∀ t ∈ first :: span, (t.left host c l).map (·.expiry) = some (renewed.add r.maxAge) := by
  obtain ⟨began, same⟩ : first.registrar.table.Tidy ∧ first.registrar.maxAge = r.maxAge :=
    Registrar.course_invariant (motive := fun _ r' => r'.table.Tidy ∧ r'.maxAge = r.maxAge)
      (fun _ t holds => ⟨Turn.tidy_after host holds.1, (Turn.maxAge_after host t).trans holds.2⟩)
      ⟨tidy, rfl⟩ split
  have start : Dated r.maxAge renewed c l (first.after host) := by
    obtain ⟨x, left, mark⟩ := renews.left
    exact ⟨Turn.tidy_after host began, (Turn.maxAge_after host first).trans same, x, left,
      same ▸ mark⟩
  have step : ∀ t ∈ span, Dated r.maxAge renewed c l t.registrar →
      Dated r.maxAge renewed c l (t.after host) :=
    fun t member dated => dated.turn (stays t member).1 (stays t member).2
  constructor
  · obtain ⟨tidy, -, x, held, mark⟩ := Registrar.course_between split start step
    have left := Turn.left_of_sweep host tidy swept c l
    rw [show last.held c l = some x from held, admitted, Option.bind_some, Sweep.spared] at left
    rw [left, ← isExpired_iff mark]
    cases x.isExpired now <;> simp
  · have marked {t : Turn σ} (dated : Dated r.maxAge renewed c l (t.after host)) :
        (t.left host c l).map (·.expiry) = some (renewed.add r.maxAge) := by
      obtain ⟨x, left, mark⟩ := dated.mark
      rw [Turn.left, left, ← mark]
      rfl
    refine List.forall_mem_cons.mpr ⟨marked start, fun t member => ?_⟩
    -- The run up to this turn is one of the same form.
    obtain ⟨before, after, rfl⟩ := List.append_of_mem member
    have here : r.course host operations s =
        past ++ first :: (before ++ t :: (after ++ last :: later)) := by
      rw [split, List.append_assoc]
      rfl
    have found := Registrar.course_between here start fun u inside =>
      step u (List.mem_append_left _ inside)
    exact marked (step t member found)

/-- A one-shot is renewed into a subscription, asked for once more and fired.  The sweep at the end
of the window spares it and the next one drops it. -/
theorem expires_after_window_of_renewed_one_shot :
    let host : Host Unit := {
      currentTick := pure (.ofNat 7)
      client := fun _ => pure (some ⟨"overworld", ⟨⟨0⟩, ⟨0⟩, ⟨0⟩⟩⟩)
      isLoaded := fun _ => pure true
      hasContainer := fun _ => pure true
      observe := fun _ _ => pure (.ok .empty)
      send := fun _ _ => pure (.ok ()) }
    let c : ClientId := ⟨1⟩
    let l : Location := ⟨"overworld", ⟨1, 2, 3⟩⟩
    let r := Registrar.ofConfig { maxAgeTicks := 10, tickInterval := 1 }
    let turns := r.course host [.single c l, .keepalive c l (.clamp 20), .single c l,
      .tick (.ofNat 8), .tick (.ofNat 17), .tick (.ofNat 18)] ()
    ∃ asked span last, turns = asked :: (span ++ [last]) ∧ span.length = 4 ∧
      (∀ t ∈ span, (t.left host c l).map (·.expiry) = some (.ofNat 17)) ∧
      last.left host c l = none := by
  intro host c l r turns
  let next (t : Turn Unit) (op : Operation Unit) : Turn Unit := ⟨t.after host, (), op⟩
  let asked : Turn Unit := ⟨r, (), .single c l⟩
  let first := next asked (.keepalive c l (.clamp 20))
  let again := next first (.single c l)
  let fires := next again (.tick (.ofNat 8))
  let spares := next fires (.tick (.ofNat 17))
  let last := next spares (.tick (.ofNat 18))
  let span := [again, fires, spares]
  have split : turns = [asked] ++ first :: (span ++ last :: []) := by
    simp only [turns, Registrar.course_cons]
    rfl
  have renews : first.Renews host (.ofNat 7) c l :=
    ⟨⟨rfl, nofun, by decide +kernel +zetaReduce⟩, rfl, by decide +kernel +zetaReduce⟩
  have kept : ∀ t ∈ span, (t.left host c l).isSome = true ∧ (t.operation.own? = some (c, l) →
      (t.operation.kind?.bind RequestKind.interval?).isSome = false) := by
    decide +kernel +zetaReduce
  have stays : ∀ t ∈ span, (t.left host c l).isSome ∧ ∀ now, ¬ t.Renews host now c l := by
    refine fun t member => ⟨(kept t member).1, fun now renews => ?_⟩
    cases ((kept t member).2 renews.grants.own).symm.trans renews.asks
  have ready : last.registrar.cooldown = 0 := by decide +kernel +zetaReduce
  have swept : last.sweep? host = some (.ofNat 18, ()) := if_pos ready
  obtain ⟨drops, marks⟩ := expires_after_window Table.tidy_empty split renews stays swept
    (by decide +kernel +zetaReduce)
  exact ⟨asked, first :: span, last, split, rfl, marks, drops.mpr (by decide)⟩

end ObservationFeed.Server
