import ObservationFeed.Proofs.Server.Turns

/-!
# Registrations that fire once

A registration for one observation has both its marks behind it.  While the
ticks that the server sees never fall, nothing but a renewal moves them, so the
first sweep that finds it due also finds it expired.

A start or a keepalive may turn it into a subscription before it has fired.
What carries it over is that its update mark is no later than its expiry mark
and than the last tick that was seen: a renewal keeps the earlier update mark
and begins a new expiry window at a later tick.
-/

namespace ObservationFeed.Server

variable {σ : Type} (host : Host σ)

/-! ## Ticks -/

/-- The ticks that requests and sweeps see never fall. -/
def Ordered (turns : List (Turn σ)) : Prop :=
  (turns.filterMap (Turn.seen? host)).Pairwise fun a b => a.count ≤ b.count

/-- The count of the tick that was last seen, zero before the first one. -/
def clock (turns : List (Turn σ)) : Nat :=
  ((turns.filterMap (Turn.seen? host)).getLast?.map Tick.count).getD 0

variable {host}

theorem Ordered.before {past later : List (Turn σ)} (ordered : Ordered host (past ++ later)) :
    Ordered host past := by
  rw [Ordered, List.filterMap_append] at ordered
  exact (List.pairwise_append.mp ordered).1

theorem clock_seen {past : List (Turn σ)} {t : Turn σ} {now : Tick}
    (seen : t.seen? host = some now) : clock host (past ++ [t]) = now.count := by
  simp [clock, List.filterMap_append, seen]

theorem clock_unseen {past : List (Turn σ)} {t : Turn σ} (unseen : t.seen? host = none) :
    clock host (past ++ [t]) = clock host past := by
  simp [clock, List.filterMap_append, unseen]

theorem Ordered.clock_le {past : List (Turn σ)} {t : Turn σ} {now : Tick}
    (ordered : Ordered host (past ++ [t])) (seen : t.seen? host = some now) :
    clock host past ≤ now.count := by
  unfold clock
  cases last : (past.filterMap (Turn.seen? host)).getLast? with
  | none => exact Nat.zero_le _
  | some tick =>
    have ticks : List.filterMap (Turn.seen? host) [t] = [now] := by simp [seen]
    rw [Ordered, List.filterMap_append, ticks] at ordered
    exact (List.pairwise_append.mp ordered).2.2 tick (List.mem_of_getLast? last) now
      List.mem_cons_self

theorem Ordered.clock_mono {past : List (Turn σ)} {t : Turn σ}
    (ordered : Ordered host (past ++ [t])) : clock host past ≤ clock host (past ++ [t]) := by
  cases seen : t.seen? host with
  | none => exact Nat.le_of_eq (clock_unseen seen).symm
  | some now =>
    rw [clock_seen seen]
    exact ordered.clock_le seen

/-! ## Marks -/

/-- The update mark of a registration that has not fired is behind the clock and no later than its
expiry mark. -/
structure Unspent (clock : Nat) (x : Registration) : Prop where
  expiry : x.nextUpdate.count ≤ x.expiry.count
  behind : x.nextUpdate.count ≤ clock

/-- Both marks of a registration that is to fire once are where it began. -/
structure Pristine (clock : Nat) (x : Registration) : Prop where
  marks : x.nextUpdate = x.expiry
  behind : x.expiry.count ≤ clock - 1

theorem Unspent.later {n m : Nat} {x : Registration} (unspent : Unspent n x) (le : n ≤ m) :
    Unspent m x :=
  ⟨unspent.expiry, Nat.le_trans unspent.behind le⟩

theorem Pristine.later {n m : Nat} {x : Registration} (pristine : Pristine n x) (le : n ≤ m) :
    Pristine m x :=
  ⟨pristine.marks, Nat.le_trans pristine.behind (Nat.sub_le_sub_right le 1)⟩

theorem Pristine.unspent {n : Nat} {x : Registration} (pristine : Pristine n x) : Unspent n x := by
  obtain ⟨marks, behind⟩ := pristine
  rw [← marks] at behind
  exact ⟨Nat.le_of_eq (congrArg Tick.count marks), by omega⟩

theorem pristine_single (c : ClientId) (now : Tick) :
    Pristine now.count (.single c now) := ⟨rfl, Nat.le_refl _⟩

theorem Pristine.hasten {n : Nat} {x : Registration} {now : Tick} (pristine : Pristine n x)
    (le : n ≤ now.count) : x.hasten now = x := by
  have earlier : x.nextUpdate.count ≤ now.pred.count := by
    rw [pristine.marks, Tick.count_pred]
    exact Nat.le_trans pristine.behind (Nat.sub_le_sub_right le 1)
  simp only [Registration.hasten, Tick.earlier, if_pos earlier]

theorem Unspent.hasten {n : Nat} {x : Registration} {now : Tick} (unspent : Unspent n x)
    (le : n ≤ now.count) : Unspent now.count (x.hasten now) := by
  obtain ⟨expiry, behind⟩ := unspent
  constructor <;> simp only [Registration.hasten, Tick.count_earlier] <;> omega

theorem Unspent.renew {n : Nat} {x : Registration} {now : Tick} (unspent : Unspent n x)
    (le : n ≤ now.count) (every : Interval) (maxAge : Nat) :
    Unspent now.count (x.renew every now maxAge) := by
  obtain ⟨expiry, behind⟩ := unspent
  have range := now.count_le
  constructor <;> simp only [Registration.renew, Tick.count_earlier, Tick.count_add] <;> omega

/-! ## One turn -/

/-- A registration that is filed where one was does not get a later update mark. -/
theorem nextUpdate_change {maxAge : Nat} {c : ClientId} {kind : RequestKind}
    {change : Tick → Option Registration → Registration}
    (same : Registrar.change? maxAge c kind = some change) (now : Tick) (x : Registration) :
    (change now (some x)).nextUpdate.count ≤ x.nextUpdate.count := by
  cases kind with
  | stop => cases same
  | single =>
    cases same
    simp only [Registrar.singleChange, Registration.hasten, Tick.count_earlier]
    omega
  | start every | keepalive every =>
    cases same
    simp only [Registrar.subscribeChange, Registration.renew, Tick.count_earlier]
    omega

theorem unspent_change {maxAge n : Nat} {c : ClientId} {kind : RequestKind}
    {change : Tick → Option Registration → Registration}
    (same : Registrar.change? maxAge c kind = some change) {now : Tick} {x : Registration}
    (unspent : Unspent n x) (le : n ≤ now.count) : Unspent now.count (change now (some x)) := by
  cases kind with
  | stop => cases same
  | single =>
    cases same
    exact unspent.hasten le
  | start every | keepalive every =>
    cases same
    exact unspent.renew le every maxAge

variable {t : Turn σ} {c : ClientId} {l : Location} {x y : Registration}

theorem nextUpdate_le (tidy : t.registrar.table.Tidy) (held : t.held c l = some x)
    (left : t.left host c l = some y) (unmarked : t.marks host c l = false) :
    y.nextUpdate.count ≤ x.nextUpdate.count := by
  have fate := t.fate host tidy c l
  generalize found : t.left host c l = after at fate left
  cases fate with
  | same =>
    rw [held] at left
    cases left
    exact Nat.le_refl _
  | cleared | denied => cases left
  | granted now _ change =>
    rw [held] at left
    cases left
    exact nextUpdate_change change now x
  | swept swept =>
    rw [held, Option.bind_some] at left
    exact Nat.le_of_eq (by rw [Turn.spared_eq_some host tidy swept held left unmarked])

/-- A registration that has not fired survives a turn that does not mark it due, unless it is
withdrawn, and still has not fired then. -/
theorem Unspent.turn {past : List (Turn σ)} (unspent : Unspent (clock host past) x)
    (ordered : Ordered host (past ++ [t])) (tidy : t.registrar.table.Tidy)
    (held : t.held c l = some x) (unmarked : t.marks host c l = false) :
    (t.left host c l = none ∧ t.Withdraws host c l) ∨
      ∃ y, t.left host c l = some y ∧ Unspent (clock host (past ++ [t])) y := by
  have fate := t.fate host tidy c l
  generalize t.left host c l = after at fate ⊢
  cases fate with
  | same => exact .inr ⟨x, held, unspent.later ordered.clock_mono⟩
  | cleared clear => exact .inl ⟨rfl, .cleared clear⟩
  | denied denies => exact .inl ⟨rfl, .denied denies⟩
  | granted now _ change seen =>
    rw [held, clock_seen seen]
    exact .inr ⟨_, rfl, unspent_change change unspent (ordered.clock_le seen)⟩
  | @swept now s swept =>
    rw [held, Option.bind_some]
    cases admitted : t.admits host c l with
    | false => exact .inl ⟨rfl, .unfit (by rw [swept]; rfl) admitted⟩
    | true =>
      -- It is not due, so the tick is at most the update mark and it is not expired either.
      have undue : ¬ x.isDue now = true := by
        intro due
        have marked := (Turn.marks_iff host tidy swept c l).mpr ⟨admitted, x, held, due⟩
        rw [unmarked] at marked
        cases marked
      have fresh : x.isExpired now = false := by
        simp only [Registration.isDue, Registration.isExpired, decide_eq_true_eq,
          decide_eq_false_iff_not] at undue ⊢
        have expiry := unspent.expiry
        omega
      refine .inr ⟨x, ?_, unspent.later ordered.clock_mono⟩
      simp only [Sweep.spared, fresh, Registration.poll, undue, Bool.not_false, Bool.and_self,
        if_true, Bool.false_eq_true, if_false]

/-- Whether its marks are behind a tick is the same question for both. -/
theorem Pristine.isDue {n : Nat} (pristine : Pristine n x) (now : Tick) :
    x.isDue now = x.isExpired now := by
  rw [Registration.isDue, Registration.isExpired, pristine.marks]

theorem interval_change {maxAge : Nat} {c : ClientId} {kind : RequestKind}
    {change : Tick → Option Registration → Registration}
    (same : Registrar.change? maxAge c kind = some change) {now : Tick} {old : Option Registration}
    (never : (change now old).interval = .never) : change = Registrar.singleChange c := by
  cases kind with
  | stop => cases same
  | single =>
    cases same
    rfl
  | start every | keepalive every =>
    cases same
    cases old <;> cases never

/-- A registration that is to fire once is as it began, and every turn keeps it so. -/
theorem pristine_turn {past : List (Turn σ)} (ordered : Ordered host (past ++ [t]))
    (tidy : t.registrar.table.Tidy)
    (pristine : ∀ x, t.held c l = some x → x.interval = .never → Pristine (clock host past) x)
    (left : t.left host c l = some y) (never : y.interval = .never) :
    Pristine (clock host (past ++ [t])) y := by
  have fate := t.fate host tidy c l
  generalize t.left host c l = after at fate left
  cases fate with
  | same => exact (pristine y left never).later ordered.clock_mono
  | cleared | denied => cases left
  | granted now _ change seen =>
    cases left
    cases interval_change change never
    rw [clock_seen seen]
    cases held : t.held c l with
    | none => exact pristine_single c now
    | some x =>
      rw [held] at never
      have le := ordered.clock_le seen
      have began := pristine x held never
      have same : Registrar.singleChange c now (some x) = x := began.hasten le
      rw [same]
      exact began.later le
  | @swept now s swept =>
    cases held : t.held c l with
    | none =>
      rw [held] at left
      cases left
    | some x =>
      rw [held, Option.bind_some, Sweep.spared] at left
      split at left
      · next stays =>
        cases left
        rw [Bool.and_eq_true, Bool.not_eq_true'] at stays
        have began := pristine x held ((sameInterval_poll now x).symm.trans never)
        -- What has not expired was not due either, so the poll has left it alone.
        have fresh : x.isDue now = false := by
          rw [began.isDue]
          exact stays.2
        have alone : (x.poll now).2 = x := by simp [Registration.poll, fresh]
        rw [alone]
        exact began.later ordered.clock_mono
      · cases left

/-- The sweep that marks a one-shot due drops it. -/
theorem left_of_marks {n : Nat} (pristine : Pristine n x) (tidy : t.registrar.table.Tidy)
    (held : t.held c l = some x) (marked : t.marks host c l = true) :
    t.left host c l = none := by
  obtain ⟨⟨now, s⟩, swept⟩ := Turn.exists_sweep_of_marks host marked
  obtain ⟨-, y, found, due⟩ := (Turn.marks_iff host tidy swept c l).mp marked
  cases held.symm.trans found
  rw [pristine.isDue] at due
  rw [Turn.left_of_sweep host tidy swept, held, Option.bind_some, Sweep.spared, due,
    Bool.not_true, Bool.and_false, if_neg Bool.false_ne_true]

/-! ## Runs -/

variable (host)

/-- The registration that is held after some turns is to fire once, or was to before a start or a
keepalive turned it into a subscription, and no turn since then has marked it due. -/
inductive Unfired (c : ClientId) (l : Location) : List (Turn σ) → Registration → Prop where
  | once {past : List (Turn σ)} {x : Registration} : x.interval = .never → Unfired c l past x
  | since {past : List (Turn σ)} {t : Turn σ} {x y : Registration} : Unfired c l past x →
      t.held c l = some x → t.marks host c l = false → Unfired c l (past ++ [t]) y

/-- Registrations that are to fire once are neither lost nor repeated. -/
structure FiresOnce (turns : List (Turn σ)) : Prop where
  /-- One that has not fired goes only if it is withdrawn, or in a sweep that marks it due. -/
  stays : ∀ past turn later, turns = past ++ turn :: later → ∀ c l x, turn.held c l = some x →
    Unfired host c l past x → turn.left host c l = none →
      turn.Withdraws host c l ∨ turn.marks host c l = true
  /-- The first sweep past its update mark marks it due, unless it is withdrawn. -/
  fires : ∀ past turn later, turns = past ++ turn :: later → ∀ c l x, turn.held c l = some x →
    Unfired host c l past x → ∀ now s, turn.sweep? host = some (now, s) →
      x.nextUpdate.count < now.count → turn.Withdraws host c l ∨ turn.marks host c l = true
  /-- Only a sweep that marks a registration due puts its update mark further away. -/
  nearer : ∀ turn ∈ turns, ∀ c l x y, turn.held c l = some x → turn.left host c l = some y →
    turn.marks host c l = false → y.nextUpdate.count ≤ x.nextUpdate.count
  /-- While it is to fire once, it is marked due once at most, and then it goes. -/
  once : ∀ earlier span later, turns = earlier ++ span ++ later → ∀ c l,
    (∀ turn ∈ span, ∃ x, turn.held c l = some x ∧ x.interval = .never) →
      span.countP (fun turn => turn.marks host c l) ≤ 1

variable {host}

/-- What the marks of registrations say about the clock, and about each other. -/
structure Punctual (host : Host σ) (past : List (Turn σ)) (r : Registrar) : Prop where
  tidy : r.table.Tidy
  pristine : ∀ c l x, r.table.find? c l = some x → x.interval = .never →
    Pristine (clock host past) x
  unspent : ∀ c l x, r.table.find? c l = some x → Unfired host c l past x →
    Unspent (clock host past) x

theorem Punctual.turn {past : List (Turn σ)} (punctual : Punctual host past t.registrar)
    (ordered : Ordered host (past ++ [t])) : Punctual host (past ++ [t]) (t.after host) where
  tidy := Turn.tidy_after host punctual.tidy
  pristine c l _ left never :=
    pristine_turn ordered punctual.tidy (punctual.pristine c l) left never
  unspent c l y left unfired := by
    generalize turns : past ++ [t] = all at unfired
    cases unfired with
    | once never =>
      rw [← turns]
      exact (pristine_turn ordered punctual.tidy (punctual.pristine c l) left never).unspent
    | since unfired held unmarked =>
      obtain ⟨rfl, last⟩ := List.append_inj' turns rfl
      cases last
      have unspent := punctual.unspent c l _ held unfired
      rcases unspent.turn ordered punctual.tidy held unmarked with ⟨gone, -⟩ | ⟨z, found, holds⟩
      · cases left.symm.trans gone
      · cases left.symm.trans found
        exact holds

theorem punctual_course {operations : List (Operation σ)} {config : ServerConfig} {s : σ}
    {past later : List (Turn σ)}
    (ordered : Ordered host ((Registrar.ofConfig config).course host operations s))
    (split : (Registrar.ofConfig config).course host operations s = past ++ t :: later) :
    Punctual host past t.registrar ∧ Ordered host (past ++ [t]) := by
  have whole : past ++ t :: later = past ++ [t] ++ later := by simp
  rw [split, whole] at ordered
  have start : Ordered host [] → Punctual host [] (Registrar.ofConfig config) :=
    fun _ => ⟨Table.tidy_empty, nofun, nofun⟩
  refine ⟨?_, ordered.before⟩
  exact Registrar.course_invariant (motive := fun past r => Ordered host past → Punctual host past r)
    (fun _ _ kept ordered => (kept ordered.before).turn ordered) start split ordered.before.before

/-- The turn that marks a one-shot due is the last that finds it, by induction on the turns that
find it. -/
theorem countP_marks_le_one {operations : List (Operation σ)} {config : ServerConfig} {s : σ}
    (ordered : Ordered host ((Registrar.ofConfig config).course host operations s))
    {earlier span later : List (Turn σ)}
    (split : (Registrar.ofConfig config).course host operations s = earlier ++ span ++ later)
    (held : ∀ turn ∈ span, ∃ x, turn.held c l = some x ∧ x.interval = .never) :
    span.countP (fun turn => turn.marks host c l) ≤ 1 := by
  induction span generalizing earlier with
  | nil => exact Nat.zero_le 1
  | cons turn rest ih =>
    obtain ⟨⟨x, found, never⟩, others⟩ := List.forall_mem_cons.mp held
    have here : (Registrar.ofConfig config).course host operations s =
        earlier ++ turn :: (rest ++ later) := by simp [split]
    cases marked : turn.marks host c l with
    | false =>
      rw [List.countP_cons_of_neg (by simp [marked])]
      exact ih (by simp [split] : _ = earlier ++ [turn] ++ rest ++ later) others
    | true =>
      obtain ⟨punctual, -⟩ := punctual_course ordered here
      have gone := left_of_marks (punctual.pristine c l x found never) punctual.tidy found marked
      cases rest with
      | nil => exact List.countP_le_length
      | cons next rest =>
        -- The next turn would have to find what this one has dropped.
        obtain ⟨y, stays, -⟩ := others next List.mem_cons_self
        rw [Turn.held, Registrar.course_next here] at stays
        cases gone.symm.trans stays

/-- However requests, sweeps and clears follow each other and whatever the world answers, as long
as the ticks that are seen never fall, one-shots are neither lost nor repeated. -/
theorem one_shots_fire_once (host : Host σ) (config : ServerConfig)
    (operations : List (Operation σ)) (s : σ)
    (ordered : Ordered host ((Registrar.ofConfig config).course host operations s)) :
    FiresOnce host ((Registrar.ofConfig config).course host operations s) where
  stays past turn later split c l x held unfired gone := by
    obtain ⟨punctual, ordered⟩ := punctual_course ordered split
    have unspent := punctual.unspent c l x held unfired
    cases marked : turn.marks host c l with
    | true => exact .inr rfl
    | false =>
      rcases unspent.turn ordered punctual.tidy held marked with ⟨-, withdrawn⟩ | ⟨y, left, -⟩
      · exact .inl withdrawn
      · cases gone.symm.trans left
  fires past turn later split c l x held _ now s swept passed := by
    obtain ⟨punctual, -⟩ := punctual_course ordered split
    cases admitted : turn.admits host c l with
    | false => exact .inl (.unfit (by rw [swept]; rfl) admitted)
    | true =>
      have due : x.isDue now = true := decide_eq_true passed
      exact .inr ((Turn.marks_iff host punctual.tidy swept c l).mpr ⟨admitted, x, held, due⟩)
  nearer turn member c l x y held left unmarked := by
    obtain ⟨past, later, split⟩ := List.append_of_mem member
    exact nextUpdate_le (punctual_course ordered split).1.tidy held left unmarked
  once earlier span later split c l held := countP_marks_le_one ordered split held

/-- A client asks for one observation, subscribes before the next sweep, and is marked due by that
sweep all the same. -/
theorem one_shots_fire_once_of_subscribed :
    let host : Host Nat := {
      currentTick := fun s => (.ofNat s, s)
      client := fun _ => pure (some ⟨"overworld", ⟨⟨0⟩, ⟨0⟩, ⟨0⟩⟩⟩)
      isLoaded := fun _ => pure true
      hasContainer := fun _ => pure true
      observe := fun _ _ => pure (.ok .empty)
      send := fun _ _ => pure (.ok ()) }
    let c : ClientId := ⟨1⟩
    let l : Location := ⟨"overworld", ⟨1, 2, 3⟩⟩
    let turns := (Registrar.ofConfig {}).course host
      [.single c l, .elsewhere (· + 1), .start c l (.clamp 20), .tickWorld] 5
    Ordered host turns ∧ FiresOnce host turns ∧
      (turns.map fun t => (t.left host c l).map (·.nextUpdate.count)) =
        [some 4, some 4, some 4, some 26] ∧
      turns.getLast?.map (fun t => t.marks host c l) = some true := by
  intro host c l turns
  have ordered : Ordered host turns := by
    unfold Ordered
    decide +kernel +zetaReduce
  exact ⟨ordered, one_shots_fire_once host {} _ 5 ordered, by decide +kernel +zetaReduce,
    by decide +kernel +zetaReduce⟩

end ObservationFeed.Server
