import ObservationFeed.Proofs.Server.Turns

/-!
# How often a server sweeps

A server sweeps at a tick if it has no tick left to skip.  The number of ticks
left to skip and the interval it starts again from are changed by ticks and by
the two calls about the pace alone, whatever the world answers; `Pace.next` says
how.  A tick that is skipped takes one off the number, the calls never raise it,
and a sweep starts it again one short of the interval.
-/

namespace ObservationFeed.Server

variable {σ : Type}

/-! ## One operation -/

namespace Operation

def isTick : Operation σ → Bool
  | tick _ | tickWorld => true
  | _ => false

/-- Whether an operation is a call about the pace of the server. -/
def setsPace : Operation σ → Bool
  | setTickInterval _ | clearCooldown => true
  | _ => false

/-- The interval in force after an operation. -/
def interval (before : Nat) : Operation σ → Nat
  | setTickInterval ticks => max ticks 1
  | _ => before

end Operation

/-- The ticks between two sweeps, and those that are left to skip. -/
structure Pace where
  interval : Nat
  cooldown : Nat

namespace Pace

/-- Whether an operation sweeps at this pace. -/
def sweepsAt (p : Pace) (op : Operation σ) : Bool := op.isTick && p.cooldown == 0

def next (p : Pace) : Operation σ → Pace
  | .setTickInterval ticks => ⟨max ticks 1, min p.cooldown (max ticks 1)⟩
  | .clearCooldown => { p with cooldown := 0 }
  | .tick _ | .tickWorld =>
    if p.cooldown = 0 then { p with cooldown := p.interval - 1 }
    else { p with cooldown := p.cooldown - 1 }
  | _ => p

variable {p q : Pace} {op : Operation σ}

theorem interval_next (p : Pace) (op : Operation σ) :
    (p.next op).interval = op.interval p.interval := by
  cases op with
  | tick | tickWorld =>
    rw [next]
    split <;> rfl
  | _ => rfl

theorem cooldown_next_le (within : p.cooldown ≤ p.interval) :
    (p.next op).cooldown ≤ (p.next op).interval := by
  cases op with
  | setTickInterval => exact Nat.min_le_right ..
  | clearCooldown => exact Nat.zero_le _
  | tick | tickWorld =>
    rw [next]
    split
    · exact Nat.sub_le ..
    · exact Nat.le_trans (Nat.sub_le ..) within
  | _ => exact within

theorem cooldown_next_of_sweeps (sweeps : p.sweepsAt op = true) :
    (p.next op).cooldown = p.interval - 1 := by
  have ready : p.cooldown = 0 := by simp_all [sweepsAt]
  cases op with
  | tick | tickWorld => rw [next, if_pos ready]
  | _ => simp [sweepsAt, Operation.isTick] at sweeps

/-- Without a sweep, a tick takes one off what is left to skip, and nothing adds to it. -/
theorem cooldown_next (idle : p.sweepsAt op = false) :
    (p.next op).cooldown + (if op.isTick then 1 else 0) ≤ p.cooldown ∧
      (op.setsPace = false →
        (p.next op).cooldown + (if op.isTick then 1 else 0) = p.cooldown) := by
  cases op with
  | setTickInterval => exact ⟨Nat.min_le_left .., nofun⟩
  | clearCooldown => exact ⟨Nat.zero_le _, nofun⟩
  | tick | tickWorld =>
    have busy : p.cooldown ≠ 0 := by simpa [sweepsAt, Operation.isTick] using idle
    simp only [next, if_neg busy, Operation.isTick, if_true]
    omega
  | _ => exact ⟨Nat.le_refl _, fun _ => rfl⟩

/-- Of two paces, the one with less to skip keeps less to skip until it sweeps. -/
theorem cooldown_next_mono (nearer : q.cooldown ≤ p.cooldown) (idle : q.sweepsAt op = false) :
    (q.next op).cooldown ≤ (p.next op).cooldown := by
  cases op with
  | setTickInterval => simp only [next]; omega
  | clearCooldown => exact Nat.le_refl _
  | tick | tickWorld =>
    have busy : q.cooldown ≠ 0 := by simpa [sweepsAt, Operation.isTick] using idle
    have later : p.cooldown ≠ 0 := by omega
    simp only [next, if_neg busy, if_neg later]
    omega
  | _ => exact nearer

end Pace

/-! ## One turn -/

def Registrar.pace (r : Registrar) : Pace := ⟨r.tickInterval, r.cooldown⟩

namespace Turn

variable (host : Host σ) (t : Turn σ)

/-- The turn sweeps. -/
def sweeps : Bool :=
  match t.answer host with
  | .swept (some _) => true
  | _ => false

/-- The turn is a tick that is skipped. -/
def skips : Bool :=
  match t.answer host with
  | .swept none => true
  | _ => false

theorem pace_tick (r : Registrar) (now : Tick) (s : σ) :
    (r.tick host now s).1.2.pace = r.pace.next (.tick now : Operation σ) ∧
      (r.tick host now s).1.1.isSome = (r.cooldown == 0) := by
  by_cases ready : r.cooldown = 0
  · rw [Registrar.tick, if_pos ready, Pace.next, if_pos (show r.pace.cooldown = 0 from ready)]
    exact ⟨rfl, (beq_iff_eq.mpr ready).symm⟩
  · rw [Registrar.tick, if_neg ready, Pace.next, if_neg (show r.pace.cooldown ≠ 0 from ready)]
    exact ⟨rfl, (beq_eq_false_iff_ne.mpr ready).symm⟩

theorem pace_after : (t.after host).pace = t.registrar.pace.next t.operation := by
  cases own : t.operation.own? with
  | some mine =>
    obtain ⟨table, ok, after, -⟩ := t.after_of_own host (Option.isSome_of_eq_some own)
    rw [after]
    cases op : t.operation with
    | stop | single | start | keepalive | handle => rfl
    | setTickInterval | clearCooldown | tick | tickWorld | clear | elsewhere =>
      rw [op] at own
      cases own
  | none =>
    unfold after
    cases op : t.operation with
    | stop | single | start | keepalive | handle => rw [op] at own; cases own
    | setTickInterval | clearCooldown | clear | elsewhere => rfl
    | tick now => exact (pace_tick host t.registrar now t.state).1
    | tickWorld => exact (pace_tick host t.registrar _ _).1

/-- A tick answers with the report of a sweep exactly if there is no tick left to skip, and nothing
but a tick has such an answer. -/
theorem answer_of_pace :
    (t.operation.isTick = false ∧ ∀ report, t.answer host ≠ .swept report) ∨
      t.operation.isTick = true ∧ ∃ report, t.answer host = .swept report ∧
        report.isSome = (t.registrar.cooldown == 0) := by
  cases op : t.operation with
  | stop | single | start | keepalive | handle =>
    obtain ⟨-, ok, -, answer⟩ := t.after_of_own host (by rw [op]; rfl)
    exact .inl ⟨rfl, fun report swept => nomatch answer.symm.trans swept⟩
  | setTickInterval | clearCooldown | clear | elsewhere =>
    refine .inl ⟨rfl, fun report swept => ?_⟩
    rw [answer, op] at swept
    cases swept
  | tick now =>
    refine .inr ⟨rfl, (t.registrar.tick host now t.state).1.1, ?_, (pace_tick host _ now _).2⟩
    rw [answer, op]
    rfl
  | tickWorld =>
    refine .inr ⟨rfl, (t.registrar.tickWorld host t.state).1.1, ?_, (pace_tick host _ _ _).2⟩
    rw [answer, op]
    rfl

theorem sweeps_eq : t.sweeps host = t.registrar.pace.sweepsAt t.operation := by
  rcases t.answer_of_pace host with ⟨other, answers⟩ | ⟨ticks, report, answer, some⟩
  · rw [Pace.sweepsAt, other, Bool.false_and, sweeps]
    split
    · next swept => exact absurd swept (answers _)
    · rfl
  · rw [Pace.sweepsAt, ticks, Bool.true_and, sweeps, answer, Registrar.pace, ← some]
    cases report <;> rfl

theorem skips_eq : t.skips host = (t.operation.isTick && !t.sweeps host) := by
  rcases t.answer_of_pace host with ⟨other, answers⟩ | ⟨ticks, report, answer, -⟩
  · rw [other, Bool.false_and, skips]
    split
    · next swept => exact absurd swept (answers _)
    · rfl
  · rw [ticks, Bool.true_and, skips, sweeps, answer]
    cases report <;> rfl

theorem cooldown_of_sweeps (swept : t.sweeps host = true) :
    t.registrar.cooldown = 0 ∧ (t.after host).cooldown = t.registrar.tickInterval - 1 := by
  rw [sweeps_eq] at swept
  have next := Pace.cooldown_next_of_sweeps swept
  rw [← t.pace_after host] at next
  rw [Pace.sweepsAt, Bool.and_eq_true, beq_iff_eq] at swept
  exact ⟨swept.2, next⟩

/-- Without a sweep, a tick that is skipped takes one off what is left to skip, and nothing adds to
it. -/
theorem cooldown_after (idle : t.sweeps host = false) :
    (t.after host).cooldown + (if t.skips host then 1 else 0) ≤ t.registrar.cooldown ∧
      (t.operation.setsPace = false →
        (t.after host).cooldown + (if t.skips host then 1 else 0) = t.registrar.cooldown) := by
  rw [skips_eq, idle, Bool.not_false, Bool.and_true]
  have next := Pace.cooldown_next ((t.sweeps_eq host).symm.trans idle)
  rwa [← t.pace_after host] at next

/-- Of two servers, the one with less to skip sweeps first, or both count on. -/
theorem cooldown_after_mono (t' : Turn σ) (same : t.operation = t'.operation)
    (nearer : t.registrar.cooldown ≤ t'.registrar.cooldown) (idle : t.sweeps host = false) :
    (t.after host).cooldown ≤ (t'.after host).cooldown ∧ t'.sweeps host = false := by
  rw [sweeps_eq] at idle ⊢
  have nearer : t.registrar.pace.cooldown ≤ t'.registrar.pace.cooldown := nearer
  have next := Pace.cooldown_next_mono nearer idle
  rw [← t.pace_after host, same, ← t'.pace_after host] at next
  refine ⟨next, ?_⟩
  rw [same] at idle
  simp only [Pace.sweepsAt, Registrar.pace, Bool.and_eq_false_imp, beq_eq_false_iff_ne] at idle ⊢
  intro ticks
  have busy := idle ticks
  omega

/-- A tick that is skipped counts down and does nothing else: the registrations stay, the
surroundings are asked for the tick at most. -/
theorem of_skips (skipped : t.skips host = true) :
    t.after host = { t.registrar with cooldown := t.registrar.cooldown - 1 } ∧
      ((∃ now, t.operation = .tick now ∧ t.asked host = []) ∨
        t.operation = .tickWorld ∧ ∃ now, t.asked host = [.tick now]) := by
  rw [skips_eq, sweeps_eq, Pace.sweepsAt, Bool.and_eq_true, Bool.not_eq_true'] at skipped
  obtain ⟨ticks, idle⟩ := skipped
  have busy : t.registrar.cooldown ≠ 0 := by
    rwa [ticks, Bool.true_and, beq_eq_false_iff_ne] at idle
  rw [after, asked]
  cases op : t.operation with
  | tick now =>
    refine ⟨?_, .inl ⟨now, rfl, ?_⟩⟩
    · change (t.registrar.tick host now t.state).1.2 = _
      rw [Registrar.tick, if_neg busy]
      rfl
    · change (t.registrar.tick host.noted now (t.state, [])).2.2 = _
      rw [Registrar.tick, if_neg busy]
      rfl
  | tickWorld =>
    refine ⟨?_, .inr ⟨rfl, (host.currentTick t.state).1, ?_⟩⟩
    · change (t.registrar.tick host _ _).1.2 = _
      rw [Registrar.tick, if_neg busy]
      rfl
    · change (t.registrar.tick host.noted _ _).2.2 = _
      rw [Registrar.tick, if_neg busy]
      rfl
  | _ => rw [op] at ticks; cases ticks

end Turn

/-! ## Runs -/

namespace Registrar

variable {host : Host σ} {r : Registrar} {operations : List (Operation σ)} {s : σ}
  {span later : List (Turn σ)} {t : Turn σ}

/-- The server that some turns leave. -/
def leftBy (host : Host σ) (r : Registrar) (span : List (Turn σ)) : Registrar :=
  span.foldl (fun _ t => t.after host) r

theorem course_eq_cons (split : r.course host operations s = t :: later) :
    t.registrar = r ∧
      ∃ operations' s', later = (t.after host).course host operations' s' := by
  cases operations with
  | nil => cases split
  | cons op operations =>
    rw [course_cons] at split
    obtain ⟨rfl, rfl⟩ := List.cons.inj split
    exact ⟨rfl, operations, _, rfl⟩

theorem course_split (split : r.course host operations s = span ++ later) :
    ∃ operations' s', later = (r.leftBy host span).course host operations' s' := by
  induction span generalizing r operations s with
  | nil => exact ⟨operations, s, split.symm⟩
  | cons first rest ih =>
    obtain ⟨-, operations', s', onward⟩ := course_eq_cons split
    exact ih onward.symm

theorem course_head (split : r.course host operations s = span ++ t :: later) :
    t.registrar = r.leftBy host span := by
  obtain ⟨operations', s', onward⟩ := course_split split
  exact (course_eq_cons onward.symm).1

/-- Over turns that do not sweep, the ticks that are skipped and those that are left to skip then
are no more than there were, and just as many if no call sets the pace. -/
theorem skips_add_cooldown (split : r.course host operations s = span ++ later)
    (unswept : ∀ t ∈ span, t.sweeps host = false) :
    span.countP (Turn.skips host) + (r.leftBy host span).cooldown ≤ r.cooldown ∧
      ((∀ t ∈ span, t.operation.setsPace = false) →
        span.countP (Turn.skips host) + (r.leftBy host span).cooldown = r.cooldown) := by
  induction span generalizing r operations s with
  | nil => simp [leftBy]
  | cons first rest ih =>
    obtain ⟨rfl, operations', s', onward⟩ := course_eq_cons split
    obtain ⟨here, unswept⟩ := List.forall_mem_cons.mp unswept
    obtain ⟨fewer, even⟩ := ih onward.symm unswept
    obtain ⟨down, exactly⟩ := first.cooldown_after host here
    rw [List.countP_cons]
    change _ + _ + ((first.after host).leftBy host rest).cooldown ≤ _ ∧
      (_ → _ + _ + ((first.after host).leftBy host rest).cooldown = _)
    refine ⟨by omega, fun unset => ?_⟩
    obtain ⟨unset, others⟩ := List.forall_mem_cons.mp unset
    have even := even others
    have exactly := exactly unset
    omega

/-- With no tick left to skip, the next tick sweeps. -/
theorem next_tick_sweeps (ready : r.cooldown = 0)
    (split : r.course host operations s = span ++ t :: later)
    (still : ∀ t ∈ span, t.operation.isTick = false) (ticks : t.operation.isTick = true) :
    t.sweeps host = true := by
  have unswept : ∀ t ∈ span, t.sweeps host = false := by
    intro t member
    rw [Turn.sweeps_eq, Pace.sweepsAt, still t member, Bool.false_and]
  have down := (skips_add_cooldown split unswept).1
  have found : t.registrar.pace.cooldown = 0 := by
    rw [course_head split]
    change (r.leftBy host span).cooldown = 0
    omega
  rw [Turn.sweeps_eq, Pace.sweepsAt, ticks, found]
  rfl

/-- Of two servers that go through the same operations, each in any surroundings, the one with less
to skip sweeps no later. -/
theorem sweeps_no_later (operations : List (Operation σ)) {r r' : Registrar} (s s' : σ)
    (nearer : r'.cooldown ≤ r.cooldown) (k : Nat)
    (swept : ((r.course host operations s).take k).any (Turn.sweeps host) = true) :
    ((r'.course host operations s').take k).any (Turn.sweeps host) = true := by
  induction operations generalizing r r' s s' k with
  | nil => cases k <;> cases swept
  | cons op operations ih =>
    cases k with
    | zero => cases swept
    | succ k =>
      let early : Turn σ := ⟨r', s', op⟩
      let late : Turn σ := ⟨r, s, op⟩
      rw [course_cons, List.take_succ_cons, List.any_cons, Bool.or_eq_true] at swept ⊢
      by_cases first : early.sweeps host = true
      · exact .inl first
      · have idle : early.sweeps host = false := Bool.eq_false_iff.mpr first
        have nearer := early.cooldown_after_mono host late rfl nearer idle
        refine .inr (ih _ _ nearer.1 k (swept.resolve_left ?_))
        rw [nearer.2]
        exact Bool.false_ne_true

/-- The interval in force is the one that was set last, and the ticks left to skip are within it. -/
theorem pace_within {config : ServerConfig} {past : List (Turn σ)}
    (split : (ofConfig config).course host operations s = past ++ t :: later) :
    t.registrar.tickInterval =
        (past.map Turn.operation).foldl Operation.interval (max config.tickInterval.toNat 1) ∧
      t.registrar.cooldown ≤ t.registrar.tickInterval := by
  let within (past : List (Turn σ)) (r : Registrar) :=
    r.tickInterval =
        (past.map Turn.operation).foldl Operation.interval (max config.tickInterval.toNat 1) ∧
      r.cooldown ≤ r.tickInterval
  have step (past : List (Turn σ)) (t : Turn σ) (holds : within past t.registrar) :
      within (past ++ [t]) (t.after host) := by
    obtain ⟨inForce, below⟩ := holds
    have interval := Pace.interval_next t.registrar.pace t.operation
    have below : t.registrar.pace.cooldown ≤ t.registrar.pace.interval := below
    have next : (t.registrar.pace.next t.operation).cooldown ≤ _ := Pace.cooldown_next_le below
    rw [← t.pace_after host] at interval next
    refine ⟨interval.trans ?_, next⟩
    rw [List.map_append, List.foldl_append, ← inForce]
    rfl
  exact course_invariant (motive := within) step ⟨rfl, Nat.zero_le _⟩ split

end Registrar

/-! ## The pace of a run -/

/-- The sweeps of the turns of a run keep the pace that the server is set to. -/
structure KeepsPace (host : Host σ) (config : ServerConfig) (turns : List (Turn σ)) : Prop where
  /-- A tick sweeps or is skipped, and nothing else does either. -/
  either : ∀ t ∈ turns, t.skips host = (t.operation.isTick && !t.sweeps host)
  /-- The interval in force is the one that was set last. -/
  inForce : ∀ past t later, turns = past ++ t :: later → t.registrar.tickInterval =
    (past.map Turn.operation).foldl Operation.interval (max config.tickInterval.toNat 1)
  within : ∀ t ∈ turns, t.registrar.cooldown ≤ t.registrar.tickInterval
  /-- Before the next sweep, no more ticks are skipped than are left to skip. -/
  waits : ∀ past first span later, turns = past ++ first :: (span ++ later) →
    (∀ t ∈ first :: span, t.sweeps host = false) →
    (first :: span).countP (Turn.skips host) ≤ first.registrar.cooldown
  /-- Between two sweeps, with no call about the pace, all ticks of an interval but one are
  skipped. -/
  between : ∀ past first span last later, turns = past ++ first :: (span ++ last :: later) →
    first.sweeps host = true → last.sweeps host = true → (∀ t ∈ span, t.sweeps host = false) →
    (∀ t ∈ span, t.operation.setsPace = false) →
    span.countP (Turn.skips host) = first.registrar.tickInterval - 1
  /-- The first tick of all sweeps. -/
  first : ∀ span t later, turns = span ++ t :: later →
    (∀ t ∈ span, t.operation.isTick = false) → t.operation.isTick = true → t.sweeps host = true
  /-- The first tick after the wait is cleared sweeps. -/
  cleared : ∀ past first span t later, turns = past ++ first :: (span ++ t :: later) →
    first.operation = .clearCooldown → (∀ t ∈ span, t.operation.isTick = false) →
    t.operation.isTick = true → t.sweeps host = true
  /-- Whatever follows, the next sweep comes no later than if the interval had not been set. -/
  sooner : ∀ t ∈ turns, ∀ ticks, t.operation = .setTickInterval ticks → ∀ rest s k,
    ((t.registrar.course host rest s).take k).any (Turn.sweeps host) = true →
    (((t.after host).course host rest s).take k).any (Turn.sweeps host) = true
  /-- A tick that is skipped leaves all registrations as they were, and asks the surroundings for
  nothing but the tick. -/
  skipped : ∀ t ∈ turns, t.skips host = true →
    (t.after host).table = t.registrar.table ∧ ∀ x ∈ t.asked host, x.tick?.isSome

/-- Every run of a server keeps the pace, whatever else is asked of it and whatever the world
answers. -/
theorem sweeps_keep_pace (host : Host σ) (config : ServerConfig) (operations : List (Operation σ))
    (s : σ) : KeepsPace host config ((Registrar.ofConfig config).course host operations s) where
  either t _ := t.skips_eq host
  inForce past t later split := (Registrar.pace_within split).1
  within t member := by
    obtain ⟨past, later, split⟩ := List.append_of_mem member
    exact (Registrar.pace_within split).2
  waits past first span later split unswept := by
    obtain ⟨operations', s', onward⟩ := Registrar.course_split split
    have down := (Registrar.skips_add_cooldown (List.cons_append .. ▸ onward.symm) unswept).1
    rw [Registrar.course_head split]
    omega
  between past first span last later split swept again unswept unset := by
    obtain ⟨_, _, onward⟩ := Registrar.course_split split
    obtain ⟨-, operations', s', onward⟩ := Registrar.course_eq_cons onward.symm
    have count := (Registrar.skips_add_cooldown onward.symm unswept).2 unset
    rw [← Registrar.course_head onward.symm, (last.cooldown_of_sweeps host again).1,
      (first.cooldown_of_sweeps host swept).2] at count
    exact count
  first span t later split := Registrar.next_tick_sweeps rfl split
  cleared past first span t later split clears := by
    obtain ⟨_, _, onward⟩ := Registrar.course_split split
    obtain ⟨-, operations', s', onward⟩ := Registrar.course_eq_cons onward.symm
    refine Registrar.next_tick_sweeps ?_ onward.symm
    rw [Turn.after, clears]
    rfl
  sooner t _ ticks sets rest s k := by
    refine Registrar.sweeps_no_later rest s s ?_ k
    rw [Turn.after, sets]
    exact Nat.min_le_left ..
  skipped t _ skipped := by
    obtain ⟨after, asked⟩ := t.of_skips host skipped
    refine ⟨by rw [after], ?_⟩
    rcases asked with ⟨now, -, asked⟩ | ⟨-, now, asked⟩
    · simp [asked]
    · simp [asked, Exchange.tick?]

/-- A server that sweeps every three ticks skips two of four. -/
theorem sweeps_keep_pace_of_three :
    let host : Host Unit := {
      currentTick := pure (.ofNat 7)
      client := fun _ => pure none
      isLoaded := fun _ => pure true
      hasContainer := fun _ => pure true
      observe := fun _ _ => pure (.ok .empty)
      send := fun _ _ => pure (.ok ()) }
    let turns := (Registrar.ofConfig { tickInterval := 3 }).course host
      [.tick (.ofNat 1), .tick (.ofNat 2), .tickWorld, .tick (.ofNat 8)] ()
    ∃ first span last, turns = first :: (span ++ [last]) ∧ first.sweeps host = true ∧
      last.sweeps host = true ∧ span.countP (Turn.skips host) = 2 := by
  intro host turns
  have paced := sweeps_keep_pace host { tickInterval := 3 }
    [.tick (.ofNat 1), .tick (.ofNat 2), .tickWorld, .tick (.ofNat 8)] ()
  let first := turns.head (by decide)
  let last := turns.getLast (by decide)
  have swept : first.sweeps host = true ∧ last.sweeps host = true := by
    decide +kernel +zetaReduce
  have between : ∀ t ∈ turns.tail.dropLast,
      t.sweeps host = false ∧ t.operation.setsPace = false := by
    decide +kernel +zetaReduce
  exact ⟨first, turns.tail.dropLast, last, rfl, swept.1, swept.2,
    paced.between [] first _ last [] rfl swept.1 swept.2 (fun t here => (between t here).1)
      fun t here => (between t here).2⟩

end ObservationFeed.Server
