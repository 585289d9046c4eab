import ObservationFeed.Client.CleanupTimer

/-!
# What a cleanup timer does

A timer that is used by one scope has at most one task, and that task never
sleeps past the deadline.  So when the timer has settled, it has fired exactly
if its deadline has come, and otherwise its task is asleep and wakes no later
than the deadline, or there is neither.
-/

namespace ObservationFeed.CleanupTimer

/-- At most one task, which is noted, looks after the deadline, and does not sleep past it. -/
structure Orderly (now : Nat) (t : CleanupTimer) : Prop where
  single : t.tasks.length ≤ 1
  noted : t.running = !t.tasks.isEmpty
  near : ∀ d, t.deadline = some d → d ≤ now + t.window
  attended : t.deadline.isSome → t.tasks ≠ []
  early : ∀ scope target, .sleeping scope target ∈ t.tasks →
    target ≤ now + t.window ∧ ∀ d, t.deadline = some d → target ≤ d

/-- No task can move. -/
def Rested (now : Nat) (t : CleanupTimer) : Prop :=
  ∀ task ∈ t.tasks, ∃ scope target, task = .sleeping scope target ∧ now < target

theorem orderly_ofWindow (now window : Nat) : (ofWindow window).Orderly now where
  single := Nat.zero_le 1
  noted := rfl
  near := nofun
  attended := nofun
  early := nofun

variable {now : Nat} {t : CleanupTimer}

theorem Orderly.later (orderly : t.Orderly now) {time : Nat} (later : now ≤ time) :
    t.Orderly time where
  single := orderly.single
  noted := orderly.noted
  near d armed := Nat.le_trans (orderly.near d armed) (Nat.add_le_add_right later _)
  attended := orderly.attended
  early scope target asleep := by
    obtain ⟨near, early⟩ := orderly.early scope target asleep
    exact ⟨Nat.le_trans near (Nat.add_le_add_right later _), early⟩

theorem Orderly.arm (orderly : t.Orderly now) (scope : Nat) : (t.arm now scope).Orderly now := by
  have noted := orderly.noted
  cases tasks : t.tasks with
  | nil =>
    -- A new task is started, and it has not read the deadline yet.
    have still : t.running = false := by simpa [tasks] using noted
    exact {
      single := by simp [CleanupTimer.arm, still, tasks]
      noted := by simp [CleanupTimer.arm, still, tasks]
      near := by simp [CleanupTimer.arm]
      attended := by simp [CleanupTimer.arm, still]
      early := by simp [CleanupTimer.arm, still, tasks] }
  | cons task rest =>
    have runs : t.running = true := by simpa [tasks] using noted
    have same : (t.arm now scope).tasks = t.tasks := by simp [CleanupTimer.arm, runs]
    exact {
      single := same ▸ orderly.single
      noted := by simp [CleanupTimer.arm, runs, tasks]
      near := by simp [CleanupTimer.arm]
      attended := by simp [same, tasks]
      early := by
        intro scope target asleep
        rw [same] at asleep
        -- It sleeps no longer than a window from now, which is where the new deadline is.
        have near := (orderly.early scope target asleep).1
        exact ⟨near, by simpa [CleanupTimer.arm] using near⟩ }

theorem Orderly.disarm (orderly : t.Orderly now) : t.disarm.Orderly now where
  single := orderly.single
  noted := orderly.noted
  near := nofun
  attended := nofun
  early scope target asleep := ⟨(orderly.early scope target asleep).1, nofun⟩

/-! ## Moves of a single task -/

section Single

variable {scope target : Nat} {ended : Nat → Bool}

theorem settleWithin_nil (fuel : Nat) (none : t.tasks = []) :
    settleWithin now ended fuel t = (false, t) := by
  cases fuel with
  | zero => rfl
  | succ fuel => simp [settleWithin, none]

theorem settleWithin_stuck (fuel : Nat) {task : TimerTask} (one : t.tasks = [task])
    (stuck : t.move? now ended 0 = none) : settleWithin now ended fuel t = (false, t) := by
  cases fuel with
  | zero => rfl
  | succ fuel => simp [settleWithin, one, List.range_succ, stuck]

theorem settleWithin_move (fuel : Nat) {task : TimerTask} (one : t.tasks = [task]) {fired : Bool}
    {next : CleanupTimer} (moves : t.move? now ended 0 = some (fired, next)) :
    settleWithin now ended (fuel + 1) t =
      (fired || (settleWithin now ended fuel next).1, (settleWithin now ended fuel next).2) := by
  simp [settleWithin, one, List.range_succ, moves]

theorem move_reading_none (one : t.tasks = [.reading scope]) (disarmed : t.deadline = none) :
    t.move? now ended 0 = some (false, { t with running := false, tasks := [] }) := by
  simp [move?, read?, one, disarmed, finish]

theorem move_reading_some (one : t.tasks = [.reading scope]) {d : Nat}
    (armed : t.deadline = some d) :
    t.move? now ended 0 = some (false, { t with tasks := [.sleeping scope d] }) := by
  simp [move?, read?, one, armed]

theorem move_asleep (one : t.tasks = [.sleeping scope target]) (goesOn : ended scope = false)
    (asleep : now < target) : t.move? now ended 0 = none := by
  simp [move?, read?, abandon?, wake?, one, goesOn, asleep]

theorem move_fires (one : t.tasks = [.sleeping scope target]) (goesOn : ended scope = false)
    (awake : target ≤ now) (armed : t.deadline = some target) :
    t.move? now ended 0 =
      some (true, { t with deadline := none, running := false, tasks := [] }) := by
  simp [move?, read?, abandon?, wake?, one, goesOn, Nat.not_lt.mpr awake, armed, finish]

theorem move_rereads (one : t.tasks = [.sleeping scope target]) (goesOn : ended scope = false)
    (awake : target ≤ now) (moved : t.deadline ≠ some target) :
    t.move? now ended 0 = some (false, { t with tasks := [.reading scope] }) := by
  simp [move?, read?, abandon?, wake?, one, goesOn, Nat.not_lt.mpr awake, moved]

end Single

/-! ## Settling -/

/-- What settling comes to while the scope goes on: the timer fires exactly if its deadline has
come, and what is left of it is orderly and at rest. -/
structure Settled (now : Nat) (t : CleanupTimer) (result : Bool × CleanupTimer) : Prop where
  fired : result.1 = t.deadline.any (· ≤ now)
  deadline : result.2.deadline = if result.1 then none else t.deadline
  window : result.2.window = t.window
  orderly : result.2.Orderly now
  rested : result.2.Rested now

theorem settled_idle (orderly : t.Orderly now) (none : t.tasks = []) :
    Settled now t (false, t) where
  fired := by
    cases armed : t.deadline with
    | none => rfl
    | some d => exact absurd none (orderly.attended (by rw [armed]; rfl))
  deadline := rfl
  window := rfl
  orderly
  rested := by simp [Rested, none]

/-- The timer after its last task has ended, with the deadline gone. -/
theorem orderly_ended (t : CleanupTimer) :
    ({ t with deadline := none, running := false, tasks := [] } : CleanupTimer).Orderly now where
  single := Nat.zero_le 1
  noted := rfl
  near := nofun
  attended := nofun
  early := nofun

/-- The timer after its task has read the deadline. -/
theorem Orderly.asleep (orderly : t.Orderly now) {scope d : Nat} (one : t.tasks = [.reading scope])
    (armed : t.deadline = some d) :
    ({ t with tasks := [.sleeping scope d] } : CleanupTimer).Orderly now where
  single := Nat.le_refl 1
  noted := by simp [orderly.noted, one]
  near := orderly.near
  attended := by simp
  early := by
    intro _ _ asleep
    obtain ⟨-, same⟩ : _ ∧ _ := by simpa using asleep
    subst same
    refine ⟨orderly.near _ armed, fun e other => ?_⟩
    simp only [armed, Option.some_inj] at other
    exact Nat.le_of_eq other

/-- The timer after its task has woken to read the deadline again. -/
theorem Orderly.reading (orderly : t.Orderly now) {task : TimerTask} (one : t.tasks = [task])
    (scope : Nat) : ({ t with tasks := [.reading scope] } : CleanupTimer).Orderly now where
  single := Nat.le_refl 1
  noted := by simp [orderly.noted, one]
  near := orderly.near
  attended := by simp
  early := by simp

/-- A task that a timer has is its only one. -/
theorem Orderly.alone (orderly : t.Orderly now) {i : Nat} {task : TimerTask}
    (there : t.tasks[i]? = some task) : i = 0 ∧ t.tasks = [task] := by
  have single := orderly.single
  obtain ⟨inside, here⟩ := List.getElem?_eq_some_iff.mp there
  have first : i = 0 := by omega
  subst first
  exact ⟨rfl, by rw [List.eq_getElem_of_length_eq_one t.tasks (by omega), here]⟩

/-- Reading the deadline changes the task and nothing else that matters. -/
theorem Orderly.read (orderly : t.Orderly now) {i : Nat} {next : CleanupTimer}
    (reads : t.read? i = some next) :
    next.Orderly now ∧ next.deadline = t.deadline ∧ next.window = t.window := by
  rw [read?] at reads
  split at reads
  · next scope there =>
    obtain ⟨rfl, one⟩ := orderly.alone there
    cases reads
    cases armed : t.deadline with
    | none =>
      -- Nothing is left to wait for, and the task ends.
      have spent : t.finish 0 = { t with deadline := none, running := false, tasks := [] } := by
        simp [finish, one, ← armed]
      rw [spent]
      exact ⟨orderly_ended t, rfl, rfl⟩
    | some d =>
      have asleep := orderly.asleep one armed
      rw [armed] at asleep
      rw [one]
      exact ⟨asleep, rfl, rfl⟩
  · cases reads

/-- A task that wakes fires at or after the deadline and clears it, or goes on to read it again. -/
theorem Orderly.wake (orderly : t.Orderly now) {i : Nat} {fired : Bool} {next : CleanupTimer}
    (wakes : t.wake? now i = some (fired, next)) :
    next.Orderly now ∧ next.window = t.window ∧
      ((fired = true ∧ next.deadline = none ∧ ∃ d, t.deadline = some d ∧ d ≤ now) ∨
        (fired = false ∧ next.deadline = t.deadline)) := by
  rw [wake?] at wakes
  split at wakes
  · next scope target there =>
    obtain ⟨rfl, one⟩ := orderly.alone there
    split at wakes
    · cases wakes
    · next awake =>
      split at wakes
      · next armed =>
        cases wakes
        have spent : ({ t.finish 0 with deadline := none } : CleanupTimer) =
            { t with deadline := none, running := false, tasks := [] } := by simp [finish, one]
        rw [spent]
        exact ⟨orderly_ended t, rfl, .inl ⟨rfl, rfl, target, armed, Nat.not_lt.mp awake⟩⟩
      · cases wakes
        rw [one, List.set_cons_zero]
        exact ⟨orderly.reading one scope, rfl, .inr ⟨rfl, rfl⟩⟩
  · cases wakes

theorem fires_asleep {scope d fuel : Nat} (come : d ≤ now) (armed : t.deadline = some d) :
    settleWithin now (fun _ => false) (fuel + 1) { t with tasks := [.sleeping scope d] } =
      (true, { t with deadline := none, running := false, tasks := [] }) := by
  have fires : ({ t with tasks := [.sleeping scope d] } : CleanupTimer).move? now
      (fun _ => false) 0 =
        some (true, { t with deadline := none, running := false, tasks := [] }) :=
    move_fires rfl rfl come armed
  rw [settleWithin_move _ rfl fires, settleWithin_nil _ rfl]
  rfl

/-- A task that is about to read needs two moves at most. -/
theorem settled_reading (orderly : t.Orderly now) {scope : Nat} (one : t.tasks = [.reading scope])
    (fuel : Nat) : Settled now t (settleWithin now (fun _ => false) (fuel + 2) t) := by
  cases armed : t.deadline with
  | none =>
    -- The deadline was cleared, so the task ends without firing.
    rw [settleWithin_move _ one (move_reading_none one armed), settleWithin_nil _ rfl]
    have spent : ({ t with running := false, tasks := [] } : CleanupTimer) =
        { t with deadline := none, running := false, tasks := [] } := by rw [← armed]
    refine ⟨by simp [armed], rfl, rfl, ?_, nofun⟩
    simp only [spent]
    exact orderly_ended t
  | some d =>
    rw [settleWithin_move _ one (move_reading_some one armed)]
    by_cases come : d ≤ now
    · rw [fires_asleep come armed]
      exact ⟨by simp [armed, come], rfl, rfl, orderly_ended t, nofun⟩
    · have early : now < d := Nat.not_le.mp come
      have stuck : ({ t with tasks := [.sleeping scope d] } : CleanupTimer).move? now
          (fun _ => false) 0 = none := move_asleep rfl rfl early
      rw [settleWithin_stuck _ rfl stuck]
      refine ⟨by simp [armed, come], rfl, rfl, orderly.asleep one armed, ?_⟩
      intro task member
      obtain rfl := List.mem_singleton.mp member
      exact ⟨scope, d, rfl, early⟩

/-- A task that is asleep needs one move more, to notice that the deadline has moved. -/
theorem settled_sleeping (orderly : t.Orderly now) {scope target : Nat}
    (one : t.tasks = [.sleeping scope target]) (fuel : Nat) :
    Settled now t (settleWithin now (fun _ => false) (fuel + 3) t) := by
  have early := orderly.early scope target (by simp [one])
  by_cases asleep : now < target
  · rw [settleWithin_stuck _ one (move_asleep one rfl asleep)]
    refine ⟨?_, rfl, rfl, orderly, ?_⟩
    · cases armed : t.deadline with
      | none => rfl
      | some d =>
        have later := Nat.lt_of_lt_of_le asleep (early.2 d armed)
        simp [Nat.not_le.mpr later]
    · intro task member
      rw [one] at member
      obtain rfl := List.mem_singleton.mp member
      exact ⟨scope, target, rfl, asleep⟩
  · have awake : target ≤ now := Nat.not_lt.mp asleep
    by_cases same : t.deadline = some target
    · rw [settleWithin_move _ one (move_fires one rfl awake same), settleWithin_nil _ rfl]
      exact ⟨by simp [same, awake], rfl, rfl, orderly_ended t, nofun⟩
    · -- The deadline has moved while the task was asleep, and it reads it again.
      rw [settleWithin_move _ one (move_rereads one rfl awake same)]
      obtain ⟨fired, deadline, window, stays, rested⟩ :=
        settled_reading (orderly.reading one scope) rfl fuel
      exact ⟨by simpa using fired, by simpa using deadline, window, stays, rested⟩

theorem settle_settled (orderly : t.Orderly now) :
    Settled now t (t.settle now fun _ => false) := by
  unfold settle
  cases tasks : t.tasks with
  | nil =>
    rw [settleWithin_nil _ tasks]
    exact settled_idle orderly tasks
  | cons task rest =>
    -- A timer has one task at most, so its moves are those of the first.
    have alone : rest = [] := by
      have single := orderly.single
      rw [tasks, List.length_cons] at single
      exact List.length_eq_zero_iff.mp (by omega)
    subst alone
    cases task with
    | reading scope => exact settled_reading orderly tasks 2
    | sleeping scope target => exact settled_sleeping orderly tasks 1

/-! ## Timers that are disarmed -/

section Disarmed

variable {t' : CleanupTimer} {i : Nat} {ended : Nat → Bool} {fired : Bool}

theorem disarmed_move (disarmed : t.deadline = none)
    (moves : t.move? now ended i = some (fired, t')) : t'.deadline = none := by
  simp only [move?, Option.or_eq_some_iff, Option.map_eq_some_iff] at moves
  rcases moves with ⟨_, reads, ⟨⟩⟩ | ⟨-, ⟨_, abandons, ⟨⟩⟩ | ⟨-, wakes⟩⟩
  · rw [read?] at reads
    split at reads
    · rw [disarmed] at reads
      cases reads
      exact disarmed
    · cases reads
  · rw [abandon?] at abandons
    split at abandons
    · split at abandons
      · cases abandons
        exact disarmed
      · cases abandons
    · cases abandons
  · rw [wake?, disarmed] at wakes
    split at wakes
    · split at wakes
      · cases wakes
      · simp only [reduceCtorEq, if_false] at wakes
        cases wakes
        rfl
    · cases wakes

/-- Its tasks do not arm a timer. -/
theorem disarmed_settle (disarmed : t.deadline = none) (now : Nat) (ended : Nat → Bool) :
    (t.settle now ended).2.deadline = none := by
  have within (fuel : Nat) (t : CleanupTimer) (disarmed : t.deadline = none) :
      (settleWithin now ended fuel t).2.deadline = none := by
    induction fuel generalizing t with
    | zero => exact disarmed
    | succ fuel ih =>
      rw [settleWithin]
      split
      · exact disarmed
      · next moves =>
        obtain ⟨i, -, moved⟩ := List.exists_of_findSome?_eq_some moves
        exact ih _ (disarmed_move disarmed moved)
  exact within _ t disarmed

end Disarmed

end ObservationFeed.CleanupTimer
