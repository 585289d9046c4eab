import ObservationFeed.Proofs.Server.Turns

/-!
# When subscriptions fire

Between two firings, a subscription is told apart by few numbers: the tick of
the last firing with the interval that was in force then, and the ticks and
intervals of the renewals since.  The next sweep past the least of their sums
fires it.

The sums are taken without a bound.  The update mark of a registration stops at
the last tick, but no tick is past that one either.
-/

namespace ObservationFeed.Server

variable {σ : Type}

/-! ## Terms -/

/-- A subscription between two firings. -/
structure Term where
  /-- The tick of the last firing, or of the creation before the first one. -/
  since : Tick
  /-- The interval in force then. -/
  every : Interval
  /-- The renewals since then, the last of them first. -/
  renewals : List (Tick × Interval)

namespace Term

def begun (since : Tick) (every : Interval) : Term := ⟨since, every, []⟩

/-- The interval of the last renewal, or the one from before. -/
def inForce (p : Term) : Interval := (p.renewals.head?.map (·.2)).getD p.every

/-- The least of the last firing and the renewals, each with its interval added. -/
def deadline (p : Term) : Nat :=
  p.renewals.foldr (fun r least => min (r.1.count + r.2.ticks) least)
    (p.since.count + p.every.ticks)

/-- The shortest interval that was in force. -/
def shortest (p : Term) : Nat :=
  p.renewals.foldr (fun r least => min r.2.ticks least) p.every.ticks

def renewed (p : Term) (now : Tick) (every : Interval) : Term :=
  { p with renewals := (now, every) :: p.renewals }

def fired (p : Term) (now : Tick) : Term := begun now p.inForce

@[simp] theorem inForce_begun (since : Tick) (every : Interval) :
    (begun since every).inForce = every := rfl

@[simp] theorem deadline_begun (since : Tick) (every : Interval) :
    (begun since every).deadline = since.count + every.ticks := rfl

@[simp] theorem inForce_renewed (p : Term) (now : Tick) (every : Interval) :
    (p.renewed now every).inForce = every := rfl

@[simp] theorem deadline_renewed (p : Term) (now : Tick) (every : Interval) :
    (p.renewed now every).deadline = min (now.count + every.ticks) p.deadline := rfl

@[simp] theorem inForce_fired (p : Term) (now : Tick) : (p.fired now).inForce = p.inForce := rfl

@[simp] theorem deadline_fired (p : Term) (now : Tick) :
    (p.fired now).deadline = now.count + p.inForce.ticks := rfl

/-- As no renewal is earlier than the firing, none brings the next one nearer than its interval. -/
theorem since_add_shortest_le {p : Term} (later : ∀ r ∈ p.renewals, p.since.count ≤ r.1.count) :
    p.since.count + p.shortest ≤ p.deadline := by
  obtain ⟨since, every, renewals⟩ := p
  simp only [shortest, deadline] at later ⊢
  induction renewals with
  | nil => exact Nat.le_refl _
  | cons r renewals ih =>
    obtain ⟨here, others⟩ := List.forall_mem_cons.mp later
    have rest := ih others
    rw [List.foldr_cons, List.foldr_cons]
    omega

end Term

/-! ## Beats -/

/-- What bears on when a subscription fires. -/
inductive Beat where
  /-- A start or a keepalive is accepted. -/
  | renewal (now : Tick) (every : Interval)
  | sweep (now : Tick)
  deriving DecidableEq

def Beat.tick : Beat → Tick
  | renewal now _ => now
  | sweep now => now

def Rising (since : Tick) (beats : List Beat) : Prop :=
  (since :: beats.map Beat.tick).Pairwise fun a b => a.count ≤ b.count

theorem Rising.cons {since : Tick} {b : Beat} {beats : List Beat}
    (rising : Rising since (b :: beats)) :
    since.count ≤ b.tick.count ∧ Rising b.tick beats := by
  obtain ⟨before, rising⟩ := List.pairwise_cons.mp rising
  exact ⟨before b.tick List.mem_cons_self, rising⟩

/-- The second list is the first without some of the renewals that repeat the interval in
force. -/
inductive Repeats : Interval → List Beat → List Beat → Prop where
  | nil {every : Interval} : Repeats every [] []
  | sweep {every : Interval} {now : Tick} {beats fewer : List Beat} :
    Repeats every beats fewer → Repeats every (.sweep now :: beats) (.sweep now :: fewer)
  | renewal {every next : Interval} {now : Tick} {beats fewer : List Beat} :
    Repeats next beats fewer →
      Repeats every (.renewal now next :: beats) (.renewal now next :: fewer)
  | dropped {every : Interval} {now : Tick} {beats fewer : List Beat} :
    Repeats every beats fewer → Repeats every (.renewal now every :: beats) fewer

/-- The sweeps among some beats, each with whether it fires. -/
def schedule : Term → List Beat → List (Tick × Bool)
  | _, [] => []
  | p, .renewal now every :: beats => schedule (p.renewed now every) beats
  | p, .sweep now :: beats =>
    (now, p.deadline < now.count) ::
      schedule (if p.deadline < now.count then p.fired now else p) beats

/-- A renewal that repeats the interval in force is due no earlier than what it renews, so leaving
it out changes nothing: by induction on what is left out. -/
theorem schedule_repeats {every : Interval} {beats fewer : List Beat}
    (repeats : Repeats every beats fewer) {p q : Term} {clock : Tick}
    (force : p.inForce = every) (force' : q.inForce = every) (deadline : p.deadline = q.deadline)
    (near : p.deadline ≤ clock.count + every.ticks) (rising : Rising clock beats) :
    schedule p beats = schedule q fewer := by
  induction repeats generalizing p q clock with
  | nil => rfl
  | @sweep every now beats fewer _ ih =>
    obtain ⟨here, rising⟩ : clock.count ≤ now.count ∧ Rising now beats := rising.cons
    rw [schedule, schedule, ← deadline]
    congr 1
    split
    · have deadline' : (p.fired now).deadline = (q.fired now).deadline := by simp [force, force']
      exact ih force force' deadline' (by simp [force]) rising
    · exact ih force force' deadline (by omega) rising
  | @renewal every next now beats fewer _ ih =>
    obtain ⟨-, rising⟩ : clock.count ≤ now.count ∧ Rising now beats := rising.cons
    have deadline' : (p.renewed now next).deadline = (q.renewed now next).deadline := by
      simp [deadline]
    rw [schedule, schedule]
    exact ih rfl rfl deadline' (Nat.min_le_left ..) rising
  | @dropped every now beats fewer _ ih =>
    obtain ⟨here, rising⟩ : clock.count ≤ now.count ∧ Rising now beats := rising.cons
    have same : (p.renewed now every).deadline = p.deadline := by
      rw [Term.deadline_renewed]
      omega
    rw [schedule]
    exact ih rfl force' (same.trans deadline) (by omega) rising

/-! ## Turns -/

variable (host : Host σ)

/-- What a turn means for the subscription of a client at a location. -/
def Turn.beat? (c : ClientId) (l : Location) (t : Turn σ) : Option Beat :=
  match t.sweep? host with
  | some (now, _) => some (.sweep now)
  | none =>
    if t.operation.own? = some (c, l) then do
      let every ← t.operation.kind?.bind RequestKind.interval?
      let now ← t.seen? host
      return .renewal now every
    else none

def beats (c : ClientId) (l : Location) (turns : List (Turn σ)) : List Beat :=
  turns.filterMap (Turn.beat? host c l)

/-- The term after a turn.  A sweep that marks the registration due begins the next one. -/
def Term.turn (c : ClientId) (l : Location) (p : Term) (t : Turn σ) : Term :=
  match t.beat? host c l with
  | none => p
  | some (.renewal now every) => p.renewed now every
  | some (.sweep now) => if t.marks host c l then p.fired now else p

/-- The registration is still there after the turn, and the turn is no single or stop for it. -/
structure Turn.Keeps (c : ClientId) (l : Location) (t : Turn σ) : Prop where
  left : (t.left host c l).isSome
  asks : t.operation.own? = some (c, l) → (t.operation.kind?.bind RequestKind.interval?).isSome

/-- A part of a run.  A start or a keepalive files a registration where there was none, and the
turns after it keep it; the rest of the run may be anything. -/
structure Stretch (turns : List (Turn σ)) (c : ClientId) (l : Location) (since : Tick)
    (every : Interval) (span rest : List (Turn σ)) : Prop where
  part : ∃ past birth, turns = past ++ birth :: (span ++ rest) ∧ birth.held c l = none ∧
    birth.beat? host c l = some (.renewal since every) ∧ (birth.left host c l).isSome
  kept : ∀ t ∈ span, t.Keeps host c l

def firings (c : ClientId) (l : Location) (turns : List (Turn σ)) : List (Tick × Bool) :=
  turns.filterMap fun t => (t.sweep? host).map fun sweep => (sweep.1, t.marks host c l)

structure Tracks (p : Term) (x : Registration) : Prop where
  interval : x.interval = .every p.inForce
  nextUpdate : x.nextUpdate.count = min p.deadline Tick.maxCount

variable {host} {t : Turn σ} {c : ClientId} {l : Location} {x : Registration} {p : Term}

theorem beats_of_some {b : Beat} (beat : t.beat? host c l = some b) (turns : List (Turn σ)) :
    beats host c l (t :: turns) = b :: beats host c l turns :=
  List.filterMap_cons_some beat

theorem beats_of_none (quiet : t.beat? host c l = none) (turns : List (Turn σ)) :
    beats host c l (t :: turns) = beats host c l turns :=
  List.filterMap_cons_none quiet

theorem Turn.beat?_of_sweep {now : Tick} {s : σ} (swept : t.sweep? host = some (now, s)) :
    t.beat? host c l = some (.sweep now) := by
  simp [Turn.beat?, swept]

theorem Turn.of_beat?_eq_renewal {now : Tick} {every : Interval}
    (beat : t.beat? host c l = some (.renewal now every)) :
    t.operation.own? = some (c, l) ∧ t.seen? host = some now ∧
      ∃ kind, t.operation.kind? = some kind ∧ kind.interval? = some every := by
  unfold Turn.beat? at beat
  split at beat
  · cases beat
  · simp only [Option.ite_none_right_eq_some, Option.bind_eq_bind, Option.bind_eq_some_iff] at beat
    obtain ⟨own, _, ⟨kind, asks, interval⟩, now, seen, same⟩ := beat
    cases same
    exact ⟨own, seen, kind, asks, interval⟩

theorem Turn.sweep?_of_beat? {now : Tick} (beat : t.beat? host c l = some (.sweep now)) :
    ∃ s, t.sweep? host = some (now, s) := by
  unfold Turn.beat? at beat
  split at beat
  · next now s swept =>
    cases beat
    exact ⟨s, swept⟩
  · simp [Option.bind_eq_some_iff] at beat

theorem tracks_subscription (c : ClientId) (every : Interval) (now : Tick) (maxAge : Nat) :
    Tracks (.begun now every) (.subscription c every now maxAge) := ⟨rfl, rfl⟩

theorem Tracks.renew (tracks : Tracks p x) (now : Tick) (every : Interval) (maxAge : Nat) :
    Tracks (p.renewed now every) (x.renew every now maxAge) where
  interval := rfl
  nextUpdate := by
    have mark := tracks.nextUpdate
    simp only [Registration.renew, Tick.count_earlier, Tick.count_add, Term.deadline_renewed]
    omega

theorem Tracks.fired (tracks : Tracks p x) (now : Tick) : Tracks (p.fired now) (x.fired now) := by
  obtain ⟨client, interval, nextUpdate, expiry⟩ := x
  obtain rfl : interval = .every p.inForce := tracks.interval
  exact ⟨rfl, rfl⟩

/-- A sweep that finds the location and the client in order marks the registration due exactly past
the deadline, which the mark can stand for as no tick is past the last one. -/
theorem Tracks.marks_iff (tracks : Tracks p x) (tidy : t.registrar.table.Tidy)
    (held : t.held c l = some x) {now : Tick} {s : σ} (swept : t.sweep? host = some (now, s))
    (admitted : t.admits host c l = true) :
    t.marks host c l = true ↔ p.deadline < now.count := by
  have due : x.isDue now = true ↔ p.deadline < now.count := by
    have mark := tracks.nextUpdate
    have range := now.count_le
    rw [Registration.isDue, decide_eq_true_eq]
    omega
  rw [Turn.marks_iff host tidy swept, ← due, held]
  simp [admitted]

theorem Turn.Keeps.admits (keeps : t.Keeps host c l) (tidy : t.registrar.table.Tidy)
    (held : t.held c l = some x) {now : Tick} {s : σ} (swept : t.sweep? host = some (now, s)) :
    t.admits host c l = true := by
  obtain ⟨y, left⟩ := Option.isSome_iff_exists.mp keeps.left
  rw [t.left_of_sweep host tidy swept, held, Option.bind_some, Sweep.spared] at left
  split at left
  · next stays => exact (Bool.and_eq_true _ _ ▸ stays).1
  · cases left

theorem Registrar.change?_of_interval? {kind : RequestKind} {every : Interval} {maxAge : Nat}
    {change : Tick → Option Registration → Registration} (interval : kind.interval? = some every)
    (same : change? maxAge c kind = some change) : change = subscribeChange maxAge c every := by
  cases kind with
  | stop | single => cases interval
  | keepalive | start =>
    cases interval
    cases same
    rfl

theorem Tracks.turn (tracks : Tracks p x) (tidy : t.registrar.table.Tidy)
    (held : t.held c l = some x) (keeps : t.Keeps host c l) :
    ∃ y, t.left host c l = some y ∧ Tracks (p.turn host c l t) y := by
  obtain ⟨y, left⟩ := Option.isSome_iff_exists.mp keeps.left
  refine ⟨y, left, ?_⟩
  cases swept : t.sweep? host with
  | some sweep =>
    obtain ⟨now, s⟩ := sweep
    have found := t.left_of_sweep host tidy swept c l
    rw [left, held, Option.bind_some] at found
    simp only [Term.turn, Turn.beat?, swept]
    cases marked : t.marks host c l with
    | false =>
      rw [Turn.spared_eq_some host tidy swept held found.symm marked]
      exact tracks
    | true =>
      -- It is due, so what the sweep spares is the registration fired.
      obtain ⟨-, x', same, due⟩ := (Turn.marks_iff host tidy swept c l).mp marked
      cases held.symm.trans same
      unfold Sweep.spared at found
      split at found
      · cases found
        simp only [Registration.poll, due, if_true]
        exact tracks.fired now
      · cases found
  | none =>
    by_cases own : t.operation.own? = some (c, l)
    · obtain ⟨every, asked⟩ := Option.isSome_iff_exists.mp (keeps.asks own)
      obtain ⟨kind, asks, interval⟩ := Option.bind_eq_some_iff.mp asked
      rcases Turn.left_of_own host own asks c l with
        ⟨change, now, change', seen, -, found⟩ | ⟨-, found⟩
      · rw [if_pos ⟨rfl, rfl⟩, left, held] at found
        cases found
        have beat : t.beat? host c l = some (.renewal now every) := by
          simp [Turn.beat?, swept, own, asked, seen]
        simp only [Term.turn, beat, Registrar.change?_of_interval? interval change']
        exact tracks.renew now every t.registrar.maxAge
      · rw [if_pos ⟨rfl, rfl⟩, left] at found
        cases found
    · have beat : t.beat? host c l = none := by simp [Turn.beat?, swept, own]
      have fate := t.fate host tidy c l
      simp only [Term.turn, beat]
      generalize t.left host c l = after at fate left
      cases fate with
      | same =>
        cases held.symm.trans left
        exact tracks
      | cleared | denied => cases left
      | granted _ grants => exact absurd grants.own own
      | swept swept' => cases swept.symm.trans swept'

/-! ## Runs -/

section Runs

variable {config : ServerConfig} {operations : List (Operation σ)} {s : σ}
  {past span rest : List (Turn σ)} {every : Interval} {since : Tick}

/-- From a turn that leaves a registration at the beginning of a term, the turns that keep it fire
it on schedule, and what comes next finds it at the end: by induction on the turns. -/
theorem Tracks.course (tidy : t.registrar.table.Tidy)
    (split : (Registrar.ofConfig config).course host operations s = past ++ t :: (span ++ rest))
    (tracks : Tracks p x) (left : t.left host c l = some x)
    (kept : ∀ t ∈ span, t.Keeps host c l) :
    firings host c l span = schedule p (beats host c l span) ∧
      ∀ turn later, rest = turn :: later → turn.registrar.table.Tidy ∧
        ∃ y, turn.held c l = some y ∧ Tracks (span.foldl (Term.turn host c l) p) y := by
  induction span generalizing past t p x with
  | nil =>
    refine ⟨rfl, ?_⟩
    rintro turn later rfl
    have next : turn.registrar = t.after host := Registrar.course_next split
    rw [Turn.held, next]
    exact ⟨Turn.tidy_after host tidy, x, left, tracks⟩
  | cons turn span ih =>
    obtain ⟨keeps, kept⟩ := List.forall_mem_cons.mp kept
    have next : turn.registrar = t.after host := Registrar.course_next split
    have tidy' : turn.registrar.table.Tidy := next ▸ Turn.tidy_after host tidy
    have held : turn.held c l = some x := by
      rw [Turn.held, next]
      exact left
    obtain ⟨y, left', tracks'⟩ := tracks.turn tidy' held keeps
    have split' : (Registrar.ofConfig config).course host operations s =
        (past ++ [t]) ++ turn :: (span ++ rest) := by simp [split]
    obtain ⟨same, later⟩ := ih tidy' split' tracks' left' kept
    refine ⟨?_, later⟩
    rw [Term.turn] at same
    cases swept : turn.sweep? host with
    | some sweep =>
      obtain ⟨now, s'⟩ := sweep
      have beat : turn.beat? host c l = some (.sweep now) := Turn.beat?_of_sweep swept
      have marks : turn.marks host c l = decide (p.deadline < now.count) := by
        rw [Bool.eq_iff_iff, decide_eq_true_eq]
        exact tracks.marks_iff tidy' held swept (keeps.admits tidy' held swept)
      have here : firings host c l (turn :: span) =
          (now, turn.marks host c l) :: firings host c l span := by
        simp [firings, swept]
      rw [here, same, beats_of_some beat, schedule, beat]
      simp only [marks, decide_eq_true_eq]
    | none =>
      have here : firings host c l (turn :: span) = firings host c l span := by
        simp [firings, swept]
      rw [here, same]
      cases beat : turn.beat? host c l with
      | none => rw [beats_of_none beat]
      | some b =>
        rw [beats_of_some beat]
        cases b with
        | renewal now every => rfl
        | sweep now =>
          obtain ⟨s', swept'⟩ := Turn.sweep?_of_beat? beat
          cases swept.symm.trans swept'

theorem Stretch.begins
    (stretch : Stretch host ((Registrar.ofConfig config).course host operations s) c l since every
      span rest) :
    firings host c l span = schedule (.begun since every) (beats host c l span) ∧
      ∀ turn later, rest = turn :: later → turn.registrar.table.Tidy ∧
        ∃ y, turn.held c l = some y ∧
          Tracks (span.foldl (Term.turn host c l) (.begun since every)) y := by
  obtain ⟨past, birth, split, new, beat, left⟩ := stretch.part
  have tidy : birth.registrar.table.Tidy :=
    Registrar.course_invariant (motive := fun _ r => r.table.Tidy)
      (fun _ _ tidy => Turn.tidy_after host tidy) Table.tidy_empty split
  obtain ⟨x, left⟩ := Option.isSome_iff_exists.mp left
  have tracks : Tracks (.begun since every) x := by
    obtain ⟨own, seen, kind, asks, interval⟩ := Turn.of_beat?_eq_renewal beat
    rcases birth.left_of_own host own asks c l with
      ⟨change, now, change', seen', -, filed⟩ | ⟨-, gone⟩
    · rw [if_pos ⟨rfl, rfl⟩, left, new] at filed
      cases seen.symm.trans seen'
      cases Registrar.change?_of_interval? interval change'
      cases filed
      exact tracks_subscription c every since birth.registrar.maxAge
    · rw [if_pos ⟨rfl, rfl⟩, left] at gone
      cases gone
  exact tracks.course tidy split left stretch.kept

end Runs

/-! ## Consequences -/

theorem Term.deadline_turn_le (p : Term) (unmarked : t.marks host c l = false) :
    (p.turn host c l t).deadline ≤ p.deadline := by
  unfold Term.turn
  split
  · exact Nat.le_refl _
  · exact Nat.min_le_right ..
  · simp only [unmarked, Bool.false_eq_true, if_false, Nat.le_refl]

theorem Term.deadline_foldl_le {turns : List (Turn σ)} (p : Term)
    (unmarked : ∀ t ∈ turns, t.marks host c l = false) :
    (turns.foldl (Term.turn host c l) p).deadline ≤ p.deadline := by
  induction turns generalizing p with
  | nil => exact Nat.le_refl _
  | cons t turns ih =>
    obtain ⟨here, later⟩ := List.forall_mem_cons.mp unmarked
    exact Nat.le_trans (ih _ later) (p.deadline_turn_le here)

/-- The firing that began the term is behind the clock and behind every renewal since. -/
structure Term.Orderly (p : Term) (clock : Tick) : Prop where
  since : p.since.count ≤ clock.count
  renewals : ∀ r ∈ p.renewals, p.since.count ≤ r.1.count

theorem Term.Orderly.foldl {turns : List (Turn σ)} {clock : Tick} (orderly : p.Orderly clock)
    (rising : Rising clock (beats host c l turns)) :
    ∃ later, (turns.foldl (Term.turn host c l) p).Orderly later := by
  induction turns generalizing p clock with
  | nil => exact ⟨clock, orderly⟩
  | cons t turns ih =>
    rw [List.foldl_cons]
    cases beat : t.beat? host c l with
    | none =>
      have same : p.turn host c l t = p := by simp only [Term.turn, beat]
      rw [beats_of_none beat] at rising
      rw [same]
      exact ih orderly rising
    | some b =>
      rw [beats_of_some beat] at rising
      obtain ⟨here, rising⟩ := rising.cons
      refine ih ?_ rising
      have since := Nat.le_trans orderly.since here
      simp only [Term.turn, beat]
      cases b with
      | renewal now every =>
        exact ⟨since, List.forall_mem_cons.mpr ⟨since, orderly.renewals⟩⟩
      | sweep now =>
        show Term.Orderly (if t.marks host c l = true then p.fired now else p) now
        split
        · exact ⟨Nat.le_refl _, nofun⟩
        · exact ⟨since, orderly.renewals⟩

variable (host)

/-- A registration that a start or a keepalive files at a tick fires on schedule, as far as some
turns keep it and at the sweep after them.  The turns may end anywhere, so this is about every
sweep. -/
structure OnSchedule (c : ClientId) (l : Location) (since : Tick) (every : Interval)
    (span rest : List (Turn σ)) : Prop where
  /-- A sweep fires it exactly past the least of the last firing and the renewals since then, each
  with its interval added. -/
  fires : ∀ turn later, rest = turn :: later → ∀ now s, turn.sweep? host = some (now, s) →
    turn.admits host c l = true →
      (turn.marks host c l = true ↔
        (span.foldl (Term.turn host c l) (.begun since every)).deadline < now.count)
  /-- A sweep past the deadline there was before some renewals fires it, whatever they ask for. -/
  never_delayed : ∀ before after, span = before ++ after →
    (∀ t ∈ after, t.marks host c l = false) → ∀ turn later, rest = turn :: later →
      ∀ now s, turn.sweep? host = some (now, s) → turn.admits host c l = true →
        (before.foldl (Term.turn host c l) (.begun since every)).deadline < now.count →
          turn.marks host c l = true
  /-- While ticks never fall, a firing is more than the shortest of the intervals after the last
  one, or after the creation. -/
  apart : Rising since (beats host c l span) → ∀ turn later, rest = turn :: later →
    ∀ now s, turn.sweep? host = some (now, s) → turn.marks host c l = true →
      let term := span.foldl (Term.turn host c l) (.begun since every)
      term.since.count + term.shortest < now.count
  /-- While ticks never fall, the sweeps that fire it are those of any run that differs only in
  renewals that repeat the interval in force. -/
  unmoved : Rising since (beats host c l span) → ∀ {σ' : Type} (host' : Host σ')
    (config : ServerConfig) (operations : List (Operation σ')) (s' : σ') (c' : ClientId)
    (l' : Location) (span' rest' : List (Turn σ')),
      Stretch host' ((Registrar.ofConfig config).course host' operations s') c' l' since every
        span' rest' →
      Repeats every (beats host c l span) (beats host' c' l' span') →
        firings host c l span = firings host' c' l' span'

/-- However renewals, sweeps and the requests of others follow each other, every subscription fires
on schedule. -/
theorem fires_on_schedule (host : Host σ) (config : ServerConfig) (operations : List (Operation σ))
    (s : σ) (c : ClientId) (l : Location) (since : Tick) (every : Interval)
    (span rest : List (Turn σ))
    (stretch : Stretch host ((Registrar.ofConfig config).course host operations s) c l since every
      span rest) :
    OnSchedule host c l since every span rest := by
  obtain ⟨scheduled, follows⟩ := stretch.begins
  have fires : ∀ turn later, rest = turn :: later → ∀ now s, turn.sweep? host = some (now, s) →
      turn.admits host c l = true → (turn.marks host c l = true ↔
        (span.foldl (Term.turn host c l) (.begun since every)).deadline < now.count) := by
    intro turn later next now s swept admitted
    obtain ⟨tidy, x, held, tracks⟩ := follows turn later next
    exact tracks.marks_iff tidy held swept admitted
  constructor
  case fires => exact fires
  case never_delayed =>
    intro before after split unmarked turn later next now s swept admitted past
    rw [fires turn later next now s swept admitted, split, List.foldl_append]
    exact Nat.lt_of_le_of_lt (Term.deadline_foldl_le _ unmarked) past
  case apart =>
    intro rising turn later next now s swept marked term
    have admitted : turn.admits host c l = true := by
      obtain ⟨tidy, -⟩ := follows turn later next
      exact ((Turn.marks_iff host tidy swept c l).mp marked).1
    have past := (fires turn later next now s swept admitted).mp marked
    have begun : (Term.begun since every).Orderly since := ⟨Nat.le_refl _, nofun⟩
    obtain ⟨_, orderly⟩ := begun.foldl rising
    exact Nat.lt_of_le_of_lt (Term.since_add_shortest_le orderly.renewals) past
  case unmoved =>
    intro rising σ' host' config' operations' s' c' l' span' rest' stretch' repeats
    rw [scheduled, stretch'.begins.1]
    exact schedule_repeats repeats rfl rfl rfl (Nat.le_refl _) rising

/-- Near the last tick, a subscription is renewed with a shorter interval and then with the longest
one.  It fires past the first deadline and past the second; the third is past the last tick. -/
theorem fires_on_schedule_near_last_tick :
    let host : Host Nat := {
      currentTick := fun s => (.ofNat s, s)
      client := fun _ => pure (some ⟨"overworld", ⟨⟨0⟩, ⟨0⟩, ⟨0⟩⟩⟩)
      isLoaded := fun _ => pure true
      hasContainer := fun _ => pure true
      observe := fun _ _ => pure (.ok .empty)
      send := fun _ _ => pure (.ok ()) }
    let c : ClientId := ⟨1⟩
    let l : Location := ⟨"overworld", ⟨1, 2, 3⟩⟩
    let turns := (Registrar.ofConfig { tickInterval := 1 }).course host
      [.start c l (.clamp 20), .elsewhere (· + 10), .keepalive c l (.clamp 5), .elsewhere (· + 6),
        .tickWorld, .keepalive c l (.clamp 72000), .elsewhere (· + 6), .tickWorld,
        .elsewhere (· + 8), .tickWorld] (Tick.maxCount - 30)
    let since := Tick.ofNat (Tick.maxCount - 30)
    let span := turns.tail.take 8
    let rest := turns.tail.drop 8
    Stretch host turns c l since (.clamp 20) span rest ∧
      OnSchedule host c l since (.clamp 20) span rest ∧
      (firings host c l turns).map (fun sweep => (Tick.maxCount - sweep.1.count, sweep.2)) =
        [(14, true), (8, true), (0, false)] := by
  intro host c l turns since span rest
  have keeps : ∀ t ∈ span, (t.left host c l).isSome = true ∧ (t.operation.own? = some (c, l) →
      (t.operation.kind?.bind RequestKind.interval?).isSome = true) := by
    decide +kernel +zetaReduce
  have stretch : Stretch host turns c l since (.clamp 20) span rest := by
    refine ⟨⟨[], ⟨.ofConfig { tickInterval := 1 }, Tick.maxCount - 30, .start c l (.clamp 20)⟩,
      ?_, rfl, ?_, ?_⟩, fun t member => ⟨(keeps t member).1, (keeps t member).2⟩⟩
    · rw [List.take_append_drop]
      rfl
    · decide +kernel +zetaReduce
    · decide +kernel +zetaReduce
  exact ⟨stretch, fires_on_schedule host { tickInterval := 1 } _ _ c l since _ span rest stretch,
    by decide +kernel +zetaReduce⟩

end ObservationFeed.Server
