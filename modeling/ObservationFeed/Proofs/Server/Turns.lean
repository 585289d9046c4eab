import ObservationFeed.Proofs.Server.Finding
import ObservationFeed.Proofs.Server.Refinement
import ObservationFeed.Proofs.Server.SweepSpec

/-!
# Turns of a run

A run of a server is a list of turns, each an operation with the server and the
surroundings it begins in.  Everything else is a function of these: what the
operation answers and leaves, what it asks of the surroundings, which sweep it
makes, and which ticks it sees.

`Fate` says once what a turn can do to the registration of a client at a
location.  Every statement about runs goes through it.
-/

namespace ObservationFeed.Server

open KeyedList

variable {σ : Type}

/-! ## Requests -/

/-- What an operation of a client asks for. -/
def Operation.kind? : Operation σ → Option RequestKind
  | stop _ _ => some .stop
  | single _ _ => some .single
  | start _ _ every => some (.start every)
  | keepalive _ _ every => some (.keepalive every)
  | handle _ m => some m.kind
  | _ => none

/-- The change that a request of this kind makes to a registration if it is accepted. -/
def Registrar.change? (maxAge : Nat) (c : ClientId) :
    RequestKind → Option (Tick → Option Registration → Registration)
  | .stop => none
  | .single => some (singleChange c)
  | .start every => some (subscribeChange maxAge c every)
  | .keepalive every => some (subscribeChange maxAge c every)

/-! ## What operations put down -/

/-- The operation in surroundings that put down what they are asked. -/
def Operation.noted : Operation σ → Operation (σ × List Exchange)
  | stop c l => .stop c l
  | single c l => .single c l
  | start c l every => .start c l every
  | keepalive c l every => .keepalive c l every
  | handle c m => .handle c m
  | setTickInterval ticks => .setTickInterval ticks
  | clearCooldown => .clearCooldown
  | tick now => .tick now
  | tickWorld => .tickWorld
  | clear => .clear
  | elsewhere change => .elsewhere fun s => (change s.1, s.2)

namespace Exchange

/-- Whether a client or a location is looked up. -/
def isLookUp : Exchange → Bool
  | client _ _ | loaded _ _ | container _ _ => true
  | _ => false

def tick? : Exchange → Option Tick
  | tick answer => some answer
  | _ => none

end Exchange

def LookUps (record : List Exchange) : Prop := ∀ x ∈ record, x.isLookUp = true

theorem LookUps.append {a b : List Exchange} (first : LookUps a) (second : LookUps b) :
    LookUps (a ++ b) :=
  List.forall_mem_append.mpr ⟨first, second⟩

theorem LookUps.findSome?_tick {record : List Exchange} (lookUps : LookUps record) :
    record.findSome? Exchange.tick? = none := by
  refine List.findSome?_eq_none_iff.mpr fun x member => ?_
  have looks := lookUps x member
  cases x <;> first | rfl | cases looks

/-- The program, which puts down what it asks, asks for nothing but clients and locations. -/
abbrev Looks {α : Type} (host : Host σ) (program : StateM σ α)
    (noted : StateM (σ × List Exchange) α) : Prop :=
  Notes host program noted fun _ fresh => LookUps fresh

section Looks

variable {host : Host σ} {α β : Type}

theorem looks_pure (a : α) : Looks host (pure a) (pure a) := by
  refine (notes_pure a).imp ?_
  rintro _ _ ⟨-, rfl⟩
  simp [LookUps]

theorem Looks.bind {first : StateM σ α} {firstNoted : StateM (σ × List Exchange) α}
    {next : α → StateM σ β} {nextNoted : α → StateM (σ × List Exchange) β}
    (looks : Looks host first firstNoted) (continues : ∀ a, Looks host (next a) (nextNoted a)) :
    Looks host (first >>= next) (firstNoted >>= nextNoted) :=
  Notes.bind looks fun a => (continues a).imp fun _ _ after _ before => before.append after

theorem looks_ite {p : Prop} [Decidable p] {first second : StateM σ α}
    {firstNoted secondNoted : StateM (σ × List Exchange) α} (yes : Looks host first firstNoted)
    (no : Looks host second secondNoted) :
    Looks host (if p then first else second) (if p then firstNoted else secondNoted) := by
  split
  · exact yes
  · exact no

theorem looks_client (c : ClientId) : Looks host (host.client c) (host.noted.client c) := by
  refine (notes_client c).imp ?_
  rintro _ _ rfl
  simp [LookUps, Exchange.isLookUp]

theorem looks_isLoaded (l : Location) : Looks host (host.isLoaded l) (host.noted.isLoaded l) := by
  refine (notes_isLoaded l).imp ?_
  rintro _ _ rfl
  simp [LookUps, Exchange.isLookUp]

theorem looks_hasContainer (l : Location) :
    Looks host (host.hasContainer l) (host.noted.hasContainer l) := by
  refine (notes_hasContainer l).imp ?_
  rintro _ _ rfl
  simp [LookUps, Exchange.isLookUp]

theorem looks_checkPlace (l : Location) (checks : Checks) :
    Looks host (Limits.checkPlace host.toWorld l checks)
      (Limits.checkPlace host.noted.toWorld l checks) := by
  unfold Limits.checkPlace
  -- Whether the location is loaded is looked up or taken to be so, and then the container.
  refine looks_ite ((looks_isLoaded l).bind fun loaded => ?_)
    ((looks_pure true).bind fun loaded => ?_)
  all_goals
    refine looks_ite (looks_pure _) (looks_ite ?_ ?_)
    · exact (looks_hasContainer l).bind fun held => looks_pure _
    · exact (looks_pure true).bind fun held => looks_pure _

theorem looks_canInteract (limits : Limits) (c : ClientId) (l : Location) (checks : Checks) :
    Looks host (limits.canInteract host.toWorld c l checks)
      (limits.canInteract host.noted.toWorld c l checks) := by
  refine Looks.bind ?_ fun _ => looks_pure _
  refine (looks_client c).bind fun view => ?_
  cases view with
  | none => exact looks_pure _
  | some view =>
    refine looks_ite (looks_pure _) ?_
    cases (if checks.distance then limits.offset? view.position l.block else none) with
    | some rejection => exact looks_pure _
    | none => exact looks_checkPlace l checks

end Looks

namespace Registrar

/-- What comes of an operation of a client, with what it asks of the surroundings.  Only a request
that is accepted asks for the tick. -/
inductive Replied (r : Registrar) (c : ClientId) (l : Location) (kind : RequestKind) :
    Answer × Registrar → List Exchange → Prop where
  | filed {change : Tick → Option Registration → Registration} {lookUps : List Exchange}
      (now : Tick) : change? r.maxAge c kind = some change → LookUps lookUps →
      Replied r c l kind (.passed true, { r with table := r.table.update c l (change now) })
        (lookUps ++ [.tick now])
  | dropped {lookUps : List Exchange} (ok : Bool) : (ok = true → kind = .stop) → LookUps lookUps →
      Replied r c l kind (.passed ok, (r.stop c l).2) lookUps

variable {host : Host σ} {r : Registrar} {c : ClientId} {l : Location}

theorem notes_request {kind : RequestKind} (checks : Checks)
    {change : Tick → Option Registration → Registration}
    (same : change? r.maxAge c kind = some change) :
    Notes host (r.request host.toWorld checks c l change)
      (r.request host.noted.toWorld checks c l change)
      fun a fresh => Replied r c l kind (a.map .passed id) fresh := by
  refine Notes.bind (looks_canInteract r.limits c l checks) fun passes => ?_
  cases passes with
  | false =>
    refine (notes_pure _).imp ?_
    rintro _ _ ⟨rfl, rfl⟩ before lookUps
    rw [List.append_nil]
    exact .dropped false nofun lookUps
  | true =>
    refine notes_currentTick.map ?_
    rintro now _ rfl before lookUps
    exact .filed now same lookUps

theorem notes_perform_own (r : Registrar) {op : Operation σ} {kind : RequestKind}
    (own : op.own? = some (c, l)) (asks : op.kind? = some kind) :
    Notes host (r.perform host op) (r.perform host.noted op.noted) (Replied r c l kind) := by
  have told {program : StateM σ (Bool × Registrar)}
      {noted : StateM (σ × List Exchange) (Bool × Registrar)}
      (notes : Notes host program noted fun a fresh => Replied r c l kind (a.map .passed id) fresh) :
      Notes host (program >>= fun a => pure (a.map Answer.passed id))
        (noted >>= fun a => pure (a.map Answer.passed id)) (Replied r c l kind) :=
    notes.map fun _ _ replied => replied
  cases op with
  | stop =>
    cases own
    cases asks
    refine (notes_pure _).imp ?_
    rintro _ _ ⟨rfl, rfl⟩
    exact .dropped _ (fun _ => rfl) (by simp [LookUps])
  | single =>
    cases own
    cases asks
    exact told (notes_request .all rfl)
  | start =>
    cases own
    cases asks
    exact told (notes_request .relaxed rfl)
  | keepalive =>
    cases own
    cases asks
    exact told (notes_request .all rfl)
  | handle c m =>
    cases own
    cases asks
    refine told ?_
    unfold handle
    cases same : m.kind with
    | stop =>
      refine (notes_pure _).imp ?_
      rintro _ _ ⟨rfl, rfl⟩
      exact .dropped false nofun (by simp [LookUps])
    | single => exact notes_request .all rfl
    | start every => exact notes_request .relaxed rfl
    | keepalive every => exact notes_request .all rfl
  | setTickInterval | clearCooldown | tick | tickWorld | clear | elsewhere => cases own

end Registrar

/-! ## Turns -/

/-- One operation of a run, with the server and the surroundings it begins in. -/
structure Turn (σ : Type) where
  registrar : Registrar
  state : σ
  operation : Operation σ

/-- The turns of a run. -/
def Registrar.course (host : Host σ) : List (Operation σ) → Registrar → σ → List (Turn σ)
  | [], _, _ => []
  | op :: rest, r, s =>
    let next := r.perform host op s
    ⟨r, s, op⟩ :: course host rest next.1.2 next.2

namespace Turn

variable (host : Host σ) (t : Turn σ) (c : ClientId) (l : Location)

def answer : Answer := (t.registrar.perform host t.operation t.state).1.1

/-- The server that the operation leaves. -/
def after : Registrar := (t.registrar.perform host t.operation t.state).1.2

/-- What the operation asks of the surroundings, with the answers. -/
def asked : List Exchange :=
  (t.registrar.perform host.noted t.operation.noted (t.state, [])).2.2

/-- The registration before the operation. -/
def held : Option Registration := t.registrar.table.find? c l

/-- The registration after the operation. -/
def left : Option Registration := (t.after host).table.find? c l

/-- The tick of the sweep that the operation makes, and the surroundings the sweep begins in. -/
def sweep? : Option (Tick × σ) :=
  if t.registrar.cooldown = 0 then
    match t.operation with
    | .tick now => some (now, t.state)
    | .tickWorld => some (host.currentTick t.state)
    | _ => none
  else none

/-- The tick that a request or a sweep sees. -/
def seen? : Option Tick :=
  if t.operation.own?.isSome then (t.asked host).findSome? Exchange.tick?
  else (t.sweep? host).map (·.1)

/-- Whether a sweep marks the registration due. -/
def marks : Bool :=
  (t.sweep? host).any fun sweep => decide <|
    c ∈ (Sweep.dueAt host t.registrar.limits sweep.1 t.registrar.table l sweep.2).1

/-- Whether the location and the client pass the checks of a sweep. -/
def admits : Bool :=
  (t.sweep? host).any fun sweep =>
    (Sweep.admittedAt host t.registrar.limits sweep.1 t.registrar.table c l sweep.2).1

/-- A single, a start or a keepalive of the client for the location is accepted. -/
structure Grants : Prop where
  own : t.operation.own? = some (c, l)
  kind : t.operation.kind? ≠ some .stop
  passed : t.answer host = .passed true

/-- A stop of the client for the location, or a request for it that is refused. -/
structure Denies : Prop where
  own : t.operation.own? = some (c, l)
  refused : t.operation.kind? = some .stop ∨ t.answer host = .passed false

/-- The registration is taken away. -/
inductive Withdraws : Prop where
  | denied : t.Denies host c l → Withdraws
  | cleared : t.operation = .clear → Withdraws
  /-- The location or the client fails the check of a sweep. -/
  | unfit : (t.sweep? host).isSome → t.admits host c l = false → Withdraws

/-- What a turn does to the registration of a client at a location. -/
inductive Fate : Option Registration → Prop where
  | same : t.operation.own? ≠ some (c, l) → t.sweep? host = none → Fate (t.held c l)
  | cleared : t.operation = .clear → Fate none
  | denied : t.Denies host c l → Fate none
  | granted {kind : RequestKind} {change : Tick → Option Registration → Registration} (now : Tick) :
      t.Grants host c l → Registrar.change? t.registrar.maxAge c kind = some change →
      t.seen? host = some now → Fate (some (change now (t.held c l)))
  | swept {now : Tick} {s : σ} : t.sweep? host = some (now, s) →
      Fate ((t.held c l).bind (Sweep.spared now (t.admits host c l)))

variable {t}

/-- A turn whose operation puts down what it asks has the same outcome. -/
theorem perform_noted {kind : Answer × Registrar → List Exchange → Prop}
    (notes : Notes host (t.registrar.perform host t.operation)
      (t.registrar.perform host.noted t.operation.noted) kind) :
    kind (t.answer host, t.after host) (t.asked host) := by
  obtain ⟨fresh, run, -, holds⟩ := notes t.state []
  have record : t.asked host = fresh := by
    rw [asked, run]
    rfl
  rw [record]
  exact holds

theorem sweep?_eq_none_of_own (own : t.operation.own?.isSome) : t.sweep? host = none := by
  unfold sweep?
  split
  · cases op : t.operation <;> first | rfl | (rw [op] at own; cases own)
  · rfl

/-- A sweep that a turn makes is the sweep of its table. -/
theorem run_of_sweep {now : Tick} {s : σ} (swept : t.sweep? host = some (now, s)) :
    let run := Sweep.run host t.registrar.limits now t.registrar.table s
    t.answer host = .swept (some run.1.2) ∧ (t.after host).table = run.1.1 := by
  have ticks (now : Tick) (s : σ) (ready : t.registrar.cooldown = 0) :
      let run := Sweep.run host t.registrar.limits now t.registrar.table s
      let ticked := t.registrar.tick host now s
      ticked.1.1 = some run.1.2 ∧ ticked.1.2.table = run.1.1 := by
    rw [Registrar.tick, if_pos ready]
    exact ⟨rfl, rfl⟩
  unfold sweep? at swept
  split at swept
  · next ready =>
    unfold answer after
    cases op : t.operation with
    | tick at' =>
      rw [op] at swept
      cases swept
      obtain ⟨report, table⟩ := ticks now t.state ready
      exact ⟨congrArg Answer.swept report, table⟩
    | tickWorld =>
      rw [op] at swept
      obtain ⟨rfl, rfl⟩ := Prod.ext_iff.mp (Option.some.inj swept)
      obtain ⟨report, table⟩ := ticks _ _ ready
      exact ⟨congrArg Answer.swept report, table⟩
    | _ => rw [op] at swept; cases swept
  · cases swept

theorem left_of_sweep {now : Tick} {s : σ} (tidy : t.registrar.table.Tidy)
    (swept : t.sweep? host = some (now, s)) (c : ClientId) (l : Location) :
    t.left host c l = (t.held c l).bind (Sweep.spared now (t.admits host c l)) := by
  have admitted : (Sweep.admittedAt host t.registrar.limits now t.registrar.table c l s).1 =
      t.admits host c l := by
    rw [admits, swept]
    rfl
  rw [left, (run_of_sweep host swept).2, Sweep.find?_run host _ now tidy, admitted, held]

/-- A turn that makes no sweep and is no client's leaves the table as it is or empties it. -/
theorem table_after_of_quiet (own : t.operation.own? = none) (idle : t.sweep? host = none) :
    t.operation = .clear ∧ (t.after host).table = .empty ∨
      (t.after host).table = t.registrar.table := by
  have ticks (now : Tick) (s : σ) (busy : t.registrar.cooldown ≠ 0) :
      (t.registrar.tick host now s).1.2.table = t.registrar.table := by
    rw [Registrar.tick, if_neg busy]
    rfl
  unfold after
  cases op : t.operation with
  | stop | single | start | keepalive | handle => rw [op] at own; cases own
  | setTickInterval | clearCooldown | elsewhere => exact .inr rfl
  | clear => exact .inl ⟨rfl, rfl⟩
  | tick now =>
    have busy : t.registrar.cooldown ≠ 0 := by
      intro ready
      rw [sweep?, if_pos ready, op] at idle
      cases idle
    exact .inr (ticks now t.state busy)
  | tickWorld =>
    have busy : t.registrar.cooldown ≠ 0 := by
      intro ready
      rw [sweep?, if_pos ready, op] at idle
      cases idle
    exact .inr (ticks _ _ busy)

theorem isSome_kind_of_own {op : Operation σ} (own : op.own?.isSome) :
    ∃ kind, op.kind? = some kind := by
  cases op <;> first | exact ⟨_, rfl⟩ | cases own

/-- A request changes the table alone, and answers that it passed or did not. -/
theorem after_of_own (own : t.operation.own?.isSome) :
    ∃ table ok, t.after host = { t.registrar with table } ∧ t.answer host = .passed ok := by
  obtain ⟨⟨c, l⟩, mine⟩ := Option.isSome_iff_exists.mp own
  obtain ⟨kind, asks⟩ := isSome_kind_of_own own
  have replied := perform_noted host (t.registrar.notes_perform_own mine asks)
  generalize told : (t.answer host, t.after host) = outcome at replied
  generalize t.asked host = fresh at replied
  cases replied with
  | filed =>
    obtain ⟨answer, after⟩ := Prod.mk.inj told
    exact ⟨_, true, after, answer⟩
  | dropped ok =>
    obtain ⟨answer, after⟩ := Prod.mk.inj told
    exact ⟨_, ok, after, answer⟩

/-- A request files a change of its kind at the tick it sees, or drops the registration; it does
nothing to those of other clients and at other locations. -/
theorem left_of_own {c' : ClientId} {l' : Location} {kind : RequestKind}
    (own : t.operation.own? = some (c', l')) (asks : t.operation.kind? = some kind)
    (c : ClientId) (l : Location) :
    (∃ change now, Registrar.change? t.registrar.maxAge c' kind = some change ∧
        t.seen? host = some now ∧ t.answer host = .passed true ∧
        t.left host c l =
          if c = c' ∧ l = l' then some (change now (t.held c' l')) else t.held c l) ∨
      (kind = .stop ∨ t.answer host = .passed false) ∧
        t.left host c l = if c = c' ∧ l = l' then none else t.held c l := by
  have replied := perform_noted host (t.registrar.notes_perform_own own asks)
  generalize told : (t.answer host, t.after host) = outcome at replied
  generalize record : t.asked host = fresh at replied
  cases replied with
  | @filed change lookUps now change' looks =>
    obtain ⟨passed, after⟩ := Prod.mk.inj told
    have seen : t.seen? host = some now := by
      have mine : t.operation.own?.isSome := by rw [own]; rfl
      rw [seen?, if_pos mine, record, List.findSome?_append, looks.findSome?_tick]
      rfl
    refine .inl ⟨change, now, change', seen, passed, ?_⟩
    rw [left, after, Table.find?_update]
    rfl
  | @dropped lookUps ok stops looks =>
    obtain ⟨passed, after⟩ := Prod.mk.inj told
    have refused : kind = .stop ∨ t.answer host = .passed false := by
      cases ok with
      | true => exact .inl (stops rfl)
      | false => exact .inr passed
    refine .inr ⟨refused, ?_⟩
    rw [left, after, Registrar.stop, Table.find?_remove]
    rfl

theorem fate (tidy : t.registrar.table.Tidy) (c : ClientId) (l : Location) :
    t.Fate host c l (t.left host c l) := by
  cases own : t.operation.own? with
  | some mine =>
    obtain ⟨c', l'⟩ := mine
    have some : t.operation.own?.isSome := by rw [own]; rfl
    obtain ⟨kind, asks⟩ := isSome_kind_of_own some
    have idle := sweep?_eq_none_of_own host some
    have same (elsewhere : ¬ (c = c' ∧ l = l')) : t.Fate host c l (t.held c l) := by
      refine .same ?_ idle
      rw [own]
      rintro ⟨rfl, rfl⟩
      exact elsewhere ⟨rfl, rfl⟩
    rcases left_of_own host own asks c l with
      ⟨change, now, change', seen, passed, left⟩ | ⟨refused, left⟩
    · rw [left]
      split
      · next here =>
        obtain ⟨rfl, rfl⟩ := here
        have kind' : t.operation.kind? ≠ .some .stop := by
          rw [asks]
          rintro ⟨rfl⟩
          cases change'
        exact .granted now ⟨own, kind', passed⟩ change' seen
      · next elsewhere => exact same elsewhere
    · rw [left]
      split
      · next here =>
        obtain ⟨rfl, rfl⟩ := here
        exact .denied ⟨own, refused.imp (fun stops => asks.trans (congrArg _ stops)) id⟩
      · next elsewhere => exact same elsewhere
  | none =>
    cases swept : t.sweep? host with
    | some sweep =>
      obtain ⟨now, s⟩ := sweep
      rw [left_of_sweep host tidy swept]
      exact .swept swept
    | none =>
      rcases table_after_of_quiet host own swept with ⟨clear, emptied⟩ | same
      · rw [left, emptied]
        exact .cleared clear
      · rw [left, same]
        exact .same (by rw [own]; exact (Option.some_ne_none _).symm) swept

/-- A sweep marks a registration due if it passes its checks and its update mark is behind. -/
theorem marks_iff {now : Tick} {s : σ} (tidy : t.registrar.table.Tidy)
    (swept : t.sweep? host = some (now, s)) (c : ClientId) (l : Location) :
    t.marks host c l = true ↔ t.admits host c l = true ∧
      ∃ x, t.held c l = some x ∧ x.isDue now = true := by
  simp only [marks, admits, swept, Option.any_some, decide_eq_true_eq]
  exact Sweep.mem_dueAt host t.registrar.limits now tidy c l s

theorem exists_sweep_of_marks {c : ClientId} {l : Location} (marked : t.marks host c l = true) :
    ∃ sweep, t.sweep? host = some sweep := by
  unfold marks at marked
  cases swept : t.sweep? host with
  | some sweep => exact ⟨sweep, rfl⟩
  | none => simp [swept] at marked

/-- What a sweep leaves without marking it due is as it was. -/
theorem spared_eq_some {now : Tick} {s : σ} {c : ClientId} {l : Location} {x y : Registration}
    (tidy : t.registrar.table.Tidy) (swept : t.sweep? host = some (now, s))
    (held : t.held c l = some x) (left : Sweep.spared now (t.admits host c l) x = some y)
    (unmarked : t.marks host c l = false) : y = x := by
  unfold Sweep.spared at left
  split at left
  · next stays =>
    cases left
    rw [Bool.and_eq_true] at stays
    unfold Registration.poll
    split
    · next due =>
      have marked := (marks_iff host tidy swept c l).mpr ⟨stays.1, x, held, due⟩
      rw [unmarked] at marked
      cases marked
    · rfl
  · cases left

theorem tidy_after (tidy : t.registrar.table.Tidy) : (t.after host).table.Tidy :=
  (Registrar.yields_perform_settled tidy host t.operation t.state).1

end Turn

/-! ## Runs -/

namespace Registrar

variable (host : Host σ)

theorem course_cons (op : Operation σ) (rest : List (Operation σ)) (r : Registrar) (s : σ) :
    let first : Turn σ := ⟨r, s, op⟩
    r.course host (op :: rest) s =
      first :: (first.after host).course host rest (r.perform host op s).2 := rfl

/-- The turns of a run answer what the run answers. -/
theorem answers_course (operations : List (Operation σ)) (r : Registrar) (s : σ) :
    (r.performAll host operations s).1.1 =
      (course host operations r s).map fun t => t.answer host := by
  induction operations generalizing r s with
  | nil => rfl
  | cons op rest ih => exact congrArg (_ :: ·) (ih ..)

variable {host}

/-- What every turn keeps holds of the server that a turn of a run finds, and of the turns before
it. -/
theorem course_invariant {motive : List (Turn σ) → Registrar → Prop}
    (step : ∀ past t, motive past t.registrar → motive (past ++ [t]) (t.after host))
    {operations : List (Operation σ)} {r : Registrar} {s : σ} {past later : List (Turn σ)}
    {turn : Turn σ} (start : motive [] r)
    (split : course host operations r s = past ++ turn :: later) : motive past turn.registrar := by
  -- The turns that the run has already taken are generalized.
  have onward (before : List (Turn σ)) (holds : motive before r) :
      motive (before ++ past) turn.registrar := by
    clear start
    induction operations generalizing r s past before with
    | nil => cases past <;> cases split
    | cons op rest ih =>
      rw [course] at split
      cases past with
      | nil =>
        cases split
        rwa [List.append_nil]
      | cons first past =>
        rw [List.cons_append] at split
        injection split with same split
        subst same
        have next := ih split (before ++ [⟨r, s, op⟩]) (step before ⟨r, s, op⟩ holds)
        rwa [List.append_assoc] at next
  exact onward [] start

/-- The next turn begins with the server that the last one left. -/
theorem course_next {operations : List (Operation σ)} {r : Registrar} {s : σ}
    {past later : List (Turn σ)} {turn next : Turn σ}
    (split : course host operations r s = past ++ turn :: next :: later) :
    next.registrar = turn.after host := by
  have whole : course host operations r s = (past ++ [turn]) ++ next :: later := by
    rw [split, List.append_assoc]
    rfl
  let found (past : List (Turn σ)) (r : Registrar) :=
    ∀ last, past.getLast? = some last → r = last.after host
  have step (past : List (Turn σ)) (t : Turn σ) (_ : found past t.registrar) :
      found (past ++ [t]) (t.after host) := by
    intro last same
    rw [List.getLast?_concat] at same
    cases same
    rfl
  exact course_invariant (motive := found) step nofun whole turn List.getLast?_concat

end Registrar

end ObservationFeed.Server
