import ObservationFeed.Proofs.Server.FlatSweep

/-!
# Registrars as one map

A registrar goes through any operations, in any surroundings, as a flat
registrar does: it gives the same answers, asks the same of its surroundings
and holds the same registrations.  One operation is a commuting square, since
the flat registrar is a function of the registrar; runs follow by induction,
with a tidy table as the invariant.
-/

namespace ObservationFeed.Server

open KeyedList

variable {σ : Type}

namespace Registrar

/-! ## One operation -/

theorem request_flat (r : Registrar) (world : World σ) (checks : Checks) (c : ClientId)
    (l : Location) (change : Tick → Option Registration → Registration) :
    r.flat.request world checks c l change =
      (fun a => (a.1, a.2.flat)) <$> r.request world checks c l change := by
  simp only [FlatRegistrar.request, request, map_bind]
  refine bind_congr fun passes => ?_
  cases passes with
  | false =>
    simp only [Bool.false_eq_true, if_false, map_pure]
    simp only [flat, stop, FlatRegistrar.stop, Table.find?_remove_eq_set]
  | true =>
    simp only [if_true, map_bind, map_pure]
    simp only [flat, Table.find?_update_eq_set]

theorem handle_flat (r : Registrar) (world : World σ) (c : ClientId) (m : Request) :
    r.flat.handle world c m = (fun a => (a.1, a.2.flat)) <$> r.handle world c m := by
  unfold FlatRegistrar.handle handle
  cases m.kind with
  | stop => simp only [flat, stop, FlatRegistrar.stop, map_pure, Table.find?_remove_eq_set]
  | single | start every | keepalive every => exact r.request_flat ..

theorem tick_flat {r : Registrar} (tidy : r.table.Tidy) (host : Host σ) (now : Tick) :
    r.flat.tick host r.table.order now =
      (fun a => (a.1, a.2.flat)) <$> r.tick host now := by
  unfold FlatRegistrar.tick tick
  by_cases ready : r.cooldown = 0
  · have swept : FlatRegistrar.sweep host r.flat.limits now r.table.order r.flat.registrations =
        _ := sweep_order host r.limits now tidy
    rw [if_pos ready, if_pos (show r.flat.cooldown = 0 from ready), swept]
    simp only [Sweep.run, bind_map_left, map_bind, map_pure, bind_assoc, pure_bind]
    rfl
  · rw [if_neg ready, if_neg (show ¬ r.flat.cooldown = 0 from ready)]
    rfl

/-- Whatever is done with a server is done with its map. -/
theorem perform_flat {r : Registrar} (tidy : r.table.Tidy) (host : Host σ) (op : Operation σ) :
    r.flat.perform host r.table.order op = (fun a => (a.1, a.2.flat)) <$> r.perform host op := by
  cases op with
  | stop c l =>
    simp only [perform, FlatRegistrar.perform, flat, stop, FlatRegistrar.stop, map_pure, Prod.map,
      id, Table.find?_remove_eq_set]
  | single c l | start c l every | keepalive c l every =>
    simp only [perform, FlatRegistrar.perform, map_bind, map_pure]
    refine (congrArg (· >>= _) (r.request_flat ..)).trans ?_
    simp only [bind_map_left]
    rfl
  | handle c m =>
    simp only [perform, FlatRegistrar.perform, map_bind, map_pure, handle_flat, bind_map_left]
    rfl
  | setTickInterval ticks => rfl
  | clearCooldown => rfl
  | tick now =>
    simp only [perform, FlatRegistrar.perform, map_bind, map_pure, tick_flat tidy, bind_map_left]
    rfl
  | tickWorld =>
    simp only [perform, FlatRegistrar.perform, tickWorld, map_bind, map_pure, tick_flat tidy,
      bind_map_left, bind_assoc]
    rfl
  | clear =>
    simp only [perform, FlatRegistrar.perform, clear, map_pure, Table.total_order]
    rfl
  | elsewhere change => rfl

/-! ## What an operation leaves -/

/-- What comes of a request at a location: a registration of the client's own is filed, or the
request is refused. -/
inductive Outcome (r : Registrar) (c : ClientId) (l : Location) : Bool → Registrar → Prop where
  | filed (change : Option Registration → Registration) :
      (∀ old, (∀ x, old = some x → x.client = c) → (change old).client = c) →
      Outcome r c l true { r with table := r.table.update c l change }
  | refused : Outcome r c l false (r.stop c l).2

variable {r r' : Registrar} {c : ClientId} {l : Location} {ok : Bool}

theorem yields_request_outcome (world : World σ) (checks : Checks)
    {change : Tick → Option Registration → Registration}
    (own : ∀ now old, (∀ x, old = some x → x.client = c) → (change now old).client = c) :
    Yields (r.request world checks c l change) fun a => Outcome r c l a.1 a.2 := by
  refine yields_bind fun passes => ?_
  cases passes with
  | false => exact yields_pure .refused
  | true => exact yields_bind fun now => yields_pure (.filed (change now) (own now))

theorem client_singleChange (c : ClientId) (now : Tick) (old : Option Registration)
    (own : ∀ x, old = some x → x.client = c) : (singleChange c now old).client = c := by
  cases old with
  | none => rfl
  | some x => exact own x rfl

theorem client_subscribeChange (maxAge : Nat) (c : ClientId) (every : Interval) (now : Tick)
    (old : Option Registration) (own : ∀ x, old = some x → x.client = c) :
    (subscribeChange maxAge c every now old).client = c := by
  cases old with
  | none => rfl
  | some x => exact own x rfl

theorem yields_handle_outcome (world : World σ) (m : Request) :
    Yields (r.handle world c m) fun a => Outcome r c m.location a.1 a.2 := by
  unfold handle
  cases m.kind with
  | stop => exact yields_pure .refused
  | single => exact yields_request_outcome world .all (client_singleChange c)
  | start every =>
    exact yields_request_outcome world .relaxed (client_subscribeChange r.maxAge c every)
  | keepalive every =>
    exact yields_request_outcome world .all (client_subscribeChange r.maxAge c every)

theorem Outcome.tidy (outcome : Outcome r c l ok r') (tidy : r.table.Tidy) : r'.table.Tidy := by
  cases outcome with
  | filed change own => exact tidy.update l own
  | refused => exact tidy.remove c l

theorem Outcome.elsewhere (outcome : Outcome r c l ok r') {other : ClientId} {there : Location}
    (apart : (other, there) ≠ (c, l)) : r'.table.find? other there = r.table.find? other there := by
  have different : ¬ (other = c ∧ there = l) := by
    rintro ⟨rfl, rfl⟩
    exact apart rfl
  cases outcome with
  | filed change own => rw [Table.find?_update, if_neg different]
  | refused => rw [stop, Table.find?_remove, if_neg different]

/-- A request is accepted exactly if its client has a registration afterwards. -/
theorem Outcome.accepted_iff (outcome : Outcome r c l ok r') :
    ok = true ↔ (r'.table.find? c l).isSome := by
  cases outcome with
  | filed change own => simp [Table.find?_update]
  | refused => simp [stop, Table.find?_remove]

theorem Outcome.stopped (outcome : Outcome r c l false r') : r' = (r.stop c l).2 := by
  cases outcome with
  | refused => rfl

/-- An operation of a client has an outcome at its location, and files nothing unless it passes.
What a stop tells is not whether it passes, but it files nothing either. -/
theorem yields_perform_own (r : Registrar) (host : Host σ) {op : Operation σ}
    (own : op.own? = some (c, l)) :
    Yields (r.perform host op) fun a => ∃ ok filed, a.1 = .passed ok ∧
      Outcome r c l filed a.2 ∧ (ok = false → filed = false) := by
  have told {program : StateM σ (Bool × Registrar)}
      (yields : Yields program fun a => Outcome r c l a.1 a.2) :
      Yields (program >>= fun a => pure (a.map Answer.passed id)) fun a => ∃ ok filed,
        a.1 = .passed ok ∧ Outcome r c l filed a.2 ∧ (ok = false → filed = false) :=
    yields.bind fun a outcome => yields_pure ⟨a.1, a.1, rfl, outcome, id⟩
  cases op with
  | stop =>
    cases own
    exact yields_pure ⟨_, false, rfl, .refused, fun _ => rfl⟩
  | single =>
    cases own
    exact told (yields_request_outcome host.toWorld .all (client_singleChange c))
  | start _ _ every =>
    cases own
    exact told (yields_request_outcome host.toWorld .relaxed
      (client_subscribeChange r.maxAge c every))
  | keepalive _ _ every =>
    cases own
    exact told (yields_request_outcome host.toWorld .all
      (client_subscribeChange r.maxAge c every))
  | handle =>
    cases own
    exact told (yields_handle_outcome host.toWorld _)
  | setTickInterval | clearCooldown | tick | tickWorld | clear | elsewhere => cases own

end Registrar

namespace Sweep

variable (host : Host σ) (limits : Limits) (now : Tick)

theorem client_poll (r : Registration) : (r.poll now).2.client = r.client := by
  unfold Registration.poll Registration.fired
  split
  · split <;> rfl
  · rfl

theorem yields_sweepBlocks_filled (partition : String) (blocks : Blocks) :
    Yields (sweepBlocks host limits now partition blocks) fun swept =>
      ∀ b ∈ swept.1, b.2 ≠ [] := by
  induction blocks with
  | nil => exact yields_pure (by simp)
  | cons entry rest ih =>
    refine yields_bind fun here => ih.bind fun others filled => yields_pure ?_
    simp only
    split
    · exact filled
    · next left => exact List.forall_mem_cons.mpr ⟨by simpa using left, filled⟩

theorem yields_sweepPartitions_filled (partitions : List (String × Blocks)) :
    Yields (sweepPartitions host limits now partitions) fun swept =>
      ∀ p ∈ swept.1, p.2 ≠ [] ∧ ∀ b ∈ p.2, b.2 ≠ [] := by
  induction partitions with
  | nil => exact yields_pure (by simp)
  | cons entry rest ih =>
    refine (yields_sweepBlocks_filled host limits now entry.1 entry.2).bind fun here blocks =>
      ih.bind fun others filled => yields_pure ?_
    simp only
    split
    · exact filled
    · next left => exact List.forall_mem_cons.mpr ⟨⟨by simpa using left, blocks⟩, filled⟩

/-- A sweep tidies up everything, so that every partition left has a registration. -/
theorem yields_run_tidy {t : Table} (tidy : t.Tidy) :
    Yields (run host limits now t) fun swept =>
      swept.1.Tidy ∧ ∀ p ∈ swept.1.partitions, p.2 ≠ [] := by
  refine Yields.bind (fun s => ?_) fun swept facts => yields_pure facts
  have thins : Thins (Thins (Thins fun old new : Registration => new.client = old.client)) _ _ :=
    yields_sweepPartitions host limits (client_poll now) t.partitions s
  have filled := yields_sweepPartitions_filled host limits now t.partitions s
  refine ⟨⟨tidy.thins thins, fun p member => (filled p member).2, fun c l r found => ?_⟩,
    fun p member => (filled p member).1⟩
  obtain ⟨old, there, same⟩ := Table.find?_thins tidy.toProper thins found
  rw [same]
  exact tidy.owned c l old there

end Sweep

namespace Registrar

/-- After an operation the table is tidy, and after a sweep no partition is without blocks. -/
def Settled (a : Answer × Registrar) : Prop :=
  a.2.table.Tidy ∧
    ∀ report, a.1 = .swept (some report) → ∀ p ∈ a.2.table.partitions, p.2 ≠ []

theorem yields_tick_tidy {r : Registrar} (tidy : r.table.Tidy) (host : Host σ) (now : Tick) :
    Yields (r.tick host now) fun a => Settled (a.map .swept id) := by
  unfold tick
  split
  · refine (Sweep.yields_run_tidy host r.limits now tidy).bind fun swept facts => yields_pure ?_
    exact ⟨facts.1, fun _ _ => facts.2⟩
  · exact yields_pure ⟨tidy, nofun⟩

theorem yields_perform_settled {r : Registrar} (tidy : r.table.Tidy) (host : Host σ)
    (op : Operation σ) : Yields (r.perform host op) Settled := by
  cases own : op.own? with
  | some e =>
    intro s
    obtain ⟨ok, filed, answer, outcome, _⟩ := yields_perform_own r host own s
    refine ⟨outcome.tidy tidy, fun report swept => ?_⟩
    rw [answer] at swept
    cases swept
  | none =>
    cases op with
    | stop | single | start | keepalive | handle => cases own
    | setTickInterval | clearCooldown => exact yields_pure ⟨tidy, nofun⟩
    | tick now => exact (yields_tick_tidy tidy host now).bind fun a settled => yields_pure settled
    | tickWorld =>
      have ticks : Yields (r.tickWorld host) fun a => Settled (a.map .swept id) :=
        yields_bind fun now => yields_tick_tidy tidy host now
      exact ticks.bind fun a settled => yields_pure settled
    | clear => exact yields_pure ⟨Table.tidy_empty, nofun⟩
    | elsewhere change => exact fun s => ⟨tidy, nofun⟩

/-! ## Runs -/

/-- Goes through some operations, and returns the answers to them. -/
def performAll (host : Host σ) : List (Operation σ) → Registrar → StateM σ (List Answer × Registrar)
  | [], r => return ([], r)
  | op :: rest, r => do
    let (answer, r) ← r.perform host op
    let (answers, r) ← performAll host rest r
    return (answer :: answers, r)

end Registrar

/-- The flat registrar goes through some operations, with these answers.  Each operation is told
some order of the registrations there are. -/
inductive FlatRegistrar.Performs (host : Host σ) : FlatRegistrar → σ → List (Operation σ) →
    List Answer → FlatRegistrar → σ → Prop where
  | nil (f : FlatRegistrar) (s : σ) : Performs host f s [] [] f s
  | cons {f g h : FlatRegistrar} {s s' s'' : σ} {op : Operation σ} {rest : List (Operation σ)}
      {answer : Answer} {answers : List Answer} (order : Order) :
      order.Lists f.registrations → f.perform host order op s = ((answer, g), s') →
      Performs host g s' rest answers h s'' →
      Performs host f s (op :: rest) (answer :: answers) h s''

namespace Registrar

theorem performAll_flat (host : Host σ) (operations : List (Operation σ)) {r : Registrar}
    (tidy : r.table.Tidy) (s : σ) :
    let run := r.performAll host operations s
    FlatRegistrar.Performs host r.flat s operations run.1.1 run.1.2.flat run.2 := by
  induction operations generalizing r s with
  | nil => exact .nil r.flat s
  | cons op rest ih =>
    have step := congrFun (perform_flat tidy host op) s
    exact .cons r.table.order tidy.lists_order step (ih (yields_perform_settled tidy host op s).1 _)

theorem performAll_tidy (host : Host σ) (operations : List (Operation σ)) {r : Registrar}
    (tidy : r.table.Tidy) (s : σ) :
    let run := r.performAll host operations s
    run.1.2.table.Tidy ∧ ∀ report, run.1.1.getLast? = some (.swept (some report)) →
      ∀ p ∈ run.1.2.table.partitions, p.2 ≠ [] := by
  induction operations generalizing r s with
  | nil => exact ⟨tidy, nofun⟩
  | cons op rest ih =>
    have settled := yields_perform_settled tidy host op s
    have later := ih settled.1 (r.perform host op s).2
    refine ⟨later.1, fun report last => ?_⟩
    cases rest with
    | nil => exact settled.2 report (Option.some.inj last)
    | cons next rest => exact later.2 report (List.getLast?_cons_cons.symm.trans last)

/-! ## A server and its map -/

/-- The look-ups and counts of a server are those of one map, and its table is in order. -/
structure Agrees (r : Registrar) (m : Registrations) : Prop where
  registration : ∀ c l, r.table.find? c l = m c l
  registrations : Counts (fun e : ClientId × Location => (m e.1 e.2).isSome)
    r.table.registrationCount
  owned : ∀ c l x, m c l = some x → x.client = c
  filled : ∀ p ∈ r.table.partitions, ∀ b ∈ p.2, b.2 ≠ []
  locations : Counts (fun l => ∃ c, (m c l).isSome) r.table.locationCount
  partitions : ∃ live, Counts (fun p => ∃ c b, (m c ⟨p, b⟩).isSome) live ∧
    live ≤ r.table.partitionCount

theorem agrees_of_tidy {r : Registrar} (tidy : r.table.Tidy) : r.Agrees r.flat.registrations where
  registration _ _ := rfl
  registrations := tidy.counts_registrations
  owned := tidy.owned
  filled := tidy.filled
  locations := tidy.counts_locations
  partitions := ⟨_, tidy.counts_partitions, List.length_filter_le ..⟩

/-- Where no partition is without blocks, all of them are counted. -/
theorem counts_partitions {r : Registrar} (tidy : r.table.Tidy)
    (swept : ∀ p ∈ r.table.partitions, p.2 ≠ []) :
    Counts (fun p => ∃ c b, (r.table.find? c ⟨p, b⟩).isSome) r.table.partitionCount := by
  have all : (r.table.partitions.filter fun p => !p.2.isEmpty) = r.table.partitions :=
    List.filter_eq_self.mpr fun p member => by simpa using swept p member
  have counted := tidy.counts_partitions
  rwa [all] at counted

/-- Whatever is asked of a server and however the world answers, it answers and leaves the world as
a flat registrar does, agrees with the map of that one, and right after a sweep counts exactly the
partitions with a registration.  Every operation of a client changes its own entry only; one that is
refused leaves the table that a stop leaves, and a message is accepted exactly if there is an entry
afterwards. -/
theorem performAll_refines (host : Host σ) (config : ServerConfig) (operations : List (Operation σ))
    (s : σ) :
    let run := (ofConfig config).performAll host operations s
    let r := run.1.2
    ∃ f : FlatRegistrar,
      FlatRegistrar.Performs host (.ofConfig config) s operations run.1.1 f run.2 ∧
      r.Agrees f.registrations ∧
      (∀ report, run.1.1.getLast? = some (.swept (some report)) →
        Counts (fun p => ∃ c b, (f.registrations c ⟨p, b⟩).isSome) r.table.partitionCount) ∧
      (∀ op c l, op.own? = some (c, l) → ∀ s',
        let next := (r.perform host op s').1
        (∀ other there, (other, there) ≠ (c, l) →
          next.2.table.find? other there = r.table.find? other there) ∧
        (next.1 = .passed false → next.2.table = (r.stop c l).2.table)) ∧
      ∀ c m s',
        let next := (r.handle host.toWorld c m s').1
        next.1 = true ↔ (next.2.table.find? c m.location).isSome := by
  intro run r
  have empty : (ofConfig config).table.Tidy := Table.tidy_empty
  obtain ⟨tidy, swept⟩ := performAll_tidy host operations empty s
  refine ⟨r.flat, performAll_flat host operations empty s, agrees_of_tidy tidy,
    fun report last => counts_partitions tidy (swept report last), ?_, ?_⟩
  · intro op c l own s'
    obtain ⟨ok, filed, answer, outcome, refusal⟩ := yields_perform_own r host own s'
    refine ⟨fun other there => outcome.elsewhere, fun refused => ?_⟩
    cases answer.symm.trans refused
    cases refusal rfl
    rw [outcome.stopped]
  · intro c m s'
    exact (yields_handle_outcome host.toWorld m s').accepted_iff

/-- A client that subscribes and stops leaves a partition without registrations, which the next
sweep drops. -/
theorem performAll_refines_of_stopped :
    let host : Host Unit := {
      currentTick := pure (.ofNat 7)
      client := fun _ => pure (some ⟨"overworld", ⟨⟨0⟩, ⟨0⟩, ⟨0⟩⟩⟩)
      isLoaded := fun _ => pure true
      hasContainer := fun _ => pure true
      observe := fun _ _ => pure (.ok .empty)
      send := fun _ _ => pure (.ok ()) }
    let c : ClientId := ⟨1⟩
    let l : Location := ⟨"overworld", ⟨1, 2, 3⟩⟩
    let before := (ofConfig {}).performAll host [.start c l (.clamp 20), .stop c l] ()
    let after :=
      (ofConfig {}).performAll host [.start c l (.clamp 20), .stop c l, .tick (.ofNat 8)] ()
    before.1.1 = [.passed true, .passed true] ∧ before.1.2.table.partitionCount = 1 ∧
      before.1.2.table.registrationCount = 0 ∧ after.1.2.table.partitionCount = 0 ∧
      ∀ c l, after.1.2.table.find? c l = none := by
  intro host c l before after
  have stopped : before.1.1 = [.passed true, .passed true] ∧
      before.1.2.table.partitionCount = 1 ∧ before.1.2.table.registrationCount = 0 := by
    decide +kernel +zetaReduce
  have swept : after.1.1.getLast? = some (.swept (some ⟨.ofNat 8, .zero⟩)) ∧
      after.1.2.table.partitionCount = 0 := by
    decide +kernel +zetaReduce
  obtain ⟨f, -, agrees, counted, -⟩ := performAll_refines host {}
    [.start c l (.clamp 20), .stop c l, .tick (.ofNat 8)] ()
  obtain ⟨partitions, -, live, length⟩ := counted _ swept.1
  have nowhere : partitions = [] := List.eq_nil_of_length_eq_zero (length.trans swept.2)
  refine ⟨stopped.1, stopped.2.1, stopped.2.2, swept.2, fun c l => ?_⟩
  rw [agrees.registration]
  cases found : f.registrations c l with
  | none => rfl
  | some x =>
    -- A registration would be in a partition that is counted.
    have counts := (live l.partition).mpr ⟨c, l.block, by rw [found]; rfl⟩
    rw [nowhere] at counts
    cases counts

end Registrar

end ObservationFeed.Server
