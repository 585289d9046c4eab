import ObservationFeed.Proofs.Server.Admission
import ObservationFeed.Proofs.Server.Table

/-!
# What a sweep does

A sweep of a table in a world that stands still is determined registration by
registration: which survive, in which state, which clients are due at a
location, and what is asked of the surroundings for it.  The registrations may
be filed in any order.

The look-ups of a sweep fix the answers of the world, so a world stands still
if what the sweep puts down is still; what the world would have answered to
other questions does not matter.
-/

namespace ObservationFeed.Server

open KeyedList

namespace Sweep

variable {σ : Type} (host : Host σ) (limits : Limits) (now : Tick) (answers : Answers)

/-! ## One registration -/

/-- The registration that a survivor is left with. -/
def serviced (r : Registration) : Registration :=
  if r.nextUpdate.count < now.count then
    { r with nextUpdate := match r.interval with
        | .every interval => now.add interval.ticks
        | .never => .last }
  else r

/-- What is left of a registration of a client at a location. -/
def survivor (l : Location) (c : ClientId) (r : Registration) : Option Registration :=
  if limits.admits answers c l ∧ now.count ≤ r.expiry.count then some (serviced now r) else none

/-- What is left of the registrations at a location. -/
def survivors (l : Location) (clients : Clients) : Clients :=
  clients.filterMap fun e => (survivor limits now answers l e.1 e.2).map fun r => (e.1, r)

/-- The clients that an observation of a location is owed to, in the order of their entries. -/
def dueClients (l : Location) (clients : Clients) : List ClientId :=
  keys (clients.filter fun e => limits.admits answers e.1 l && e.2.nextUpdate.count < now.count)

theorem poll_eq (r : Registration) :
    r.poll now = (decide (r.nextUpdate.count < now.count), serviced now r) := by
  unfold Registration.poll Registration.isDue serviced Registration.fired
  split
  · next due =>
    rw [decide_eq_true_eq] at due
    simp only [due, if_true, decide_true]
    cases r.interval <;> rfl
  · next due =>
    rw [decide_eq_true_eq] at due
    simp only [due, if_false, decide_false]

@[simp] theorem serviced_expiry (r : Registration) : (serviced now r).expiry = r.expiry := by
  unfold serviced
  split <;> rfl

theorem survivors_cons (l : Location) (c : ClientId) (r : Registration) (rest : Clients) :
    survivors limits now answers l ((c, r) :: rest) =
      if limits.admits answers c l ∧ now.count ≤ r.expiry.count then
        (c, serviced now r) :: survivors limits now answers l rest
      else survivors limits now answers l rest := by
  unfold survivors survivor
  split
  · next stays => rw [List.filterMap_cons]; simp [stays]
  · next goes => rw [List.filterMap_cons]; simp [goes]

theorem dueClients_cons (l : Location) (c : ClientId) (r : Registration) (rest : Clients) :
    dueClients limits now answers l ((c, r) :: rest) =
      if limits.admits answers c l ∧ r.nextUpdate.count < now.count then
        c :: dueClients limits now answers l rest
      else dueClients limits now answers l rest := by
  unfold dueClients
  rw [List.filter_cons]
  simp only [Bool.and_eq_true, decide_eq_true_eq]
  split <;> rfl

/-! ## One location -/

theorem notes_checkClients (l : Location) (clients : Clients) :
    Notes host (checkClients host limits now l clients)
      (checkClients host.noted limits now l clients)
      fun checked fresh => Quiet fresh ∧ (Still answers fresh →
        checked.kept = survivors limits now answers l clients ∧
          checked.due = dueClients limits now answers l clients) := by
  induction clients with
  | nil =>
    refine (notes_pure _).imp ?_
    rintro _ _ ⟨rfl, rfl⟩
    exact ⟨by simp [Quiet], fun _ => ⟨rfl, rfl⟩⟩
  | cons entry rest ih =>
    obtain ⟨c, r⟩ := entry
    -- A client is checked before those after it, so its look-ups come first in the record.
    refine (notes_canInteract limits c l).bind fun ok => ?_
    cases ok with
    | false =>
      refine ih.bind fun checked => (notes_pure _).imp ?_
      rintro _ _ ⟨rfl, rfl⟩ after ⟨quiet, left⟩ before ⟨lookUps, passes⟩
      rw [List.append_nil]
      refine ⟨lookUps.append quiet, fun still => ?_⟩
      obtain ⟨first, later⟩ := still_append.mp still
      have refused : false = limits.admits answers c l := passes answers first
      rw [survivors_cons, dueClients_cons, ← refused]
      simpa using left later
    | true =>
      simp only [poll_eq, if_true]
      refine ih.bind fun checked => ?_
      simp only [← apply_ite (pure : Checked → StateM _ Checked)]
      refine (notes_pure _).imp ?_
      rintro _ _ ⟨rfl, rfl⟩ after ⟨quiet, left⟩ before ⟨lookUps, passes⟩
      rw [List.append_nil]
      refine ⟨lookUps.append quiet, fun still => ?_⟩
      obtain ⟨first, later⟩ := still_append.mp still
      have admitted : true = limits.admits answers c l := passes answers first
      obtain ⟨kept, due⟩ := left later
      rw [survivors_cons, dueClients_cons, ← admitted, ← kept, ← due]
      -- It was polled before its expiry is looked at, so its client is due either way.
      by_cases expired : r.expiry.count < now.count
      · have gone : ¬ now.count ≤ r.expiry.count := by omega
        simp [Registration.isExpired, expired, gone]
      · have stays : now.count ≤ r.expiry.count := by omega
        simp [Registration.isExpired, expired, stays]

/-- What a broadcast asks of its surroundings: whether there is a container, what it shows, and to
send that to the clients. -/
inductive Broadcasts (l : Location) (due : List ClientId) : List Exchange → Prop where
  | nothing : Broadcasts l due [.container l false]
  | unobserved (cause : ObserveError) :
      Broadcasts l due [.container l true, .observed l true (.error cause)]
  | sends (snapshot : Snapshot) (answer : Except TransportError Unit) :
      Broadcasts l due [.container l true, .observed l true (.ok snapshot),
        .sent due ⟨l, snapshot, now.signed?⟩ answer]

variable {host} in
theorem notes_broadcast (l : Location) (due : List ClientId) :
    Notes host (broadcast host now l due) (broadcast host.noted now l due)
      fun _ fresh => Broadcasts now l due fresh := by
  refine (notes_hasContainer l).bind fun held => ?_
  cases held with
  | false =>
    refine (notes_pure _).imp ?_
    rintro _ _ ⟨rfl, rfl⟩ _ rfl
    exact .nothing
  | true =>
    refine (notes_observe l true).bind fun observation => ?_
    cases observation with
    | error cause =>
      refine (notes_pure _).imp ?_
      rintro _ _ ⟨rfl, rfl⟩ _ rfl _ rfl
      exact .unobserved cause
    | ok snapshot =>
      refine (notes_send due _).bind fun answer => ?_
      cases answer with
      | error _ | ok _ =>
        refine (notes_pure _).imp ?_
        rintro _ _ ⟨rfl, rfl⟩ _ rfl _ rfl _ rfl
        exact .sends snapshot _

/-- What is asked of the surroundings for a location, whose observation is owed to some clients. -/
inductive Served (l : Location) (due : List ClientId) : List Exchange → Prop where
  | idle : due = [] → Served l due []
  | unobserved (cause : ObserveError) : due ≠ [] →
      Served l due [.observed l true (.error cause)]
  | sent (snapshot : Snapshot) (answer : Except TransportError Unit) : due ≠ [] →
      Served l due [.observed l true (.ok snapshot), .sent due ⟨l, snapshot, now.signed?⟩ answer]

variable {now answers}

theorem Broadcasts.serves {l : Location} {due : List ClientId} {fresh : List Exchange}
    (broadcasts : Broadcasts now l due fresh) : Serves (· = l) fresh := by
  cases broadcasts <;> simp [Serves, Exchange.served?]

/-- If the check of the location has seen a container there, and the world stands still, there is
one to observe. -/
theorem Broadcasts.served {l : Location} {due : List ClientId} {fresh : List Exchange}
    (broadcasts : Broadcasts now l due fresh) (owed : due ≠ []) (still : Still answers fresh)
    (container : answers.hasContainer l = true) : Served now l due (callsAt l fresh) := by
  cases broadcasts with
  | nothing =>
    have absent : false = answers.hasContainer l := (still_cons.mp still).1
    rw [container] at absent
    cases absent
  | unobserved cause => simpa [callsAt, Exchange.served?] using Served.unobserved cause owed
  | sends snapshot answer =>
    simpa [callsAt, Exchange.served?] using Served.sent snapshot answer owed

variable (now answers)

/-- Where no client is admitted nothing is left and nothing is owed. -/
theorem nothing_left {l : Location} (closed : ∀ c, limits.admits answers c l = false)
    (clients : Clients) :
    survivors limits now answers l clients = [] ∧ dueClients limits now answers l clients = [] := by
  constructor
  · simp [survivors, survivor, closed]
  · simp [dueClients, closed, keys]

theorem notes_sweepClients (l : Location) (clients : Clients) :
    Notes host (sweepClients host limits now l clients)
      (sweepClients host.noted limits now l clients)
      fun swept fresh => Serves (· = l) fresh ∧ (Still answers fresh →
        swept.1 = survivors limits now answers l clients ∧
          Served now l (dueClients limits now answers l clients) (callsAt l fresh)) := by
  refine (notes_isInteractable l).bind fun ok => ?_
  cases ok with
  | false =>
    refine (notes_pure _).imp ?_
    rintro _ _ ⟨rfl, rfl⟩ before ⟨quiet, found⟩
    rw [List.append_nil, quiet.callsAt]
    refine ⟨quiet.serves _, fun still => ?_⟩
    -- The whole location is dropped, which is right because no client is admitted there.
    have closed : ∀ c, limits.admits answers c l = false := by
      intro c
      rw [Limits.admits, ← found answers still, Bool.and_false]
    obtain ⟨none, nobody⟩ := nothing_left limits now answers closed clients
    exact ⟨none.symm, .idle nobody⟩
  | true =>
    refine (notes_checkClients host limits now answers l clients).bind fun checked => ?_
    by_cases owed : checked.due = []
    · simp only [owed, List.isEmpty_nil, if_true]
      refine (notes_pure _).bind fun outcome => (notes_pure _).imp ?_
      rintro _ _ ⟨rfl, rfl⟩ _ ⟨-, rfl⟩ looks ⟨quietToo, left⟩ before ⟨quiet, -⟩
      rw [List.append_nil, List.append_nil, callsAt_append, quiet.callsAt, quietToo.callsAt]
      refine ⟨(quiet.append quietToo).serves _, fun still => ?_⟩
      obtain ⟨kept, due⟩ := left (still_append.mp still).2
      exact ⟨kept, .idle due.symm⟩
    · have some : checked.due.isEmpty = false := by simpa using owed
      simp only [some, Bool.false_eq_true, if_false]
      refine (notes_broadcast now l checked.due).bind fun outcome => (notes_pure _).imp ?_
      rintro _ _ ⟨rfl, rfl⟩ asked broadcasts looks ⟨quietToo, left⟩ before ⟨quiet, found⟩
      rw [List.append_nil, callsAt_append, callsAt_append, quiet.callsAt, quietToo.callsAt]
      refine ⟨(quiet.serves _).append ((quietToo.serves _).append broadcasts.serves),
        fun still => ?_⟩
      obtain ⟨first, still⟩ := still_append.mp still
      obtain ⟨second, third⟩ := still_append.mp still
      obtain ⟨kept, due⟩ := left second
      -- The location passed its check, so there is a container to observe.
      have container : answers.hasContainer l = true := by
        have both := found answers first
        rw [eq_comm, Bool.and_eq_true] at both
        exact both.2
      refine ⟨kept, ?_⟩
      rw [← due]
      exact broadcasts.served owed third container

theorem notes_sweepLocation (l : Location) (clients : Clients) :
    Notes host (sweepLocation host limits now l clients)
      (sweepLocation host.noted limits now l clients)
      fun swept fresh => Serves (· = l) fresh ∧ (Still answers fresh →
        swept.1 = survivors limits now answers l clients ∧
          Served now l (dueClients limits now answers l clients) (callsAt l fresh)) := by
  cases clients with
  | nil =>
    refine (notes_pure _).imp ?_
    rintro _ _ ⟨rfl, rfl⟩
    exact ⟨by simp [Serves], fun _ => ⟨rfl, .idle rfl⟩⟩
  | cons entry rest => exact notes_sweepClients host limits now answers l (entry :: rest)

/-! ## All locations -/

/-- The entries of a list after a change to each, without those that are left with nothing. -/
def pruned {κ ν μ : Type} (change : κ → ν → List μ) (entries : List (κ × ν)) :
    List (κ × List μ) :=
  entries.filterMap fun e =>
    (Option.guard (fun left => !left.isEmpty) (change e.1 e.2)).map fun left => (e.1, left)

theorem pruned_cons {κ ν μ : Type} (change : κ → ν → List μ) (key : κ) (value : ν)
    (rest : List (κ × ν)) :
    pruned change ((key, value) :: rest) =
      if (change key value).isEmpty then pruned change rest
      else (key, change key value) :: pruned change rest := by
  unfold pruned
  rw [List.filterMap_cons]
  cases (change key value) <;> rfl

/-- What is found under a key of a pruned list, nothing and an empty list being the same. -/
theorem find?_pruned {κ ν μ : Type} [DecidableEq κ] (change : κ → ν → List μ)
    {entries : List (κ × ν)} (distinct : Distinct entries) (key : κ) :
    (find? key (pruned change entries)).getD [] =
      ((find? key entries).map (change key)).getD [] := by
  rw [pruned, find?_filterMap distinct fun k v =>
    Option.guard (fun left => !left.isEmpty) (change k v)]
  cases find? key entries with
  | none => rfl
  | some value =>
    simp only [Option.bind_some, Option.map_some, Option.getD_some]
    cases change key value <;> rfl

/-- What is left of the blocks of a partition. -/
def leftOfBlocks (partition : String) (blocks : Blocks) : Blocks :=
  pruned (fun block => survivors limits now answers ⟨partition, block⟩) blocks

/-- What is left of a table. -/
def leftOfTable (t : Table) : Table := ⟨pruned (leftOfBlocks limits now answers) t.partitions⟩

theorem notes_sweepBlocks (partition : String) {blocks : Blocks} (distinct : Distinct blocks) :
    Notes host (sweepBlocks host limits now partition blocks)
      (sweepBlocks host.noted limits now partition blocks)
      fun swept fresh => Serves (fun l => l.partition = partition ∧ l.block ∈ keys blocks) fresh ∧
        (Still answers fresh → swept.1 = leftOfBlocks limits now answers partition blocks ∧
          ∀ block, Served now ⟨partition, block⟩ (dueClients limits now answers ⟨partition, block⟩
            ((find? block blocks).getD [])) (callsAt ⟨partition, block⟩ fresh)) := by
  induction blocks with
  | nil =>
    refine (notes_pure _).imp ?_
    rintro _ _ ⟨rfl, rfl⟩
    exact ⟨by simp [Serves], fun _ => ⟨rfl, fun _ => .idle rfl⟩⟩
  | cons entry rest ih =>
    obtain ⟨block, clients⟩ := entry
    obtain ⟨absent, distinct⟩ := distinct_cons.mp distinct
    have first := notes_sweepLocation host limits now answers ⟨partition, block⟩ clients
    refine first.bind fun here => ?_
    refine (ih distinct).bind fun there => (notes_pure _).imp ?_
    rintro _ _ ⟨rfl, rfl⟩ after ⟨servesRest, leftRest⟩ before ⟨servesHere, leftHere⟩
    rw [List.append_nil]
    refine ⟨(servesHere.imp ?_).append (servesRest.imp ?_), fun still => ?_⟩
    · rintro l rfl
      exact ⟨rfl, List.mem_cons_self⟩
    · rintro l ⟨same, member⟩
      exact ⟨same, List.mem_cons_of_mem _ member⟩
    obtain ⟨first, second⟩ := still_append.mp still
    obtain ⟨kept, served⟩ := leftHere first
    obtain ⟨keptRest, servedRest⟩ := leftRest second
    refine ⟨by rw [leftOfBlocks, pruned_cons, kept, keptRest, leftOfBlocks], fun other => ?_⟩
    rw [callsAt_append, find?_cons]
    -- Each sweep serves its own block and no other, so only one part of the record counts.
    by_cases same : block = other
    · subst same
      have quiet : callsAt ⟨partition, block⟩ after = [] := servesRest.callsAt fun h => absent h.2
      rw [quiet, List.append_nil, if_pos rfl]
      exact served
    · have quiet : callsAt ⟨partition, other⟩ before = [] :=
        servesHere.callsAt fun h => same (congrArg Location.block h).symm
      rw [quiet, List.nil_append, if_neg same]
      exact servedRest other

theorem notes_sweepPartitions {partitions : List (String × Blocks)} (distinct : Distinct partitions)
    (blocksDistinct : ∀ p ∈ partitions, Distinct p.2) :
    Notes host (sweepPartitions host limits now partitions)
      (sweepPartitions host.noted limits now partitions)
      fun swept fresh => Serves (fun l => l.partition ∈ keys partitions) fresh ∧
        (Still answers fresh → swept.1 = pruned (leftOfBlocks limits now answers) partitions ∧
          ∀ l, Served now l (dueClients limits now answers l
            ((find? l.block ((find? l.partition partitions).getD [])).getD []))
            (callsAt l fresh)) := by
  induction partitions with
  | nil =>
    refine (notes_pure _).imp ?_
    rintro _ _ ⟨rfl, rfl⟩
    exact ⟨by simp [Serves], fun _ => ⟨rfl, fun _ => .idle rfl⟩⟩
  | cons entry rest ih =>
    obtain ⟨partition, blocks⟩ := entry
    obtain ⟨absent, distinct⟩ := distinct_cons.mp distinct
    have here := blocksDistinct _ List.mem_cons_self
    have later := fun p member => blocksDistinct p (List.mem_cons_of_mem _ member)
    refine (notes_sweepBlocks host limits now answers partition here).bind fun swept => ?_
    refine (ih distinct later).bind fun there => (notes_pure _).imp ?_
    rintro _ _ ⟨rfl, rfl⟩ after ⟨servesRest, leftRest⟩ before ⟨servesHere, leftHere⟩
    rw [List.append_nil]
    refine ⟨(servesHere.imp ?_).append (servesRest.imp ?_), fun still => ?_⟩
    · rintro l ⟨rfl, -⟩
      exact List.mem_cons_self
    · exact fun l member => List.mem_cons_of_mem _ member
    obtain ⟨first, second⟩ := still_append.mp still
    obtain ⟨kept, served⟩ := leftHere first
    obtain ⟨keptRest, servedRest⟩ := leftRest second
    refine ⟨by rw [pruned_cons, kept, keptRest], fun l => ?_⟩
    rw [callsAt_append, find?_cons]
    by_cases same : partition = l.partition
    · have quiet : callsAt l after = [] := servesRest.callsAt (same ▸ absent)
      rw [quiet, List.append_nil, if_pos same]
      subst same
      exact served l.block
    · have quiet : callsAt l before = [] := servesHere.callsAt fun h => same h.1.symm
      rw [quiet, List.nil_append, if_neg same]
      exact servedRest l

/-- What a sweep asks of its surroundings, with the answers. -/
def asked (t : Table) (s : σ) : List Exchange := (run host.noted limits now t (s, [])).2.2

theorem notes_run {t : Table} (proper : t.Proper) :
    Notes host (run host limits now t) (run host.noted limits now t)
      fun swept fresh => Still answers fresh → swept.1 = leftOfTable limits now answers t ∧
        ∀ l, Served now l (dueClients limits now answers l (t.clients l)) (callsAt l fresh) := by
  refine (notes_sweepPartitions host limits now answers proper.partitions proper.blocks).bind
    fun swept => (notes_pure _).imp ?_
  rintro _ _ ⟨rfl, rfl⟩ before ⟨-, left⟩
  rw [List.append_nil]
  intro still
  obtain ⟨kept, served⟩ := left still
  exact ⟨by rw [kept]; rfl, served⟩

/-- A world whose look-ups never change stands still in every sweep. -/
theorem still_asked {answers : Answers} {t : Table} (proper : t.Proper) (s : σ)
    (client : ∀ c state, (host.client c state).1 = answers.client c)
    (isLoaded : ∀ l state, (host.isLoaded l state).1 = answers.isLoaded l)
    (hasContainer : ∀ l state, (host.hasContainer l state).1 = answers.hasContainer l) :
    Still answers (asked host limits now t s) := by
  obtain ⟨fresh, same, given, -⟩ := notes_run host limits now answers proper s []
  have record : asked host limits now t s = fresh := by rw [asked, same, List.nil_append]
  rw [record]
  exact still_of_givenBy client isLoaded hasContainer given

/-! ## The registrations that are left -/

theorem clients_leftOfTable {t : Table} (proper : t.Proper) (l : Location) :
    (leftOfTable limits now answers t).clients l =
      survivors limits now answers l (t.clients l) := by
  -- An empty level is dropped, but nothing and an empty level are looked up alike.
  have blocks : (leftOfTable limits now answers t).blocks l.partition =
      leftOfBlocks limits now answers l.partition (t.blocks l.partition) := by
    rw [Table.blocks, leftOfTable, find?_pruned _ proper.partitions, Table.blocks]
    cases find? l.partition t.partitions <;> rfl
  rw [Table.clients, blocks, leftOfBlocks, find?_pruned _ (proper.blocksAt l.partition),
    Table.clients]
  cases find? l.block (t.blocks l.partition) <;> rfl

theorem find?_leftOfTable {t : Table} (proper : t.Proper) (c : ClientId) (l : Location) :
    (leftOfTable limits now answers t).find? c l =
      (t.find? c l).bind (survivor limits now answers l c) := by
  rw [Table.find?, clients_leftOfTable limits now answers proper]
  exact find?_filterMap (proper.clientsAt l) (survivor limits now answers l) c

theorem mem_dueClients {clients : Clients} (distinct : Distinct clients) (c : ClientId)
    (l : Location) :
    c ∈ dueClients limits now answers l clients ↔ ∃ r, find? c clients = some r ∧
      limits.admits answers c l = true ∧ r.nextUpdate.count < now.count := by
  simp only [dueClients, keys, List.mem_map, List.mem_filter, Bool.and_eq_true, decide_eq_true_eq]
  constructor
  · rintro ⟨⟨c, r⟩, ⟨member, owed⟩, rfl⟩
    exact ⟨r, (find?_eq_some distinct).mpr member, owed⟩
  · rintro ⟨r, found, owed⟩
    exact ⟨(c, r), ⟨mem_of_find? found, owed⟩, rfl⟩

theorem nodup_dueClients {clients : Clients} (distinct : Distinct clients) (l : Location) :
    (dueClients limits now answers l clients).Nodup :=
  (List.filter_sublist.map Prod.fst).nodup distinct

/-- In a world that stands still, a sweep leaves each registration as its own state and the checks
determine, and at each location asks for one forced observation and sends it to the clients that it
is owed to.  A table lists its registrations in any order, so the order makes no difference. -/
theorem run_eq_spec {t : Table} (proper : t.Proper) (s : σ)
    (still : Still answers (asked host limits now t s)) :
    (run host.noted limits now t (s, [])).1 = (run host limits now t s).1 ∧
      (∀ c l, (run host limits now t s).1.1.find? c l =
        (t.find? c l).bind (survivor limits now answers l c)) ∧
      ∀ l, ∃ due : List ClientId, due.Nodup ∧
        (∀ c, c ∈ due ↔ ∃ r, t.find? c l = some r ∧
          limits.admits answers c l = true ∧ r.nextUpdate.count < now.count) ∧
        Served now l due (callsAt l (asked host limits now t s)) := by
  obtain ⟨fresh, same, -, determined⟩ := notes_run host limits now answers proper s []
  -- What is put down by the sweep is all there is in the record at its end.
  have record : asked host limits now t s = fresh := by rw [asked, same, List.nil_append]
  rw [record] at still ⊢
  obtain ⟨left, served⟩ := determined still
  refine ⟨by rw [same], fun c l => ?_, fun l => ?_⟩
  · rw [left, find?_leftOfTable limits now answers proper]
  · exact ⟨_, nodup_dueClients limits now answers (proper.clientsAt l) l,
      fun c => mem_dueClients limits now answers (proper.clientsAt l) c l, served l⟩

/-- A sweep of four registrations at one location.  One is not due and stays as it is, one is due and
is rescheduled, one expires and is still served, and the client of the last has gone. -/
theorem run_eq_spec_of_four :
    let waiting : ClientId := ⟨1⟩
    let due : ClientId := ⟨2⟩
    let expiring : ClientId := ⟨3⟩
    let gone : ClientId := ⟨4⟩
    let l : Location := ⟨"overworld", ⟨1, 2, 3⟩⟩
    let view : ClientView := ⟨"overworld", ⟨⟨0⟩, ⟨0⟩, ⟨0⟩⟩⟩
    let host : Host Unit := {
      currentTick := pure .zero
      client := fun c => pure (if c = gone then none else some view)
      isLoaded := fun _ => pure true
      hasContainer := fun _ => pure true
      observe := fun _ _ => pure (.ok .empty)
      send := fun _ _ => pure (.ok ()) }
    let limits : Limits := ⟨Limits.defaultRange⟩
    let now : Tick := .ofNat 30
    let holds (c : ClientId) (every maxAge : Nat) (t : Table) : Table :=
      t.update c l fun _ => .subscription c (.clamp every) .zero maxAge
    let t := holds gone 20 100 (holds expiring 20 10 (holds due 20 100 (holds waiting 50 100 .empty)))
    let left := (run host limits now t ()).1.1
    t.Proper ∧
      left.find? waiting l = some ⟨waiting, .every (.clamp 50), .ofNat 50, .ofNat 100⟩ ∧
      left.find? due l = some ⟨due, .every (.clamp 20), .ofNat 50, .ofNat 100⟩ ∧
      left.find? expiring l = none ∧ left.find? gone l = none ∧
      ∃ owed snapshot answer, (∀ c, c ∈ owed ↔ c = due ∨ c = expiring) ∧ owed.Nodup ∧
        callsAt l (asked host limits now t ()) =
          [.observed l true (.ok snapshot), .sent owed ⟨l, snapshot, some 30⟩ answer] := by
  intro waiting due expiring gone l view host limits now holds t left
  let answers : Answers := ⟨fun c => if c = gone then none else some view, fun _ => true,
    fun _ => true⟩
  have proper : t.Proper :=
    (((Table.proper_empty.update waiting l _).update due l _).update expiring l _).update gone l _
  have still : Still answers (asked host limits now t ()) :=
    still_asked host limits now proper () (fun _ _ => rfl) (fun _ _ => rfl) fun _ _ => rfl
  obtain ⟨-, stays, calls⟩ := run_eq_spec host limits now answers proper () still
  have holder (c : ClientId) {r : Option Registration}
      (spec : (t.find? c l).bind (survivor limits now answers l c) = r) : left.find? c l = r :=
    (stays c l).trans spec
  refine ⟨proper, holder waiting ?_, holder due ?_, holder expiring ?_, holder gone ?_, ?_⟩
  · decide +kernel +zetaReduce
  · decide +kernel +zetaReduce
  · decide +kernel +zetaReduce
  · decide +kernel +zetaReduce
  obtain ⟨owed, distinct, members, served⟩ := calls l
  have others : ∀ e ∈ t.clients l,
      limits.admits answers e.1 l = true ∧ e.2.nextUpdate.count < now.count →
        e.1 = due ∨ e.1 = expiring := by decide +kernel +zetaReduce
  have served' : (callsAt l (asked host limits now t ())).length = 2 := by
    decide +kernel +zetaReduce
  generalize callsAt l (asked host limits now t ()) = record at served served' ⊢
  cases served with
  | idle => cases served'
  | unobserved => cases served'
  | sent snapshot answer =>
    refine ⟨owed, snapshot, answer, fun c => (members c).trans ⟨?_, ?_⟩, distinct, rfl⟩
    · rintro ⟨r, found, admitted, passed⟩
      exact others (c, r) (mem_of_find? found) ⟨admitted, passed⟩
    · rintro (rfl | rfl)
      · exact ⟨⟨due, .every (.clamp 20), .ofNat 20, .ofNat 100⟩, by decide +kernel +zetaReduce⟩
      · exact ⟨⟨expiring, .every (.clamp 20), .ofNat 20, .ofNat 10⟩, by decide +kernel +zetaReduce⟩

end Sweep

end ObservationFeed.Server
