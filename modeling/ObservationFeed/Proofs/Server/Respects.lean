import ObservationFeed.Proofs.Server.Finding
import ObservationFeed.Proofs.Server.FlatRegistrar

/-!
# What a server cannot tell apart

A relation between states of the surroundings says which differences do not
matter.  A program respects the relation if from related states it answers the
same and leaves related states.  A server learns of its surroundings only what
its host answers, so it respects every relation that its host respects.

With a relation that holds only of equal states, this says that the server keeps
what the relation says of the state.
-/

namespace ObservationFeed.Server

variable {σ α β : Type} {R : σ → σ → Prop}

/-- From related states the program answers the same and leaves related states. -/
def Respects (R : σ → σ → Prop) (program : StateM σ α) : Prop :=
  ∀ s t, R s t → (program s).1 = (program t).1 ∧ R (program s).2 (program t).2

theorem respects_pure (a : α) : Respects R (pure a) := fun _ _ related => ⟨rfl, related⟩

theorem Respects.bind {first : StateM σ α} {next : α → StateM σ β} (respects : Respects R first)
    (continues : ∀ a, Respects R (next a)) : Respects R (first >>= next) := by
  intro s t related
  obtain ⟨same, left⟩ := respects s t related
  rw [run_bind, run_bind, same]
  exact continues _ _ _ left

theorem respects_ite {p : Prop} [Decidable p] {first second : StateM σ α}
    (yes : Respects R first) (no : Respects R second) :
    Respects R (if p then first else second) := by
  split
  · exact yes
  · exact no

/-- Every question to the host respects the relation. -/
structure Host.Respects (R : σ → σ → Prop) (host : Host σ) : Prop where
  currentTick : Server.Respects R host.currentTick
  client : ∀ c, Server.Respects R (host.client c)
  isLoaded : ∀ l, Server.Respects R (host.isLoaded l)
  hasContainer : ∀ l, Server.Respects R (host.hasContainer l)
  observe : ∀ l force, Server.Respects R (host.observe l force)
  send : ∀ clients response, Server.Respects R (host.send clients response)

namespace Host.Respects

variable {host : Host σ} (respects : host.Respects R)

include respects

/-! ## Checks -/

theorem isInteractable (l : Location) :
    Server.Respects R (Limits.isInteractable host.toWorld l) :=
  (respects.isLoaded l).bind fun _ => respects_ite (respects.hasContainer l) (respects_pure _)

theorem checkPlace (l : Location) (checks : Checks) :
    Server.Respects R (Limits.checkPlace host.toWorld l checks) := by
  unfold Limits.checkPlace
  refine respects_ite ((respects.isLoaded l).bind fun _ => ?_)
    ((respects_pure true).bind fun _ => ?_)
  all_goals
    refine respects_ite (respects_pure _) (respects_ite ?_ ?_)
    · exact (respects.hasContainer l).bind fun _ => respects_pure _
    · exact (respects_pure true).bind fun _ => respects_pure _

theorem canInteract (limits : Limits) (c : ClientId) (l : Location) (checks : Checks) :
    Server.Respects R (limits.canInteract host.toWorld c l checks) := by
  refine Server.Respects.bind ((respects.client c).bind fun view => ?_) fun _ => respects_pure _
  cases view with
  | none => exact respects_pure _
  | some view =>
    refine respects_ite (respects_pure _) ?_
    cases (if checks.distance then limits.offset? view.position l.block else none) with
    | some rejection => exact respects_pure _
    | none => exact respects.checkPlace l checks

/-! ## Sweeps -/

variable (limits : Limits) (now : Tick)

theorem checkClients (l : Location) (clients : Clients) :
    Server.Respects R (Sweep.checkClients host limits now l clients) := by
  induction clients with
  | nil => exact respects_pure _
  | cons entry rest ih =>
    refine (respects.canInteract limits entry.1 l .all).bind fun _ => respects_ite ?_ ?_
    · exact ih.bind fun _ => respects_ite (respects_pure _) (respects_pure _)
    · exact ih.bind fun _ => respects_pure _

theorem broadcast (l : Location) (due : List ClientId) :
    Server.Respects R (Sweep.broadcast host now l due) := by
  refine (respects.hasContainer l).bind fun _ => respects_ite ?_ (respects_pure _)
  refine (respects.observe l true).bind fun observation => ?_
  cases observation with
  | error cause => exact respects_pure _
  | ok snapshot =>
    refine (respects.send due _).bind fun answer => ?_
    cases answer <;> exact respects_pure _

theorem sweepLocation (l : Location) (clients : Clients) :
    Server.Respects R (Sweep.sweepLocation host limits now l clients) := by
  refine respects_ite (respects_pure _) ?_
  refine (respects.isInteractable l).bind fun _ => respects_ite ?_ (respects_pure _)
  refine (respects.checkClients limits now l clients).bind fun checked => respects_ite ?_ ?_
  · exact (respects_pure _).bind fun _ => respects_pure _
  · exact (respects.broadcast now l checked.due).bind fun _ => respects_pure _

theorem sweepBlocks (partition : String) (blocks : Blocks) :
    Server.Respects R (Sweep.sweepBlocks host limits now partition blocks) := by
  induction blocks with
  | nil => exact respects_pure _
  | cons entry rest ih =>
    exact (respects.sweepLocation limits now _ _).bind fun _ => ih.bind fun _ => respects_pure _

theorem sweepPartitions (partitions : List (String × Blocks)) :
    Server.Respects R (Sweep.sweepPartitions host limits now partitions) := by
  induction partitions with
  | nil => exact respects_pure _
  | cons entry rest ih =>
    exact (respects.sweepBlocks limits now _ _).bind fun _ => ih.bind fun _ => respects_pure _

theorem sweep (t : Table) : Server.Respects R (Sweep.run host limits now t) :=
  (respects.sweepPartitions limits now t.partitions).bind fun _ => respects_pure _

omit limits

/-! ## Operations -/

variable (r : Registrar)

theorem tick : Server.Respects R (r.tick host now) := by
  refine respects_ite ?_ (respects_pure _)
  exact (respects.sweep r.limits now r.table).bind fun _ => respects_pure _

omit now in
theorem tickWorld : Server.Respects R (r.tickWorld host) :=
  respects.currentTick.bind fun now => respects.tick now r

omit now

theorem request (checks : Checks) (c : ClientId) (l : Location)
    (change : Tick → Option Registration → Registration) :
    Server.Respects R (r.request host.toWorld checks c l change) := by
  refine (respects.canInteract r.limits c l checks).bind fun _ => respects_ite ?_ (respects_pure _)
  exact respects.currentTick.bind fun _ => respects_pure _

theorem handle (c : ClientId) (m : Request) : Server.Respects R (r.handle host.toWorld c m) := by
  unfold Registrar.handle
  cases m.kind with
  | stop => exact respects_pure _
  | single | start | keepalive => exact respects.request r _ _ _ _

/-- An operation respects a relation that the host respects, and that the world keeps if it changes
by itself. -/
theorem perform {op : Operation σ}
    (steady : ∀ change, op = .elsewhere change → ∀ s t, R s t → R (change s) (change t)) :
    Server.Respects R (r.perform host op) := by
  cases op with
  | stop | setTickInterval | clearCooldown | clear => exact respects_pure _
  | single | start | keepalive => exact (respects.request r _ _ _ _).bind fun _ => respects_pure _
  | handle c m => exact (respects.handle r c m).bind fun _ => respects_pure _
  | tick now => exact (respects.tick now r).bind fun _ => respects_pure _
  | tickWorld => exact (respects.tickWorld r).bind fun _ => respects_pure _
  | elsewhere change => exact fun s t related => ⟨rfl, steady change rfl s t related⟩

end Host.Respects

end ObservationFeed.Server
