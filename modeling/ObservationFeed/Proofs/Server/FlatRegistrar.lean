import ObservationFeed.Proofs.Server.Census

/-!
# Registrars with one map

A registrar whose registrations are one map from clients and locations, without
levels and without anything to tidy up.  It stands beside `Registrar` as what
that one is to do, operation by operation.

A map has no order in which a sweep could go through it, and surroundings that
change while they are asked can tell one order from another.  So the flat
registrar is told an order that lists its registrations; for the tables of a
`Registrar` this is the order in which they are filed.
-/

namespace ObservationFeed.Server

open KeyedList

/-! ## One map -/

/-- The registrations of a server, by client and location. -/
abbrev Registrations := ClientId → Location → Option Registration

namespace Registrations

/-- The registrations with one entry put in or taken out. -/
def set (m : Registrations) (c : ClientId) (l : Location) (entry : Option Registration) :
    Registrations := fun other there => if other = c ∧ there = l then entry else m other there

/-- The registrations of some clients at a location. -/
def select (m : Registrations) (l : Location) (clients : List ClientId) : Clients :=
  clients.filterMap fun c => (m c l).map fun r => (c, r)

/-- The registrations with those at one location replaced. -/
def replace (m : Registrations) (l : Location) (clients : Clients) : Registrations :=
  fun c there => if there = l then find? c clients else m c there

end Registrations

/-- An order in which to go through registrations. -/
abbrev Order := List (Location × List ClientId)

/-- The order lists each registration once, and no location without registrations. -/
structure Order.Lists (order : Order) (m : Registrations) : Prop where
  locations : Distinct order
  clients : ∀ e ∈ order, e.2.Nodup ∧ e.2 ≠ []
  entries : ∀ c l, (m c l).isSome ↔ ∃ clients, (l, clients) ∈ order ∧ c ∈ clients

/-- A server whose registrations are one map. -/
structure FlatRegistrar where
  limits : Limits
  maxAge : Nat
  tickInterval : Nat
  cooldown : Nat
  registrations : Registrations

/-! ## Operations -/

/-- What can be done with a server, and what can happen to the world around it. -/
inductive Operation (σ : Type) where
  | stop (client : ClientId) (location : Location)
  | single (client : ClientId) (location : Location)
  | start (client : ClientId) (location : Location) (every : Interval)
  | keepalive (client : ClientId) (location : Location) (every : Interval)
  | handle (client : ClientId) (message : Request)
  | setTickInterval (ticks : Nat)
  | clearCooldown
  | tick (now : Tick)
  | tickWorld
  | clear
  /-- The world changes by itself. -/
  | elsewhere (change : σ → σ)

/-- The registration that an operation of a client is about. -/
def Operation.own? {σ : Type} : Operation σ → Option (ClientId × Location)
  | stop c l | single c l | start c l _ | keepalive c l _ => some (c, l)
  | handle c m => some (c, m.location)
  | _ => none

/-- What an operation returns. -/
inductive Answer where
  | done
  /-- Whether a request was accepted, or whether there was something to stop. -/
  | passed (ok : Bool)
  | swept (report : Option SweepReport)
  | cleared (count : Nat)
  deriving DecidableEq

variable {σ : Type}

def Registrar.perform (host : Host σ) (r : Registrar) : Operation σ → StateM σ (Answer × Registrar)
  | .stop c l => return (r.stop c l).map .passed id
  | .single c l => return (← r.single host.toWorld c l).map .passed id
  | .start c l every => return (← r.start host.toWorld c l every).map .passed id
  | .keepalive c l every => return (← r.keepalive host.toWorld c l every).map .passed id
  | .handle c m => return (← r.handle host.toWorld c m).map .passed id
  | .setTickInterval ticks => return (.done, r.setTickInterval ticks)
  | .clearCooldown => return (.done, r.clearCooldown)
  | .tick now => return (← r.tick host now).map .swept id
  | .tickWorld => return (← r.tickWorld host).map .swept id
  | .clear => return r.clear.map .cleared id
  | .elsewhere change => modifyGet fun s => ((.done, r), change s)

namespace FlatRegistrar

/-- A server without registrations whose first tick sweeps. -/
def ofConfig (config : ServerConfig) : FlatRegistrar where
  limits := ⟨config.interactionRange⟩
  maxAge := config.maxAgeTicks.toNat
  tickInterval := max config.tickInterval.toNat 1
  cooldown := 0
  registrations := fun _ _ => none

def stop (f : FlatRegistrar) (c : ClientId) (l : Location) : Bool × FlatRegistrar :=
  ((f.registrations c l).isSome, { f with registrations := f.registrations.set c l none })

def request (f : FlatRegistrar) (world : World σ) (checks : Checks) (c : ClientId) (l : Location)
    (change : Tick → Option Registration → Registration) : StateM σ (Bool × FlatRegistrar) := do
  if ← f.limits.canInteract world c l checks then
    let now ← world.currentTick
    let entry := change now (f.registrations c l)
    return (true, { f with registrations := f.registrations.set c l (some entry) })
  else return (false, (f.stop c l).2)

def single (f : FlatRegistrar) (world : World σ) (c : ClientId) (l : Location) :
    StateM σ (Bool × FlatRegistrar) :=
  f.request world .all c l (Registrar.singleChange c)

def start (f : FlatRegistrar) (world : World σ) (c : ClientId) (l : Location) (every : Interval) :
    StateM σ (Bool × FlatRegistrar) :=
  f.request world .relaxed c l (Registrar.subscribeChange f.maxAge c every)

def keepalive (f : FlatRegistrar) (world : World σ) (c : ClientId) (l : Location)
    (every : Interval) : StateM σ (Bool × FlatRegistrar) :=
  f.request world .all c l (Registrar.subscribeChange f.maxAge c every)

def handle (f : FlatRegistrar) (world : World σ) (c : ClientId) (m : Request) :
    StateM σ (Bool × FlatRegistrar) :=
  match m.kind with
  | .stop => return (false, (f.stop c m.location).2)
  | .single => f.single world c m.location
  | .start every => f.start world c m.location every
  | .keepalive every => f.keepalive world c m.location every

/-- Sweeps the listed locations one after the other, each on its own. -/
def sweep (host : Host σ) (limits : Limits) (now : Tick) :
    Order → Registrations → StateM σ (Registrations × Tally)
  | [], m => return (m, .zero)
  | (l, clients) :: rest, m => do
    let (left, here) ← Sweep.sweepLocation host limits now l (m.select l clients)
    let (m, there) ← sweep host limits now rest (m.replace l left)
    return (m, here.add there)

def tick (f : FlatRegistrar) (host : Host σ) (order : Order) (now : Tick) :
    StateM σ (Option SweepReport × FlatRegistrar) :=
  if f.cooldown = 0 then do
    let (m, tally) ← sweep host f.limits now order f.registrations
    return (some ⟨now, tally⟩, { f with cooldown := f.tickInterval - 1, registrations := m })
  else return (none, { f with cooldown := f.cooldown - 1 })

def perform (host : Host σ) (order : Order) (f : FlatRegistrar) :
    Operation σ → StateM σ (Answer × FlatRegistrar)
  | .stop c l => return (f.stop c l).map .passed id
  | .single c l => return (← f.single host.toWorld c l).map .passed id
  | .start c l every => return (← f.start host.toWorld c l every).map .passed id
  | .keepalive c l every => return (← f.keepalive host.toWorld c l every).map .passed id
  | .handle c m => return (← f.handle host.toWorld c m).map .passed id
  | .setTickInterval ticks =>
    let tickInterval := max ticks 1
    return (.done, { f with tickInterval, cooldown := min f.cooldown tickInterval })
  | .clearCooldown => return (.done, { f with cooldown := 0 })
  | .tick now => return (← f.tick host order now).map .swept id
  | .tickWorld => do return (← f.tick host order (← host.currentTick)).map .swept id
  | .clear =>
    return (.cleared (total List.length order), { f with registrations := fun _ _ => none })
  | .elsewhere change => modifyGet fun s => ((.done, f), change s)

end FlatRegistrar

/-! ## The map of a table -/

/-- A registrar as one with a single map. -/
def Registrar.flat (r : Registrar) : FlatRegistrar :=
  ⟨r.limits, r.maxAge, r.tickInterval, r.cooldown, r.table.find?⟩

/-- The clients at each location, in the order in which they are filed. -/
def Table.order (t : Table) : Order := t.filed.map fun e => (e.1, keys e.2)

theorem Table.find?_update_eq_set (t : Table) (c : ClientId) (l : Location)
    (change : Option Registration → Registration) :
    (t.update c l change).find? =
      Registrations.set t.find? c l (some (change (t.find? c l))) := by
  funext other there
  exact t.find?_update c other l there change

theorem Table.find?_remove_eq_set (t : Table) (c : ClientId) (l : Location) :
    (t.remove c l).find? = Registrations.set t.find? c l none := by
  funext other there
  exact t.find?_remove c other l there

theorem Table.Tidy.lists_order {t : Table} (tidy : t.Tidy) : t.order.Lists t.find? where
  locations := tidy.distinct_filed.map fun _ => keys
  clients := by
    intro e member
    obtain ⟨⟨l, clients⟩, here, rfl⟩ := List.mem_map.mp member
    obtain ⟨blocks, inTable, inBlocks⟩ := mem_filed.mp here
    refine ⟨tidy.clients _ inTable _ inBlocks, fun nothing => ?_⟩
    exact tidy.mem_filed_ne_nil here (List.map_eq_nil_iff.mp nothing)
  entries c l := by
    simp only [order, List.mem_map, Option.isSome_iff_exists, tidy.find?_eq_some]
    constructor
    · rintro ⟨r, clients, here, member⟩
      exact ⟨keys clients, ⟨_, here, rfl⟩, mem_keys_of_mem member⟩
    · rintro ⟨_, ⟨⟨l, clients⟩, here, same⟩, member⟩
      cases same
      obtain ⟨⟨c, r⟩, there, rfl⟩ := List.mem_map.mp member
      exact ⟨r, clients, here, there⟩

theorem Table.total_order (t : Table) : total List.length t.order = t.registrationCount := by
  rw [← t.total_filed, ← length_flatMap_eq_total List.length (fun e => e.2) (fun _ => rfl), order,
    List.flatMap_map]
  exact length_flatMap_eq_total _ _ (fun e => List.length_map ..) t.filed

end ObservationFeed.Server
