import ObservationFeed.Proofs.Server.Table
import ObservationFeed.Server.Registrar

/-!
# Registrations that recur

Which registrations a server holds that fire again and again.  Only a start and
a keepalive bring one in; whatever the world answers, and however it changes
while it is asked, a request that is refused drops the registration, and a sweep
drops registrations or puts their marks elsewhere, but makes none recur that did
not.
-/

namespace ObservationFeed

/-- Whether a recurring registration may be held after a message, by whether one was before. -/
def RequestKind.stands (held : Bool) : RequestKind → Bool
  | .start _ | .keepalive _ => true
  | .stop => false
  | .single => held

/-- A mark after a message, where a start or a keepalive sets it to a fresh one. -/
def RequestKind.lasts (fresh : Nat) (mark : Option Nat) : RequestKind → Option Nat
  | .start _ | .keepalive _ => some fresh
  | .stop => none
  | .single => mark

theorem RequestKind.isSome_lasts (kind : RequestKind) (fresh : Nat) (mark : Option Nat) :
    (kind.lasts fresh mark).isSome = kind.stands mark.isSome := by
  cases kind <;> rfl

namespace Server

open KeyedList

/-! ## Programs in an unknown world -/

/-- The program answers something of a kind, whatever the state it runs in. -/
def Yields {σ α : Type} (program : StateM σ α) (kind : α → Prop) : Prop :=
  ∀ state, kind (program state).1

section Yields

variable {σ α β : Type}

theorem yields_pure {kind : α → Prop} {a : α} (holds : kind a) :
    Yields (pure a : StateM σ α) kind := fun _ => holds

theorem Yields.bind {first : StateM σ α} {next : α → StateM σ β} {one : α → Prop} {two : β → Prop}
    (yields : Yields first one) (continues : ∀ a, one a → Yields (next a) two) :
    Yields (first >>= next) two := fun state => continues _ (yields state) (first state).2

/-- What the first program answers makes no difference. -/
theorem yields_bind {first : StateM σ α} {next : α → StateM σ β} {kind : β → Prop}
    (continues : ∀ a, Yields (next a) kind) : Yields (first >>= next) kind :=
  fun state => continues _ (first state).2

end Yields

/-! ## Thinning -/

/-- A list of entries without some of them, and with values that stand in a relation to the old
ones. -/
inductive Thins {κ ν : Type} (related : ν → ν → Prop) : List (κ × ν) → List (κ × ν) → Prop where
  | nil : Thins related [] []
  | drop (entry : κ × ν) {before after : List (κ × ν)} :
      Thins related before after → Thins related (entry :: before) after
  | keep (key : κ) {old new : ν} {before after : List (κ × ν)} :
      related old new → Thins related before after →
      Thins related ((key, old) :: before) ((key, new) :: after)

namespace Thins

variable {κ ν : Type} {related : ν → ν → Prop} {before after : List (κ × ν)}

theorem dropAll (before : List (κ × ν)) : Thins related before [] := by
  induction before with
  | nil => exact .nil
  | cons entry rest ih => exact .drop entry ih

theorem keys_sublist (thins : Thins related before after) :
    (keys after).Sublist (keys before) := by
  induction thins with
  | nil => exact List.Sublist.refl _
  | drop entry _ ih => exact ih.trans (List.sublist_cons_self _ _)
  | keep key _ _ ih => exact ih.cons_cons _

theorem distinct (thins : Thins related before after) (distinct : Distinct before) :
    Distinct after :=
  thins.keys_sublist.nodup distinct

/-- Every value that is left stands in the relation to one there was. -/
theorem mem (thins : Thins related before after) {key : κ} {new : ν} (left : (key, new) ∈ after) :
    ∃ old, (key, old) ∈ before ∧ related old new := by
  induction thins with
  | nil => cases left
  | drop entry _ ih =>
    obtain ⟨old, member, holds⟩ := ih left
    exact ⟨old, List.mem_cons_of_mem _ member, holds⟩
  | keep k holds _ ih =>
    rcases List.mem_cons.mp left with same | left
    · cases same
      exact ⟨_, List.mem_cons_self, holds⟩
    · obtain ⟨old, member, holds⟩ := ih left
      exact ⟨old, List.mem_cons_of_mem _ member, holds⟩

theorem find? [DecidableEq κ] (thins : Thins related before after) (distinct : Distinct before)
    {key : κ} {new : ν} (found : KeyedList.find? key after = some new) :
    ∃ old, KeyedList.find? key before = some old ∧ related old new := by
  obtain ⟨old, member, holds⟩ := thins.mem (mem_of_find? found)
  exact ⟨old, (find?_eq_some distinct).mpr member, holds⟩

end Thins

/-! ## Sweeps -/

/-- A sweep leaves the interval of a registration alone. -/
def SameInterval (old new : Registration) : Prop := new.interval = old.interval

/-- Blocks after a sweep. -/
abbrev ThinsBlocks : Blocks → Blocks → Prop := Thins (Thins SameInterval)

theorem sameInterval_poll (now : Tick) (r : Registration) : SameInterval r (r.poll now).2 := by
  unfold SameInterval Registration.poll Registration.fired
  split
  · split <;> rfl
  · rfl

namespace Sweep

variable {σ : Type} (host : Host σ) (limits : Limits) {now : Tick}

-- Whatever holds of a registration and the registration that a poll leaves.
variable {related : Registration → Registration → Prop} (polled : ∀ r, related r (r.poll now).2)

include polled

theorem yields_checkClients (l : Location) (clients : Clients) :
    Yields (checkClients host limits now l clients) fun checked =>
      Thins related clients checked.kept := by
  induction clients with
  | nil => exact yields_pure .nil
  | cons entry rest ih =>
    obtain ⟨client, registration⟩ := entry
    refine yields_bind fun passes => ?_
    cases passes with
    | false => exact ih.bind fun checked thins => yields_pure (.drop _ thins)
    | true =>
      refine ih.bind fun checked thins => ?_
      simp only
      split
      · exact yields_pure (.drop _ thins)
      · exact yields_pure (.keep client (polled registration) thins)

theorem yields_sweepLocation (l : Location) (clients : Clients) :
    Yields (sweepLocation host limits now l clients) fun swept =>
      Thins related clients swept.1 := by
  unfold sweepLocation
  split
  · exact yields_pure (.dropAll clients)
  · refine yields_bind fun interactable => ?_
    cases interactable with
    | false => exact yields_pure (.dropAll clients)
    | true =>
      refine (yields_checkClients host limits polled l clients).bind fun checked thins => ?_
      simp only
      split
      · -- Whether an observation is owed makes no difference to what stays.
        exact yields_bind fun outcome => yields_pure thins
      · exact yields_bind fun outcome => yields_pure thins

theorem yields_sweepBlocks (partition : String) (blocks : Blocks) :
    Yields (sweepBlocks host limits now partition blocks) fun swept =>
      Thins (Thins related) blocks swept.1 := by
  induction blocks with
  | nil => exact yields_pure .nil
  | cons entry rest ih =>
    obtain ⟨block, clients⟩ := entry
    have first := yields_sweepLocation host limits polled ⟨partition, block⟩ clients
    refine first.bind fun here thins => ?_
    refine ih.bind fun there others => yields_pure ?_
    simp only
    split
    · exact .drop _ others
    · exact .keep block thins others

theorem yields_sweepPartitions (partitions : List (String × Blocks)) :
    Yields (sweepPartitions host limits now partitions) fun swept =>
      Thins (Thins (Thins related)) partitions swept.1 := by
  induction partitions with
  | nil => exact yields_pure .nil
  | cons entry rest ih =>
    obtain ⟨partition, blocks⟩ := entry
    refine (yields_sweepBlocks host limits polled partition blocks).bind fun here thins => ?_
    refine ih.bind fun there others => yields_pure ?_
    simp only
    split
    · exact .drop _ others
    · exact .keep partition thins others

theorem yields_run (t : Table) :
    Yields (run host limits now t) fun swept =>
      Thins (Thins (Thins related)) t.partitions swept.1.partitions :=
  (yields_sweepPartitions host limits polled t.partitions).bind fun _ thins => yields_pure thins

end Sweep

/-! ## What a table holds -/

/-- Whether a registration fires again and again. -/
def UpdateInterval.recurs : UpdateInterval → Bool
  | .every _ => true
  | .never => false

namespace Table

/-- Whether a table holds a recurring registration of a client at a location. -/
def recurs (t : Table) (c : ClientId) (l : Location) : Bool :=
  (t.find? c l).any (·.interval.recurs)

theorem recurs_update (t : Table) (c : ClientId) (l there : Location)
    (change : Option Registration → Registration) :
    (t.update c l change).recurs c there =
      if there = l then (change (t.find? c l)).interval.recurs else t.recurs c there := by
  rw [recurs, find?_update]
  by_cases here : there = l
  · simp [here]
  · simp [here, recurs]

theorem recurs_remove (t : Table) (c : ClientId) (l there : Location) :
    (t.remove c l).recurs c there = if there = l then false else t.recurs c there := by
  rw [recurs, find?_remove]
  by_cases here : there = l
  · simp [here]
  · simp [here, recurs]

/-- What is found in a table is filed on all three levels. -/
theorem find?_eq_some {t : Table} {c : ClientId} {l : Location} {r : Registration} :
    t.find? c l = some r ↔ ∃ blocks clients,
      KeyedList.find? l.partition t.partitions = some blocks ∧
      KeyedList.find? l.block blocks = some clients ∧ KeyedList.find? c clients = some r := by
  rw [find?, clients, blocks]
  cases KeyedList.find? l.partition t.partitions with
  | none => simp
  | some blocks =>
    simp only [Option.getD_some]
    cases filed : KeyedList.find? l.block blocks with
    | none => simp [filed]
    | some clients => simp [filed]

section Thinned

variable {related : Registration → Registration → Prop} {t t' : Table}

theorem Proper.thins (proper : t.Proper)
    (thins : Thins (Thins (Thins related)) t.partitions t'.partitions) : t'.Proper where
  partitions := thins.distinct proper.partitions
  blocks p member := by
    obtain ⟨old, there, blocks⟩ := thins.mem member
    exact blocks.distinct (proper.blocks _ there)
  clients p member b inside := by
    obtain ⟨old, there, blocks⟩ := thins.mem member
    obtain ⟨before, therein, clients⟩ := blocks.mem inside
    exact clients.distinct (proper.clients _ there _ therein)

/-- What a thinned table holds is related to what was held before. -/
theorem find?_thins (proper : t.Proper)
    (thins : Thins (Thins (Thins related)) t.partitions t'.partitions) {c : ClientId} {l : Location}
    {new : Registration} (found : t'.find? c l = some new) :
    ∃ old, t.find? c l = some old ∧ related old new := by
  obtain ⟨blocks, clients, inTable, inBlocks, inClients⟩ := find?_eq_some.mp found
  -- Every level was thinned, so the old registration is found level by level.
  obtain ⟨oldBlocks, wasInTable, blocksThin⟩ := thins.find? proper.partitions inTable
  have filed := mem_of_find? wasInTable
  obtain ⟨oldClients, wasInBlocks, clientsThin⟩ :=
    blocksThin.find? (proper.blocks _ filed) inBlocks
  obtain ⟨old, wasInClients, holds⟩ :=
    clientsThin.find? (proper.clients _ filed _ (mem_of_find? wasInBlocks)) inClients
  exact ⟨old, find?_eq_some.mpr ⟨oldBlocks, oldClients, wasInTable, wasInBlocks, wasInClients⟩,
    holds⟩

end Thinned

/-- Registrations that a thinned table holds were held before, with the same interval. -/
theorem recurs_thins {t t' : Table} (proper : t.Proper)
    (thins : Thins ThinsBlocks t.partitions t'.partitions) {c : ClientId} {l : Location}
    (recurring : t'.recurs c l = true) : t.recurs c l = true := by
  obtain ⟨new, found, interval⟩ := (Option.any_eq_true ..).mp recurring
  obtain ⟨old, there, same⟩ := find?_thins proper thins found
  rw [recurs, there]
  rw [same] at interval
  exact interval

end Table

/-! ## Requests and ticks -/

namespace Registrar

variable {σ : Type}

/-- What comes of a message: the registration is dropped, or filed with a change. -/
inductive Handled (r : Registrar) (c : ClientId) (m : Request) : Registrar → Prop where
  | dropped : Handled r c m { r with table := r.table.remove c m.location }
  | filed (change : Option Registration → Registration) : m.kind ≠ .stop →
      (m.kind = .single → ∀ old, (change old).interval.recurs = old.any (·.interval.recurs)) →
      Handled r c m { r with table := r.table.update c m.location change }

theorem yields_request (r : Registrar) (world : World σ) (checks : Checks) (c : ClientId)
    (m : Request) {change : Tick → Option Registration → Registration} (kind : m.kind ≠ .stop)
    (single : m.kind = .single → ∀ now old,
      (change now old).interval.recurs = old.any (·.interval.recurs)) :
    Yields (r.request world checks c m.location change) fun result => Handled r c m result.2 := by
  refine yields_bind fun passes => ?_
  cases passes with
  | false => exact yields_pure .dropped
  | true =>
    exact yields_bind fun now => yields_pure (.filed (change now) kind fun one => single one now)

theorem yields_handle (r : Registrar) (world : World σ) (c : ClientId) (m : Request) :
    Yields (r.handle world c m) fun result => Handled r c m result.2 := by
  unfold Registrar.handle
  split
  · exact yields_pure .dropped
  · next kind =>
    -- A one-shot is filed where nothing was, and an older registration keeps its interval.
    refine r.yields_request world .all c m (by rw [kind]; nofun) fun _ now old => ?_
    cases old <;> rfl
  · next every kind =>
    exact r.yields_request world .relaxed c m (by rw [kind]; nofun) (by rw [kind]; nofun)
  · next every kind =>
    exact r.yields_request world .all c m (by rw [kind]; nofun) (by rw [kind]; nofun)

theorem Handled.proper {r r' : Registrar} {c : ClientId} {m : Request} (handled : Handled r c m r')
    (proper : r.table.Proper) : r'.table.Proper := by
  cases handled with
  | dropped => exact proper.remove c m.location
  | filed change => exact proper.update c m.location change

theorem Handled.recurs {r r' : Registrar} {c : ClientId} {m : Request} (handled : Handled r c m r')
    {l : Location} (held : r'.table.recurs c l = true) :
    (if m.location = l then m.kind.stands (r.table.recurs c l) else r.table.recurs c l) = true := by
  cases handled with
  | dropped =>
    rw [Table.recurs_remove] at held
    by_cases here : m.location = l
    · simp [here] at held
    · rw [if_neg (Ne.symm here)] at held
      rwa [if_neg here]
  | filed change kind single =>
    rw [Table.recurs_update] at held
    by_cases here : m.location = l
    · subst here
      rw [if_pos rfl] at held ⊢
      -- Only for a single request does it matter what was filed before.
      cases asks : m.kind with
      | stop => exact absurd asks kind
      | single =>
        rw [single asks] at held
        exact held
      | start | keepalive => rfl
    · rw [if_neg (Ne.symm here)] at held
      rwa [if_neg here]

theorem yields_tick (r : Registrar) (host : Host σ) (now : Tick) (proper : r.table.Proper) :
    Yields (r.tick host now) fun result => result.2.table.Proper ∧
      ∀ c l, result.2.table.recurs c l = true → r.table.recurs c l = true := by
  unfold Registrar.tick
  split
  · refine (Sweep.yields_run host r.limits (sameInterval_poll now) r.table).bind ?_
    rintro ⟨table, report⟩ thins
    exact yields_pure ⟨proper.thins thins, fun c l => Table.recurs_thins proper thins⟩
  · exact yields_pure ⟨proper, fun _ _ => id⟩

end Registrar

end Server

end ObservationFeed
