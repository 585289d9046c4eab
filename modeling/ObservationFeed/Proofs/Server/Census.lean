import ObservationFeed.Proofs.Server.Recurring

/-!
# What a table counts

The three levels of a table are one list of locations with their registrations,
and the counts of a table are lengths of lists made from it.  A table is `Tidy`
if no block is filed without registrations and each registration is filed under
its own client; every operation keeps a table tidy.  A partition without blocks
may be filed until the next sweep, so partitions are counted exactly only then.
-/

namespace ObservationFeed.Server

open KeyedList

/-- Exactly so many things have a property. -/
def Counts {α : Type} (property : α → Prop) (n : Nat) : Prop :=
  ∃ items : List α, items.Nodup ∧ (∀ a, a ∈ items ↔ property a) ∧ items.length = n

namespace Table

variable {t : Table}

/-! ## One list of locations -/

/-- The locations that are filed, with their registrations. -/
def filed (t : Table) : List (Location × Clients) :=
  t.partitions.flatMap fun p => p.2.map fun b => (⟨p.1, b.1⟩, b.2)

theorem mem_filed {l : Location} {clients : Clients} :
    (l, clients) ∈ t.filed ↔
      ∃ blocks, (l.partition, blocks) ∈ t.partitions ∧ (l.block, clients) ∈ blocks := by
  simp only [filed, List.mem_flatMap, List.mem_map]
  constructor
  · rintro ⟨⟨partition, blocks⟩, here, ⟨block, clients⟩, therein, same⟩
    cases same
    exact ⟨blocks, here, therein⟩
  · rintro ⟨blocks, here, therein⟩
    exact ⟨_, here, _, therein, rfl⟩

theorem Proper.distinct_filed (proper : t.Proper) : Distinct t.filed := by
  -- Two locations differ in their partition or, within one, in their block.
  have apart : t.filed.Pairwise fun a b => a.1 ≠ b.1 := by
    refine List.pairwise_flatMap.mpr ⟨fun p here => List.pairwise_map.mpr ?_, ?_⟩
    · refine (List.pairwise_map.mp (proper.blocks p here)).imp fun different same => ?_
      exact different (congrArg Location.block same)
    · refine (List.pairwise_map.mp proper.partitions).imp fun different a first b second same => ?_
      obtain ⟨_, _, rfl⟩ := List.mem_map.mp first
      obtain ⟨_, _, rfl⟩ := List.mem_map.mp second
      exact different (congrArg Location.partition same)
  exact List.pairwise_map.mpr apart

theorem Proper.clients_filed (proper : t.Proper) : ∀ e ∈ t.filed, Distinct e.2 := by
  intro e here
  obtain ⟨blocks, inTable, inBlocks⟩ := mem_filed.mp here
  exact proper.clients _ inTable _ inBlocks

/-- What is found in a table stands in the list of its locations. -/
theorem Proper.find?_eq_some (proper : t.Proper) {c : ClientId} {l : Location} {r : Registration} :
    t.find? c l = some r ↔ ∃ clients, (l, clients) ∈ t.filed ∧ (c, r) ∈ clients := by
  rw [Table.find?_eq_some]
  constructor
  · rintro ⟨blocks, clients, inTable, inBlocks, inClients⟩
    exact ⟨clients, mem_filed.mpr ⟨blocks, mem_of_find? inTable, mem_of_find? inBlocks⟩,
      mem_of_find? inClients⟩
  · rintro ⟨clients, here, therein⟩
    obtain ⟨blocks, inTable, inBlocks⟩ := mem_filed.mp here
    have distinct := proper.clients _ inTable _ inBlocks
    exact ⟨blocks, clients, (KeyedList.find?_eq_some proper.partitions).mpr inTable,
      (KeyedList.find?_eq_some (proper.blocks _ inTable)).mpr inBlocks,
      (KeyedList.find?_eq_some distinct).mpr therein⟩

theorem Proper.find?_eq_bind (proper : t.Proper) (c : ClientId) (l : Location) :
    t.find? c l = (KeyedList.find? l t.filed).bind (KeyedList.find? c) := by
  apply Option.ext
  intro r
  rw [proper.find?_eq_some, Option.bind_eq_some_iff]
  refine exists_congr fun clients => ?_
  rw [KeyedList.find?_eq_some proper.distinct_filed]
  refine and_congr_right fun here => ?_
  obtain ⟨blocks, inTable, inBlocks⟩ := mem_filed.mp here
  exact (KeyedList.find?_eq_some (proper.clients _ inTable _ inBlocks)).symm

/-! ## Tidy tables -/

/-- No block is filed without registrations, and no registration under another client. -/
structure Tidy (t : Table) : Prop extends Proper t where
  filled : ∀ p ∈ t.partitions, ∀ b ∈ p.2, b.2 ≠ []
  owned : ∀ c l r, t.find? c l = some r → r.client = c

theorem tidy_empty : Tidy empty where
  toProper := proper_empty
  filled := by simp [empty]
  owned := nofun

theorem Tidy.mem_filed_ne_nil (tidy : t.Tidy) {l : Location} {clients : Clients}
    (here : (l, clients) ∈ t.filed) : clients ≠ [] := by
  obtain ⟨blocks, inTable, inBlocks⟩ := mem_filed.mp here
  exact tidy.filled _ inTable _ inBlocks

/-- The blocks of every partition, filed or not, have registrations. -/
theorem Tidy.filledIn (tidy : t.Tidy) (partition : String) : ∀ b ∈ t.blocks partition, b.2 ≠ [] := by
  unfold Table.blocks
  cases found : KeyedList.find? partition t.partitions with
  | none => simp
  | some blocks => exact tidy.filled _ (mem_of_find? found)

theorem filled_put (filled : ∀ p ∈ t.partitions, ∀ b ∈ p.2, b.2 ≠ []) (partition : String)
    {blocks : Blocks} (here : ∀ b ∈ blocks, b.2 ≠ []) :
    ∀ p ∈ put partition blocks t.partitions, ∀ b ∈ p.2, b.2 ≠ [] := by
  intro p member
  rcases mem_put member with rfl | member
  · exact here
  · exact filled p member

theorem put_ne_nil {κ ν : Type} [DecidableEq κ] (key : κ) (value : ν) (entries : List (κ × ν)) :
    put key value entries ≠ [] := by
  intro nothing
  have there : key ∈ keys (put key value entries) := mem_keys_put.mpr (.inl rfl)
  rw [nothing] at there
  cases there

theorem Tidy.update (tidy : t.Tidy) {c : ClientId} (l : Location)
    {change : Option Registration → Registration}
    (own : ∀ old, (∀ r, old = some r → r.client = c) → (change old).client = c) :
    (t.update c l change).Tidy where
  toProper := tidy.toProper.update c l change
  filled := by
    refine filled_put tidy.filled l.partition fun b member => ?_
    rcases mem_put member with rfl | member
    · exact put_ne_nil c _ (t.clients l)
    · exact tidy.filledIn l.partition b member
  owned other there r found := by
    rw [find?_update] at found
    split at found
    · next here =>
      obtain ⟨rfl, rfl⟩ := here
      cases found
      exact own _ (tidy.owned other there)
    · exact tidy.owned other there r found

theorem Tidy.remove (tidy : t.Tidy) (c : ClientId) (l : Location) : (t.remove c l).Tidy where
  toProper := tidy.toProper.remove c l
  filled := by
    unfold Table.remove
    cases foundBlocks : KeyedList.find? l.partition t.partitions with
    | none => exact tidy.filled
    | some blocks =>
      have others := tidy.filled _ (mem_of_find? foundBlocks)
      simp only
      cases KeyedList.find? l.block blocks with
      | none => exact tidy.filled
      | some clients =>
        refine filled_put tidy.filled l.partition fun b member => ?_
        -- The block is dropped if nothing is left in it.
        unfold refile at member
        split at member
        · exact others b (List.mem_filter.mp member).1
        · next left =>
          rcases mem_put member with rfl | member
          · simpa using left
          · exact others b member
  owned other there r found := by
    rw [find?_remove] at found
    split at found
    · cases found
    · exact tidy.owned other there r found

/-! ## Counts -/

theorem total_filed (t : Table) : total List.length t.filed = t.registrationCount := by
  rw [← length_flatMap_eq_total List.length (fun e => e.2) (fun _ => rfl), filed,
    List.flatMap_assoc]
  refine length_flatMap_eq_total _ _ (fun p => ?_) t.partitions
  rw [List.flatMap_map]
  exact length_flatMap_eq_total _ _ (fun _ => rfl) p.2

theorem Proper.counts_registrations (proper : t.Proper) :
    Counts (fun e : ClientId × Location => (t.find? e.1 e.2).isSome) t.registrationCount := by
  refine ⟨t.filed.flatMap fun e => e.2.map fun f => (f.1, e.1), ?_, ?_, ?_⟩
  · refine List.pairwise_flatMap.mpr ⟨fun e here => List.pairwise_map.mpr ?_, ?_⟩
    · obtain ⟨blocks, inTable, inBlocks⟩ := mem_filed.mp here
      have distinct := proper.clients _ inTable _ inBlocks
      refine (List.pairwise_map.mp distinct).imp fun different same => ?_
      exact different (Prod.mk.inj same).1
    · refine (List.pairwise_map.mp proper.distinct_filed).imp fun different a first b second same => ?_
      obtain ⟨_, _, rfl⟩ := List.mem_map.mp first
      obtain ⟨_, _, rfl⟩ := List.mem_map.mp second
      exact different (congrArg Prod.snd same)
  · rintro ⟨c, l⟩
    simp only [List.mem_flatMap, List.mem_map, Option.isSome_iff_exists, proper.find?_eq_some]
    constructor
    · rintro ⟨⟨l, clients⟩, here, ⟨c, r⟩, member, same⟩
      cases same
      exact ⟨r, clients, here, member⟩
    · rintro ⟨r, clients, here, member⟩
      exact ⟨_, here, _, member, rfl⟩
  · rw [length_flatMap_eq_total List.length _ (fun e => List.length_map ..), total_filed]

theorem Tidy.counts_locations (tidy : t.Tidy) :
    Counts (fun l => ∃ c, (t.find? c l).isSome) t.locationCount := by
  refine ⟨keys t.filed, tidy.distinct_filed, fun l => ?_, ?_⟩
  · simp only [keys, List.mem_map, Option.isSome_iff_exists, tidy.find?_eq_some]
    constructor
    · rintro ⟨⟨l, clients⟩, here, rfl⟩
      obtain ⟨⟨c, r⟩, member⟩ := List.exists_mem_of_ne_nil _ (tidy.mem_filed_ne_nil here)
      exact ⟨c, r, clients, here, member⟩
    · rintro ⟨c, r, clients, here, member⟩
      exact ⟨_, here, rfl⟩
  · rw [keys, List.length_map, filed]
    exact length_flatMap_eq_total _ _ (fun p => List.length_map ..) t.partitions

/-- The partitions that have blocks are those with a registration. -/
theorem Tidy.counts_partitions (tidy : t.Tidy) :
    Counts (fun p => ∃ c b, (t.find? c ⟨p, b⟩).isSome)
      (t.partitions.filter fun p => !p.2.isEmpty).length := by
  refine ⟨keys (t.partitions.filter fun p => !p.2.isEmpty), ?_, fun partition => ?_, ?_⟩
  · exact (List.filter_sublist.map Prod.fst).nodup tidy.partitions
  · simp only [keys, List.mem_map, List.mem_filter, Option.isSome_iff_exists, tidy.find?_eq_some]
    constructor
    · rintro ⟨⟨partition, blocks⟩, ⟨inTable, some⟩, rfl⟩
      have blocksLeft : blocks ≠ [] := by simpa using some
      obtain ⟨⟨block, clients⟩, inBlocks⟩ := List.exists_mem_of_ne_nil _ blocksLeft
      have clientsLeft := tidy.filled _ inTable _ inBlocks
      obtain ⟨⟨c, r⟩, member⟩ := List.exists_mem_of_ne_nil _ clientsLeft
      exact ⟨c, block, r, clients, mem_filed.mpr ⟨blocks, inTable, inBlocks⟩, member⟩
    · rintro ⟨c, block, r, clients, here, member⟩
      obtain ⟨blocks, inTable, inBlocks⟩ := mem_filed.mp here
      have blocksLeft : blocks ≠ [] := List.ne_nil_of_mem inBlocks
      exact ⟨_, ⟨inTable, by simpa using blocksLeft⟩, rfl⟩
  · exact List.length_map ..

end Table

end ObservationFeed.Server
