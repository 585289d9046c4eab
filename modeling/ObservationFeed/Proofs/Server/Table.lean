import ObservationFeed.Proofs.KeyedList
import ObservationFeed.Server.Table

/-!
# Registration tables as maps

A table files registrations in three levels; what matters is the registration
of a client at a location.  `Proper` says that no level holds two entries of one
key, which every operation keeps, and the look-up lemmas say that filing or
dropping a registration changes no other.
-/

namespace ObservationFeed.Server.Table

open KeyedList

/-- No partition, block or client has two entries. -/
structure Proper (t : Table) : Prop where
  partitions : Distinct t.partitions
  blocks : ∀ p ∈ t.partitions, Distinct p.2
  clients : ∀ p ∈ t.partitions, ∀ b ∈ p.2, Distinct b.2

theorem proper_empty : Proper empty := ⟨distinct_nil, by simp [empty], by simp [empty]⟩

namespace Proper

variable {t : Table}

theorem blocksAt (proper : t.Proper) (partition : String) : Distinct (t.blocks partition) := by
  unfold Table.blocks
  cases found : KeyedList.find? partition t.partitions with
  | none => exact distinct_nil
  | some blocks => exact proper.blocks _ (mem_of_find? found)

/-- The registrations of every block in a partition have distinct clients. -/
theorem clientsIn (proper : t.Proper) (partition : String) :
    ∀ b ∈ t.blocks partition, Distinct b.2 := by
  unfold Table.blocks
  cases found : KeyedList.find? partition t.partitions with
  | none => simp
  | some blocks => exact proper.clients _ (mem_of_find? found)

theorem clientsAt (proper : t.Proper) (l : Location) : Distinct (t.clients l) := by
  unfold Table.clients
  cases found : KeyedList.find? l.block (t.blocks l.partition) with
  | none => exact distinct_nil
  | some clients => exact proper.clientsIn l.partition _ (mem_of_find? found)

theorem distinct_refile (block : Block) (clients : Clients) {blocks : Blocks}
    (distinct : Distinct blocks) : Distinct (refile block clients blocks) := by
  unfold refile
  split
  · exact distinct.erase block
  · exact distinct.put block clients

theorem clients_refile (block : Block) {clients : Clients} {blocks : Blocks}
    (distinct : Distinct clients) (others : ∀ b ∈ blocks, Distinct b.2) :
    ∀ b ∈ refile block clients blocks, Distinct b.2 := by
  intro b member
  unfold refile at member
  split at member
  · exact others b (List.mem_filter.mp member).1
  · rcases mem_put member with rfl | member
    · exact distinct
    · exact others b member

/-- Filing proper blocks under a partition keeps a table proper. -/
theorem put (proper : t.Proper) (partition : String) {blocks : Blocks} (distinct : Distinct blocks)
    (clients : ∀ b ∈ blocks, Distinct b.2) :
    Proper ⟨KeyedList.put partition blocks t.partitions⟩ where
  partitions := proper.partitions.put partition blocks
  blocks p member := by
    rcases mem_put member with rfl | member
    · exact distinct
    · exact proper.blocks p member
  clients p member := by
    rcases mem_put member with rfl | member
    · exact clients
    · exact proper.clients p member

theorem update (proper : t.Proper) (c : ClientId) (l : Location)
    (change : Option Registration → Registration) : (t.update c l change).Proper := by
  refine proper.put l.partition ((proper.blocksAt l.partition).put l.block _) fun b member => ?_
  rcases mem_put member with rfl | member
  · exact (proper.clientsAt l).put c _
  · exact proper.clientsIn l.partition b member

theorem remove (proper : t.Proper) (c : ClientId) (l : Location) : (t.remove c l).Proper := by
  unfold Table.remove
  cases foundBlocks : KeyedList.find? l.partition t.partitions with
  | none => exact proper
  | some blocks =>
    have filed := mem_of_find? foundBlocks
    simp only
    cases foundClients : KeyedList.find? l.block blocks with
    | none => exact proper
    | some clients =>
      have distinct : Distinct clients := proper.clients _ filed _ (mem_of_find? foundClients)
      have others : ∀ b ∈ blocks, Distinct b.2 := proper.clients _ filed
      exact proper.put l.partition (distinct_refile l.block _ (proper.blocks _ filed))
        (clients_refile l.block (distinct.erase c) others)

end Proper

/-! ## Look-ups -/

theorem blocks_put (t : Table) (partition other : String) (blocks : Blocks) :
    (⟨put partition blocks t.partitions⟩ : Table).blocks other =
      if partition = other then blocks else t.blocks other := by
  rw [Table.blocks, find?_put]
  split <;> rfl

/-- Putting other registrations at one block changes no other location. -/
theorem clients_put (t : Table) (partition : String) (block : Block) {blocks : Blocks}
    {clients : Clients} (here : (KeyedList.find? block blocks).getD [] = clients)
    (elsewhere : ∀ other, other ≠ block →
      KeyedList.find? other blocks = KeyedList.find? other (t.blocks partition)) (l : Location) :
    (⟨put partition blocks t.partitions⟩ : Table).clients l =
      if l = ⟨partition, block⟩ then clients else t.clients l := by
  obtain ⟨p, b⟩ := l
  rw [Table.clients, blocks_put, Table.clients]
  -- Another location may differ in its partition or in its block.
  by_cases samePartition : partition = p
  · subst samePartition
    by_cases sameBlock : b = block
    · subst sameBlock
      simpa using here
    · simp [sameBlock, elsewhere b sameBlock]
  · have other : (⟨p, b⟩ : Location) ≠ ⟨partition, block⟩ := by
      rintro ⟨⟩
      exact samePartition rfl
    rw [if_neg samePartition, if_neg other]

theorem find?_update (t : Table) (c other : ClientId) (l there : Location)
    (change : Option Registration → Registration) :
    (t.update c l change).find? other there =
      if other = c ∧ there = l then some (change (t.find? c l)) else t.find? other there := by
  have filed : (KeyedList.find? l.block (put l.block (put c (change (t.find? c l)) (t.clients l))
      (t.blocks l.partition))).getD [] = put c (change (t.find? c l)) (t.clients l) := by
    rw [find?_put, if_pos rfl, Option.getD_some]
  rw [Table.find?, Table.update, clients_put t l.partition l.block filed
    (fun b different => by rw [find?_put, if_neg different.symm])]
  by_cases here : there = l
  · subst here
    rw [if_pos rfl, find?_put]
    by_cases same : c = other
    · simp [same]
    · simp [same, Ne.symm same, Table.find?]
  · simp [here, Table.find?]

theorem find?_refile (block other : Block) (clients : Clients) (blocks : Blocks) :
    KeyedList.find? other (refile block clients blocks) =
      if block = other then Option.guard (fun left => !left.isEmpty) clients
      else KeyedList.find? other blocks := by
  unfold refile
  cases clients with
  | nil => exact find?_erase block other blocks
  | cons entry rest => exact find?_put block other _ blocks

theorem getD_find?_refile (block : Block) (clients : Clients) (blocks : Blocks) :
    (KeyedList.find? block (refile block clients blocks)).getD [] = clients := by
  rw [find?_refile, if_pos rfl]
  cases clients <;> rfl

theorem find?_remove (t : Table) (c other : ClientId) (l there : Location) :
    (t.remove c l).find? other there =
      if other = c ∧ there = l then none else t.find? other there := by
  -- Where nothing is filed there is nothing to drop, and the table stays as it is.
  have absent (gone : t.clients l = []) :
      t.find? other there = if other = c ∧ there = l then none else t.find? other there := by
    split
    · next here => rw [here.2, Table.find?, gone, KeyedList.find?_nil]
    · rfl
  unfold Table.remove
  cases foundBlocks : KeyedList.find? l.partition t.partitions with
  | none => exact absent (by rw [Table.clients, Table.blocks, foundBlocks]; rfl)
  | some blocks =>
    have here : t.blocks l.partition = blocks := by rw [Table.blocks, foundBlocks, Option.getD_some]
    simp only
    cases foundClients : KeyedList.find? l.block blocks with
    | none => exact absent (by rw [Table.clients, here, foundClients]; rfl)
    | some clients =>
      have held : t.clients l = clients := by
        rw [Table.clients, here, foundClients, Option.getD_some]
      have left := clients_put t l.partition l.block
        (getD_find?_refile l.block (erase c clients) blocks)
        (fun b different => by rw [here, find?_refile, if_neg different.symm]) there
      rw [Table.find?, left]
      by_cases same : there = l
      · subst same
        rw [if_pos rfl, find?_erase, Table.find?, held]
        by_cases client : c = other
        · simp [client]
        · simp [client, Ne.symm client]
      · simp [same, Table.find?]

end ObservationFeed.Server.Table
