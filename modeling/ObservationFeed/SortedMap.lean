/-!
# Sorted maps

A finite map whose entries stand in the order of their keys, so that two maps
with the same entries are equal.  The entries are held from the largest key
down: filling a map in ascending order then takes constant time an entry.

Contents:

* `insertDown`, insertion into a descending entry list, and why it stays
  descending
* `SortedMap` with `insert`, `find?`, `toList` and `ofList`
-/

namespace ObservationFeed

variable {κ : Type} {ν : Type} [Ord κ]

/-- Entry lists with strictly descending keys. -/
def Descending (entries : List (κ × ν)) : Prop :=
  entries.Pairwise fun a b => compare b.1 a.1 = .lt

/-- Insertion into a descending entry list.  An entry with the same key is replaced. -/
def insertDown (key : κ) (value : ν) : List (κ × ν) → List (κ × ν)
  | [] => [(key, value)]
  | (k, v) :: rest =>
    match compare key k with
    | .gt => (key, value) :: (k, v) :: rest
    | .eq => (key, value) :: rest
    | .lt => (k, v) :: insertDown key value rest

theorem mem_insertDown {key : κ} {value : ν} {entry : κ × ν} :
    ∀ {entries : List (κ × ν)}, entry ∈ insertDown key value entries →
      entry = (key, value) ∨ entry ∈ entries
  | [], h => .inl (by simpa [insertDown] using h)
  | (k, v) :: rest, h => by
    unfold insertDown at h
    split at h
    · simpa using h
    · rcases List.mem_cons.mp h with rfl | h
      · exact .inl rfl
      · exact .inr (List.mem_cons_of_mem _ h)
    · rcases List.mem_cons.mp h with rfl | h
      · exact .inr List.mem_cons_self
      · exact (mem_insertDown h).imp_right (List.mem_cons_of_mem _)

theorem descending_insertDown [Std.TransOrd κ] [Std.LawfulEqOrd κ] (key : κ) (value : ν) :
    ∀ {entries : List (κ × ν)}, Descending entries →
      Descending (insertDown key value entries)
  | [], _ => List.pairwise_singleton ..
  | (k, v) :: rest, h => by
    have head : ∀ e ∈ rest, compare e.1 k = .lt := (List.pairwise_cons.mp h).1
    have tail : Descending rest := (List.pairwise_cons.mp h).2
    unfold insertDown
    split
    case h_1 greater =>
      have less : compare k key = .lt := Std.OrientedCmp.lt_of_gt greater
      refine List.pairwise_cons.mpr ⟨fun e he => ?_, h⟩
      rcases List.mem_cons.mp he with rfl | he
      · exact less
      · exact Std.TransCmp.lt_trans (head e he) less
    case h_2 same =>
      obtain rfl : key = k := Std.LawfulEqCmp.eq_of_compare same
      exact List.pairwise_cons.mpr ⟨head, tail⟩
    case h_3 less =>
      refine List.pairwise_cons.mpr ⟨fun e he => ?_, descending_insertDown key value tail⟩
      rcases mem_insertDown he with rfl | he
      · exact less
      · exact head e he

/-- A finite map in the order of its keys. -/
structure SortedMap (κ ν : Type) [Ord κ] where
  entries : List (κ × ν)
  descending : Descending entries

namespace SortedMap

def empty : SortedMap κ ν := ⟨[], List.Pairwise.nil⟩

instance : Inhabited (SortedMap κ ν) := ⟨empty⟩

/-- The entries in ascending order of their keys. -/
def toList (m : SortedMap κ ν) : List (κ × ν) := m.entries.reverse

def size (m : SortedMap κ ν) : Nat := m.entries.length

def find? (m : SortedMap κ ν) (key : κ) : Option ν :=
  (m.entries.find? fun e => compare key e.1 == .eq).map (·.2)

@[ext] theorem ext {m n : SortedMap κ ν} (h : m.entries = n.entries) : m = n := by
  cases m; cases n; cases h; rfl

instance [DecidableEq κ] [DecidableEq ν] : DecidableEq (SortedMap κ ν) := fun m n =>
  decidable_of_iff (m.entries = n.entries) ⟨ext, fun h => h ▸ rfl⟩

instance [Repr κ] [Repr ν] : Repr (SortedMap κ ν) := ⟨fun m => reprPrec m.toList⟩

variable [Std.TransOrd κ] [Std.LawfulEqOrd κ]

/-- The map with a value stored under a key, in place of what was stored there. -/
def insert (m : SortedMap κ ν) (key : κ) (value : ν) : SortedMap κ ν :=
  ⟨insertDown key value m.entries, descending_insertDown key value m.descending⟩

/-- The map of a list of entries, where a later entry replaces an earlier one. -/
def ofList (entries : List (κ × ν)) : SortedMap κ ν :=
  entries.foldl (fun m e => m.insert e.1 e.2) empty

end SortedMap

end ObservationFeed
