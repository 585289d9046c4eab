import Mathlib.Data.List.Induction
import Mathlib.Data.List.Nodup
import ObservationFeed.Proofs.KeyedList
import ObservationFeed.SortedMap

/-!
# Sorted maps filled anew

A map that is filled with the entries of another, in their order, becomes that
map: each key is above all that came before it, so each entry goes to the front
of the descending list.  In whatever order entries come, each pushes out at
most one, and the last entry of a key stays.

A map is known by what is found under its keys: as a key has one entry at most
and the entries have one order, two maps that find the same are equal.
-/

namespace ObservationFeed

variable {κ : Type} {ν : Type} [Ord κ]

theorem insertDown_of_forall_lt [Std.OrientedOrd κ] {key : κ} {entries : List (κ × ν)}
    (above : ∀ e ∈ entries, compare e.1 key = .lt) (value : ν) :
    insertDown key value entries = (key, value) :: entries := by
  cases entries with
  | nil => rfl
  | cons entry rest =>
    have greater : compare key entry.1 = .gt :=
      Std.OrientedCmp.gt_of_lt (above entry List.mem_cons_self)
    simp only [insertDown, greater]

/-- A new entry pushes out at most the one that it replaces. -/
theorem insertDown_perm (key : κ) (value : ν) (entries : List (κ × ν)) :
    ∃ kept, kept.Sublist entries ∧ (insertDown key value entries).Perm ((key, value) :: kept) := by
  induction entries with
  | nil => exact ⟨[], List.Sublist.refl _, List.Perm.refl _⟩
  | cons entry rest ih =>
    obtain ⟨k, v⟩ := entry
    unfold insertDown
    split
    · exact ⟨(k, v) :: rest, List.Sublist.refl _, List.Perm.refl _⟩
    · exact ⟨rest, List.sublist_cons_self .., List.Perm.refl _⟩
    · obtain ⟨kept, part, same⟩ := ih
      exact ⟨(k, v) :: kept, part.cons_cons _, (same.cons _).trans (List.Perm.swap ..)⟩

theorem Descending.distinct [Std.TransOrd κ] {entries : List (κ × ν)}
    (descending : Descending entries) : KeyedList.Distinct entries := by
  refine List.pairwise_map.mpr (descending.imp fun less same => ?_)
  simp [same] at less

namespace SortedMap

theorem perm_toList (m : SortedMap κ ν) : m.entries.Perm m.toList :=
  (List.reverse_perm _).symm

@[simp] theorem length_toList (m : SortedMap κ ν) : m.toList.length = m.size :=
  List.length_reverse

@[simp] theorem find?_empty (k : κ) : (empty : SortedMap κ ν).find? k = none := rfl

theorem find?_entries [Std.LawfulEqOrd κ] [DecidableEq κ] (m : SortedMap κ ν) (k : κ) :
    m.find? k = KeyedList.find? k m.entries := by
  rw [find?]
  generalize m.entries = entries
  induction entries with
  | nil => rfl
  | cons entry rest ih =>
    rw [KeyedList.find?_cons, ← ih]
    by_cases same : entry.1 = k
    · simp [same]
    · simp [same, Ne.symm same]

theorem distinct_toList [Std.TransOrd κ] (m : SortedMap κ ν) : KeyedList.Distinct m.toList :=
  (m.perm_toList.map Prod.fst).nodup m.descending.distinct

variable [Std.TransOrd κ] [Std.LawfulEqOrd κ]

theorem ofList_toList (m : SortedMap κ ν) : ofList m.toList = m := by
  obtain ⟨entries, descending⟩ := m
  apply ext
  -- The list is filed from its far end, where the keys are least, so the descending entries are
  -- the ones to go through.
  rw [ofList, toList, List.foldl_reverse]
  induction entries with
  | nil => rfl
  | cons entry rest ih =>
    obtain ⟨above, tail⟩ := List.pairwise_cons.mp descending
    rw [List.foldr_cons, insert]
    simp only [ih tail]
    exact insertDown_of_forall_lt above entry.2

theorem find?_insert [DecidableEq κ] (m : SortedMap κ ν) (key : κ) (value : ν) (k : κ) :
    (m.insert key value).find? k = if k = key then some value else m.find? k := by
  obtain ⟨entries, descending⟩ := m
  simp only [find?, insert]
  clear descending
  induction entries with
  | nil => by_cases same : k = key <;> simp [insertDown, same]
  | cons entry rest ih =>
    obtain ⟨k', v⟩ := entry
    rw [insertDown]
    split
    · by_cases same : k = key <;> simp [same]
    · next equal =>
      -- The entry that is replaced had the same key.
      obtain rfl : key = k' := Std.LawfulEqCmp.eq_of_compare equal
      by_cases same : k = key <;> simp [same]
    · next less =>
      by_cases here : k = k'
      · subst here
        have other : k ≠ key := by
          rintro rfl
          simp at less
        simp [other]
      · simp [here, ih]

/-- What is found under a key is what came last under it. -/
theorem find?_ofList [DecidableEq κ] (entries : List (κ × ν)) (k : κ) :
    (ofList entries).find? k = (entries.reverse.find? fun e => k = e.1).map (·.2) := by
  induction entries using List.reverseRecOn with
  | nil => rfl
  | append_singleton entries entry ih =>
    have last : ofList (entries ++ [entry]) = (ofList entries).insert entry.1 entry.2 := by
      rw [ofList, List.foldl_append]
      rfl
    rw [last, find?_insert, ih, List.reverse_append]
    by_cases same : k = entry.1 <;> simp [same]

theorem find?_eq_some [DecidableEq κ] {m : SortedMap κ ν} {k : κ} {value : ν} :
    m.find? k = some value ↔ (k, value) ∈ m.toList := by
  rw [find?_entries, KeyedList.find?_eq_some m.descending.distinct, m.perm_toList.mem_iff]

theorem ext_find? [DecidableEq κ] {m n : SortedMap κ ν} (same : ∀ k, m.find? k = n.find? k) :
    m = n := by
  have members (e : κ × ν) : e ∈ m.entries ↔ e ∈ n.entries := by
    rw [m.perm_toList.mem_iff, n.perm_toList.mem_iff, ← find?_eq_some, ← find?_eq_some, same]
  have perm : m.entries.Perm n.entries :=
    (List.perm_ext_iff_of_nodup (List.Nodup.of_map _ m.descending.distinct)
      (List.Nodup.of_map _ n.descending.distinct)).mpr members
  refine ext (perm.eq_of_pairwise (fun a b _ _ first second => ?_) m.descending n.descending)
  -- No key is below another and above it.
  have below := Std.TransCmp.lt_trans first second
  simp at below

end SortedMap

end ObservationFeed
