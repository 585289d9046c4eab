import ObservationFeed.KeyedList

/-!
# Looking things up in keyed lists

What each operation on a keyed list does to every look-up, and which lists have
distinct keys.  With distinct keys a list may be filtered or mapped entry by
entry without uncovering an older entry of the same key.
-/

namespace ObservationFeed.KeyedList

variable {κ ν μ : Type}

@[simp] theorem keys_nil : keys ([] : List (κ × ν)) = [] := rfl

@[simp] theorem keys_cons (entry : κ × ν) (rest : List (κ × ν)) :
    keys (entry :: rest) = entry.1 :: keys rest := rfl

theorem distinct_nil : Distinct ([] : List (κ × ν)) := List.nodup_nil

theorem distinct_cons {entry : κ × ν} {rest : List (κ × ν)} :
    Distinct (entry :: rest) ↔ entry.1 ∉ keys rest ∧ Distinct rest :=
  List.nodup_cons

theorem mem_keys_of_mem {key : κ} {value : ν} {entries : List (κ × ν)}
    (member : (key, value) ∈ entries) : key ∈ keys entries :=
  List.mem_map_of_mem (f := Prod.fst) member

theorem Distinct.map {entries : List (κ × ν)} (distinct : Distinct entries) (change : κ → ν → μ) :
    Distinct (entries.map fun e => (e.1, change e.1 e.2)) := by
  have same : keys (entries.map fun e => (e.1, change e.1 e.2)) = keys entries := by simp [keys]
  rwa [Distinct, same]

theorem Distinct.filterMap {entries : List (κ × ν)} (distinct : Distinct entries)
    (change : κ → ν → Option μ) :
    Distinct (entries.filterMap fun e => (change e.1 e.2).map fun v => (e.1, v)) := by
  have fewer : (keys (entries.filterMap fun e => (change e.1 e.2).map fun v => (e.1, v))).Sublist
      (keys entries) := by
    induction entries with
    | nil => exact List.Sublist.refl _
    | cons entry rest ih =>
      have ih := ih (distinct_cons.mp distinct).2
      rw [List.filterMap_cons]
      cases change entry.1 entry.2 with
      | none => exact ih.cons _
      | some value => exact ih.cons_cons _
  exact fewer.nodup distinct

theorem length_flatMap_eq_total (measure : ν → Nat) (list : κ × ν → List μ)
    (lengths : ∀ e, (list e).length = measure e.2) (entries : List (κ × ν)) :
    (entries.flatMap list).length = total measure entries := by
  induction entries with
  | nil => rfl
  | cons entry rest ih => rw [List.flatMap_cons, List.length_append, lengths, ih, total]; rfl

variable [DecidableEq κ]

@[simp] theorem find?_nil (key : κ) : find? key ([] : List (κ × ν)) = none := rfl

theorem find?_cons (key : κ) (entry : κ × ν) (rest : List (κ × ν)) :
    find? key (entry :: rest) = if entry.1 = key then some entry.2 else find? key rest := rfl

theorem find?_put (key other : κ) (value : ν) (entries : List (κ × ν)) :
    find? other (put key value entries) =
      if key = other then some value else find? other entries := by
  induction entries with
  | nil => rfl
  | cons entry rest ih =>
    obtain ⟨k, v⟩ := entry
    by_cases same : k = key
    · subst same
      simp only [put, find?_cons, if_true]
      split <;> rfl
    · simp only [put, if_neg same, find?_cons, ih]
      by_cases found : k = other
      · have : key ≠ other := fun h => same (found.trans h.symm)
        simp [found, this]
      · simp [found]

theorem find?_erase (key other : κ) (entries : List (κ × ν)) :
    find? other (erase key entries) = if key = other then none else find? other entries := by
  induction entries with
  | nil => simp [erase]
  | cons entry rest ih =>
    by_cases same : entry.1 = key
    · have dropped : erase key (entry :: rest) = erase key rest := by simp [erase, same]
      rw [dropped, ih, find?_cons, same]
      split <;> rfl
    · have retained : erase key (entry :: rest) = entry :: erase key rest := by simp [erase, same]
      rw [retained, find?_cons, find?_cons, ih]
      by_cases found : entry.1 = other
      · have : key ≠ other := fun h => same (found.trans h.symm)
        simp [found, this]
      · simp [found]

theorem find?_map (key : κ) (entries : List (κ × ν)) (change : κ → ν → μ) :
    find? key (entries.map fun e => (e.1, change e.1 e.2)) = (find? key entries).map (change key) := by
  induction entries with
  | nil => rfl
  | cons entry rest ih =>
    rw [List.map_cons, find?_cons, find?_cons, ih]
    split
    · next here =>
      subst here
      rfl
    · rfl

theorem find?_eq_none {key : κ} {entries : List (κ × ν)} :
    find? key entries = none ↔ key ∉ keys entries := by
  induction entries with
  | nil => simp
  | cons entry rest ih =>
    rw [find?_cons, keys_cons, List.mem_cons, not_or, ← ih]
    by_cases same : entry.1 = key
    · simp [same]
    · simp [same, Ne.symm same]

theorem mem_of_find? {key : κ} {value : ν} {entries : List (κ × ν)}
    (found : find? key entries = some value) : (key, value) ∈ entries := by
  induction entries with
  | nil => cases found
  | cons entry rest ih =>
    rw [find?_cons] at found
    split at found
    next same =>
      cases found
      subst same
      exact List.mem_cons_self
    next => exact List.mem_cons_of_mem _ (ih found)

/-- With distinct keys, exactly the entries are found. -/
theorem find?_eq_some {key : κ} {value : ν} {entries : List (κ × ν)} (distinct : Distinct entries) :
    find? key entries = some value ↔ (key, value) ∈ entries := by
  refine ⟨mem_of_find?, fun member => ?_⟩
  induction entries with
  | nil => cases member
  | cons entry rest ih =>
    obtain ⟨fresh, distinct⟩ := distinct_cons.mp distinct
    rw [find?_cons]
    rcases List.mem_cons.mp member with rfl | member
    · exact if_pos rfl
    · -- If the first entry had this key, the key would be there twice.
      have other : entry.1 ≠ key := by
        rintro rfl
        exact fresh (mem_keys_of_mem member)
      rw [if_neg other]
      exact ih distinct member

/-- With distinct keys, a list that was mapped entry by entry finds the mapped values. -/
theorem find?_filterMap {entries : List (κ × ν)} (distinct : Distinct entries)
    (change : κ → ν → Option μ) (key : κ) :
    find? key (entries.filterMap fun e => (change e.1 e.2).map fun v => (e.1, v)) =
      (find? key entries).bind (change key) := by
  induction entries with
  | nil => rfl
  | cons entry rest ih =>
    obtain ⟨fresh, distinct⟩ := distinct_cons.mp distinct
    have ih := ih distinct
    rw [find?_cons, List.filterMap_cons]
    by_cases same : entry.1 = key
    · subst same
      -- The key occurs once, so dropping its entry uncovers no other.
      have absent : find? entry.1 rest = none := find?_eq_none.mpr fresh
      cases changed : change entry.1 entry.2 with
      | none => simp [changed, ih, absent]
      | some value => simp [changed, find?_cons]
    · rw [if_neg same, ← ih]
      cases change entry.1 entry.2 with
      | none => rfl
      | some value => simp [find?_cons, same]

theorem mem_keys_put {key other : κ} {value : ν} {entries : List (κ × ν)} :
    other ∈ keys (put key value entries) ↔ other = key ∨ other ∈ keys entries := by
  induction entries with
  | nil => simp [put]
  | cons entry rest ih =>
    obtain ⟨k, v⟩ := entry
    by_cases same : k = key
    · simp [put, same]
    · simp only [put, if_neg same, keys_cons, List.mem_cons, ih]
      grind

theorem mem_put {key : κ} {value : ν} {entry : κ × ν} {entries : List (κ × ν)}
    (member : entry ∈ put key value entries) : entry = (key, value) ∨ entry ∈ entries := by
  induction entries with
  | nil => exact .inl (List.mem_singleton.mp member)
  | cons first rest ih =>
    obtain ⟨k, v⟩ := first
    by_cases same : k = key
    · rw [put, if_pos same, same] at member
      exact (List.mem_cons.mp member).imp_right (List.mem_cons_of_mem _)
    · rw [put, if_neg same] at member
      rcases List.mem_cons.mp member with rfl | later
      · exact .inr List.mem_cons_self
      · exact (ih later).imp_right (List.mem_cons_of_mem _)

theorem Distinct.put {entries : List (κ × ν)} (distinct : Distinct entries) (key : κ) (value : ν) :
    Distinct (put key value entries) := by
  induction entries with
  | nil => exact List.pairwise_singleton ..
  | cons entry rest ih =>
    obtain ⟨fresh, tail⟩ := distinct_cons.mp distinct
    obtain ⟨k, v⟩ := entry
    by_cases same : k = key
    · rw [KeyedList.put, if_pos same]
      exact distinct_cons.mpr ⟨fresh, tail⟩
    · rw [KeyedList.put, if_neg same]
      refine distinct_cons.mpr ⟨fun member => ?_, ih tail⟩
      exact (mem_keys_put.mp member).elim same fresh

theorem Distinct.erase {entries : List (κ × ν)} (distinct : Distinct entries) (key : κ) :
    Distinct (erase key entries) :=
  (List.filter_sublist.map Prod.fst).nodup distinct

/-! ## The entries of one key -/

/-- The entries of one key alone. -/
def entriesOf (key : κ) (entries : List (κ × ν)) : List (κ × ν) := entries.filter fun e => e.1 = key

theorem entriesOf_cons_self (key : κ) (value : ν) (rest : List (κ × ν)) :
    entriesOf key ((key, value) :: rest) = (key, value) :: entriesOf key rest :=
  List.filter_cons_of_pos (decide_eq_true rfl)

theorem entriesOf_cons_other {key other : κ} (different : other ≠ key) (value : ν)
    (rest : List (κ × ν)) : entriesOf key ((other, value) :: rest) = entriesOf key rest :=
  List.filter_cons_of_neg (by simpa using different)

theorem find?_entriesOf (key : κ) (entries : List (κ × ν)) :
    find? key (entriesOf key entries) = find? key entries := by
  induction entries with
  | nil => rfl
  | cons entry rest ih =>
    obtain ⟨k, v⟩ := entry
    by_cases same : k = key
    · subst same
      rw [entriesOf_cons_self, find?_cons, find?_cons, if_pos rfl, if_pos rfl]
    · rw [entriesOf_cons_other same, find?_cons, if_neg same, ih]

/-- With distinct keys, the entries of one key among the elements of all values are the elements of
the value that is found. -/
theorem entriesOf_flatMap {entries : List (κ × ν)} (distinct : Distinct entries)
    (elements : ν → List μ) (key : κ) :
    entriesOf key (entries.flatMap fun e => (elements e.2).map fun x => (e.1, x)) =
      (((find? key entries).map elements).getD []).map fun x => (key, x) := by
  induction entries with
  | nil => rfl
  | cons entry rest ih =>
    obtain ⟨fresh, distinct⟩ := distinct_cons.mp distinct
    rw [List.flatMap_cons, entriesOf, List.filter_append, ← entriesOf, ← entriesOf, ih distinct,
      find?_cons]
    by_cases same : entry.1 = key
    · subst same
      simp [entriesOf, find?_eq_none.mpr fresh]
    · simp [entriesOf, same]

theorem entriesOf_put_self (key : κ) (value : ν) (entries : List (κ × ν)) :
    entriesOf key (put key value entries) = put key value (entriesOf key entries) := by
  induction entries with
  | nil => exact entriesOf_cons_self ..
  | cons entry rest ih =>
    obtain ⟨k, v⟩ := entry
    by_cases same : k = key
    · subst same
      rw [put, if_pos rfl, entriesOf_cons_self, entriesOf_cons_self, put, if_pos rfl]
    · rw [put, if_neg same, entriesOf_cons_other same, entriesOf_cons_other same, ih]

theorem entriesOf_put_other {key other : κ} (different : other ≠ key) (value : ν)
    (entries : List (κ × ν)) : entriesOf key (put other value entries) = entriesOf key entries := by
  induction entries with
  | nil => exact entriesOf_cons_other different ..
  | cons entry rest ih =>
    obtain ⟨k, v⟩ := entry
    by_cases same : k = other
    · subst same
      rw [put, if_pos rfl, entriesOf_cons_other different, entriesOf_cons_other different]
    · rw [put, if_neg same]
      by_cases here : k = key
      · subst here
        rw [entriesOf_cons_self, entriesOf_cons_self, ih]
      · rw [entriesOf_cons_other here, entriesOf_cons_other here, ih]

end ObservationFeed.KeyedList
