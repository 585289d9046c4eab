import Mathlib.Data.List.Dedup
import Mathlib.Data.List.DropRight
import ObservationFeed.Observation.Recorder
import ObservationFeed.Proofs.SortedMap
import ObservationFeed.Wire.Response

/-!
# What a report leaves

Of the entries of a report those count that follow its last clearing.  A source
is listed if it was announced or recorded for among them, and what is filed
under a source and an attribute tuple is the point of the last record for the
two.  An observation is settled by these facts, so reports that agree in them
leave the same observation, in whatever order their entries came.
-/

namespace ObservationFeed

namespace Snapshot

variable {s t : Snapshot}

/-- The source is listed, with points or without. -/
def Lists (s : Snapshot) (k : SourceKey) : Prop := (s.sources.find? k).isSome

/-- The point that is filed under a source and an attribute tuple. -/
def point? (s : Snapshot) (k : SourceKey) (a : Attributes) : Option Point := (s.points k).find? a

/-! ## One entry -/

theorem lists_announce (s : Snapshot) (k other : SourceKey) :
    (s.announce k).Lists other ↔ other = k ∨ s.Lists other := by
  rw [Lists, announce, SortedMap.find?_insert]
  by_cases same : other = k <;> simp [same, Lists]

theorem point?_announce (s : Snapshot) (k other : SourceKey) (a : Attributes) :
    (s.announce k).point? other a = s.point? other a := by
  rw [point?, points, announce, SortedMap.find?_insert]
  by_cases same : other = k <;> simp [same, point?, points]

theorem lists_record (s : Snapshot) (k : SourceKey) (a : Attributes) (p : Point)
    (other : SourceKey) : (s.record k a p).Lists other ↔ other = k ∨ s.Lists other := by
  rw [Lists, record, SortedMap.find?_insert]
  by_cases same : other = k <;> simp [same, Lists]

theorem point?_record (s : Snapshot) (k : SourceKey) (a : Attributes) (p : Point)
    (other : SourceKey) (b : Attributes) :
    (s.record k a p).point? other b = if (other, b) = (k, a) then some p else s.point? other b := by
  rw [point?, points, record, SortedMap.find?_insert]
  by_cases same : other = k
  · simp [same, SortedMap.find?_insert, point?]
  · simp [same, point?, points]

/-! ## The whole -/

/-- An observation is settled by which sources it lists and what it files. -/
theorem ext_view (lists : ∀ k, s.Lists k ↔ t.Lists k)
    (points : ∀ k a, s.point? k a = t.point? k a) : s = t := by
  obtain ⟨sources⟩ := s
  obtain ⟨others⟩ := t
  refine congrArg Snapshot.mk (SortedMap.ext_find? fun k => ?_)
  have listed := lists k
  have filed := points k
  simp only [Lists, point?, Snapshot.points] at listed filed
  cases found : sources.find? k with
  | none =>
    have absent : others.find? k = none := by simpa [found] using listed
    exact absent.symm
  | some here =>
    obtain ⟨there, present⟩ : ∃ there, others.find? k = some there := by
      simpa [found, Option.isSome_iff_exists] using listed
    simp only [found, present, Option.getD_some] at filed
    rw [present, SortedMap.ext_find? filed]

/-- The sources and attribute tuples under which points are filed. -/
def filed (s : Snapshot) : List (SourceKey × Attributes) :=
  s.sources.toList.flatMap fun source => source.2.toList.map fun entry => (source.1, entry.1)

theorem length_filed (s : Snapshot) : s.filed.length = s.pointCount :=
  KeyedList.length_flatMap_eq_total SortedMap.size _ (fun source => by simp) _

theorem mem_filed {k : SourceKey} {a : Attributes} :
    (k, a) ∈ s.filed ↔ ∃ p, s.point? k a = some p := by
  simp only [filed, List.mem_flatMap, List.mem_map, point?, points]
  constructor
  · rintro ⟨⟨k, here⟩, listed, ⟨a, p⟩, entry, same⟩
    cases same
    rw [SortedMap.find?_eq_some.mpr listed]
    exact ⟨p, SortedMap.find?_eq_some.mpr entry⟩
  · rintro ⟨p, found⟩
    cases listed : s.sources.find? k with
    | none => simp [listed] at found
    | some here =>
      rw [listed] at found
      exact ⟨(k, here), SortedMap.find?_eq_some.mp listed, (a, p),
        SortedMap.find?_eq_some.mp found, rfl⟩

theorem nodup_filed (s : Snapshot) : s.filed.Nodup := by
  -- Two places differ in their source or, within one, in their attribute tuple.
  refine List.pairwise_flatMap.mpr ⟨fun source _ => List.pairwise_map.mpr ?_, ?_⟩
  · exact (List.pairwise_map.mp source.2.distinct_toList).imp fun different same =>
      different (Prod.mk.inj same).2
  · refine (List.pairwise_map.mp s.sources.distinct_toList).imp ?_
    intro source other different a first b second same
    obtain ⟨_, _, rfl⟩ := List.mem_map.mp first
    obtain ⟨_, _, rfl⟩ := List.mem_map.mp second
    exact different (Prod.mk.inj same).1

end Snapshot

/-! ## Reports -/

/-- The source that an entry announces. -/
def RecordEntry.announces? : RecordEntry → Option SourceKey
  | announce k => some k
  | _ => none

/-- The point that an entry records, and under what. -/
def RecordEntry.records? : RecordEntry → Option ((SourceKey × Attributes) × Point)
  | record k a p => some ((k, a), p)
  | _ => none

namespace Recorder

/-- The entries after the last clearing. -/
def current (entries : List RecordEntry) : List RecordEntry := entries.rtakeWhile (· ≠ .clear)

def announced (entries : List RecordEntry) : List SourceKey :=
  (current entries).filterMap RecordEntry.announces?

def recorded (entries : List RecordEntry) : List ((SourceKey × Attributes) × Point) :=
  (current entries).filterMap RecordEntry.records?

/-- The point of the last record for a source and an attribute tuple. -/
def last? (entries : List RecordEntry) (k : SourceKey) (a : Attributes) : Option Point :=
  ((recorded entries).reverse.find? fun r => r.1 = (k, a)).map (·.2)

theorem current_concat (entries : List RecordEntry) (e : RecordEntry) :
    current (entries ++ [e]) = if e = .clear then [] else current entries ++ [e] := by
  rw [current, List.rtakeWhile_concat]
  by_cases clears : e = .clear <;> simp [clears, current]

theorem announced_concat (entries : List RecordEntry) (e : RecordEntry) :
    announced (entries ++ [e]) =
      if e = .clear then [] else announced entries ++ e.announces?.toList := by
  rw [announced, current_concat]
  split
  · rfl
  · rw [List.filterMap_append]
    cases e <;> rfl

theorem recorded_concat (entries : List RecordEntry) (e : RecordEntry) :
    recorded (entries ++ [e]) =
      if e = .clear then [] else recorded entries ++ e.records?.toList := by
  rw [recorded, current_concat]
  split
  · rfl
  · rw [List.filterMap_append]
    cases e <;> rfl

theorem run_concat (entries : List RecordEntry) (e : RecordEntry) :
    run (entries ++ [e]) = apply (run entries) e := by
  rw [run, applyAll, List.foldl_append]
  rfl

theorem lists_run (entries : List RecordEntry) (k : SourceKey) :
    (run entries).Lists k ↔ k ∈ announced entries ∨ ∃ a p, ((k, a), p) ∈ recorded entries := by
  induction entries using List.reverseRecOn with
  | nil => exact iff_of_false nofun (by simp [announced, recorded, current])
  | append_singleton entries e ih =>
    rw [run_concat, announced_concat, recorded_concat]
    cases e with
    | announce there =>
      rw [apply, Snapshot.lists_announce, ih]
      simp only [reduceCtorEq, if_false, RecordEntry.announces?, RecordEntry.records?,
        Option.toList_some, Option.toList_none, List.append_nil, List.mem_append,
        List.mem_singleton]
      exact or_comm.trans or_right_comm
    | record there b q =>
      have fresh : (∃ a p, ((k, a), p) ∈ recorded entries ++ [((there, b), q)]) ↔
          (∃ a p, ((k, a), p) ∈ recorded entries) ∨ k = there := by
        simp [exists_or]
      rw [apply, Snapshot.lists_record, ih]
      simp only [reduceCtorEq, if_false, RecordEntry.announces?, RecordEntry.records?,
        Option.toList_some, Option.toList_none, List.append_nil, fresh]
      exact or_comm.trans or_assoc
    | clear => exact iff_of_false nofun (by simp)

theorem point?_run (entries : List RecordEntry) (k : SourceKey) (a : Attributes) :
    (run entries).point? k a = last? entries k a := by
  induction entries using List.reverseRecOn with
  | nil => rfl
  | append_singleton entries e ih =>
    rw [run_concat, last?, recorded_concat]
    cases e with
    | announce there =>
      rw [apply, Snapshot.point?_announce, ih]
      simp only [reduceCtorEq, if_false, RecordEntry.records?, Option.toList_none, List.append_nil]
      rfl
    | record there b q =>
      rw [apply, Snapshot.point?_record, ih]
      simp only [reduceCtorEq, if_false, RecordEntry.records?, Option.toList_some,
        List.reverse_append, List.reverse_singleton, List.singleton_append, List.find?_cons]
      by_cases same : (k, a) = (there, b)
      · simp [same]
      · simp [same, Ne.symm same, last?]
    | clear => rfl

/-- Two reports leave the same observation exactly if they list the same sources and end with the
same record under each source and attribute tuple. -/
theorem run_eq_run_iff {entries others : List RecordEntry} :
    run entries = run others ↔ (∀ k, (run entries).Lists k ↔ (run others).Lists k) ∧
      ∀ k a, last? entries k a = last? others k a := by
  constructor
  · intro same
    refine ⟨fun k => by rw [same], fun k a => ?_⟩
    rw [← point?_run, ← point?_run, same]
  · rintro ⟨lists, lasts⟩
    refine Snapshot.ext_view lists fun k a => ?_
    rw [point?_run, point?_run, lasts]

theorem last?_eq_some {entries : List RecordEntry} {k : SourceKey} {a : Attributes} :
    (∃ p, last? entries k a = some p) ↔ ∃ p, ((k, a), p) ∈ recorded entries := by
  rw [last?]
  constructor
  · rintro ⟨p, found⟩
    obtain ⟨⟨place, p⟩, here, rfl⟩ := Option.map_eq_some_iff.mp found
    obtain rfl : place = (k, a) := by simpa using List.find?_some here
    exact ⟨p, List.mem_reverse.mp (List.mem_of_find?_eq_some here)⟩
  · rintro ⟨p, member⟩
    have found : ((recorded entries).reverse.find? fun r => r.1 = (k, a)).isSome :=
      List.find?_isSome.mpr ⟨_, List.mem_reverse.mpr member, decide_eq_true rfl⟩
    obtain ⟨r, here⟩ := Option.isSome_iff_exists.mp found
    exact ⟨r.2, by rw [here]; rfl⟩

/-- After any report, the sources listed are those announced or recorded for since the last
clearing, each source and attribute tuple holds the point of the last record for it and nothing of
those before, and the points are as many as there are sources and tuples recorded for.  So two
reports that announce the same sources and end with the same records leave the same observation,
which is written in the same bytes. -/
theorem last_record_stays (entries : List RecordEntry) :
    (∀ k, ((run entries).sources.find? k).isSome ↔
      k ∈ announced entries ∨ ∃ a p, ((k, a), p) ∈ recorded entries) ∧
    (∀ k a, ((run entries).points k).find? a = last? entries k a) ∧
    (run entries).pointCount = ((recorded entries).map Prod.fst).dedup.length ∧
    ∀ others, (∀ k, k ∈ announced entries ↔ k ∈ announced others) →
      (∀ k a, last? entries k a = last? others k a) →
      run entries = run others ∧ ∀ l tick,
        Wire.writeResponse ⟨l, run entries, tick⟩ = Wire.writeResponse ⟨l, run others, tick⟩ := by
  refine ⟨lists_run entries, point?_run entries, ?_, fun others announces lasts => ?_⟩
  · have perm : (run entries).filed.Perm ((recorded entries).map Prod.fst).dedup := by
      refine (List.perm_ext_iff_of_nodup (Snapshot.nodup_filed _) (List.nodup_dedup _)).mpr ?_
      rintro ⟨k, a⟩
      simp only [Snapshot.mem_filed, point?_run, last?_eq_some, List.mem_dedup, List.mem_map]
      constructor
      · rintro ⟨p, member⟩
        exact ⟨_, member, rfl⟩
      · rintro ⟨⟨_, p⟩, member, rfl⟩
        exact ⟨p, member⟩
    rw [← Snapshot.length_filed, perm.length_eq]
  · have lists (k : SourceKey) : (run entries).Lists k ↔ (run others).Lists k := by
      simp only [lists_run, announces, ← last?_eq_some, lasts]
    have same := run_eq_run_iff.mpr ⟨lists, lasts⟩
    exact ⟨same, fun l tick => by rw [same]⟩

/-- A report that clears, records a level twice and announces a source first, and one that does the
same in another order and records the level once. -/
theorem last_record_stays_of_reordered :
    let idle : SourceKey := ⟨"idle", 0⟩
    let tank : SourceKey := ⟨"tank", 2⟩
    let water : Attributes := [⟨"fluid", .text "water"⟩]
    let half : Point := .both ⟨0x3fe0000000000000⟩ 500
    let entries : List RecordEntry := [.record idle [] (.long 7), .clear, .announce idle,
      .record tank water (.long 1000), .record tank [] (.long 2), .record tank water half]
    let others : List RecordEntry :=
      [.record tank water half, .record tank [] (.long 2), .announce idle]
    run entries = run others ∧ (run entries).pointCount = 2 ∧
      ((run entries).points tank).find? water = some half := by
  intro idle tank water half entries others
  obtain ⟨-, points, count, agrees⟩ := last_record_stays entries
  have lasts (k : SourceKey) (a : Attributes) : last? entries k a = last? others k a := by
    have first : recorded entries =
      [((tank, water), .long 1000), ((tank, []), .long 2), ((tank, water), half)] := rfl
    have second : recorded others = [((tank, water), half), ((tank, []), .long 2)] := rfl
    have apart : ((tank, []) : SourceKey × Attributes) ≠ (tank, water) := by decide
    rw [last?, last?, first, second]
    by_cases level : (k, a) = (tank, water)
    · simp [level, apart]
    · by_cases total : (k, a) = (tank, [])
      · simp [total, Ne.symm apart]
      · simp [Ne.symm level, Ne.symm total]
  have same := (agrees others (fun k => Iff.rfl) lasts).1
  exact ⟨same, by rw [count]; decide +kernel, points tank water⟩

end Recorder

end ObservationFeed
