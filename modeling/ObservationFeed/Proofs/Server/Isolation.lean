import ObservationFeed.Proofs.Server.Balance
import ObservationFeed.Proofs.Server.Deliveries
import ObservationFeed.Proofs.Server.Stamps

/-!
# Failures at some locations

A container that cannot be observed or a message that is not sent concerns its
own location only.  Two sweeps of one table, in worlds that give the same
answers to all look-ups, may see any failures and any two sinks: they leave the
same registrations, and what is sent about a location is what that location
showed.

A sweep reports as many failures as calls failed in it.  In a world that stands
still no location has more than one of these, so as many locations failed.
-/

namespace ObservationFeed.Server

/-- An observation that failed, or a message that was not sent to all of its clients. -/
def Exchange.failed : Exchange → Bool
  | .observed _ _ (.error _) => true
  | .sent _ _ (.error _) => true
  | _ => false

/-- What the observations showed, in order. -/
def observations (record : List Exchange) : List (Except ObserveError Snapshot) :=
  record.filterMap fun
    | .observed _ _ shown => some shown
    | _ => none

/-! ## Failed calls -/

theorem Exchange.served_of_failed {x : Exchange} (failed : x.failed = true) :
    x.served?.isSome = true := by
  cases x with
  | observed | sent => rfl
  | tick | client | loaded | container => cases failed

theorem LookUps.countP_failed {record : List Exchange} (lookUps : LookUps record) :
    record.countP Exchange.failed = 0 := by
  refine List.countP_eq_zero.mpr fun x member => ?_
  have looks := lookUps x member
  cases x with
  | observed | sent => cases looks
  | tick | client | loaded | container => exact Bool.false_ne_true

/-- If no location has two failed calls, as many locations have one as calls failed. -/
theorem counts_failed {record : List Exchange}
    (once : ∀ l, (callsAt l record).countP Exchange.failed ≤ 1) :
    Counts (fun l => ∃ x ∈ callsAt l record, x.failed = true)
      (record.countP Exchange.failed) := by
  refine ⟨(record.filter Exchange.failed).filterMap Exchange.served?, ?_, fun l => ?_, ?_⟩
  · refine List.nodup_iff_count.mpr fun l => ?_
    rw [List.count_filterMap, List.countP_filter]
    refine Nat.le_trans (Nat.le_of_eq ?_) (once l)
    rw [callsAt, List.countP_filter]
    refine List.countP_congr fun x _ => ?_
    simp [and_comm]
  · simp only [callsAt, List.mem_filterMap, List.mem_filter, decide_eq_true_eq]
    exact exists_congr fun x => and_right_comm
  · rw [List.length_filterMap_eq_countP, List.countP_filter]
    refine List.countP_congr fun x _ => ?_
    rw [Bool.and_eq_true]
    exact ⟨fun both => both.2, fun failed => ⟨Exchange.served_of_failed failed, failed⟩⟩

namespace Sweep

variable {σ τ : Type} (host : Host σ) (limits : Limits) (now : Tick)

theorem notes_broadcast_failures (l : Location) (due : List ClientId) :
    Notes host (broadcast host now l due) (broadcast host.noted now l due) fun outcome fresh =>
      (tallyOf due outcome).failures = fresh.countP Exchange.failed := by
  refine (notes_hasContainer l).bind fun held => ?_
  cases held with
  | false =>
    refine (notes_pure _).imp ?_
    rintro _ _ ⟨rfl, rfl⟩ _ rfl
    rfl
  | true =>
    refine (notes_observe l true).bind fun observation => ?_
    cases observation with
    | error cause =>
      refine (notes_pure _).imp ?_
      rintro _ _ ⟨rfl, rfl⟩ _ rfl _ rfl
      rfl
    | ok snapshot =>
      refine (notes_send due _).bind fun answer => ?_
      cases answer with
      | error _ | ok _ =>
        refine (notes_pure _).imp ?_
        rintro _ _ ⟨rfl, rfl⟩ _ rfl _ rfl _ rfl
        rfl

theorem notes_sweepLocation_failures (l : Location) (clients : Clients) :
    Notes host (sweepLocation host limits now l clients)
      (sweepLocation host.noted limits now l clients) fun swept fresh =>
        swept.2.failures = fresh.countP Exchange.failed := by
  cases clients with
  | nil =>
    refine (notes_pure _).imp ?_
    rintro _ _ ⟨rfl, rfl⟩
    rfl
  | cons entry rest =>
    refine Notes.bind (looks_isInteractable l) fun ok => ?_
    cases ok with
    | false =>
      refine (notes_pure _).imp ?_
      rintro _ _ ⟨rfl, rfl⟩ before lookUps
      rw [List.append_nil, lookUps.countP_failed]
    | true =>
      refine (notes_checkClients_passed limits now l (entry :: rest)).bind fun checked => ?_
      by_cases nobody : checked.due.isEmpty = true
      · simp only [nobody, if_true]
        refine (notes_pure _).bind fun outcome => (notes_pure _).imp ?_
        rintro _ _ ⟨rfl, rfl⟩ _ ⟨rfl, rfl⟩ looks ⟨looked, -⟩ before lookUps
        rw [List.append_nil, List.append_nil, (lookUps.append looked).countP_failed]
        rfl
      · simp only [nobody]
        refine (notes_broadcast_failures host now l checked.due).map ?_
        rintro outcome asked failures looks ⟨looked, -⟩ before lookUps
        rw [← List.append_assoc, List.countP_append, (lookUps.append looked).countP_failed]
        simp only [Tally.add, failures]

theorem notes_sweepFiled_failures (filed : List (Location × Clients)) :
    Notes host (sweepFiled host limits now filed) (sweepFiled host.noted limits now filed)
      fun swept fresh => swept.2.failures = fresh.countP Exchange.failed := by
  induction filed with
  | nil =>
    refine (notes_pure _).imp ?_
    rintro _ _ ⟨rfl, rfl⟩
    rfl
  | cons entry rest ih =>
    refine (notes_sweepLocation_failures host limits now entry.1 entry.2).bind fun here => ?_
    refine ih.map ?_
    rintro others after later before first
    rw [List.countP_append, ← first, ← later]
    rfl

/-- In any world, a sweep reports as many failures as calls failed. -/
theorem failures_run (t : Table) (s : σ) :
    (run host limits now t s).1.2.tally.failures =
      (asked host limits now t s).countP Exchange.failed := by
  obtain ⟨fresh, swept, -, failures⟩ := notes_sweepFiled_failures host limits now t.filed s []
  obtain ⟨-, tally, -⟩ := run_filed host limits now t s
  obtain ⟨-, -, states⟩ := run_filed host.noted limits now t (s, [])
  rw [tally, failures, asked, states, swept]
  rfl

/-! ## One location -/

variable {host limits now}

theorem Served.countP_failed_le {l : Location} {due : List ClientId} {calls : List Exchange}
    (served : Served now l due calls) : calls.countP Exchange.failed ≤ 1 := by
  cases served with
  | idle => exact Nat.zero_le 1
  | unobserved => exact Nat.le_refl 1
  | sent snapshot answer =>
    cases answer with
    | error => exact Nat.le_refl 1
    | ok => exact Nat.zero_le 1

theorem Served.length_observations {l : Location} {due : List ClientId} {calls : List Exchange}
    (served : Served now l due calls) :
    (observations calls).length = if due = [] then 0 else 1 := by
  cases served with
  | idle nobody => rw [if_pos nobody]; rfl
  | unobserved cause some => rw [if_neg some]; rfl
  | sent snapshot answer some => rw [if_neg some]; rfl

/-- The responses about a location are made from what it showed. -/
theorem Served.responses {l : Location} {due : List ClientId} {calls : List Exchange}
    (served : Served now l due calls) :
    responses calls = (observations calls).filterMap fun shown =>
      shown.toOption.map fun snapshot => (due, ⟨l, snapshot, now.signed?⟩) := by
  cases served <;> rfl

/-- A container that always shows the same is seen to show it. -/
theorem Served.observations_eq {l : Location} {due : List ClientId} {calls : List Exchange}
    {shown : Except ObserveError Snapshot} (served : Served now l due calls)
    (given : ∀ x ∈ calls, x.GivenBy host)
    (shows : ∀ state, (host.observe l true state).1 = shown) :
    observations calls = if due = [] then [] else [shown] := by
  cases served with
  | idle nobody => rw [if_pos nobody]; rfl
  | unobserved cause some =>
    obtain ⟨state, saw⟩ := given _ List.mem_cons_self
    rw [if_neg some, ← shows state, saw]
    rfl
  | sent snapshot answer some =>
    obtain ⟨state, saw⟩ := given _ List.mem_cons_self
    rw [if_neg some, ← shows state, saw]
    rfl

/-! ## All locations -/

/-- Each location with a due client is observed once and no other is, what is sent about a location
is what it showed, and failures are as many as locations with a due client and a failed call. -/
structure Isolated (now : Tick) (due : Location → List ClientId) (record : List Exchange)
    (failures : Nat) : Prop where
  observed : ∀ l, (observations (callsAt l record)).length = if due l = [] then 0 else 1
  responses : ∀ l, responses (callsAt l record) =
    (observations (callsAt l record)).filterMap fun shown =>
      shown.toOption.map fun snapshot => (due l, ⟨l, snapshot, now.signed?⟩)
  failures : Counts (fun l => due l ≠ [] ∧ ∃ x ∈ callsAt l record, x.failed = true) failures

theorem isolated_of_served {due : Location → List ClientId} {record : List Exchange}
    (served : ∀ l, Served now l (due l) (callsAt l record)) :
    Isolated now due record (record.countP Exchange.failed) where
  observed l := (served l).length_observations
  responses l := (served l).responses
  failures := by
    refine (counts_failed fun l => (served l).countP_failed_le).congr fun l => ?_
    refine (and_iff_right_of_imp ?_).symm
    rintro ⟨x, member, -⟩ nobody
    -- Where no client is due there are no calls.
    have calls := served l
    generalize callsAt l record = some at calls member
    cases calls with
    | idle => cases member
    | unobserved _ owed | sent _ _ owed => exact owed nobody

variable (host limits now) in
/-- In a world that stands still, what a sweep leaves is a matter of the answers alone, and its
calls at each location are served to the clients that are due by these answers. -/
theorem served_run {answers : Answers} {t : Table} (proper : t.Proper) (s : σ)
    (still : Still answers (asked host limits now t s)) :
    (run host limits now t s).1.1 = leftOfTable limits now answers t ∧
      (∀ x ∈ asked host limits now t s, x.GivenBy host) ∧
      ∀ l, Served now l (dueClients limits now answers l (t.clients l))
        (callsAt l (asked host limits now t s)) := by
  obtain ⟨fresh, same, given, determined⟩ := notes_run host limits now answers proper s []
  have record : asked host limits now t s = fresh := by rw [asked, same, List.nil_append]
  rw [record] at still ⊢
  exact ⟨(determined still).1, given, (determined still).2⟩

/-- Two sweeps of a table, in worlds that give the same answers to all look-ups but may fail to
observe and fail to send wherever they like, leave the same table and count the same locations and
dropped registrations.  What is sent about a location is in both a matter of what its own container
showed, so it is the same if its container shows the same, and as many failures are reported as
there are locations with a due client that could not be observed or served. -/
theorem failures_isolated (host : Host σ) (other : Host τ) (limits : Limits) (now : Tick)
    (answers : Answers) {t : Table} (proper : t.Proper) (s : σ) (s' : τ)
    (still : Still answers (asked host limits now t s))
    (stillToo : Still answers (asked other limits now t s')) :
    let due := fun l => dueClients limits now answers l (t.clients l)
    let one := (run host limits now t s).1
    let two := (run other limits now t s').1
    let record := asked host limits now t s
    let record' := asked other limits now t s'
    (one.1 = two.1 ∧ one.2.tally.locations = two.2.tally.locations ∧
      one.2.tally.removed = two.2.tally.removed) ∧
    Isolated now due record one.2.tally.failures ∧
    Isolated now due record' two.2.tally.failures ∧
    ∀ l shown, (∀ state, (host.observe l true state).1 = shown) →
      (∀ state, (other.observe l true state).1 = shown) →
        responses (callsAt l record) = responses (callsAt l record') := by
  intro due one two record record'
  obtain ⟨left, given, served⟩ := served_run host limits now proper s still
  obtain ⟨leftToo, givenToo, servedToo⟩ := served_run other limits now proper s' stillToo
  have same : one.1 = two.1 := left.trans leftToo.symm
  have balance : Balanced _ one.1.registrationCount _ one.2.tally :=
    balanced_run host limits now t s
  have balanceToo : Balanced _ two.1.registrationCount _ two.2.tally :=
    balanced_run other limits now t s'
  have calls {α : Type} {program : Host α} {asked : List Exchange} (l : Location)
      (given : ∀ x ∈ asked, x.GivenBy program) : ∀ x ∈ callsAt l asked, x.GivenBy program :=
    fun x member => given x (List.mem_filter.mp member).1
  refine ⟨⟨same, balance.locations.trans balanceToo.locations.symm, ?_⟩, ?_, ?_, ?_⟩
  · have removed := balance.removed.trans balanceToo.removed.symm
    rw [same] at removed
    exact Nat.add_right_cancel removed
  · rw [failures_run host limits now t s]
    exact isolated_of_served served
  · rw [failures_run other limits now t s']
    exact isolated_of_served servedToo
  · intro l shown shows showsToo
    rw [(served l).responses, (servedToo l).responses,
      (served l).observations_eq (calls l given) shows,
      (servedToo l).observations_eq (calls l givenToo) showsToo]

/-- A container that cannot be observed in one sweep, and a sink that does not reach the clients of
the other location in the other. -/
theorem failures_isolated_of_either :
    let here : Location := ⟨"overworld", ⟨1, 2, 3⟩⟩
    let there : Location := ⟨"overworld", ⟨4, 2, 3⟩⟩
    let c : ClientId := ⟨1⟩
    let view : ClientView := ⟨"overworld", ⟨⟨0⟩, ⟨0⟩, ⟨0⟩⟩⟩
    let host : Host Unit := {
      currentTick := pure .zero
      client := fun _ => pure (some view)
      isLoaded := fun _ => pure true
      hasContainer := fun _ => pure true
      observe := fun l _ => pure (if l = here then .error (.unavailable "empty") else .ok .empty)
      send := fun _ _ => pure (.ok ()) }
    let other : Host Unit := { host with
      observe := fun _ _ => pure (.ok .empty)
      send := fun _ response =>
        pure (if response.location = there then .error .closed else .ok ()) }
    let limits : Limits := ⟨Limits.defaultRange⟩
    let now : Tick := .ofNat 30
    let t := (Table.empty.update c here fun _ => .single c (.ofNat 5)).update c there fun _ =>
      .subscription c (.clamp 20) .zero 100
    (run host limits now t ()).1.1 = (run other limits now t ()).1.1 ∧
      (run host limits now t ()).1.2.tally = ⟨2, 1, 1, 1, 1⟩ ∧
      (run other limits now t ()).1.2.tally = ⟨2, 1, 1, 1, 1⟩ ∧
      responses (callsAt there (asked host limits now t ())) =
        responses (callsAt there (asked other limits now t ())) := by
  intro here there c view host other limits now t
  let answers : Answers := ⟨fun _ => some view, fun _ => true, fun _ => true⟩
  have proper : t.Proper := (Table.proper_empty.update c here _).update c there _
  have still : Still answers (asked host limits now t ()) :=
    still_asked host limits now proper () (fun _ _ => rfl) (fun _ _ => rfl) fun _ _ => rfl
  have stillToo : Still answers (asked other limits now t ()) :=
    still_asked other limits now proper () (fun _ _ => rfl) (fun _ _ => rfl) fun _ _ => rfl
  obtain ⟨⟨same, -, -⟩, -, -, alike⟩ :=
    failures_isolated host other limits now answers proper () () still stillToo
  exact ⟨same, by decide +kernel +zetaReduce, by decide +kernel +zetaReduce,
    alike there (.ok .empty) (fun _ => rfl) fun _ => rfl⟩

end Sweep

end ObservationFeed.Server
