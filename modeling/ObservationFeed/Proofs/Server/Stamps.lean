import ObservationFeed.Proofs.Server.Entitlement
import ObservationFeed.Proofs.Wire.Response
import ObservationFeed.Site

/-!
# Which responses of a sweep can be written

A sweep stamps its responses with its tick if that is within the signed range,
and leaves the stamp out above it.  The layout of a response has room for every
stamp but the last of that range.  So responses with texts and collections of
admissible size can be written and read back in sweeps at all ticks but one.
-/

namespace ObservationFeed

open Wire

/-! ## Stamps -/

namespace Tick

theorem signed?_eq_some {now : Tick} {n : Int64} :
    now.signed? = some n ↔ n.toInt = now.count := by
  unfold signed?
  have upper := n.toInt_lt
  split
  · next within =>
    have same := Int64.toInt_ofNat_of_lt within
    rw [Option.some_inj, ← Int64.toInt_inj, same, eq_comm]
  · next above => simp; omega

theorem signed?_eq_none {now : Tick} : now.signed? = none ↔ 9223372036854775808 ≤ now.count := by
  unfold signed?
  split <;> simp <;> omega

/-- No tick is carried as absent. -/
theorem carried_signed? (now : Tick) : carried now.signed? = now.signed? := by
  have other : now.signed? ≠ some (-1) := by
    rw [ne_eq, signed?_eq_some]
    have negative : (-1 : Int64).toInt = -1 := by decide
    omega
  rw [carried_eq, if_neg other]

end Tick

/-- A response that is stamped with a tick is written and read back as it is, unless a text or a
collection is too large or the tick is the last of the signed range. -/
theorem Response.travels_iff {r : Response} {now : Tick} (stamped : r.serverTick = now.signed?)
    (place : r.location.partition.utf8ByteSize ≤ maxTextBytes) (fits : r.snapshot.Fits) :
    (∃ bytes, writeResponse r = .ok bytes ∧ responseOfBytes bytes = .ok r) ↔
      now.count ≠ 9223372036854775807 := by
  have last : r.serverTick = some Int64.maxValue ↔ now.count = 9223372036854775807 := by
    rw [stamped, Tick.signed?_eq_some]
    have largest : Int64.maxValue.toInt = 9223372036854775807 := by decide
    omega
  have same : r.carried = r := by
    rw [Response.carried, stamped, Tick.carried_signed?, ← stamped]
  have written : (∃ bytes, writeResponse r = .ok bytes) ↔ now.count ≠ 9223372036854775807 := by
    refine (written_writeResponse r).trans ?_
    simp only [Response.Fits, place, fits, ne_eq, last, true_and]
  rw [← written]
  refine exists_congr fun bytes => and_iff_left_of_imp fun wrote => ?_
  have read := (reads_writeResponse wrote).exactly
  rwa [same] at read

namespace Server

variable {σ : Type} {host : Host σ}

/-! ## Responses -/

/-- The responses that are sent, with the clients they are sent to. -/
def responses (record : List Exchange) : List (List ClientId × Response) :=
  record.filterMap fun
    | .sent clients response _ => some (clients, response)
    | _ => none

theorem mem_responses {record : List Exchange} {clients : List ClientId} {response : Response} :
    (clients, response) ∈ responses record ↔ ∃ answer, .sent clients response answer ∈ record := by
  rw [responses, List.mem_filterMap]
  constructor
  · rintro ⟨x, member, sent⟩
    cases x <;> cases sent
    exact ⟨_, member⟩
  · rintro ⟨answer, member⟩
    exact ⟨_, member, rfl⟩

/-- Every response carries an observation of its location and the stamp of a tick. -/
def Stamped (now : Tick) (record : List Exchange) : Prop :=
  ∀ clients response, (clients, response) ∈ responses record →
    response.serverTick = now.signed? ∧
      .observed response.location true (.ok response.snapshot) ∈ record

variable {now : Tick} {a b : List Exchange}

theorem Stamped.append (first : Stamped now a) (second : Stamped now b) : Stamped now (a ++ b) := by
  intro clients response sent
  rw [responses, List.filterMap_append] at sent
  rcases List.mem_append.mp sent with sent | sent
  · exact (first _ _ sent).imp_right (List.mem_append_left b)
  · exact (second _ _ sent).imp_right (List.mem_append_right a)

theorem stamped_nil : Stamped now [] := by simp [Stamped, responses]

theorem LookUps.stamped (lookUps : LookUps a) : Stamped now a := by
  intro clients response sent
  obtain ⟨answer, member⟩ := mem_responses.mp sent
  exact absurd rfl (lookUps.silent _ member clients response answer)

namespace Sweep

variable (limits : Limits) (now : Tick)

variable {limits now} in
theorem Sweeps.stamped {l : Location} {clients : Clients} {fresh : List Exchange}
    (sweeps : Sweeps limits now l clients fresh) : Stamped now fresh := by
  cases sweeps with
  | looks lookUps => exact lookUps.stamped
  | broadcasts lookUps _ _ broadcasts =>
    refine lookUps.stamped.append ?_
    cases broadcasts <;> simp +contextual [Stamped, responses]

variable (host) in
theorem stamped_asked (t : Table) (s : σ) : Stamped now (asked host limits now t s) := by
  obtain ⟨fresh, swept, -, stamped⟩ :=
    notes_sweepFiled host limits now stamped_nil .append (fun _ _ _ => Sweeps.stamped) s []
  -- The sweep of a table asks what the sweep of its list of locations asks.
  obtain ⟨-, -, states⟩ := run_filed host.noted limits now t (s, [])
  rw [asked, states, swept]
  exact stamped

variable (host) in
/-- Every response of a sweep, whatever the world answers and whoever can be reached, is about an
observation that the sweep has made of the location, and is stamped with the tick up to the end of
the signed range and with none above it.  If its texts and collections are not too large, it is
written and read back as it is exactly if the tick is not the last of the signed range. -/
theorem responses_travel {t : Table} {s : σ} {clients : List ClientId} {response : Response}
    (sent : (clients, response) ∈ responses (asked host limits now t s)) :
    .observed response.location true (.ok response.snapshot) ∈ asked host limits now t s ∧
    (∀ n, response.serverTick = some n ↔ n.toInt = now.count) ∧
    (response.serverTick = none ↔ 9223372036854775808 ≤ now.count) ∧
    (response.location.partition.utf8ByteSize ≤ maxTextBytes → response.snapshot.Fits →
      ((∃ bytes, writeResponse response = .ok bytes ∧ responseOfBytes bytes = .ok response) ↔
        now.count ≠ 9223372036854775807)) := by
  obtain ⟨stamped, observed⟩ := stamped_asked host limits now t s clients response sent
  refine ⟨observed, fun n => ?_, ?_, Response.travels_iff stamped⟩
  · rw [stamped, Tick.signed?_eq_some]
  · rw [stamped, Tick.signed?_eq_none]

/-- A sweep one tick before the end of the signed range, whose response reaches a client in written
form and is read back with its stamp. -/
theorem responses_travel_of_last_carried :
    let view : World Unit := {
      currentTick := pure .zero
      client := fun _ => pure (some ⟨"overworld", ⟨⟨0⟩, ⟨0⟩, ⟨0⟩⟩⟩)
      isLoaded := fun _ => pure true
      hasContainer := fun _ => pure true
      observe := fun _ _ => pure (.ok .empty) }
    let host := Site.host view wireSink
    let limits : Limits := ⟨Limits.defaultRange⟩
    let c : ClientId := ⟨1⟩
    let l : Location := ⟨"overworld", ⟨1, 2, 3⟩⟩
    let now : Tick := .ofNat 9223372036854775806
    let t := Table.empty.update c l fun _ => .single c (.ofNat 5)
    let s : Site Unit Bytes := ⟨(), Mailboxes.empty.connect c⟩
    let response : Response := ⟨l, .empty, some 9223372036854775806⟩
    ([c], response) ∈ responses (asked host limits now t s) ∧
      ∃ bytes, writeResponse response = .ok bytes ∧ responseOfBytes bytes = .ok response ∧
        (run host limits now t s).2.boxes.collect.1 = [(c, bytes)] := by
  intro view host limits c l now t s response
  have sent : ([c], response) ∈ responses (asked host limits now t s) := by
    decide +kernel +zetaReduce
  have fits : response.snapshot.Fits := ⟨by decide, fun _ member => nomatch member⟩
  obtain ⟨-, -, -, travels⟩ := responses_travel host limits now sent
  obtain ⟨bytes, written, read⟩ := (travels (by decide) fits).mpr (by decide)
  have arrived : (run host limits now t s).2.boxes.collect.1.map (fun m => (m.1, Except.ok m.2)) =
      [(c, writeResponse response)] := by
    decide +kernel +zetaReduce
  rw [written] at arrived
  obtain ⟨message, here, same⟩ := List.map_eq_singleton_iff.mp arrived
  obtain ⟨client, body⟩ := Prod.mk.inj same
  have kept : message = (c, bytes) := Prod.ext client (Except.ok.inj body)
  exact ⟨sent, bytes, written, read, kept ▸ here⟩

/-- A sweep at the last tick of the signed range makes a response that is too late to be written and
too early to go without a stamp.  The client that is due gets nothing. -/
theorem last_signed_tick_not_written :
    let view : World Unit := {
      currentTick := pure .zero
      client := fun _ => pure (some ⟨"overworld", ⟨⟨0⟩, ⟨0⟩, ⟨0⟩⟩⟩)
      isLoaded := fun _ => pure true
      hasContainer := fun _ => pure true
      observe := fun _ _ => pure (.ok .empty) }
    let host := Site.host view wireSink
    let limits : Limits := ⟨Limits.defaultRange⟩
    let c : ClientId := ⟨1⟩
    let l : Location := ⟨"overworld", ⟨1, 2, 3⟩⟩
    let now : Tick := .ofNat 9223372036854775807
    let t := Table.empty.update c l fun _ => .single c (.ofNat 5)
    let s : Site Unit Bytes := ⟨(), Mailboxes.empty.connect c⟩
    let swept := run host limits now t s
    let response : Response := ⟨l, .empty, some Int64.maxValue⟩
    ([c], response) ∈ responses (asked host limits now t s) ∧
      writeResponse response = .error (.tickOutOfRange Int64.maxValue) ∧
      swept.1.2.tally = ⟨1, 1, 0, 0, 1⟩ ∧ swept.2.boxes.collect.1 = [] := by
  intro view host limits c l now t s swept response
  exact ⟨by decide +kernel +zetaReduce, rfl, by decide +kernel +zetaReduce,
    by decide +kernel +zetaReduce⟩

end Sweep

end Server

end ObservationFeed
