import ObservationFeed.Proofs.Client.CleanupTimer

/-!
# Timers under any interleaving

Arming and disarming a timer and the moves of its task are done one at a time,
in any order, while the clock goes on.  What was done to the timer and when it
fired is put down, and the deadline of the timer is a matter of the last thing
put down.  Together with `Orderly` this is kept by every move, so a timer fires
only after the window of an arming that nothing has followed, and the task that
will see to the deadline is always there.

The scope of the tasks goes on all the time, so no task ends for that reason.
-/

namespace ObservationFeed.CleanupTimer

/-- What is put down of a timer. -/
inductive Deed where
  | armed (time : Nat)
  | disarmed (time : Nat)
  | fired (time : Nat)

/-- What a timer may be at a time after some deeds, in any interleaving of calls and moves. -/
inductive Runs (window : Nat) : List Deed → Nat → CleanupTimer → Prop where
  | start (now : Nat) : Runs window [] now (ofWindow window)
  | pass {past : List Deed} {now later : Nat} {t : CleanupTimer} :
      Runs window past now t → now ≤ later → Runs window past later t
  | arm {past : List Deed} {now : Nat} {t : CleanupTimer} (scope : Nat) :
      Runs window past now t → Runs window (past ++ [.armed now]) now (t.arm now scope)
  | disarm {past : List Deed} {now : Nat} {t : CleanupTimer} :
      Runs window past now t → Runs window (past ++ [.disarmed now]) now t.disarm
  | read {past : List Deed} {now : Nat} {t next : CleanupTimer} (i : Nat) :
      Runs window past now t → t.read? i = some next → Runs window past now next
  | rereads {past : List Deed} {now : Nat} {t next : CleanupTimer} (i : Nat) :
      Runs window past now t → t.wake? now i = some (false, next) → Runs window past now next
  | fires {past : List Deed} {now : Nat} {t next : CleanupTimer} (i : Nat) :
      Runs window past now t → t.wake? now i = some (true, next) →
      Runs window (past ++ [.fired now]) now next

/-- The deadline that a timer has after some deeds. -/
def deadlineAfter (window : Nat) (past : List Deed) : Option Nat :=
  match past.getLast? with
  | some (.armed since) => some (since + window)
  | _ => none

/-- Whenever the timer has fired, it was armed right before, at least a window ago. -/
def Punctual (window : Nat) (past : List Deed) : Prop :=
  ∀ before time after, past = before ++ .fired time :: after →
    ∃ earlier since, before = earlier ++ [.armed since] ∧ since + window ≤ time

variable {window now : Nat} {past : List Deed} {t : CleanupTimer}

theorem deadlineAfter_concat (past : List Deed) (deed : Deed) :
    deadlineAfter window (past ++ [deed]) = match deed with
      | .armed since => some (since + window)
      | _ => none := by
  rw [deadlineAfter, List.getLast?_concat]
  cases deed <;> rfl

theorem deadlineAfter_eq_some {d : Nat} (armed : deadlineAfter window past = some d) :
    ∃ earlier since, past = earlier ++ [.armed since] ∧ since + window = d := by
  rcases List.eq_nil_or_concat past with rfl | ⟨earlier, deed, rfl⟩
  · cases armed
  · rw [List.concat_eq_append, deadlineAfter_concat] at armed
    cases deed with
    | armed since => exact ⟨earlier, since, List.concat_eq_append, Option.some.inj armed⟩
    | disarmed | fired => cases armed

theorem Punctual.concat (punctual : Punctual window past) {deed : Deed}
    (fires : ∀ time, deed = .fired time →
      ∃ earlier since, past = earlier ++ [.armed since] ∧ since + window ≤ time) :
    Punctual window (past ++ [deed]) := by
  intro before time after split
  rcases List.eq_nil_or_concat after with rfl | ⟨front, last, rfl⟩
  · obtain ⟨rfl, same⟩ := List.append_inj' split rfl
    exact fires time (List.singleton_inj.mp same)
  · rw [List.concat_eq_append, ← List.cons_append, ← List.append_assoc] at split
    obtain ⟨rfl, -⟩ := List.append_inj' split rfl
    exact punctual before time front rfl

/-- What every interleaving keeps. -/
structure Kept (window : Nat) (past : List Deed) (now : Nat) (t : CleanupTimer) : Prop where
  orderly : t.Orderly now
  fixed : t.window = window
  deadline : t.deadline = deadlineAfter window past
  punctual : Punctual window past

theorem Runs.kept (runs : Runs window past now t) : Kept window past now t := by
  induction runs with
  | start now => exact ⟨orderly_ofWindow now window, rfl, rfl, by simp [Punctual]⟩
  | pass _ later ih => exact ⟨ih.orderly.later later, ih.fixed, ih.deadline, ih.punctual⟩
  | arm scope _ ih =>
    refine ⟨ih.orderly.arm scope, ih.fixed, ?_, ih.punctual.concat nofun⟩
    rw [deadlineAfter_concat, ← ih.fixed]
    rfl
  | disarm _ ih =>
    refine ⟨ih.orderly.disarm, ih.fixed, ?_, ih.punctual.concat nofun⟩
    rw [deadlineAfter_concat]
    rfl
  | read i _ reads ih =>
    obtain ⟨orderly, deadline, same⟩ := ih.orderly.read reads
    exact ⟨orderly, same.trans ih.fixed, deadline.trans ih.deadline, ih.punctual⟩
  | rereads i _ wakes ih =>
    obtain ⟨orderly, same, ⟨fires, -⟩ | ⟨-, deadline⟩⟩ := ih.orderly.wake wakes
    · cases fires
    · exact ⟨orderly, same.trans ih.fixed, deadline.trans ih.deadline, ih.punctual⟩
  | @fires past now t next i _ wakes ih =>
    obtain ⟨orderly, same, ⟨-, gone, d, armed, come⟩ | ⟨still, -⟩⟩ :=
      ih.orderly.wake wakes
    · refine ⟨orderly, same.trans ih.fixed, ?_, ih.punctual.concat ?_⟩
      · rw [gone, deadlineAfter_concat]
      · -- The deadline was that of the last deed, which was an arming.
        rintro time ⟨rfl⟩
        obtain ⟨earlier, since, last, rfl⟩ :=
          deadlineAfter_eq_some (ih.deadline.symm.trans armed)
        exact ⟨earlier, since, last, come⟩
    · cases still

/-- However the calls and the moves of the tasks interleave: whenever a timer fires, the last thing
done to it was to arm it, at least a window ago; so it fires once at most for an arming, and not
after it was disarmed.  It never has two tasks.  As long as it has a deadline it has a task that is
about to read it or asleep until no later, so a timer that was armed last fires once its window is
over and its task is let go on. -/
theorem fires_iff_armed_a_window_ago (runs : Runs window past now t) :
    Punctual window past ∧ t.tasks.length ≤ 1 ∧
      (∀ d, t.deadline = some d → ∃ task, t.tasks = [task] ∧
        ∀ scope target, task = .sleeping scope target → target ≤ d) ∧
      ∀ earlier since, past = earlier ++ [.armed since] → t.deadline = some (since + window) ∧
        ∀ time, now ≤ time →
          (t.settle time fun _ => false).1 = decide (since + window ≤ time) := by
  obtain ⟨orderly, same, deadline, punctual⟩ := runs.kept
  refine ⟨punctual, orderly.single, fun d armed => ?_, ?_⟩
  · have present : t.tasks ≠ [] := orderly.attended (by rw [armed]; rfl)
    obtain ⟨task, rest, tasks⟩ := List.exists_cons_of_ne_nil present
    obtain ⟨-, one⟩ := orderly.alone (i := 0) (by rw [tasks, List.getElem?_cons_zero])
    refine ⟨task, one, ?_⟩
    rintro scope target rfl
    exact (orderly.early scope target (by rw [one]; exact List.mem_singleton_self _)).2 d armed
  · rintro earlier since rfl
    have armed : t.deadline = some (since + window) := deadline.trans (deadlineAfter_concat ..)
    refine ⟨armed, fun time later => ?_⟩
    rw [(settle_settled (orderly.later later)).fired, armed]
    rfl

/-- A timer that is disarmed and armed again while its task is asleep.  The task wakes at the old
deadline, reads the new one, and fires at that. -/
theorem fires_iff_armed_a_window_ago_of_armed_again :
    let past : List Deed := [.armed 0, .disarmed 3, .armed 5, .fired 15]
    Runs 10 past 15 (ofWindow 10) ∧ Punctual 10 past := by
  intro past
  have asleep : Runs 10 [.armed 0] 0 ⟨10, some 10, true, [.sleeping 7 10]⟩ :=
    .read 0 (.arm 7 (.start 0)) rfl
  have disarmed : Runs 10 [.armed 0, .disarmed 3] 3 ⟨10, none, true, [.sleeping 7 10]⟩ :=
    .disarm (.pass asleep (by decide))
  have again : Runs 10 [.armed 0, .disarmed 3, .armed 5] 5
      ⟨10, some 15, true, [.sleeping 7 10]⟩ := .arm 7 (.pass disarmed (by decide))
  have awake : Runs 10 [.armed 0, .disarmed 3, .armed 5] 10 ⟨10, some 15, true, [.reading 7]⟩ :=
    .rereads 0 (.pass again (by decide)) rfl
  have fired : Runs 10 past 15 (ofWindow 10) :=
    .fires 0 (.pass (.read 0 awake rfl) (by decide)) rfl
  exact ⟨fired, (fires_iff_armed_a_window_ago fired).1⟩

end ObservationFeed.CleanupTimer
