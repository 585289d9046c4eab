import ObservationFeed.Proofs.Client.Fit

/-!
# Single tasks

The tasks of a subscription need not run all at once.  A chore is one thing that
one of them does; done at any time, in any order and over any transport, it
leaves a fit place fit.
-/

namespace ObservationFeed

/-! ## Tasks of a timer -/

namespace CleanupTimer

variable {now last i : Nat} {live : Bool} {t t' : CleanupTimer}

/-- Other tasks in place of those that a timer has. -/
theorem Clocked.retasked (clocked : t.Clocked now last live) (orderly : t'.Orderly now)
    (deadline : t'.deadline = t.deadline) (window : t'.window = t.window) :
    t'.Clocked now last live where
  orderly
  deadline := by rw [deadline, window, clocked.deadline]
  latest := clocked.latest

theorem Clocked.read (clocked : t.Clocked now last live) (reads : t.read? i = some t') :
    t'.Clocked now last live := by
  obtain ⟨orderly, deadline, window⟩ := clocked.orderly.read reads
  exact clocked.retasked orderly deadline window

/-- A task that wakes fires only while there is no interest. -/
theorem Clocked.wake (clocked : t.Clocked now last live) {fired : Bool}
    (wakes : t.wake? now i = some (fired, t')) :
    (fired = true ∧ live = false) ∨ (fired = false ∧ t'.Clocked now last live) := by
  obtain ⟨orderly, window, ⟨fires, -, d, armed, -⟩ | ⟨still, deadline⟩⟩ :=
    clocked.orderly.wake wakes
  · refine .inl ⟨fires, ?_⟩
    cases live with
    | false => rfl
    | true => cases armed.symm.trans clocked.deadline
  · exact .inr ⟨still, clocked.retasked orderly deadline window⟩

end CleanupTimer

namespace Client

open CleanupTimer Subscription

/-! ## Chores -/

/-- One thing that one task of a subscription does. -/
inductive Chore where
  /-- The keepalive task wakes. -/
  | renew
  /-- The keepalive task sees the end of its scope. -/
  | conclude
  /-- A task of the timer reads the deadline. -/
  | read (task : Nat)
  /-- A task of the timer sees the end of its scope. -/
  | abandon (task : Nat)
  /-- A task of the timer wakes. -/
  | wake (task : Nat)

/-- A turn of the keepalive task that wakes.  It does not sleep for another period if its scope has
ended meanwhile. -/
def Subscription.renews? (s : Subscription) (now period : Nat) (transport : Transport) :
    Option (Subscription × Emission) :=
  (s.keepaliveWakes? now period transport).map fun (s, a) =>
    let (s, b) := if 0 < period then (s.keepaliveEnds? transport).getD (s, .none) else (s, .none)
    (s, a ++ b)

/-- A subscription after a chore, where it can be done. -/
def Subscription.tend? (s : Subscription) (now period : Nat) (transport : Transport) :
    Chore → Option Subscription
  | .renew => (s.renews? now period transport).map (·.1)
  | .conclude => (s.keepaliveEnds? transport).map (·.1)
  | .read task => (s.timer.read? task).map fun timer => { s with timer }
  | .abandon task => (s.timer.abandon? (fun _ => s.ended) task).map fun timer => { s with timer }
  | .wake task => (s.timer.wake? now task).map fun (fired, timer) =>
    if fired then ({ s with timer }.onIdle transport).1 else { s with timer }

/-- A place after a chore of a subscription, whose entry goes if the chore closes it. -/
def Place.tend (p : Place) (t : Timing) (transport : Transport) (number : Nat) (chore : Chore) :
    Place :=
  match p.subscription? number with
  | none => p
  | some before =>
    match before.tend? t.now t.period transport chore with
    | none => p
    | some after => (p.set number after).settleEntry number before after

theorem Subscription.tended_tend {born : Bool} {now period : Nat} {s s' : Subscription}
    {transport : Transport} {chore : Chore} (tidy : s.Tidy born now)
    (tends : s.tend? now period transport chore = some s') : Tended born now s s' := by
  cases chore with
  | renew =>
    obtain ⟨result, renews, rfl⟩ := Option.map_eq_some_iff.mp tends
    obtain ⟨woken, wakes, rfl⟩ := Option.map_eq_some_iff.mp renews
    have wakes := tended_keepaliveWakes tidy wakes
    simp only
    split
    · cases ends : woken.1.keepaliveEnds? transport with
      | none => exact wakes
      | some result => exact wakes.trans (tended_keepaliveEnds wakes.tidy ends)
    · exact wakes
  | conclude =>
    obtain ⟨result, ends, rfl⟩ := Option.map_eq_some_iff.mp tends
    exact tended_keepaliveEnds tidy ends
  | read task =>
    obtain ⟨timer, reads, rfl⟩ := Option.map_eq_some_iff.mp tends
    refine tended_still tidy fun isOpen => ?_
    obtain ⟨last, clocked⟩ := tidy.ticks isOpen
    exact ⟨last, clocked.read reads⟩
  | abandon task =>
    obtain ⟨timer, leaves, rfl⟩ := Option.map_eq_some_iff.mp tends
    refine tended_still tidy fun isOpen => ?_
    -- The scope of an open subscription goes on, and no task abandons its timer.
    rw [abandon?, isOpen.goesOn] at leaves
    split at leaves <;> cases leaves
  | wake task =>
    obtain ⟨⟨fired, timer⟩, wakes, rfl⟩ := Option.map_eq_some_iff.mp tends
    cases fired with
    | false =>
      refine tended_still tidy fun isOpen => ?_
      obtain ⟨last, clocked⟩ := tidy.ticks isOpen
      rcases clocked.wake wakes with ⟨fires, -⟩ | ⟨-, clocked⟩
      · cases fires
      · exact ⟨last, clocked⟩
    | true =>
      refine tended_fires tidy timer (fun isOpen => ?_) transport
      obtain ⟨last, clocked⟩ := tidy.ticks isOpen
      rcases clocked.wake wakes with ⟨-, idle⟩ | ⟨still, -⟩
      · exact idle
      · cases still

namespace Place

variable {born : Nat → Bool} {p : Place}

/-- What a chore makes of a place, if it can be done. -/
theorem tend_cases (p : Place) (t : Timing) (transport : Transport) (n : Nat) (chore : Chore) :
    p.tend t transport n chore = p ∨
      ∃ before after, p.subscription? n = some before ∧
        before.tend? t.now t.period transport chore = some after ∧
        p.tend t transport n chore = (p.set n after).settleEntry n before after := by
  rw [tend]
  cases found : p.subscription? n with
  | none => exact .inl rfl
  | some before =>
    cases tends : before.tend? t.now t.period transport chore with
    | none => exact .inl (by simp only [tends])
    | some after => exact .inr ⟨before, after, rfl, tends, by simp only [tends]⟩

theorem Fit.tend {t : Timing} (fit : p.Fit born t.now) (transport : Transport) (n : Nat)
    (chore : Chore) : (p.tend t transport n chore).Fit born t.now := by
  rcases p.tend_cases t transport n chore with same | ⟨before, after, found, tends, same⟩
  · rwa [same]
  · rw [same]
    exact fit.tended found (tended_tend (fit.tidy found) tends)

theorem Fit.attended_tend {t : Timing} (fit : p.Fit born t.now) (transport : Transport) (m : Nat)
    (chore : Chore) : Attended born t.now p (p.tend t transport m chore) := by
  rcases p.tend_cases t transport m chore with same | ⟨before, after, there, tends, same⟩
  · rw [same]
    exact ⟨fun n s found => ⟨s, found, tended_refl (fit.tidy found)⟩, fun _ => id⟩
  · have looked (n : Nat) : (p.tend t transport m chore).subscription? n =
        if m = n then some after else p.subscription? n := by
      rw [same, subscription?_settleEntry, subscription?_set there]
    refine ⟨fun n s found => ?_, fun n absent => ?_⟩
    · by_cases here : m = n
      · subst here
        cases there.symm.trans found
        exact ⟨after, (looked m).trans (if_pos rfl), tended_tend (fit.tidy found) tends⟩
      · exact ⟨s, ((looked n).trans (if_neg here)).trans found, tended_refl (fit.tidy found)⟩
    · have other : m ≠ n := by
        rintro rfl
        cases there.symm.trans absent
      exact ((looked n).trans (if_neg other)).trans absent

end Place

end Client

end ObservationFeed
