import ObservationFeed.Client.Place
import ObservationFeed.Proofs.Client.Subscription

/-!
# Outlines of places

What can be told of a place from outside: whether nothing is pending there, a
one-shot call or a subscription, what the subscription has published, and which
calls wait.  Seen like this, all that ever happens to a place is one of a few
deeds, each with its messages and answers.  `performAll` goes through deeds; the
places of a client follow it, and what their messages and answers add up to is
proved of it.
-/

namespace ObservationFeed.Client

/-- What is pending at a place, as it shows outside. -/
inductive Phase where
  | idle
  /-- A one-shot call was sent. -/
  | asked
  /-- A subscription, its number, its interval and what it has published. -/
  | subscribed (number : Nat) (every : Interval) (feed : Feed Snapshot)
  deriving DecidableEq

/-- A place as it shows outside. -/
structure Outline where
  phase : Phase
  /-- The calls that wait for what is pending. -/
  calls : List Nat
  nextCall : Nat
  /-- The number of subscriptions that were opened. -/
  opened : Nat
  deriving DecidableEq

/-- What happens to a place. -/
inductive Deed where
  | nothing
  | call
  /-- A call is answered at once because the client is closed. -/
  | refuse
  | giveUp (call : Nat)
  /-- A subscription is opened, unless there is one. -/
  | subscribe (every : Interval)
  | apply (snapshot : Snapshot)
  | renew
  | close
  deriving DecidableEq

namespace Phase

def isSubscribed : Phase → Bool
  | subscribed .. => true
  | _ => false

/-- The number of the subscription that is pending. -/
def number? : Phase → Option Nat
  | subscribed number _ _ => some number
  | _ => none

def applied (snapshot : Snapshot) : Phase → Phase
  | subscribed number every feed => subscribed number every (feed.publish snapshot)
  | _ => idle

/-- What a new call sends. -/
def request : Phase → List Attempt
  | idle => [⟨.single, none⟩]
  | _ => []

/-- What a renewal sends. -/
def renewal : Phase → List Attempt
  | subscribed _ every _ => [⟨.keepalive every, none⟩]
  | _ => []

/-- What closing sends. -/
def farewell : Phase → List Attempt
  | subscribed .. => [⟨.stop, none⟩]
  | _ => []

theorem farewell_eq (ph : Phase) :
    ph.farewell = if ph.isSubscribed then [⟨.stop, none⟩] else [] := by
  cases ph with
  | subscribed => rfl
  | idle | asked => rfl

end Phase

/-- The same answer for some calls. -/
def answerAll (result : Except SyncError Snapshot) (calls : List Nat) : List Return :=
  calls.map fun call => ⟨call, result⟩

namespace Outline

/-- What a deed does, and what it lets out. -/
def perform (o : Outline) : Deed → Outline × Emission
  | .nothing => (o, .none)
  | .call =>
    ({ o with
        phase := if o.phase = .idle then .asked else o.phase
        calls := o.calls ++ [o.nextCall]
        nextCall := o.nextCall + 1 }, ⟨o.phase.request, []⟩)
  | .refuse => ({ o with nextCall := o.nextCall + 1 }, ⟨[], answerAll (.error .closed) [o.nextCall]⟩)
  | .giveUp call => ({ o with calls := o.calls.filter (· ≠ call) }, .none)
  | .subscribe every =>
    if o.phase.isSubscribed then (o, .none)
    else ({ o with phase := .subscribed o.opened every .empty, opened := o.opened + 1 },
      ⟨[⟨.start every, none⟩], []⟩)
  | .apply snapshot =>
    ({ o with phase := o.phase.applied snapshot, calls := [] },
      ⟨[], answerAll (.ok snapshot) o.calls⟩)
  | .renew => (o, ⟨o.phase.renewal, []⟩)
  | .close =>
    ({ o with phase := .idle, calls := [] },
      ⟨o.phase.farewell, answerAll (.error .cancelled) o.calls⟩)

def performAll : Outline → List Deed → Outline × Emission
  | o, [] => (o, .none)
  | o, d :: rest =>
    (((o.perform d).1.performAll rest).1, (o.perform d).2 ++ ((o.perform d).1.performAll rest).2)

theorem opened_perform (o : Outline) (d : Deed) : o.opened ≤ (o.perform d).1.opened := by
  cases d with
  | subscribe every =>
    rw [perform]
    split
    · exact Nat.le_refl _
    · exact Nat.le_succ _
  | _ => exact Nat.le_refl _

theorem opened_performAll (o : Outline) (deeds : List Deed) :
    o.opened ≤ (o.performAll deeds).1.opened := by
  induction deeds generalizing o with
  | nil => exact Nat.le_refl _
  | cons d rest ih => exact Nat.le_trans (o.opened_perform d) (ih (o.perform d).1)

/-- Only closing ends a subscription. -/
theorem number?_perform {o : Outline} {n : Nat} (pending : o.phase.number? = some n) (d : Deed) :
    (o.perform d).1.phase.number? = if d = .close then none else some n := by
  obtain ⟨phase, calls, nextCall, opened⟩ := o
  cases phase with
  | idle | asked => cases pending
  | subscribed number every feed =>
    cases pending
    cases d <;> rfl

theorem performAll_append (o : Outline) (first second : List Deed) :
    o.performAll (first ++ second) =
      (((o.performAll first).1.performAll second).1,
        (o.performAll first).2 ++ ((o.performAll first).1.performAll second).2) := by
  induction first generalizing o with
  | nil => rfl
  | cons d rest ih =>
    rw [List.cons_append, performAll, ih]
    simp only [performAll, Emission.append_assoc]

/-- What tasks do at a place: they renew a number of times, and may close. -/
def tasks (renewals : Nat) (closes : Bool) : List Deed :=
  List.replicate renewals .renew ++ if closes then [.close] else []

theorem performAll_renew (o : Outline) (renewals : Nat) :
    o.performAll (List.replicate renewals .renew) =
      (o, ⟨(List.replicate renewals o.phase.renewal).flatten, []⟩) := by
  induction renewals with
  | zero => rfl
  | succ renewals ih =>
    rw [List.replicate_succ, performAll, perform, ih, List.replicate_succ]
    rfl

theorem performAll_tasks (o : Outline) (renewals : Nat) (closes : Bool) :
    (o.performAll (tasks renewals closes)).1 = if closes then (o.perform .close).1 else o := by
  rw [tasks, performAll_append, performAll_renew]
  cases closes <;> rfl

/-- A subscription is pending until a deed or the tasks close it. -/
theorem number?_performAll_tasks {o : Outline} {n : Nat} (pending : o.phase.number? = some n)
    (d : Deed) (renewals : Nat) (closes : Bool) :
    (o.performAll (d :: tasks renewals closes)).1.phase.number? ≠ some n ↔
      d = .close ∨ closes = true := by
  have does := number?_perform pending d
  rw [performAll, performAll_tasks]
  cases closes with
  | true => simp [perform, Phase.number?]
  | false => simp [does]

end Outline

/-! ## What shows of a place -/

/-- The calls that wait for a value. -/
def Awaited.calls (a : Awaited) : List Nat := a.callers.map Caller.call

namespace Place

/-- What is pending shows outside. -/
def phase (p : Place) : Phase :=
  match p.pending with
  | none => .idle
  | some (.single _) => .asked
  | some (.subscription number) =>
    match p.subscription? number with
    | none => .idle
    | some s => .subscribed number s.interval s.feed

/-- The calls that wait for what is pending. -/
def calls (p : Place) : List Nat :=
  match p.pending with
  | none => []
  | some (.single awaited) => awaited.calls
  | some (.subscription number) =>
    match p.subscription? number with
    | none => []
    | some s => s.next.calls

def outline (p : Place) : Outline := ⟨p.phase, p.calls, p.nextCall, p.opened.length⟩

end Place

end ObservationFeed.Client
