import ObservationFeed.Clock

/-!
# Cleanup timers

A timer with a fixed window that is armed and disarmed many times over.
Arming moves the deadline to one window from now.  A task sleeps until the
deadline that it last read, looks again when it wakes, and fires only if the
deadline is still the same; a deadline that has moved is read again, and one
that is gone ends the task.  So nothing has to be cancelled when the timer is
armed again, and one task is enough.

A task belongs to a scope and ends early when its scope ends.

Each move of a task is a function of its own, defined where the move is
possible.  `settle` makes moves as long as there are any, in a fixed order.
-/

namespace ObservationFeed

/-- Where a task of a timer stands. -/
inductive TimerTask where
  /-- About to read the deadline. -/
  | reading (scope : Nat)
  /-- Asleep until the deadline that it read. -/
  | sleeping (scope target : Nat)
  deriving DecidableEq, Repr

/-- A timer and its tasks. -/
structure CleanupTimer where
  window : Nat
  deadline : Option Nat
  /-- Whether a task is noted to be running, in which case arming starts none. -/
  running : Bool
  tasks : List TimerTask
  deriving DecidableEq, Repr

namespace CleanupTimer

def ofWindow (window : Nat) : CleanupTimer := ⟨window, none, false, []⟩

/-- Moves the deadline to one window from now. -/
def arm (t : CleanupTimer) (now scope : Nat) : CleanupTimer :=
  { t with
    deadline := some (now + t.window)
    running := true
    tasks := if t.running then t.tasks else t.tasks ++ [.reading scope] }

def disarm (t : CleanupTimer) : CleanupTimer := { t with deadline := none }

/-! ## Moves of a task -/

/-- The timer after the end of the task at an index. -/
def finish (t : CleanupTimer) (i : Nat) : CleanupTimer :=
  { t with running := false, tasks := t.tasks.eraseIdx i }

/-- A task reads the deadline and goes to sleep, or ends if there is none. -/
def read? (t : CleanupTimer) (i : Nat) : Option CleanupTimer :=
  match t.tasks[i]? with
  | some (.reading scope) =>
    some (match t.deadline with
      | some d => { t with tasks := t.tasks.set i (.sleeping scope d) }
      | none => t.finish i)
  | _ => none

/-- A task wakes at or after its target.  It fires if the deadline is still its target, and
otherwise goes on to read the deadline again. -/
def wake? (t : CleanupTimer) (now i : Nat) : Option (Bool × CleanupTimer) :=
  match t.tasks[i]? with
  | some (.sleeping scope target) =>
    if now < target then none
    else if t.deadline = some target then some (true, { t.finish i with deadline := none })
    else some (false, { t with tasks := t.tasks.set i (.reading scope) })
  | _ => none

/-- A sleeping task ends because its scope has. -/
def abandon? (t : CleanupTimer) (ended : Nat → Bool) (i : Nat) : Option CleanupTimer :=
  match t.tasks[i]? with
  | some (.sleeping scope _) => if ended scope then some (t.finish i) else none
  | _ => none

/-! ## Running -/

/-- A move that the task at an index can make, where the end of its scope comes first. -/
def move? (t : CleanupTimer) (now : Nat) (ended : Nat → Bool) (i : Nat) :
    Option (Bool × CleanupTimer) :=
  ((t.read? i).map (false, ·)).or (((t.abandon? ended i).map (false, ·)).or (t.wake? now i))

/-- Makes at most a number of moves, and tells whether the timer fired. -/
def settleWithin (now : Nat) (ended : Nat → Bool) : Nat → CleanupTimer → Bool × CleanupTimer
  | 0, t => (false, t)
  | fuel + 1, t =>
    match (List.range t.tasks.length).findSome? (t.move? now ended) with
    | none => (false, t)
    | some (fired, t) =>
      let (again, t) := settleWithin now ended fuel t
      (fired || again, t)

/-- Makes every move that is possible now.  A task makes four at most: it reads, wakes to a
deadline that has moved, reads that and wakes again. -/
def settle (t : CleanupTimer) (now : Nat) (ended : Nat → Bool) : Bool × CleanupTimer :=
  settleWithin now ended (4 * t.tasks.length) t

def nextWake? (t : CleanupTimer) : Option Nat :=
  (t.tasks.filterMap fun task => match task with
    | .reading _ => none
    | .sleeping _ target => some target).min?

end CleanupTimer

/-! ## A timer on its own -/

/-- A timer with a clock, a current scope, and the scopes that have ended. -/
structure TimerBench where
  timer : CleanupTimer
  now : Nat
  scope : Nat
  ended : List Nat
  /-- When the timer fired, the last time first. -/
  fired : List Nat
  deriving DecidableEq, Repr

namespace TimerBench

def ofWindow (window : Nat) : TimerBench := ⟨.ofWindow window, 0, 0, [], []⟩

/-- Makes every move that is possible now. -/
def settle (b : TimerBench) : TimerBench :=
  let (fired, timer) := b.timer.settle b.now b.ended.contains
  { b with timer, fired := if fired then b.now :: b.fired else b.fired }

def arm (b : TimerBench) : TimerBench :=
  { b with timer := b.timer.arm b.now b.scope }.settle

def disarm (b : TimerBench) : TimerBench := { b with timer := b.timer.disarm }.settle

def endScope (b : TimerBench) : TimerBench := { b with ended := b.scope :: b.ended }.settle

def newScope (b : TimerBench) : TimerBench := { b with scope := b.scope + 1 }

/-- Lets time pass up to a moment, at most a number of wake-ups on the way. -/
def advanceWithin (moment : Nat) : Nat → TimerBench → TimerBench
  | 0, b => { b with now := moment }
  | fuel + 1, b =>
    match b.timer.nextWake? with
    | none => { b with now := moment }
    | some t =>
      if moment < t then { b with now := moment }
      else advanceWithin moment fuel { b with now := max b.now t }.settle

/-- Lets time pass and stops at every wake-up on the way. -/
def advance (b : TimerBench) (ms : Nat) : TimerBench :=
  let ms := Clock.step ms
  advanceWithin (b.now + ms) (ms + 1) b

end TimerBench

end ObservationFeed
