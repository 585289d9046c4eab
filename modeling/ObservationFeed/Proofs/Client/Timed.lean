import ObservationFeed.Proofs.Client.Effect
import ObservationFeed.Proofs.Client.Fit

/-!
# Subscriptions in time

`Timed` ties each subscription to the moment of its last interest: as long as it
is open, its timer is armed exactly while there is none, wakes no later than a
window after that moment, and that window is not over.  Every act keeps this, and
so do the tasks if they run no later than they are due; if the window ends they
close the subscription with one stop.
-/

namespace ObservationFeed.Client

open CleanupTimer Subscription Place

/-! ## One subscription -/

namespace Subscription

/-- A subscription in time: open, with its timer at rest and the window not over, or over, and if
nothing from outside has closed it with the window behind it. -/
inductive Timed (born : Bool) (last now window : Nat) (spared : Prop) (s : Subscription) :
    Prop where
  | live : Open born s → s.timer.Clocked now last s.liveness.isLive → s.timer.Rested now →
      s.timer.window = window → (s.liveness.isLive = false → now < last + window) →
      Timed born last now window spared s
  | spent : Spent s → (spared → s.observed born = false ∧ last + window ≤ now) →
      Timed born last now window spared s

/-- A subscription whose tasks are about to run. -/
inductive Waiting (born : Bool) (last time window : Nat) (spared : Prop) (s : Subscription) :
    Prop where
  | live : Open born s → s.timer.Clocked time (seen s.liveness.isLive time last) s.liveness.isLive →
      s.timer.window = window → (s.liveness.isLive = false → time ≤ last + window) →
      Waiting born last time window spared s
  | spent : Spent s → (spared → s.observed born = false ∧ last + window ≤ time) →
      Waiting born last time window spared s

variable {born : Bool} {last now time window : Nat} {spared : Prop} {s s' : Subscription}

/-- Time passes, but no further than the end of the window. -/
theorem Timed.waits (timed : Timed born last now window spared s) (later : now ≤ time)
    (inTime : Open born s → s.liveness.isLive = false → time ≤ last + window) :
    Waiting born last time window spared s := by
  cases timed with
  | live isOpen clocked rested same early =>
    exact .live isOpen (clocked.later later) same (inTime isOpen)
  | spent spent past =>
    refine .spent spent fun spared => ?_
    obtain ⟨unobserved, come⟩ := past spared
    exact ⟨unobserved, Nat.le_trans come later⟩

/-- An act happens. -/
theorem Timed.moves (timed : Timed born last now window spared s) (moves : Moves born now s s') :
    Waiting born last now window spared s' := by
  cases timed with
  | live isOpen clocked rested same early =>
    cases moves with
    | fades spent => exact isOpen.not_spent spent
    | goes _ goes =>
      refine .live goes.isOpen ?_ ?_ ?_
      · rw [goes.timer]
        exact clocked.edge s'.liveness.isLive
      · rw [goes.timer, CleanupTimer.window_edge, same]
      · intro _
        -- If interest goes just now, the window begins now.
        cases live : s.liveness.isLive with
        | false => exact Nat.le_of_lt (early live)
        | true =>
          rw [clocked.latest live]
          exact Nat.le_add_right ..
  | spent spent past =>
    cases moves with
    | goes isOpen => exact isOpen.not_spent spent
    | fades _ fades =>
      exact .spent fades.spent fun spared => ⟨fades.unobserved (past spared).1, (past spared).2⟩

/-- A poll leaves the interest and the timer alone. -/
theorem Timed.poll (timed : Timed born last now window spared s) {stream : Nat}
    {found : Poll Snapshot} (polled : s.poll? stream = some (found, s')) :
    Timed born last now window spared s' := by
  cases timed with
  | spent spent past =>
    have fades := spent.poll polled
    exact .spent fades.spent fun spared => ⟨fades.unobserved (past spared).1, (past spared).2⟩
  | live isOpen clocked rested same early =>
    have goes := isOpen.poll now polled
    obtain ⟨_, _, same⟩ := Option.map_eq_some_iff.mp polled
    cases same
    exact .live goes.isOpen clocked rested same early

theorem Timed.observed (timed : Timed born last now window spared s) :
    Timed born (seen (s.observed born) now last) now window spared s := by
  cases timed with
  | spent spent past =>
    refine .spent spent fun spared => ?_
    obtain ⟨unobserved, come⟩ := past spared
    rw [unobserved]
    exact ⟨rfl, come⟩
  | live isOpen clocked rested same early =>
    rw [← isOpen.isLive]
    cases live : s.liveness.isLive with
    | false => exact .live isOpen clocked rested same early
    | true =>
      have sinceNow := clocked.latest live
      rw [seen, if_pos rfl, ← sinceNow]
      exact .live isOpen (sinceNow ▸ clocked) (sinceNow ▸ rested) same (sinceNow ▸ early)

/-- What the tasks make of a subscription that is open. -/
inductive Came (born : Bool) (last time window : Nat) (spared : Prop) (interval : Interval) :
    Subscription × Emission → Prop where
  | goesOn (s : Subscription) (emission : Emission) :
      Open born s → Timed born (seen (s.observed born) time last) time window spared s →
      (∀ a ∈ emission.attempts, a = ⟨.keepalive interval, none⟩) →
      Came born last time window spared interval (s, emission)
  | closes (s : Subscription) (emission : Emission) (renewals : List Attempt) :
      Spent s → s.liveness.closed = true → s.observed born = false → time = last + window →
      emission.attempts = renewals ++ [⟨.stop, none⟩] →
      (∀ a ∈ renewals, a = ⟨.keepalive interval, none⟩) →
      Came born last time window spared interval (s, emission)

theorem Waiting.ran (waiting : Waiting born last time window spared s) (isOpen : Open born s)
    (period : Nat) {transport : Transport} (works : ∀ kind, transport kind = none) :
    Ran time (seen s.liveness.isLive time last) period s (s.runTasks time period transport) := by
  cases waiting with
  | live _ clocked => exact isOpen.runTasks clocked period works
  | spent spent => exact isOpen.not_spent spent

theorem Waiting.came (waiting : Waiting born last time window spared s) (isOpen : Open born s)
    (period : Nat) {transport : Transport} (works : ∀ kind, transport kind = none) :
    Came born last time window spared s.interval (s.runTasks time period transport) := by
  have ran := waiting.ran isOpen period works
  generalize s.runTasks time period transport = result at ran ⊢
  cases waiting with
  | spent spent => exact isOpen.not_spent spent
  | live _ clocked same inTime =>
    cases ran with
    | goesOn keepalive timer attempts clocked rested window early renewed =>
      have still : Open born { s with keepalive := some keepalive, timer } :=
        { isOpen with renewing := rfl }
      refine .goesOn _ _ still ?_ renewed.renewals
      rw [← still.isLive]
      refine .live still clocked rested (window.trans same) fun idle => ?_
      rw [same] at early
      exact early idle
    | closes after attempts returns idle come closes renewals =>
      refine .closes _ _ attempts closes.spent closes.closed ?_ ?_ rfl renewals
      · -- Nobody was interested before, and the callers are gone.
        have nobody := isOpen.isLive
        rw [idle, Subscription.observed, eq_comm, Bool.or_eq_false_iff, Bool.or_eq_false_iff,
          Bool.or_eq_false_iff] at nobody
        obtain ⟨⟨⟨noStream, -⟩, noneLeft⟩, noCall⟩ := nobody
        rw [Subscription.observed, closes.streams, closes.feed, closes.callers, closes.answered,
          noStream, noneLeft, noCall]
        rfl
      · rw [same, idle] at come
        -- The tasks run no later than the end of the window, and the timer fires no earlier.
        exact Nat.le_antisymm (inTime idle) come

theorem Waiting.timed (waiting : Waiting born last time window spared s) (period : Nat)
    {transport : Transport} (works : ∀ kind, transport kind = none) :
    Timed born (seen ((s.runTasks time period transport).1.observed born) time last) time window
      spared (s.runTasks time period transport).1 := by
  cases waiting with
  | live isOpen clocked same inTime =>
    have waiting : Waiting born last time window spared s := .live isOpen clocked same inTime
    have came := waiting.came isOpen period works
    generalize s.runTasks time period transport = result at came ⊢
    cases came with
    | goesOn s emission _ timed => exact timed
    | closes s emission renewals spent closed unobserved come =>
      refine .spent spent fun _ => ⟨unobserved, ?_⟩
      rw [unobserved]
      exact Nat.le_of_eq come.symm
  | spent spent past =>
    have fades := (spent.runTasks time period transport).1
    refine .spent fades.spent fun spared => ?_
    obtain ⟨unobserved, come⟩ := past spared
    have unobserved := fades.unobserved unobserved
    refine ⟨unobserved, ?_⟩
    rw [unobserved]
    exact come

end Subscription

/-! ## One place -/

namespace Place

/-- A sound place whose subscriptions are in time. -/
structure Kept (born : Nat → Bool) (last : Nat → Nat) (now window : Nat) (spared : Nat → Prop)
    (p : Place) : Prop where
  sound : p.Sound born
  timed : ∀ n s, p.subscription? n = some s → Timed (born n) (last n) now window (spared n) s

/-- A sound place whose tasks are about to run. -/
structure Ready (born : Nat → Bool) (last : Nat → Nat) (time window : Nat) (spared : Nat → Prop)
    (p : Place) : Prop where
  sound : p.Sound born
  waiting : ∀ n s, p.subscription? n = some s → Waiting (born n) (last n) time window (spared n) s

/-- Who was interested when, after another state. -/
def lastAfter (born : Nat → Bool) (last : Nat → Nat) (time : Nat) (p : Place) (n : Nat) : Nat :=
  seen ((p.subscription? n).any (·.observed (born n))) time (last n)

theorem lastAfter_of_found {born : Nat → Bool} {last : Nat → Nat} {p : Place} {n : Nat}
    {s : Subscription} (found : p.subscription? n = some s) (time : Nat) :
    lastAfter born last time p n = seen (s.observed (born n)) time (last n) := by
  rw [lastAfter, found, Option.any_some]

variable {born born' : Nat → Bool} {last : Nat → Nat} {now time window : Nat} {spared : Nat → Prop}
  {p p' : Place}

theorem Kept.stays (kept : p.Kept born last now window spared) :
    p.Kept born (lastAfter born last now p) now window spared where
  sound := kept.sound
  timed n s found := by
    rw [lastAfter_of_found found]
    exact (kept.timed n s found).observed

/-- Time passes while every task sleeps on. -/
theorem Kept.elapses (kept : p.Kept born last now window spared) (later : now ≤ time)
    (asleep : ∀ n s, p.subscription? n = some s →
      ∀ scope target, .sleeping scope target ∈ s.timer.tasks → now < target → time < target) :
    p.Kept born (lastAfter born last time p) time window spared where
  sound := kept.sound
  timed n s found := by
    rw [lastAfter_of_found found]
    cases kept.timed n s found with
    | spent spent past =>
      refine .spent spent fun spared => ?_
      obtain ⟨unobserved, come⟩ := past spared
      rw [unobserved]
      exact ⟨rfl, Nat.le_trans come later⟩
    | live isOpen clocked rested same early =>
      rw [← isOpen.isLive]
      refine .live isOpen (clocked.later later) ?_ same fun idle => ?_
      · intro task member
        obtain ⟨scope, target, rfl, sleeps⟩ := rested task member
        exact ⟨scope, target, rfl, asleep n s found scope target member sleeps⟩
      · -- The task of the timer wakes within the window, and it is still asleep.
        obtain ⟨scope, target, member, sleeps, near⟩ := clocked.asleep rested idle
        rw [idle]
        rw [same] at near
        exact Nat.lt_of_lt_of_le (asleep n s found scope target member sleeps) near

/-- Time passes up to the moment at which a task wakes. -/
theorem Kept.wakes (kept : p.Kept born last now window spared) (later : now ≤ time)
    (asleep : ∀ n s, p.subscription? n = some s →
      ∀ scope target, .sleeping scope target ∈ s.timer.tasks → now < target → time ≤ target) :
    p.Ready born last time window spared where
  sound := kept.sound
  waiting n s found := by
    have timed := kept.timed n s found
    refine timed.waits later fun isOpen idle => ?_
    cases timed with
    | spent spent => exact isOpen.not_spent spent
    | live _ clocked rested same early =>
      obtain ⟨scope, target, member, sleeps, near⟩ := clocked.asleep rested idle
      rw [same] at near
      exact Nat.le_trans (asleep n s found scope target member sleeps) near

theorem Kept.polled (kept : p.Kept born last now window spared) {number stream : Nat}
    {found : Poll Snapshot} (polled : p.poll number stream = some (found, p')) :
    p'.Kept born (lastAfter born last now p') now window spared where
  sound := (kept.sound.poll now polled).sound kept.sound
  timed n s' there := by
    rw [lastAfter_of_found there]
    obtain ⟨s, before, answered⟩ := Option.bind_eq_some_iff.mp polled
    obtain ⟨⟨answer, after⟩, seen, same⟩ := Option.map_eq_some_iff.mp answered
    cases same
    rw [subscription?_set before] at there
    split at there
    · next same =>
      subst same
      cases there
      exact ((kept.timed number s before).poll seen).observed
    · exact (kept.timed n s' there).observed

theorem Kept.turned (kept : p.Kept born last now window spared) {period : Nat} {byHand : Nat → Prop}
    {result : Place × List Attempt} (turned : Turned born ⟨now, period, window⟩ byHand p result)
    (spares : ∀ n, byHand n → ¬ spared n)
    (same : ∀ n s, p.subscription? n = some s → born' n = born n)
    (fresh : ∀ n, p.subscription? n = none → born' n = p.call?.isSome) :
    result.1.Ready born' last now window spared where
  sound := turned.sound kept.sound same fresh
  waiting n s' found := by
    rcases turned.each kept.sound found with
      ⟨s, before, moves⟩ | ⟨absent, newborn⟩ | ⟨hand, s, before, isOpen, closes⟩
    · rw [same n s before]
      exact (kept.timed n s before).moves moves
    · rw [fresh n absent]
      obtain ⟨isOpen, live, clocked, same, -⟩ := newborn
      refine .live isOpen ?_ same fun idle => ?_
      · rw [live]
        exact clocked
      · rw [live] at idle
        cases idle
    · exact .spent closes.spent fun spared => absurd spared (spares n hand)

variable {transport : Transport}

theorem Ready.fit (ready : p.Ready born last time window spared) : p.Fit born time := by
  refine ⟨ready.sound, fun n s found isOpen => ?_⟩
  cases ready.waiting n s found with
  | live _ clocked => exact ⟨_, clocked⟩
  | spent spent => exact isOpen.not_spent spent

theorem Ready.runTasks (ready : p.Ready born last time window spared) (period length : Nat)
    (works : ∀ kind, transport kind = none) :
    (p.runTasks ⟨time, period, length⟩ transport).1.Kept born
      (lastAfter born last time (p.runTasks ⟨time, period, length⟩ transport).1) time window
      spared where
  sound := (ready.fit.runTasks period length transport).sound
  timed n s' found := by
    rw [lastAfter_of_found found]
    rw [subscription?_runTasks] at found
    obtain ⟨s, before, rfl⟩ := Option.map_eq_some_iff.mp found
    exact (ready.waiting n s before).timed period works

/-- How many stops were sent. -/
def stops (attempts : List Attempt) : Nat := attempts.count ⟨.stop, none⟩

theorem stops_eq_zero {attempts : List Attempt} (kind : RequestKind) (other : kind ≠ .stop)
    (all : ∀ a ∈ attempts, a = ⟨kind, none⟩) : stops attempts = 0 := by
  refine List.count_eq_zero.mpr fun member => ?_
  cases all _ member
  exact other rfl

theorem stops_append (a b : List Attempt) : stops (a ++ b) = stops a + stops b :=
  List.count_append

/-- A subscription that someone is interested in sends no stop. -/
theorem stops_of_live {now last period : Nat} {s : Subscription} {result : Subscription × Emission}
    (ran : Ran now last period s result) (live : s.liveness.isLive = true) :
    stops result.2.attempts = 0 := by
  cases ran with
  | goesOn keepalive timer attempts clocked rested window early renewed =>
    exact stops_eq_zero (.keepalive s.interval) nofun renewed.renewals
  | closes after attempts returns idle =>
    rw [live] at idle
    cases idle

/-- What becomes of the pending subscription while its tasks run. -/
inductive Settles (born : Bool) (n due time : Nat) : Place × List Attempt → Prop where
  | stays (p : Place) (attempts : List Attempt) (s : Subscription) :
      p.subscription? n = some s → Open born s → p.pending = some (.subscription n) →
      stops attempts = 0 → Settles born n due time (p, attempts)
  | closes (p : Place) (attempts : List Attempt) (s : Subscription) :
      p.subscription? n = some s → Spent s → p.pending = none →
      stops attempts = 1 → time = due → Settles born n due time (p, attempts)

theorem Ready.settles (ready : p.Ready born last time window spared) (period length : Nat)
    (works : ∀ kind, transport kind = none) {n : Nat} (pending : p.pending = some (.subscription n))
    {attempts : List Attempt} (silent : stops attempts = 0) :
    Settles (born n) n (last n + window) time ((p.runTasks ⟨time, period, length⟩ transport).1,
      attempts ++ (p.runTasks ⟨time, period, length⟩ transport).2.attempts) := by
  obtain ⟨s, found, isOpen⟩ := ready.sound.pendingOpen pending
  have live := live?_eq_some.mpr ⟨pending, found⟩
  have sends := ready.sound.attempts_runTasks ⟨time, period, length⟩ transport
  have entry := pending_runTasks_live ⟨time, period, length⟩ transport pending found isOpen.unclosed
  have looked := subscription?_runTasks ⟨time, period, length⟩ transport p n
  have came := (ready.waiting n s found).came isOpen period works
  rw [live] at sends
  rw [found] at looked
  simp only [Place.ran, Option.map_some] at sends entry looked
  have other : RequestKind.keepalive s.interval ≠ .stop := nofun
  generalize run : s.runTasks time period transport = result at came
  cases came with
  | goesOn s' emission isOpen timed renewals =>
    simp only [run, isOpen.unclosed, Bool.false_eq_true, if_false] at sends entry looked
    refine .stays _ _ s' looked isOpen (entry.trans pending) ?_
    rw [sends, stops_append, silent, stops_eq_zero _ other renewals]
  | closes s' emission renewals spent closed unobserved come sent renews =>
    simp only [run, closed, if_true] at sends entry looked
    refine .closes _ _ s' looked spent entry ?_ come
    simp only [sends, sent, stops_append, silent, stops_eq_zero _ other renews, Nat.zero_add]
    rfl

/-! ## What an event does at a place -/

/-- What comes of a place in time: it stays so, its pending subscription goes on or closes in time,
and no other stop is sent. -/
structure Comes (born : Nat → Bool) (last : Nat → Nat) (time window : Nat) (spared : Nat → Prop)
    (p : Place) (result : Place × List Attempt) : Prop where
  kept : result.1.Kept born (lastAfter born last time result.1) time window spared
  settles : ∀ n, spared n → p.pending = some (.subscription n) →
    Settles (born n) n (last n + window) time result
  silent : (∀ n, p.pending ≠ some (.subscription n)) → stops result.2 = 0
  forth : ∀ n s, p.subscription? n = some s →
    ∃ s', result.1.subscription? n = some s' ∧ (Spent s → Spent s')

theorem forth_runTasks (t : Timing) (transport : Transport) {n : Nat} {s : Subscription}
    (found : p.subscription? n = some s) :
    ∃ s', (p.runTasks t transport).1.subscription? n = some s' ∧ (Spent s → Spent s') := by
  refine ⟨(Place.ran t transport s).1, ?_, fun spent => ?_⟩
  · rw [subscription?_runTasks, found]
    rfl
  · exact (spent.runTasks t.now t.period transport).1.spent

theorem Kept.congr (kept : p.Kept born last now window spared)
    (same : ∀ n s, p.subscription? n = some s → born' n = born n) :
    p.Kept born' last now window spared where
  sound := kept.sound.congr same
  timed n s found := by
    rw [same n s found]
    exact kept.timed n s found

theorem Ready.congr (ready : p.Ready born last time window spared)
    (same : ∀ n s, p.subscription? n = some s → born' n = born n) :
    p.Ready born' last time window spared where
  sound := ready.sound.congr same
  waiting n s found := by
    rw [same n s found]
    exact ready.waiting n s found

theorem lastAfter_congr (same : ∀ n s, p.subscription? n = some s → born' n = born n) :
    lastAfter born' last time p = lastAfter born last time p := by
  funext n
  cases found : p.subscription? n with
  | none => simp [lastAfter, found]
  | some s => rw [lastAfter_of_found found, lastAfter_of_found found, same n s found]

/-- Nothing happens to the subscriptions but the passing of time. -/
theorem comes_still (kept : p.Kept born (lastAfter born last time p) time window spared)
    (same : ∀ n s, p.subscription? n = some s → born' n = born n) :
    Comes born' last time window spared p (p, []) where
  kept := by
    rw [lastAfter_congr same]
    exact kept.congr same
  settles n _ pending := by
    obtain ⟨s, found, isOpen⟩ := kept.sound.pendingOpen pending
    refine .stays p [] s found ?_ pending rfl
    rw [same n s found]
    exact isOpen
  silent _ := rfl
  forth n s found := ⟨s, found, id⟩

theorem comes_wakes (ready : p.Ready born last time window spared) (period length : Nat)
    (works : ∀ kind, transport kind = none) :
    Comes born last time window spared p ((p.runTasks ⟨time, period, length⟩ transport).1,
      (p.runTasks ⟨time, period, length⟩ transport).2.attempts) where
  kept := ready.runTasks period length works
  settles n _ pending := by
    have none : stops [] = 0 := rfl
    exact ready.settles period length works pending none
  silent vacant := by
    rcases ready.sound.live_or_vacant with ⟨n, s, -, pending, -⟩ | ⟨none, -⟩
    · exact absurd pending (vacant n)
    · rw [ready.sound.attempts_runTasks, none]
      rfl
  forth n s found := forth_runTasks _ transport found

theorem comes_polled (kept : p.Kept born last now window spared)
    (same : ∀ n s, p.subscription? n = some s → born' n = born n) {number stream : Nat}
    {found : Poll Snapshot} (polled : p.poll number stream = some (found, p')) :
    Comes born' last now window spared p (p', []) := by
  have acted := kept.sound.poll now polled
  have same' : ∀ n s, p'.subscription? n = some s → born' n = born n := fun n s there => by
    obtain ⟨s, before, -⟩ := acted.before there
    exact same n s before
  refine ⟨?_, ?_, fun _ => rfl, ?_⟩
  · rw [lastAfter_congr same']
    exact (kept.polled polled).congr same'
  · intro n _ pending
    obtain ⟨s, found, isOpen⟩ := (acted.sound kept.sound).pendingOpen ((acted.entry n).mpr pending)
    refine .stays p' [] s found ?_ ((acted.entry n).mpr pending) rfl
    rw [same' n s found]
    exact isOpen
  · intro n s found
    have turned : Turned born ⟨now, 0, window⟩ (fun _ => False) p (p', []) := turned_silent acted
    exact turned.forth found

theorem comes_turned (kept : p.Kept born last now window spared) {period : Nat}
    {byHand : Nat → Prop} {after : Place} {attempts : List Attempt}
    (turned : Turned born ⟨now, period, window⟩ byHand p (after, attempts))
    (spares : ∀ n, byHand n → ¬ spared n)
    (same : ∀ n s, p.subscription? n = some s → born' n = born n)
    (fresh : ∀ n, p.subscription? n = none → born' n = p.call?.isSome)
    (works : ∀ kind, transport kind = none) :
    Comes born' last now window spared p ((after.runTasks ⟨now, period, window⟩ transport).1,
      attempts ++ (after.runTasks ⟨now, period, window⟩ transport).2.attempts) := by
  have ready := kept.turned turned spares same fresh
  refine ⟨ready.runTasks period window works, ?_, ?_, ?_⟩
  · intro n spared pending
    cases turned with
    | acted _ _ acted quiet =>
      exact ready.settles period window works ((acted.entry n).mpr pending)
        (stops_eq_zero .single nofun quiet)
    | opened s every newborn vacant called => exact absurd pending (vacant n)
    | closed m s closed hand listed found isOpen closes =>
      rw [pending] at listed
      cases listed
      exact absurd spared (spares n hand)
  · intro vacant
    cases turned with
    | acted _ _ acted quiet =>
      -- Only the pending subscription sends a stop, and none is pending before or after.
      have vacant' : ∀ n, after.pending ≠ some (.subscription n) := fun n pending =>
        vacant n ((acted.entry n).mp pending)
      rw [stops_append, stops_eq_zero .single nofun quiet, Nat.zero_add]
      exact (comes_wakes ready period window works).silent vacant'
    | opened s every newborn vacant called =>
      -- The new subscription has a stream, so it goes on.
      have live : (p.adding s).live? = some (p.opened.length, s) :=
        live?_eq_some.mpr ⟨rfl, by rw [subscription?_adding, if_pos rfl]⟩
      have clocked : s.timer.Clocked now now s.liveness.isLive := by
        rw [newborn.live]
        exact newborn.clocked
      have goes := newborn.isOpen.runTasks clocked period works
      rw [stops_append, ready.sound.attempts_runTasks, live]
      have started : stops [⟨.start every, none⟩] = 0 :=
        stops_eq_zero (.start every) nofun fun a => List.mem_singleton.mp
      rw [started, Nat.zero_add]
      exact stops_of_live goes newborn.live
    | closed n _ _ _ pending => exact absurd pending (vacant n)
  · intro n s found
    obtain ⟨s₁, found, spent⟩ := turned.forth found
    obtain ⟨s₂, found, spent'⟩ := forth_runTasks ⟨now, period, window⟩ transport found
    exact ⟨s₂, found, spent' ∘ spent⟩

end Place

end ObservationFeed.Client
