import ObservationFeed.Proofs.Client.Dormant

/-!
# Time at one place

Whenever a task wakes anywhere, the tasks run everywhere.  Elsewhere they are
asleep and nothing comes of it, so time passes at each place by itself: from one
wake of its own tasks to the next.  `passing_advance` says so of the places of
every client that is calm, and whatever happens to a client leaves it calm.
-/

namespace ObservationFeed.Client

open KeyedList

/-! ## What shows of a location -/

/-- What is let out about a location. -/
inductive Sight where
  /-- A message was handed to the transport. -/
  | sent (time : Nat) (attempt : Attempt)
  /-- A call was answered. -/
  | answered (time : Nat) (answer : Return)

/-- What shows of an emission. -/
def Emission.sights (time : Nat) (e : Emission) : List Sight :=
  e.attempts.map (.sent time) ++ e.returns.map (.answered time)

/-- What a log shows of a location. -/
def sightsAt (l : Location) (log : List LogEntry) : List Sight :=
  (log.filter (·.location = l)).flatMap fun entry => entry.emission.sights entry.time

theorem sightsAt_cons (l : Location) (entry : LogEntry) (rest : List LogEntry) :
    sightsAt l (entry :: rest) =
      (if entry.location = l then entry.emission.sights entry.time else []) ++ sightsAt l rest := by
  simp only [sightsAt, List.filter_cons, decide_eq_true_eq]
  split
  · rfl
  · rfl

theorem sightsAt_append (l : Location) (a b : List LogEntry) :
    sightsAt l (a ++ b) = sightsAt l a ++ sightsAt l b := by
  simp only [sightsAt, List.filter_append, List.flatMap_append]

/-! ## One event -/

theorem locations_runTasksAt (net : Network) (ls : List Location) (c : Client) :
    (runTasksAt net ls c).2.map (·.location) = ls := by
  induction ls generalizing c with
  | nil => rfl
  | cons l rest ih => exact congrArg (l :: ·) (ih _)

theorem locations_closePlaces (net : Network) (ls : List Location) (c : Client) :
    (closePlaces net ls c).2.1.map (·.location) = ls := by
  induction ls generalizing c with
  | nil => rfl
  | cons l rest ih => exact congrArg (l :: ·) (ih _)

/-- An event puts down what it lets out about a location in one piece. -/
theorem locations_step {c : Client} (distinct : Distinct c.places) (net : Network) (e : Event) :
    ((c.step net e).2.map (·.location)).Nodup := by
  have one (l : Location) : [l].Nodup := List.pairwise_singleton _ l
  cases e with
  | request l => exact one l
  | abort call => exact one call.location
  | subscribe l every =>
    simp only [step, Client.subscribe]
    split
    · exact List.nodup_nil
    · exact one l
  | poll h => exact List.nodup_nil
  | detach h => exact one h.subscription.location
  | closeSubscription h => exact one h.location
  | respond response =>
    simp only [step, Client.respond]
    split
    · exact List.nodup_nil
    · exact one response.location
  | unsubscribe l =>
    simp only [step, Client.unsubscribe]
    split
    · exact List.nodup_nil
    · exact one l
  | close =>
    simp only [step, Client.close]
    split
    · exact List.nodup_nil
    · exact (locations_closePlaces net _ _).symm ▸ distinct
  | release =>
    refine (locations_runTasksAt net _ _).symm ▸ ?_
    exact distinct.map fun _ => Place.endScopes
  | wake time => exact (locations_runTasksAt net _ _).symm ▸ distinct
  | elapse time => exact List.nodup_nil

theorem filter_of_absent {l : Location} {log : List LogEntry} (absent : l ∉ log.map (·.location)) :
    log.filter (·.location = l) = [] :=
  List.filter_eq_nil_iff.mpr fun entry member here =>
    absent (List.mem_map.mpr ⟨entry, member, of_decide_eq_true here⟩)

/-- What is put down in one piece shows as it was let out. -/
theorem sightsAt_once {l : Location} {time : Nat} {log : List LogEntry}
    (once : (log.map (·.location)).Nodup) (times : ∀ entry ∈ log, entry.time = time) :
    sightsAt l log = (emissionAt l log).sights time := by
  induction log with
  | nil => rfl
  | cons entry rest ih =>
    obtain ⟨absent, once⟩ := List.nodup_cons.mp once
    rw [sightsAt_cons, emissionAt_cons]
    by_cases here : entry.location = l
    · subst here
      have others := filter_of_absent absent
      have nothing : emissionAt entry.location rest = .none := by
        simp [emissionAt, attemptsAt, returnsAt, others, Emission.none]
      rw [if_pos rfl, if_pos rfl, nothing, Emission.append_none, times entry List.mem_cons_self,
        sightsAt, others, List.flatMap_nil, List.append_nil]
    · rw [if_neg here, if_neg here, Emission.none_append, List.nil_append]
      exact ih once fun entry member => times entry (List.mem_cons_of_mem _ member)

/-- What an event shows of a location is what its effect there lets out. -/
theorem sightsAt_step {c : Client} (distinct : Distinct c.places) (net : Network) (e : Event)
    (l : Location) :
    sightsAt l (c.step net e).2 =
      ((c.effect net l e).run ⟨e.time c, c.period, c.window⟩ (net l) (c.place l)).2.sights
        (e.time c) := by
  have run := congrArg Prod.snd (step_run distinct net e l)
  rw [sightsAt_once (locations_step distinct net e) (step_framed net c e).times]
  exact congrArg (Emission.sights (e.time c)) run

/-! ## Clients at rest -/

/-- What an effect may do so that the tasks of a place are asleep once they have run. -/
def Effect.Tends (period now : Nat) (p : Place) : Effect → Prop
  | .still => True
  | .polled after => after.Dormant period now ∧ (p.Sleeps now → after.Sleeps now)
  | .moved after _ => after.Neat period now

/-- Every place is dormant, and its tasks are asleep if keepalives are apart in time. -/
structure Calm (c : Client) : Prop where
  distinct : Distinct c.places
  dormant : ∀ l, (c.place l).Dormant c.period c.now
  sleeps : 0 < c.period → ∀ l, (c.place l).Sleeps c.now

theorem calm_ofConfig (config : Config) : (ofConfig config).Calm where
  distinct := distinct_nil
  dormant _ := Place.dormant_empty _ _
  sleeps _ _ _ member := absurd member List.not_mem_nil

theorem Calm.tends {c : Client} (calm : c.Calm) (net : Network) (l : Location) (e : Event) :
    (c.effect net l e).Tends c.period (e.time c) (c.place l) := by
  have neat : (c.place l).Neat c.period c.now := (calm.dormant l).neat
  cases e with
  | request there =>
    simp only [effect]
    split
    · trivial
    · split
      · exact neat
      · exact neat.request (t := c.timing) (net l)
  | abort call =>
    simp only [effect]
    split
    · trivial
    · exact neat.abort (t := c.timing) call.number
  | subscribe there every =>
    simp only [effect]
    split
    · trivial
    · exact Place.Neat.subscribe (t := c.timing) neat (net l) every
  | poll h =>
    simp only [effect]
    split
    · trivial
    · split
      · next polled => exact (calm.dormant l).poll polled
      · trivial
  | detach h =>
    simp only [effect]
    split
    · trivial
    · exact neat.detach (t := c.timing) h.subscription.number h.number
  | closeSubscription h =>
    simp only [effect]
    split
    · trivial
    · exact neat.closeSubscription (net l) h.number
  | respond response =>
    simp only [effect]
    split
    · trivial
    · exact neat.respond (t := c.timing) (net l) response
  | unsubscribe there =>
    simp only [effect]
    split
    · trivial
    · exact neat.unsubscribe (net l)
  | close =>
    simp only [effect]
    split
    · trivial
    · exact neat.close (net l)
  | release => exact neat.endScopes
  | wake time => exact neat.later (Nat.le_max_left _ _)
  | elapse time => trivial

/-- An effect that tends to it leaves a place with its tasks asleep. -/
theorem Effect.Tends.run {t : Timing} {p : Place} {e : Effect} (tends : e.Tends t.period t.now p)
    (dormant : p.Dormant t.period t.now) (sleeps : 0 < t.period → p.Sleeps t.now)
    (transport : Transport) :
    (e.run t transport p).1.Dormant t.period t.now ∧
      (0 < t.period → (e.run t transport p).1.Sleeps t.now) := by
  cases e with
  | still => exact ⟨dormant, sleeps⟩
  | polled after => exact ⟨tends.1, fun apart => tends.2 (sleeps apart)⟩
  | moved after emission => exact Place.Neat.runTasks tends transport

/-- What happens leaves a client calm, if it is not time that passes by the tasks. -/
theorem Calm.step {c : Client} (calm : c.Calm) (net : Network) {e : Event}
    (onTime : ∀ time, e ≠ .elapse time) : (c.step net e).1.Calm := by
  have framed := step_framed net c e
  have now : (c.step net e).1.now = e.time c := congrArg Timing.now framed.timing
  have period : (c.step net e).1.period = c.period := congrArg Timing.period framed.timing
  have ran (l : Location) : ((c.step net e).1.place l).Dormant c.period (e.time c) ∧
      (0 < c.period → ((c.step net e).1.place l).Sleeps (e.time c)) := by
    have tends := calm.tends net l e
    have after := congrArg Prod.fst (step_run calm.distinct net e l)
    simp only at after
    rw [after]
    rcases e.time_cases c with same | ⟨time, rfl⟩ | ⟨time, rfl⟩
    · rw [same] at tends ⊢
      exact tends.run (t := c.timing) (calm.dormant l) (fun apart => calm.sleeps apart l) (net l)
    · exact Place.Neat.runTasks (t := ⟨max c.now time, c.period, c.window⟩) tends (net l)
    · exact absurd rfl (onTime time)
  refine ⟨framed.distinct calm.distinct, fun l => ?_, fun apart l => ?_⟩
  · rw [now, period]
    exact (ran l).1
  · rw [now]
    exact (ran l).2 (period ▸ apart)

/-! ## Passing time -/

/-- The next task to wake is no later than those of any place. -/
theorem nextWake?_le_place {c : Client} {l : Location} {wake : Nat}
    (wakes : (c.place l).nextWake? = some wake) :
    ∃ time, c.nextWake? = some time ∧ time ≤ wake := by
  cases known : find? l c.places with
  | none =>
    rw [place, known] at wakes
    cases wakes
  | some p =>
    rw [place, known] at wakes
    exact min?_le (List.mem_filterMap.mpr ⟨(l, p), mem_of_find? known, wakes⟩)

/-- The next task to wake is at some place. -/
theorem nextWake?_somewhere {c : Client} (distinct : Distinct c.places) {time : Nat}
    (next : c.nextWake? = some time) : ∃ l, (c.place l).nextWake? = some time := by
  obtain ⟨member, -⟩ := List.min?_eq_some_iff.mp next
  obtain ⟨⟨l, p⟩, inside, wakes⟩ := List.mem_filterMap.mp member
  refine ⟨l, ?_⟩
  rw [place, (find?_eq_some distinct).mpr inside]
  exact wakes

section Wakes

variable {c : Client} {l : Location} {time : Nat}

/-- Nothing wakes at any location before the client has something to wake for. -/
theorem sleeps_of_none {moment : Nat} (none : ∀ time, c.nextWake? = some time → moment < time)
    (l : Location) : (c.place l).Sleeps moment := by
  refine Place.sleeps_iff.mpr fun wake wakes => ?_
  obtain ⟨time, next, first⟩ := nextWake?_le_place wakes
  exact Nat.lt_of_lt_of_le (none time next) first

/-- Keepalives that are apart in time leave the next wake to come. -/
theorem Calm.ahead (calm : c.Calm) (apart : 0 < c.period) (next : c.nextWake? = some time) :
    c.now < time := by
  obtain ⟨l, wakes⟩ := nextWake?_somewhere calm.distinct next
  exact Place.sleeps_iff.mp (calm.sleeps apart l) time wakes

/-- Keepalives that are not leave no wake to come. -/
theorem Calm.due (calm : c.Calm) (together : c.period = 0) {wake : Nat}
    (wakes : (c.place l).nextWake? = some wake) : wake ≤ c.now :=
  Place.Dormant.due (together ▸ calm.dormant l) wakes

end Wakes

namespace Place

/-- Lets time pass at one place up to a moment, with at most a number of stops on the way: its
tasks run whenever one of them wakes. -/
def passWithin (t : Timing) (transport : Transport) (moment : Nat) :
    Nat → Place → Place × List Sight
  | 0, p => (p, [])
  | fuel + 1, p =>
    match p.nextWake? with
    | none => (p, [])
    | some time =>
      if moment < time then (p, [])
      else
        let t := { t with now := max t.now time }
        let (p, emission) := p.runTasks t transport
        let (p, more) := passWithin t transport moment fuel p
        (p, emission.sights t.now ++ more)

theorem passWithin_asleep {t : Timing} {transport : Transport} {moment : Nat} {p : Place}
    (sleeps : p.Sleeps moment) (fuel : Nat) : p.passWithin t transport moment fuel = (p, []) := by
  cases fuel with
  | zero => rfl
  | succ fuel =>
    rw [passWithin]
    cases next : p.nextWake? with
    | none => rfl
    | some wake => exact if_pos (sleeps_iff.mp sleeps wake next)

theorem passWithin_stop {t : Timing} {transport : Transport} {moment wake : Nat} {p : Place}
    (next : p.nextWake? = some wake) (inTime : wake ≤ moment) (fuel : Nat) :
    p.passWithin t transport moment (fuel + 1) =
      let stop := p.runTasks { t with now := max t.now wake } transport
      let rest := stop.1.passWithin { t with now := max t.now wake } transport moment fuel
      (rest.1, stop.2.sights (max t.now wake) ++ rest.2) := by
  rw [passWithin, next]
  exact if_neg (Nat.not_lt.mpr inTime)

end Place

/-- What a client lets out about a location, and the place there, as time passes. -/
abbrev passing (l : Location) (result : Client × List LogEntry) : Place × List Sight :=
  (result.1.place l, sightsAt l result.2)

section Advance

variable {net : Network} {c : Client} {l : Location} {moment : Nat}

theorem passing_wakeAt (calm : c.Calm) (net : Network) (time : Nat) (l : Location) :
    passing l (c.wakeAt net time) =
      let stop := (c.place l).runTasks ⟨max c.now time, c.period, c.window⟩ (net l)
      (stop.1, stop.2.sights (max c.now time)) := by
  have place := congrArg Prod.fst (step_run calm.distinct net (.wake time) l)
  have sights := sightsAt_step calm.distinct net (.wake time) l
  exact Prod.ext place sights

/-- A stop at which nothing wakes at a location makes no difference there. -/
theorem passing_wakeAt_asleep (calm : c.Calm) (net : Network) {time : Nat}
    (sleeps : (c.place l).Sleeps (max c.now time)) :
    passing l (c.wakeAt net time) = (c.place l, []) := by
  have idle := Place.Dormant.idle (t := ⟨max c.now time, c.period, c.window⟩)
    (calm.dormant l) sleeps (net l)
  rw [passing_wakeAt calm, idle]
  rfl

theorem timing_wakeAt (c : Client) (net : Network) (time : Nat) :
    (c.wakeAt net time).1.now = max c.now time ∧ (c.wakeAt net time).1.period = c.period ∧
      (c.wakeAt net time).1.window = c.window := by
  have framed := (step_framed net c (.wake time)).timing
  exact ⟨congrArg Timing.now framed, congrArg Timing.period framed, congrArg Timing.window framed⟩

theorem passing_stop (fuel : Nat) {time : Nat} (next : c.nextWake? = some time)
    (inTime : time ≤ moment) :
    passing l (advanceWithin net moment (fuel + 1) c) =
      let stop := c.wakeAt net time
      let rest := advanceWithin net moment fuel stop.1
      (rest.1.place l, sightsAt l stop.2 ++ sightsAt l rest.2) := by
  rw [passing, advanceWithin, next]
  simp only [if_neg (Nat.not_lt.mpr inTime), sightsAt_append]

theorem advanceWithin_end (fuel : Nat)
    (none : ∀ time, c.nextWake? = some time → moment < time) :
    advanceWithin net moment fuel c = ({ c with now := moment }, []) := by
  cases fuel with
  | zero => rfl
  | succ fuel =>
    rw [advanceWithin]
    cases next : c.nextWake? with
    | none => rfl
    | some time => exact if_pos (none time next)

theorem Calm.wakeAt (calm : c.Calm) (net : Network) (time : Nat) : (c.wakeAt net time).1.Calm :=
  calm.step net (e := .wake time) fun _ => nofun

/-- Something wakes on the way, or nothing does. -/
theorem stops_or_ends (c : Client) (moment : Nat) :
    (∃ time, c.nextWake? = some time ∧ time ≤ moment) ∨
      ∀ time, c.nextWake? = some time → moment < time := by
  cases next : c.nextWake? with
  | none => exact .inr fun time same => by cases same
  | some wake =>
    rcases Nat.lt_or_ge moment wake with later | inTime
    · refine .inr fun time same => ?_
      cases same
      exact later
    · exact .inl ⟨wake, rfl, inTime⟩

/-- Where keepalives are apart in time, a place may be further behind the clock than the client,
as long as nothing wakes there. -/
theorem passing_apart (calm : c.Calm) (apart : 0 < c.period) {t : Timing}
    (period : t.period = c.period) (window : t.window = c.window) (before : t.now ≤ c.now)
    {fuel short : Nat} (enough : moment - c.now < fuel) (also : moment - t.now < short) :
    passing l (advanceWithin net moment fuel c) =
      (c.place l).passWithin t (net l) moment short := by
  induction fuel generalizing c t short with
  | zero => exact absurd enough (Nat.not_lt_zero _)
  | succ fuel ih =>
    rcases c.stops_or_ends moment with ⟨time, next, inTime⟩ | none
    · have ahead := calm.ahead apart next
      have clock : max c.now time = time := Nat.max_eq_right (Nat.le_of_lt ahead)
      have calmly := calm.wakeAt net time
      obtain ⟨now', period', window'⟩ := timing_wakeAt c net time
      rw [clock] at now'
      rw [passing_stop fuel next inTime]
      by_cases due : (c.place l).nextWake? = some time
      · -- Something wakes at the location, and it catches up with the clock.
        obtain ⟨short, rfl⟩ : ∃ n, short = n + 1 := ⟨short - 1, by omega⟩
        have behind : max t.now time = time := Nat.max_eq_right (by omega)
        have timing : ({ t with now := time } : Timing) = ⟨time, c.period, c.window⟩ := by
          rw [period, window]
        have stop := passing_wakeAt calm net time l
        rw [clock, ← timing] at stop
        obtain ⟨place, sights⟩ := Prod.mk.inj stop
        have rest := ih calmly (period'.symm ▸ apart) (t := { t with now := time })
          (period.trans period'.symm) (window.trans window'.symm) (Nat.le_of_eq now'.symm)
          (by rw [now']; omega) (show moment - time < short by omega)
        rw [Place.passWithin_stop due inTime, behind]
        simp only
        rw [← place, ← rest, sights]
      · -- Nothing does, so that it stays behind.
        have sleeps : (c.place l).Sleeps time := Place.sleeps_iff.mpr fun wake wakes => by
          obtain ⟨_, same, first⟩ := nextWake?_le_place wakes
          cases next.symm.trans same
          exact Nat.lt_of_le_of_ne first fun now => due (now ▸ wakes)
        have stop := passing_wakeAt_asleep calm net (clock.symm ▸ sleeps)
        obtain ⟨place, sights⟩ := Prod.mk.inj stop
        have rest := ih calmly (period'.symm ▸ apart) (t := t)
          (period.trans period'.symm) (window.trans window'.symm) (by rw [now']; omega)
          (by rw [now']; omega) also
        simp only
        rw [sights, ← place, ← rest]
        rfl
    · rw [advanceWithin_end _ none, Place.passWithin_asleep (sleeps_of_none none l)]
      rfl

/-- Where they are not, every stop is made at once. -/
theorem passing_together (calm : c.Calm) (together : c.period = 0) (ahead : c.now ≤ moment)
    (fuel : Nat) :
    passing l (advanceWithin net moment fuel c) =
      (c.place l).passWithin c.timing (net l) moment fuel := by
  induction fuel generalizing c with
  | zero => rfl
  | succ fuel ih =>
    rcases c.stops_or_ends moment with ⟨time, next, inTime⟩ | none
    · obtain ⟨there, wakes⟩ := nextWake?_somewhere calm.distinct next
      -- What wakes is due already, so the clock stands still.
      have clock : max c.now time = c.now := Nat.max_eq_left (calm.due together wakes)
      have calmly := calm.wakeAt net time
      obtain ⟨now', period', window'⟩ := timing_wakeAt c net time
      rw [clock] at now'
      have rest := ih calmly (period'.trans together) (now'.symm ▸ ahead)
      have timing : (c.wakeAt net time).1.timing = c.timing := by
        rw [Client.timing, now', period', window']
        rfl
      rw [timing] at rest
      rw [passing_stop fuel next inTime]
      cases here : (c.place l).nextWake? with
      | none =>
        have sleeps (time : Nat) : (c.place l).Sleeps time := by
          refine Place.sleeps_iff.mpr fun wake wakes => ?_
          cases here.symm.trans wakes
        obtain ⟨place, sights⟩ := Prod.mk.inj (passing_wakeAt_asleep calm net (sleeps _))
        rw [place, Place.passWithin_asleep (sleeps moment)] at rest
        rw [Place.passWithin_asleep (sleeps moment), ← rest]
        simp only
        rw [sights]
        rfl
      | some wake =>
        have due := calm.due together here
        have same : max c.timing.now wake = c.timing.now := Nat.max_eq_left due
        have stop := passing_wakeAt calm net time l
        rw [clock] at stop
        obtain ⟨place, sights⟩ := Prod.mk.inj stop
        rw [Place.passWithin_stop here (Nat.le_trans due ahead), same]
        simp only
        rw [place] at rest
        rw [sights]
        exact congrArg (fun later : Place × List Sight => (later.1, _ ++ later.2)) rest
    · rw [advanceWithin_end _ none, Place.passWithin_asleep (sleeps_of_none none l)]
      rfl

/-- Time passes at each place by itself. -/
theorem passing_advance (calm : c.Calm) (net : Network) (ms : Nat) (l : Location) :
    passing l (c.advance net ms) =
      (c.place l).passWithin c.timing (net l) (c.now + ms) (ms + 1) := by
  rcases Nat.eq_zero_or_pos c.period with together | apart
  · exact passing_together calm together (Nat.le_add_right c.now ms) (ms + 1)
  · exact passing_apart calm apart rfl rfl (Nat.le_refl _) (by omega) (by simp [Client.timing])

theorem Calm.elapses (calm : c.Calm) (ahead : c.now ≤ moment)
    (sleeps : 0 < c.period → ∀ l, (c.place l).Sleeps moment) :
    ({ c with now := moment } : Client).Calm :=
  ⟨calm.distinct, fun l => (calm.dormant l).later ahead, sleeps⟩

/-- A client is calm when time has passed, whether or not it has come to the end of its stops. -/
theorem Calm.advanceWithin (calm : c.Calm) (net : Network) (ahead : c.now ≤ moment) {fuel : Nat}
    (enough : 0 < c.period → moment - c.now < fuel) :
    (advanceWithin net moment fuel c).1.Calm ∧
      (Client.advanceWithin net moment fuel c).1.timing = ⟨moment, c.period, c.window⟩ ∧
      (Client.advanceWithin net moment fuel c).1.closed = c.closed := by
  induction fuel generalizing c with
  | zero =>
    exact ⟨calm.elapses ahead fun apart => absurd (enough apart) (Nat.not_lt_zero _), rfl, rfl⟩
  | succ fuel ih =>
    rcases c.stops_or_ends moment with ⟨time, next, inTime⟩ | none
    · obtain ⟨now', period', window'⟩ := timing_wakeAt c net time
      have closed' := (step_framed net c (.wake time)).closed nofun
      have later := ih (calm.wakeAt net time) (by rw [now']; omega) fun apart => by
        have ahead := calm.ahead (period' ▸ apart) next
        have enough := enough (period' ▸ apart)
        rw [now']
        omega
      rw [Client.advanceWithin, next]
      simp only [if_neg (Nat.not_lt.mpr inTime)]
      rw [period', window'] at later
      exact ⟨later.1, later.2.1, later.2.2.trans closed'⟩
    · rw [advanceWithin_end _ none]
      exact ⟨calm.elapses ahead fun _ => sleeps_of_none none, rfl, rfl⟩

theorem Calm.advance (calm : c.Calm) (net : Network) (ms : Nat) :
    (c.advance net ms).1.Calm ∧
      (c.advance net ms).1.timing = ⟨c.now + ms, c.period, c.window⟩ ∧
      (c.advance net ms).1.closed = c.closed :=
  calm.advanceWithin net (Nat.le_add_right c.now ms) fun _ => by omega

end Advance

end ObservationFeed.Client
