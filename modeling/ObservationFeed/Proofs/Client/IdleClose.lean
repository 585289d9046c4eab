import ObservationFeed.Proofs.Client.Timed

/-!
# Subscriptions that close when nobody is interested

A subscription that is not closed from outside closes itself at the first
moment at which nobody has been interested for a whole window.  Who is
interested is read off the history: the streams of each state, the callers that
are parked or were answered and have not gone on, and for a subscription that was
opened from a pending call whether a response has been applied.
-/

namespace ObservationFeed.Client

open KeyedList Place

/-! ## Histories -/

/-- Whether a subscription took over a call that was pending when it was opened.  A history has the
latest state first. -/
def bornOfCall (h : SubscriptionHandle) : List Client → Bool
  | _ :: before :: past =>
    if (before.subscription? h).isSome then bornOfCall h (before :: past)
    else (before.place h.location).call?.isSome
  | _ => false

/-- Whether someone is interested in a subscription at the end of a history. -/
def observed (h : SubscriptionHandle) (history : List Client) : Bool :=
  (history.head?.bind (·.subscription? h)).any (·.observed (bornOfCall h history))

/-- The last moment of a history at which someone was interested in a subscription. -/
def lastObserved (h : SubscriptionHandle) : List Client → Nat
  | [] => 0
  | c :: past => if observed h (c :: past) then c.now else lastObserved h past

/-- Nobody has been interested in a subscription for a whole window. -/
def Idle (h : SubscriptionHandle) (c : Client) (past : List Client) : Prop :=
  observed h (c :: past) = false ∧ lastObserved h (c :: past) + c.window ≤ c.now

/-- What can happen to a client whose tasks go on at once. -/
inductive Turn where
  | event (e : Event)
  /-- A response is handed over, and its parked callers go on later. -/
  | hear (response : Response)
  /-- A caller that was answered goes on, perhaps with the end of the scope. -/
  | depart (h : SubscriptionHandle) (call : Nat) (cancelled : Bool)

/-- A client whose tasks have gone on, and all that was let out. -/
def goOn (net : Network) (result : Client × List LogEntry) : Client × List LogEntry :=
  let (c, more) := result.1.runTasks net
  (c, result.2 ++ more)

/-- What a turn does to a client. -/
def turn (net : Network) (c : Client) : Turn → Client × List LogEntry
  | .event e => c.step net e
  | .hear response => goOn net (c.accept net response).result
  | .depart h call cancelled => goOn net (c.depart h call cancelled)

/-- When a turn happens. -/
def Turn.time (c : Client) : Turn → Nat
  | .event e => e.time c
  | .hear _ | .depart .. => c.now

/-- Tasks run as soon as they are due: time does not pass by the moment at which the next wakes. -/
def Event.OnTime (c : Client) : Event → Prop
  | .wake time => c.nextWake? = some time
  | .elapse time => ∀ next, c.nextWake? = some next → time < next
  | _ => True

def Turn.OnTime (c : Client) : Turn → Prop
  | .event e => e.OnTime c
  | .hear _ | .depart .. => True

/-- The turns that close a subscription from outside, or end its scope. -/
def Turn.Closes (c : Client) (h : SubscriptionHandle) : Turn → Prop
  | .event e => e.Closes c h
  | .hear _ | .depart .. => False

/-- The histories in which tasks run on time and nothing from outside closes a subscription. -/
inductive Run (net : Network) (h : SubscriptionHandle) : List Client → Prop where
  | start (config : Config) : Run net h [ofConfig config]
  | step (c : Client) (past : List Client) (a : Turn) :
      Run net h (c :: past) → a.OnTime c → ¬ a.Closes c h →
      Run net h ((c.turn net a).1 :: c :: past)

/-! ## Time -/

theorem min?_le {items : List Nat} {x : Nat} (member : x ∈ items) :
    ∃ m, items.min? = some m ∧ m ≤ x := by
  cases least : items.min? with
  | none =>
    rw [List.min?_eq_none_iff.mp least] at member
    cases member
  | some m => exact ⟨m, rfl, (List.min?_eq_some_iff.mp least).2 x member⟩

/-- The next task to wake is no later than those of any subscription. -/
theorem nextWake?_le {c : Client} {h : SubscriptionHandle} {s : Subscription}
    (found : c.subscription? h = some s) {time : Nat} (wakes : s.nextWake? = some time) :
    ∃ w, c.nextWake? = some w ∧ w ≤ time := by
  -- The least of the place is no later than the subscription, and that of the client no later than
  -- the place.
  obtain ⟨p, known, there⟩ : ∃ p, find? h.location c.places = some p ∧
      p.subscription? h.number = some s := by
    rw [subscription?, place] at found
    cases known : find? h.location c.places with
    | none =>
      rw [known] at found
      cases found
    | some p =>
      rw [known] at found
      exact ⟨p, rfl, found⟩
  have opened : s ∈ p.opened := List.mem_of_getElem? there
  obtain ⟨d, place, first⟩ : ∃ d, p.nextWake? = some d ∧ d ≤ time :=
    min?_le (List.mem_filterMap.mpr ⟨s, opened, wakes⟩)
  obtain ⟨w, client, second⟩ : ∃ w, c.nextWake? = some w ∧ w ≤ d :=
    min?_le (List.mem_filterMap.mpr ⟨_, mem_of_find? known, place⟩)
  exact ⟨w, client, Nat.le_trans second first⟩

/-- The next task to wake is no later than any of a timer that is asleep. -/
theorem wakes_by {c : Client} {h : SubscriptionHandle} {s : Subscription}
    (found : c.subscription? h = some s) {scope target : Nat}
    (asleep : .sleeping scope target ∈ s.timer.tasks) : ∃ w, c.nextWake? = some w ∧ w ≤ target := by
  obtain ⟨a, timer, first⟩ : ∃ a, s.timer.nextWake? = some a ∧ a ≤ target :=
    min?_le (List.mem_filterMap.mpr ⟨_, asleep, rfl⟩)
  obtain ⟨b, subscription, second⟩ : ∃ b, s.nextWake? = some b ∧ b ≤ a :=
    min?_le (List.mem_append_right _ (by simp [timer]))
  obtain ⟨w, client, third⟩ := nextWake?_le found subscription
  exact ⟨w, client, by omega⟩

/-! ## Runs -/

/-- The births and the last interest of the subscriptions of a location. -/
abbrev born (l : Location) (history : List Client) (n : Nat) : Bool := bornOfCall ⟨l, n⟩ history

abbrev last (l : Location) (history : List Client) (n : Nat) : Nat := lastObserved ⟨l, n⟩ history

/-- What a subscription is born of stays in the history. -/
theorem born_known {c' c : Client} {past : List Client} {l : Location} {n : Nat} {s : Subscription}
    (found : (c.place l).subscription? n = some s) :
    born l (c' :: c :: past) n = born l (c :: past) n := by
  have known : (c.subscription? ⟨l, n⟩).isSome = true := by
    rw [subscription?, found]
    rfl
  rw [born, bornOfCall, if_pos known]

/-- One that a step opens is born of the call that is pending before it. -/
theorem born_unknown {c' c : Client} {past : List Client} {l : Location} {n : Nat}
    (absent : (c.place l).subscription? n = none) :
    born l (c' :: c :: past) n = (c.place l).call?.isSome := by
  have unknown : ¬ (c.subscription? ⟨l, n⟩).isSome = true := by
    rw [subscription?, absent]
    exact Bool.false_ne_true
  rw [born, bornOfCall, if_neg unknown]

/-- What holds of the place of a subscription after every run. -/
structure InTime (h : SubscriptionHandle) (c : Client) (past : List Client) : Prop where
  distinct : Distinct c.places
  kept : (c.place h.location).Kept (born h.location (c :: past)) (last h.location (c :: past)) c.now
    c.window (· = h.number)

variable {net : Network} {h : SubscriptionHandle} {c : Client} {past : List Client}

theorem Event.time_cases (c : Client) (e : Event) :
    e.time c = c.now ∨ (∃ time, e = .wake time) ∨ ∃ time, e = .elapse time := by
  cases e with
  | wake time => exact .inr (.inl ⟨time, rfl⟩)
  | elapse time => exact .inr (.inr ⟨time, rfl⟩)
  | _ => exact .inl rfl

/-- What an event that is on time does at the place of a subscription that it spares. -/
theorem InTime.comes_event (inTime : InTime h c past) (works : ∀ l kind, net l kind = none)
    {e : Event} (onTime : e.OnTime c) (spares : ¬ e.Closes c h) (c' : Client) :
    Comes (born h.location (c' :: c :: past)) (last h.location (c :: past)) (e.time c) c.window
      (· = h.number) (c.place h.location) (c.outcomeAt net h.location e) := by
  rw [outcomeAt]
  have same : ∀ n s, (c.place h.location).subscription? n = some s →
      born h.location (c' :: c :: past) n = born h.location (c :: past) n :=
    fun _ _ => born_known
  have fresh : ∀ n, (c.place h.location).subscription? n = none →
      born h.location (c' :: c :: past) n = (c.place h.location).call?.isSome :=
    fun _ => born_unknown
  rcases e.time_cases c with now | ⟨time, rfl⟩ | ⟨time, rfl⟩
  · have stays : e ≠ .release := by
      rintro rfl
      exact spares trivial
    have effect := effect_works works inTime.kept.sound stays
    rw [now] at effect ⊢
    generalize c.effect net h.location e = happens at effect ⊢
    cases effect with
    | still => exact comes_still inTime.kept.stays same
    | polled number stream found after polled => exact comes_polled inTime.kept same polled
    | moved after emission turned =>
      refine comes_turned inTime.kept turned ?_ same fresh (works h.location)
      rintro n hand rfl
      exact spares hand
  · -- No task wakes before the next one does, so none is late.
    refine comes_wakes ((inTime.kept.wakes (Nat.le_max_left c.now time) ?_).congr same) c.period
      c.window (works h.location)
    intro n s found scope target asleep sleeps
    obtain ⟨w, next, before⟩ := wakes_by (h := ⟨h.location, n⟩) found asleep
    cases onTime.symm.trans next
    exact Nat.max_le.mpr ⟨Nat.le_of_lt sleeps, before⟩
  · -- The clock stops short of the next task, so every task sleeps on.
    refine comes_still (inTime.kept.elapses (Nat.le_max_left c.now time) ?_) same
    intro n s found scope target asleep sleeps
    obtain ⟨w, next, before⟩ := wakes_by (h := ⟨h.location, n⟩) found asleep
    exact Nat.max_lt.mpr ⟨sleeps, Nat.lt_of_lt_of_le (onTime w next) before⟩

/-- What is made of a client by acts at its places, and what the tasks let out that go on then. -/
theorem goOn_at {result : Client × List LogEntry} (same : SameBut c result.1)
    (distinct : Distinct c.places) (l : Location) (quiet : attemptsAt l result.2 = []) :
    ((goOn net result).1.place l, attemptsAt l (goOn net result).2) =
      (((result.1.place l).runTasks c.timing (net l)).1,
        [] ++ ((result.1.place l).runTasks c.timing (net l)).2.attempts) := by
  have run := runTasks_at (same.distinct distinct) net l
  rw [same.timing] at run
  have place := congrArg Prod.fst run
  have emission := congrArg (·.2.attempts) run
  simp only [Effect.run, Emission.none_append, attempts_emissionAt] at place emission
  rw [goOn, ← place, ← emission, ← quiet]
  exact congrArg (Prod.mk _) (congrArg Emission.attempts (emissionAt_append l result.2 _))

theorem sameBut_goOn {result : Client × List LogEntry} (same : SameBut c result.1) :
    SameBut c (goOn net result).1 :=
  same.trans (sameBut_runTasks net result.1)

/-- What comes of an act after which the tasks go on. -/
theorem InTime.comes_acted (inTime : InTime h c past) (works : ∀ l kind, net l kind = none)
    {result : Client × List LogEntry} (same : SameBut c result.1)
    (acted : Acted (born h.location (c :: past)) c.now (c.place h.location)
      (result.1.place h.location))
    (quiet : attemptsAt h.location result.2 = []) (c' : Client) :
    Comes (born h.location (c' :: c :: past)) (last h.location (c :: past)) c.now c.window
      (· = h.number) (c.place h.location)
      ((goOn net result).1.place h.location, attemptsAt h.location (goOn net result).2) := by
  have turned : Turned (born h.location (c :: past)) c.timing (fun _ => False)
      (c.place h.location) (result.1.place h.location, []) := turned_silent acted
  rw [goOn_at same inTime.distinct h.location quiet]
  exact comes_turned inTime.kept turned (fun _ => False.elim) (fun _ _ => born_known)
    (fun _ => born_unknown) (works h.location)

theorem InTime.comes (inTime : InTime h c past) (works : ∀ l kind, net l kind = none) {a : Turn}
    (onTime : a.OnTime c) (spares : ¬ a.Closes c h) (c' : Client) :
    Comes (born h.location (c' :: c :: past)) (last h.location (c :: past)) (a.time c) c.window
      (· = h.number) (c.place h.location)
      ((c.turn net a).1.place h.location, attemptsAt h.location (c.turn net a).2) := by
  cases a with
  | event e =>
    rw [turn, step_at inTime.distinct]
    exact inTime.comes_event works onTime spares c'
  | hear response =>
    obtain ⟨acted, quiet⟩ := inTime.kept.sound.acted_accept net response
    exact inTime.comes_acted works (sameBut_accept c net response) acted quiet c'
  | depart other call cancelled =>
    obtain ⟨acted, quiet⟩ := inTime.kept.sound.acted_depart other call cancelled
    exact inTime.comes_acted works (sameBut_depart c other call cancelled) acted quiet c'

/-- A turn moves the clock to its time, and leaves the window alone and the places distinct. -/
theorem turn_framed (net : Network) (c : Client) (a : Turn) :
    (c.turn net a).1.now = a.time c ∧ (c.turn net a).1.window = c.window ∧
      (Distinct c.places → Distinct (c.turn net a).1.places) := by
  cases a with
  | event e =>
    have framed := step_framed net c e
    exact ⟨congrArg Timing.now framed.timing, congrArg Timing.window framed.timing,
      framed.distinct⟩
  | hear response =>
    have same : SameBut c (c.turn net (.hear response)).1 :=
      sameBut_goOn (sameBut_accept c net response)
    exact ⟨same.now, same.window, same.distinct⟩
  | depart other call cancelled =>
    have same : SameBut c (c.turn net (.depart other call cancelled)).1 :=
      sameBut_goOn (sameBut_depart c other call cancelled)
    exact ⟨same.now, same.window, same.distinct⟩

theorem InTime.turn (inTime : InTime h c past) (works : ∀ l kind, net l kind = none) {a : Turn}
    (onTime : a.OnTime c) (spares : ¬ a.Closes c h) : InTime h (c.turn net a).1 (c :: past) := by
  have comes := inTime.comes works onTime spares (c.turn net a).1
  obtain ⟨now, window, distinct⟩ := turn_framed net c a
  refine ⟨distinct inTime.distinct, ?_⟩
  have kept := comes.kept
  rw [← now, ← window] at kept
  exact kept

theorem Run.inTime (works : ∀ l kind, net l kind = none) {history : List Client}
    (run : Run net h history) : ∃ c past, history = c :: past ∧ InTime h c past := by
  induction run with
  | start config =>
    have nothing : (ofConfig config).place h.location = .empty := rfl
    refine ⟨_, _, rfl, distinct_nil, ?_⟩
    rw [nothing]
    exact ⟨sound_empty _, fun n s found => absurd found (not_found_empty n s)⟩
  | step c past a run onTime spares ih =>
    obtain ⟨_, _, same, inTime⟩ := ih
    cases same
    exact ⟨_, _, rfl, inTime.turn works onTime spares⟩

/-! ## Closing in time -/

theorem InTime.closed_iff (inTime : InTime h c past) {s : Subscription}
    (found : c.subscription? h = some s) : s.isClosed = true ↔ Idle h c past := by
  have seen : observed h (c :: past) = s.observed (bornOfCall h (c :: past)) := by
    simp [observed, found]
  rw [Idle, seen]
  cases inTime.kept.timed h.number s found with
  | live isOpen clocked rested same early =>
    rw [isOpen.isClosed, ← isOpen.isLive]
    refine ⟨nofun, fun ⟨idle, come⟩ => ?_⟩
    -- While it is open its window is not over.
    exact absurd (early idle) (Nat.not_lt.mpr come)
  | spent spent behind =>
    rw [spent.isClosed]
    exact ⟨fun _ => behind rfl, fun _ => rfl⟩

/-- A subscription that nothing from outside closes is closed exactly if nobody has been interested
for a whole window.  It closes in the turn that ends the window, with one stop, and its entry goes;
until then it keeps its entry and sends none. -/
theorem closed_iff_idle (works : ∀ l kind, net l kind = none) (run : Run net h (c :: past))
    {s : Subscription} (found : c.subscription? h = some s) :
    (s.isClosed = true ↔ Idle h c past) ∧
    ∀ a : Turn, a.OnTime c → ¬ a.Closes c h →
      ∃ s', (c.turn net a).1.subscription? h = some s' ∧
        (s.isClosed = true → s'.isClosed = true) ∧
        (s.isClosed = false → s'.isClosed = true →
          (c.turn net a).1.now = lastObserved h (c :: past) + c.window ∧
          stops (attemptsAt h.location (c.turn net a).2) = 1 ∧
          c.Lists h ∧ ((c.turn net a).1.place h.location).pending = none) ∧
        (s'.isClosed = false →
          stops (attemptsAt h.location (c.turn net a).2) = 0 ∧ (c.turn net a).1.Lists h) ∧
        (c.live? h.location = none → stops (attemptsAt h.location (c.turn net a).2) = 0) := by
  obtain ⟨_, _, same, inTime⟩ := run.inTime works
  cases same
  refine ⟨inTime.closed_iff found, fun a onTime spares => ?_⟩
  have comes := inTime.comes works onTime spares (c.turn net a).1
  have now := (turn_framed net c a).1
  obtain ⟨s', found', staysSpent⟩ := comes.forth h.number s found
  have silent : c.live? h.location = none →
      stops (attemptsAt h.location (c.turn net a).2) = 0 := by
    intro unlisted
    rcases inTime.kept.sound.live_or_vacant with ⟨n, s, live, -⟩ | ⟨-, vacant⟩
    · rw [live?, live] at unlisted
      cases unlisted
    · exact comes.silent vacant
  refine ⟨s', found', ?_⟩
  rcases inTime.kept.sound.each h.number s found with isOpen | spent
  · -- An open subscription is the pending one, and what its tasks do decides.
    have pending := (inTime.kept.sound.entry h.number).mpr ⟨s, found, isOpen.isClosed⟩
    have settles := comes.settles h.number rfl pending
    generalize result : ((c.turn net a).1.place h.location,
      attemptsAt h.location (c.turn net a).2) = after at settles
    rw [isOpen.isClosed]
    cases settles with
    | stays p attempts s'' there isOpen' listed none =>
      cases result
      cases there.symm.trans found'
      rw [isOpen'.isClosed]
      exact ⟨nofun, fun _ => nofun, fun _ => ⟨none, listed⟩, silent⟩
    | closes p attempts s'' there spent unlisted one due =>
      cases result
      cases there.symm.trans found'
      rw [spent.isClosed]
      exact ⟨nofun, fun _ _ => ⟨now.trans due, one, pending, unlisted⟩, nofun, silent⟩
  · rw [spent.isClosed, (staysSpent spent).isClosed]
    exact ⟨fun _ => rfl, nofun, nofun, silent⟩

/-- A caller parks on a subscription whose stream is dropped.  It is answered, and goes on 300
milliseconds later.  Half a second after that the subscription closes. -/
theorem closed_iff_idle_of_answered :
    let net : Network := fun _ _ => none
    let h : SubscriptionHandle := ⟨⟨"overworld", ⟨1, 2, 3⟩⟩, 0⟩
    let c₀ := ofConfig {}
    let c₁ := (c₀.turn net (.event (.subscribe h.location (.clamp 20)))).1
    let c₂ := (c₁.turn net (.event (.request h.location))).1
    let c₃ := (c₂.turn net (.event (.detach ⟨h, 0⟩))).1
    let c₄ := (c₃.turn net (.hear ⟨h.location, .empty, none⟩)).1
    let c₅ := (c₄.turn net (.event (.elapse 300))).1
    let c₆ := (c₅.turn net (.depart h 0 false)).1
    let past := [c₅, c₄, c₃, c₂, c₁, c₀]
    let after := c₆.turn net (.event (.wake 800))
    Run net h (c₆ :: past) ∧ lastObserved h (c₆ :: past) = 300 ∧
      after.1.now = lastObserved h (c₆ :: past) + c₆.window ∧
      stops (attemptsAt h.location after.2) = 1 ∧ (after.1.place h.location).pending = none := by
  intro net h c₀ c₁ c₂ c₃ c₄ c₅ c₆ past after
  have sleeps : c₄.nextWake? = some 60000 := by decide +kernel +zetaReduce
  have run : Run net h [c₃, c₂, c₁, c₀] :=
    .step c₂ _ (.event (.detach ⟨h, 0⟩)) (.step c₁ _ (.event (.request h.location)) (.step c₀ _
      (.event (.subscribe h.location (.clamp 20))) (.start {}) trivial id) trivial id) trivial id
  have run : Run net h (c₅ :: [c₄, c₃, c₂, c₁, c₀]) :=
    .step c₄ _ (.event (.elapse 300)) (.step c₃ _ (.hear ⟨h.location, .empty, none⟩) run trivial id)
      (fun next wakes => by cases sleeps.symm.trans wakes; decide) id
  have run : Run net h (c₆ :: past) := .step c₅ _ (.depart h 0 false) run trivial id
  have opened : (c₆.subscription? h).map Subscription.isClosed = some false := by
    decide +kernel +zetaReduce
  have due : c₆.nextWake? = some 800 := by decide +kernel +zetaReduce
  have latest : lastObserved h (c₆ :: past) = 300 := by decide +kernel +zetaReduce
  have closed : (after.1.subscription? h).map Subscription.isClosed = some true := by
    decide +kernel +zetaReduce
  -- From here on it does not matter what the states are.
  clear_value past c₆
  obtain ⟨s, found, isOpen⟩ := Option.map_eq_some_iff.mp opened
  obtain ⟨-, steps⟩ := closed_iff_idle (fun _ _ => rfl) run found
  obtain ⟨s', found', -, closes, -⟩ := steps (.event (.wake 800)) due id
  rw [found'] at closed
  obtain ⟨now, one, -, gone⟩ := closes isOpen (Option.some.inj closed)
  exact ⟨run, latest, now, one, gone⟩

end ObservationFeed.Client
