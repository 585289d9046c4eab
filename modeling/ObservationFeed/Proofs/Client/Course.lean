import ObservationFeed.Proofs.Client.Follows

/-!
# Courses of a client

What happens to a client one event after the other.  Over a network that works,
each event does one deed at the outline of each place, and then the tasks renew
what is live there and may close it.

A client that was let go takes no more requests, and it is let go only when no
call waits: both are what holding a client means.
-/

namespace ObservationFeed.Client

open KeyedList Subscription Place

/-! ## Events in order -/

/-- The client after some events, and all that was let out. -/
def play (net : Network) : Client → List Event → Client × List LogEntry
  | c, [] => (c, [])
  | c, e :: rest =>
    let (c, log) := c.step net e
    let (c, more) := play net c rest
    (c, log ++ more)

/-- Who has a client can use it until it is let go, and handles also after that. -/
def Event.Possible (c : Client) : Event → Prop
  | .request _ | .subscribe .. | .respond _ | .unsubscribe _ | .close => c.released = false
  | .release => c.released = false ∧ c.hasCallers = false
  | _ => True

instance (c : Client) (e : Event) : Decidable (e.Possible c) :=
  match e with
  | .request _ | .subscribe .. | .respond _ | .unsubscribe _ | .close =>
    inferInstanceAs (Decidable (c.released = false))
  | .release => inferInstanceAs (Decidable (c.released = false ∧ c.hasCallers = false))
  | .abort _ | .poll _ | .detach _ | .closeSubscription _ | .wake _ | .elapse _ => .isTrue trivial

/-- Each event is possible when it happens. -/
def Course (net : Network) : Client → List Event → Prop
  | _, [] => True
  | c, e :: rest => e.Possible c ∧ Course net (c.step net e).1 rest

instance decidableCourse (net : Network) :
    (c : Client) → (events : List Event) → Decidable (Course net c events)
  | _, [] => .isTrue trivial
  | c, e :: rest =>
    have := decidableCourse net (c.step net e).1 rest
    inferInstanceAs (Decidable (e.Possible c ∧ Course net (c.step net e).1 rest))

variable {net : Network} {c : Client} {l : Location} {e : Event}

theorem play_cons (net : Network) (c : Client) (e : Event) (rest : List Event) :
    play net c (e :: rest) =
      ((play net (c.step net e).1 rest).1, (c.step net e).2 ++ (play net (c.step net e).1 rest).2) :=
  rfl

/-- What an event does at the outline of a place. -/
def deed (c : Client) (l : Location) : Event → Deed
  | .request there => if there ≠ l then .nothing else if c.closed then .refuse else .call
  | .abort call => if call.location ≠ l then .nothing else .giveUp call.number
  | .subscribe there every => if there ≠ l ∨ c.closed then .nothing else .subscribe every
  | .closeSubscription h =>
    if h.location ≠ l then .nothing
    else if (c.place l).pending = some (.subscription h.number) then .close else .nothing
  | .respond r =>
    if r.location ≠ l ∨ c.closed then .nothing
    else if (c.place l).takes r.serverTick then .apply r.snapshot else .nothing
  | .unsubscribe there =>
    if there ≠ l ∨ c.closed then .nothing
    else if (c.place l).isSubscribed then .close else .nothing
  | .close => if c.closed then .nothing else .close
  | .release => .close
  | .poll _ | .detach _ | .wake _ | .elapse _ => .nothing

theorem deed_eq_call (does : c.deed l e = .call) : e = .request l ∧ c.closed = false := by
  cases e <;> simp only [deed] at does <;> grind

theorem deed_eq_giveUp {number : Nat} (does : c.deed l e = .giveUp number) :
    e = .abort ⟨l, number⟩ := by
  cases e with
  | abort call =>
    obtain ⟨there, other⟩ := call
    simp only [deed] at does
    grind
  | _ =>
    simp only [deed] at does
    grind

theorem deed_eq_subscribe {every : Interval} (does : c.deed l e = .subscribe every) :
    e = .subscribe l every ∧ c.closed = false := by
  cases e <;> simp only [deed] at does <;> grind

theorem deed_eq_apply {snapshot : Snapshot} (does : c.deed l e = .apply snapshot) :
    ∃ r, e = .respond r ∧ r.location = l ∧ c.closed = false ∧
      (c.place l).takes r.serverTick = true ∧ r.snapshot = snapshot := by
  cases e <;> simp only [deed] at does <;> grind

/-- What is closed is everything or the live subscription. -/
theorem deed_eq_close (does : c.deed l e = .close) :
    (e = .close ∧ c.closed = false) ∨ e = .release ∨ (c.place l).isSubscribed = true := by
  cases e <;> simp only [deed] at does <;> grind [isSubscribed_iff]

theorem deed_ne_renew : c.deed l e ≠ .renew := by
  cases e <;> simp only [deed] <;> grind

/-- Interest in a subscription comes with calls and streams. -/
def Deed.attends : Deed → Bool
  | .call | .subscribe _ => true
  | _ => false

/-- An effect is a deed at an outline. -/
inductive Effect.Does (p : Place) (d : Deed) : Effect → Prop where
  | still : (p.outline, .none) = p.outline.perform d → Does p d .still
  | polled (after : Place) : (after.outline, .none) = p.outline.perform d → Does p d (.polled after)
  | moved (after : Place) (emission : Emission) :
      (after.outline, emission) = p.outline.perform d → (d.attends = true → after.Watched) →
      Does p d (.moved after emission)

theorem Effect.Does.unattended {p after : Place} {d : Deed} {emission : Emission}
    (follows : (after.outline, emission) = p.outline.perform d) (idle : d.attends = false) :
    Does p d (.moved after emission) :=
  .moved after emission follows fun attends => absurd (idle.symm.trans attends) Bool.false_ne_true

theorem effect_does (works : ∀ l kind, net l kind = none) {born : Nat → Bool}
    (sound : (c.place l).Sound born) (heard : (c.place l).Heard) (stays : e ≠ .release) :
    (c.effect net l e).Does (c.place l) (c.deed l e) := by
  cases e with
  | request there =>
    simp only [effect, deed]
    split
    · exact .still rfl
    · split
      · exact .unattended (follows_refuse _) rfl
      · exact .moved _ _ (sound.follows_request c.timing (works l)) fun _ =>
          sound.watched_request c.timing (net l)
  | abort call =>
    simp only [effect, deed]
    split
    · exact .still rfl
    · exact .unattended (sound.follows_abort c.timing call.number) rfl
  | subscribe there every =>
    simp only [effect, deed]
    split
    · exact .still rfl
    · exact .moved _ _ (sound.follows_subscribe c.timing (works l _)) fun _ =>
        sound.watched_subscribe c.timing (works l _)
  | poll h =>
    simp only [effect, deed]
    split
    · exact .still rfl
    · split
      · next found after polled =>
        exact .polled _ (congrArg (Prod.mk · Emission.none) (outline_poll polled))
      · exact .still rfl
  | detach h =>
    simp only [effect, deed]
    split
    · exact .still rfl
    · exact .unattended (congrArg (Prod.mk · Emission.none) (outline_detach ..)) rfl
  | closeSubscription h =>
    simp only [effect, deed]
    split
    · exact .still rfl
    · refine .unattended (sound.follows_closeSubscription heard (works l .stop) h.number) ?_
      split <;> rfl
  | respond r =>
    simp only [effect, deed]
    split
    · exact .still rfl
    · refine .unattended (sound.follows_respond c.timing (net l) r) ?_
      split <;> rfl
  | unsubscribe there =>
    simp only [effect, deed]
    split
    · exact .still rfl
    · refine .unattended (sound.follows_unsubscribe (works l .stop)) ?_
      split <;> rfl
  | close =>
    simp only [effect, deed]
    split
    · exact .still rfl
    · exact .unattended (sound.follows_close (works l .stop)) rfl
  | release => exact absurd rfl stays
  | wake time => exact .unattended rfl rfl
  | elapse time => exact .still rfl

/-! ## Clients in order -/

/-- What holds of a client between two events. -/
structure Regular (c : Client) : Prop where
  distinct : Distinct c.places
  fit : ∀ l, ∃ born, (c.place l).Fit born c.now
  heard : ∀ l, (c.place l).Heard

theorem regular_ofConfig (config : Config) : Regular (ofConfig config) where
  distinct := distinct_nil
  fit _ := ⟨fun _ => false, fit_empty _ _⟩
  heard _ := heard_empty

theorem hasCallers_place (nobody : c.hasCallers = false) (l : Location) :
    (c.place l).hasCallers = false := by
  rw [place]
  cases found : find? l c.places with
  | none => rfl
  | some p => simpa using List.any_eq_false.mp nobody (l, p) (mem_of_find? found)

/-- What comes of an event at a place: its deed, and what the tasks do after it. -/
structure Ensues (o : Outline) (d : Deed) (renewals : Nat) (closes : Bool) (after : Outline)
    (emission : Emission) : Prop where
  outline : after = (o.performAll (d :: Outline.tasks renewals closes)).1
  emission : emission = (o.performAll (d :: Outline.tasks renewals closes)).2
  closed : closes = true → d.attends = false ∧ (o.perform d).1.phase.isSubscribed = true

variable {o : Outline} {d : Deed} {after : Place} {emission : Emission}

theorem ensues_quiet (does : (after.outline, emission) = o.perform d) :
    Ensues o d 0 false after.outline emission := by
  refine ⟨?_, ?_, nofun⟩
  · exact congrArg Prod.fst does
  · exact (congrArg Prod.snd does).trans (Emission.append_none _).symm

theorem ensues_moved {born : Nat → Bool} {now : Nat} (fit : after.Fit born now)
    (heard : after.Heard) (does : (after.outline, emission) = o.perform d)
    (watched : d.attends = true → after.Watched) (period window : Nat) {transport : Transport}
    (works : ∀ kind, transport kind = none) :
    ∃ renewals closes, Ensues o d renewals closes
      (after.runTasks ⟨now, period, window⟩ transport).1.outline
      (emission ++ (after.runTasks ⟨now, period, window⟩ transport).2) := by
  obtain ⟨renewals, closes, follows, idle⟩ := fit.follows_runTasks heard period window works
  refine ⟨renewals, closes, ?_, ?_, fun closed => ?_⟩
  · rw [Outline.performAll, ← does]
    exact congrArg Prod.fst follows
  · rw [Outline.performAll, ← does]
    exact congrArg (emission ++ ·.2) follows
  · obtain ⟨n, s, live, idle⟩ := idle closed
    rw [← does]
    refine ⟨?_, ?_⟩
    · cases attends : d.attends with
      | false => rfl
      | true =>
        -- Somebody has just shown interest, so the timer is not armed.
        rw [watched attends n s live] at idle
        cases idle
    · rw [fit.sound.isSubscribed_outline]
      exact isSubscribed_iff.mpr ⟨n, (live?_eq_some.mp live).1⟩

theorem Regular.ensues (regular : Regular c) (works : ∀ l kind, net l kind = none)
    (possible : e.Possible c) (l : Location) :
    let result := (c.effect net l e).run ⟨e.time c, c.period, c.window⟩ (net l) (c.place l)
    result.1.Heard ∧
      ∃ renewals closes,
        Ensues (c.place l).outline (c.deed l e) renewals closes result.1.outline result.2 := by
  obtain ⟨born, fit⟩ := regular.fit l
  have heard := regular.heard l
  -- Letting the client go ends all scopes at once, which is no deed of one subscription.
  by_cases release : e = .release
  · subst release
    have nobody := hasCallers_place possible.2 l
    exact ⟨fit.sound.heard_released _ (works l) nobody, 0, false,
      ensues_quiet (fit.sound.follows_release _ (works l) nobody)⟩
  · have happens := effect_works works fit.sound release
    have does := effect_does works fit.sound heard release
    have fit := fit.later (e.now_le_time c)
    generalize c.effect net l e = effect at happens does ⊢
    cases happens with
    | still =>
      cases does with
      | still does => exact ⟨heard, 0, false, ensues_quiet does⟩
    | polled number stream found after polled =>
      cases does with
      | polled after does =>
        have turned : Turned born ⟨e.time c, c.period, c.window⟩ (fun _ => False) (c.place l)
            (after, []) := turned_silent (fit.sound.poll (e.time c) polled)
        exact ⟨heard.turned fit.sound turned, 0, false, ensues_quiet does⟩
    | moved after emission turned =>
      cases does with
      | moved after emission does watched =>
        obtain ⟨born', fit'⟩ := fit.turned turned
        have heard' := heard.turned fit.sound turned
        exact ⟨heard'.runTasks fit' c.period c.window (works l),
          ensues_moved fit' heard' does watched c.period c.window (works l)⟩

theorem Regular.step (regular : Regular c) (works : ∀ l kind, net l kind = none)
    (possible : e.Possible c) : Regular (c.step net e).1 where
  distinct := (step_framed net c e).distinct regular.distinct
  fit l := by
    obtain ⟨born, fit⟩ := regular.fit l
    obtain ⟨born', fit', -⟩ := fit.step works e
    have now : (c.step net e).1.now = e.time c := congrArg Timing.now (step_framed net c e).timing
    rw [← step_at regular.distinct net e l, ← now] at fit'
    exact ⟨born', fit'⟩
  heard l := by
    have ensues := regular.ensues works possible l
    rw [← step_run regular.distinct net e l] at ensues
    exact ensues.1

/-- Each event does its deed at the outline of each place, and the tasks may renew what is live
after it and close it. -/
theorem Regular.follows (regular : Regular c) (works : ∀ l kind, net l kind = none)
    (possible : e.Possible c) (l : Location) :
    ∃ renewals closes, Ensues (c.place l).outline (c.deed l e) renewals closes
      ((c.step net e).1.place l).outline (emissionAt l (c.step net e).2) := by
  have ensues := regular.ensues works possible l
  rw [← step_run regular.distinct net e l] at ensues
  exact ensues.2

/-- Where interest is shown, and where no subscription is live after its deed, an event does no more
than that. -/
theorem Regular.does_deed (regular : Regular c) (works : ∀ l kind, net l kind = none)
    (possible : e.Possible c) (l : Location)
    (stays : (c.deed l e).attends = true ∨
      ((c.place l).outline.perform (c.deed l e)).1.phase.isSubscribed = false) :
    ((c.step net e).1.place l).outline = ((c.place l).outline.perform (c.deed l e)).1 := by
  obtain ⟨renewals, closes, outline, -, closed⟩ := regular.follows works possible l
  cases closes with
  | true =>
    obtain ⟨idle, subscribed⟩ := closed rfl
    rcases stays with attends | unsubscribed
    · cases idle.symm.trans attends
    · cases subscribed.symm.trans unsubscribed
  | false => exact outline.trans (Outline.performAll_tasks ..)

theorem Course.regular {events : List Event} (works : ∀ l kind, net l kind = none)
    (regular : Regular c) (course : Course net c events) : Regular (play net c events).1 := by
  induction events generalizing c with
  | nil => exact regular
  | cons e rest ih => exact ih (regular.step works course.1) course.2

/-! ## The end of a client -/

/-- A client that was closed or let go. -/
def Gone (c : Client) : Prop := c.closed = true ∨ c.released = true

theorem gone_close (net : Network) (c : Client) : Gone (c.step net .close).1 := by
  simp only [Client.step, Client.close]
  split
  · next closed => exact .inl closed
  · exact .inl (sameBut_closePlaces net (keys c.places) { c with closed := true }).closed

theorem gone_release (net : Network) (c : Client) : Gone (c.step net .release).1 :=
  .inr (sameBut_runTasks net _).released

theorem Gone.step (gone : Gone c) (net : Network) (e : Event) : Gone (c.step net e).1 := by
  by_cases close : e = .close
  · subst close
    exact gone_close net c
  by_cases release : e = .release
  · subst release
    exact gone_release net c
  have framed := step_framed net c e
  exact gone.imp (framed.closed close).trans (framed.released release).trans

end ObservationFeed.Client
