import ObservationFeed.Proofs.Client.Passing

/-!
# Locations that are independent

What a client shows of one location is what it would show if nothing had been
asked of it about any other.  The locations share a table, the clock, and the
end of the client.  Two clients that know the same of a location, at the same
time, are at one there: whatever concerns the location keeps them so and shows
the same, and what is about another location makes no difference.

The transport is arbitrary, as long as it treats the same message the same way
each time.
-/

namespace ObservationFeed.Client

open KeyedList

/-! ## Uses -/

/-- What an operation answers. -/
inductive Reply where
  | call (handle : CallHandle)
  | told (answer : Bool)
  | stream (answer : Except SyncError StreamHandle)
  | polled (found : Poll Snapshot)
  | ended (answer : Except SyncError Unit)
  | accepted (answer : Except SyncError Bool)
  /-- The latest value of a subscription, and whether it is closed. -/
  | shown (answer : Option (Option Snapshot × Bool))
  | found (live : Option SubscriptionHandle)
  /-- Something happened to the whole client. -/
  | passed

/-- What can be asked of a client. -/
inductive Use where
  | request (l : Location)
  | abort (call : CallHandle)
  | subscribe (l : Location) (every : Interval)
  | poll (h : StreamHandle)
  | detach (h : StreamHandle)
  | closeSubscription (h : SubscriptionHandle)
  | leave (h : StreamHandle)
  | look (h : SubscriptionHandle)
  | find (l : Location)
  | respond (response : Response)
  | unsubscribe (l : Location)
  | close
  | release
  | advance (ms : Nat)

/-- The location that a use is about, unless it is about the whole client. -/
def Use.about? : Use → Option Location
  | .request l | .subscribe l _ | .find l | .unsubscribe l => some l
  | .abort call => some call.location
  | .poll h | .detach h | .leave h => some h.subscription.location
  | .closeSubscription h | .look h => some h.location
  | .respond response => some response.location
  | .close | .release | .advance _ => none

/-- Whether a use is about a location or about the whole client. -/
def Use.concerns (l : Location) (u : Use) : Bool := u.about?.all (· = l)

/-- An outcome whose answer is put as a reply. -/
def Outcome.replying {α : Type} (o : Outcome α) (reply : α → Reply) : Outcome Reply :=
  ⟨o.client, o.log, reply o.answer⟩

/-- What a use does.  What closing a client answers is about all locations, and left out. -/
def use (net : Network) (c : Client) : Use → Outcome Reply
  | .request l => (c.request net l).replying .call
  | .abort call => (c.abort net call).replying .told
  | .subscribe l every => (c.subscribe net l every).replying .stream
  | .poll h => ⟨(c.poll h).2, [], .polled (c.poll h).1⟩
  | .detach h => (c.detach net h).replying .told
  | .closeSubscription h => (c.closeSubscription net h).replying .ended
  | .leave h => (c.leave net h).replying .ended
  | .look h => ⟨c, [], .shown ((c.subscription? h).map fun s => (s.feed.latest, s.isClosed))⟩
  | .find l => ⟨c, [], .found (c.live? l)⟩
  | .respond response => (c.respond net response).replying .accepted
  | .unsubscribe l => (c.unsubscribe net l).replying .accepted
  | .close => (c.close net).replying fun _ => .passed
  | .release => ⟨(c.release net).1, (c.release net).2, .passed⟩
  | .advance ms => ⟨(c.advance net ms).1, (c.advance net ms).2, .passed⟩

/-- What can be seen of a location from outside. -/
inductive Shown where
  | sight (s : Sight)
  | reply (r : Reply)

/-- All that a run shows of a location: whatever is let out about it, and the replies of the uses
that concern it. -/
def seen (net : Network) (l : Location) : List Use → Client → List Shown
  | [], _ => []
  | u :: rest, c =>
    let o := c.use net u
    (sightsAt l o.log).map .sight ++ (if u.concerns l then [.reply o.answer] else []) ++
      seen net l rest o.client

/-! ## Two clients that know the same of a location -/

/-- Whether an event closes the client. -/
def Event.closes : Event → Bool
  | .close => true
  | _ => false

/-- The location that an event is about, unless it is about the whole client. -/
def Event.about? : Event → Option Location
  | .request l | .subscribe l _ | .unsubscribe l => some l
  | .abort call => some call.location
  | .poll h | .detach h => some h.subscription.location
  | .closeSubscription h => some h.location
  | .respond response => some response.location
  | .close | .release | .wake _ | .elapse _ => none

/-- Two clients that are at one in all that bears on a location. -/
structure AtOne (l : Location) (c d : Client) : Prop where
  place : d.place l = c.place l
  timing : d.timing = c.timing
  closed : d.closed = c.closed

section AtOne

variable {net : Network} {c d : Client} {l : Location}

theorem AtOne.refl (l : Location) (c : Client) : AtOne l c c := ⟨rfl, rfl, rfl⟩

theorem AtOne.trans {a b c : Client} (first : AtOne l a b) (second : AtOne l b c) : AtOne l a c :=
  ⟨second.place.trans first.place, second.timing.trans first.timing,
    second.closed.trans first.closed⟩

theorem AtOne.symm (atOne : AtOne l c d) : AtOne l d c :=
  ⟨atOne.place.symm, atOne.timing.symm, atOne.closed.symm⟩

theorem AtOne.effect (atOne : AtOne l c d) (net : Network) (e : Event) :
    d.effect net l e = c.effect net l e := by
  obtain ⟨place, timing, closed⟩ := atOne
  cases e <;> simp only [Client.effect, place, timing, closed]

theorem AtOne.now (atOne : AtOne l c d) : d.now = c.now := congrArg Timing.now atOne.timing

theorem AtOne.period (atOne : AtOne l c d) : d.period = c.period :=
  congrArg Timing.period atOne.timing

theorem AtOne.window (atOne : AtOne l c d) : d.window = c.window :=
  congrArg Timing.window atOne.timing

theorem AtOne.time (atOne : AtOne l c d) (e : Event) : e.time d = e.time c := by
  cases e <;> simp only [Event.time, atOne.now]

theorem closed_step (net : Network) (c : Client) (e : Event) :
    (c.step net e).1.closed = (c.closed || e.closes) := by
  cases closes : e.closes with
  | true =>
    have closing : e = .close := by cases e <;> first | rfl | cases closes
    subst closing
    rw [Bool.or_true, Client.step, Client.close]
    split
    · next closed => exact closed
    · exact (sameBut_closePlaces net (keys c.places) { c with closed := true }).closed
  | false =>
    have other : e ≠ .close := by
      rintro rfl
      cases closes
    exact ((step_framed net c e).closed other).trans (Bool.or_false _).symm

/-- The same event leaves them at one and shows the same of the location. -/
theorem AtOne.step (atOne : AtOne l c d) (distinct : Distinct c.places)
    (distinct' : Distinct d.places) (net : Network) (e : Event) :
    AtOne l (c.step net e).1 (d.step net e).1 ∧
      sightsAt l (d.step net e).2 = sightsAt l (c.step net e).2 := by
  have here := congrArg Prod.fst (step_run distinct net e l)
  have there := congrArg Prod.fst (step_run distinct' net e l)
  rw [atOne.effect, atOne.time, atOne.period, atOne.window, atOne.place] at there
  refine ⟨⟨there.trans here.symm, ?_, ?_⟩, ?_⟩
  · rw [(step_framed net d e).timing, (step_framed net c e).timing, atOne.time, atOne.period,
      atOne.window]
  · rw [closed_step, closed_step, atOne.closed]
  · rw [sightsAt_step distinct', sightsAt_step distinct, atOne.effect, atOne.time, atOne.period,
      atOne.window, atOne.place]

/-- An event about another location makes no difference. -/
theorem atOne_step_elsewhere (distinct : Distinct c.places) (net : Network) {e : Event}
    {there : Location} (about : e.about? = some there) (elsewhere : there ≠ l) :
    AtOne l c (c.step net e).1 ∧ sightsAt l (c.step net e).2 = [] := by
  have still : c.effect net l e = .still := by
    cases e <;> cases about <;> simp [effect, elsewhere]
  have time : e.time c = c.now := by
    cases e <;> cases about <;> rfl
  have closes : e.closes = false := by
    cases e <;> cases about <;> rfl
  have place := congrArg Prod.fst (step_run distinct net e l)
  have sights := sightsAt_step distinct net e l
  rw [still] at place sights
  refine ⟨⟨place, ?_, ?_⟩, sights⟩
  · rw [(step_framed net c e).timing, time]
    rfl
  · rw [closed_step, closes, Bool.or_false]

end AtOne

/-! ## One use -/

/-- The event that a use is, if it is one. -/
def Use.event? : Use → Option Event
  | .request l => some (.request l)
  | .abort call => some (.abort call)
  | .subscribe l every => some (.subscribe l every)
  | .poll h => some (.poll h)
  | .detach h => some (.detach h)
  | .closeSubscription h => some (.closeSubscription h)
  | .respond response => some (.respond response)
  | .unsubscribe l => some (.unsubscribe l)
  | .close => some .close
  | .release => some .release
  | .leave _ | .look _ | .find _ | .advance _ => none

section Use

variable {net : Network} {c d : Client} {l : Location}

theorem result_use {u : Use} {e : Event} (event : u.event? = some e) :
    (c.use net u).result = c.step net e := by
  cases u <;> cases event <;> rfl

theorem log_leave (net : Network) (c : Client) (h : StreamHandle) :
    (c.use net (.leave h)).log =
      (c.step net (.closeSubscription h.subscription)).2 ++
        ((c.step net (.closeSubscription h.subscription)).1.step net (.detach h)).2 := rfl

theorem Calm.use (calm : c.Calm) (net : Network) (u : Use) : (c.use net u).client.Calm := by
  cases event : u.event? with
  | some e =>
    have onTime : ∀ time, e ≠ .elapse time := by
      cases u <;> cases event <;> exact fun _ => nofun
    have calmly := calm.step net onTime
    rwa [← result_use event] at calmly
  | none =>
    cases u with
    | leave h =>
      have closed := calm.step net (e := .closeSubscription h.subscription) fun _ => nofun
      exact closed.step net (e := .detach h) fun _ => nofun
    | look h => exact calm
    | find there => exact calm
    | advance ms => exact (calm.advance net ms).1
    | _ => cases event

/-- What a use that concerns the location replies is the same. -/
theorem AtOne.answer (atOne : AtOne l c d) (net : Network) {u : Use}
    (concerns : u.concerns l = true) : (d.use net u).answer = (c.use net u).answer := by
  -- A reply is made from the place, the clock and whether the client is closed.
  obtain ⟨place, timing, closed⟩ := atOne
  cases u with
  | request there =>
    obtain rfl : there = l := of_decide_eq_true concerns
    simp only [Client.use, Outcome.replying, Client.request, atPlace, place, timing, closed]
  | abort call =>
    obtain rfl : call.location = l := of_decide_eq_true concerns
    simp only [Client.use, Outcome.replying, Client.abort, atPlace, place]
  | subscribe there every =>
    obtain rfl : there = l := of_decide_eq_true concerns
    simp only [Client.use, Outcome.replying, Client.subscribe, atPlace, place, timing, closed]
    split <;> rfl
  | poll h =>
    obtain rfl : h.subscription.location = l := of_decide_eq_true concerns
    simp only [Client.use, Client.poll, place]
    split <;> rfl
  | detach h =>
    obtain rfl : h.subscription.location = l := of_decide_eq_true concerns
    simp only [Client.use, Outcome.replying, Client.detach, atPlace, place, timing]
  | closeSubscription h =>
    obtain rfl : h.location = l := of_decide_eq_true concerns
    simp only [Client.use, Outcome.replying, Client.closeSubscription, atPlace, place]
  | leave h =>
    obtain rfl : h.subscription.location = l := of_decide_eq_true concerns
    simp only [Client.use, Outcome.replying, Client.leave, Client.closeSubscription, atPlace, place]
  | look h =>
    obtain rfl : h.location = l := of_decide_eq_true concerns
    simp only [Client.use, Client.subscription?, place]
  | find there =>
    obtain rfl : there = l := of_decide_eq_true concerns
    simp only [Client.use, Client.live?, place]
  | respond response =>
    obtain rfl : response.location = l := of_decide_eq_true concerns
    simp only [Client.use, Outcome.replying, Client.respond, atPlace, place, timing, closed]
    split <;> rfl
  | unsubscribe there =>
    obtain rfl : there = l := of_decide_eq_true concerns
    simp only [Client.use, Outcome.replying, Client.unsubscribe, atPlace, place, closed]
    split <;> rfl
  | close => rfl
  | release => rfl
  | advance ms => rfl

/-- A use that concerns the location leaves them at one, and shows the same of it. -/
theorem AtOne.use (atOne : AtOne l c d) (calm : c.Calm) (calm' : d.Calm) (net : Network) (u : Use) :
    AtOne l (c.use net u).client (d.use net u).client ∧
      sightsAt l (d.use net u).log = sightsAt l (c.use net u).log := by
  cases event : u.event? with
  | some e =>
    have after := atOne.step calm.distinct calm'.distinct net e
    rwa [← result_use event, ← result_use event] at after
  | none =>
    cases u with
    | leave h =>
      let closing : Event := .closeSubscription h.subscription
      have closed := atOne.step calm.distinct calm'.distinct net closing
      have calmly := calm.step net (e := closing) fun _ => nofun
      have calmly' := calm'.step net (e := closing) fun _ => nofun
      have dropped := closed.1.step calmly.distinct calmly'.distinct net (.detach h)
      refine ⟨dropped.1, ?_⟩
      rw [log_leave, log_leave, sightsAt_append, sightsAt_append, closed.2, dropped.2]
    | look h => exact ⟨atOne, rfl⟩
    | find there => exact ⟨atOne, rfl⟩
    | advance ms =>
      have here := passing_advance calm net ms l
      have there := passing_advance calm' net ms l
      rw [atOne.place, atOne.timing, atOne.now] at there
      obtain ⟨place, sights⟩ := Prod.mk.inj (there.trans here.symm)
      obtain ⟨-, timing, closed⟩ := calm.advance net ms
      obtain ⟨-, timing', closed'⟩ := calm'.advance net ms
      rw [atOne.now, atOne.period, atOne.window] at timing'
      exact ⟨⟨place, timing'.trans timing.symm, closed'.trans (atOne.closed.trans closed.symm)⟩,
        sights⟩
    | _ => cases event

/-- A use that is about another location makes no difference. -/
theorem atOne_use_elsewhere (calm : c.Calm) (net : Network) {u : Use}
    (elsewhere : u.concerns l = false) :
    AtOne l c (c.use net u).client ∧ sightsAt l (c.use net u).log = [] := by
  cases event : u.event? with
  | some e =>
    -- Only what happens to the whole client is about no location, and that is of concern here.
    obtain ⟨there, about, other⟩ : ∃ there, e.about? = some there ∧ there ≠ l := by
      cases u <;> cases event <;> first
        | exact ⟨_, rfl, of_decide_eq_false elsewhere⟩
        | cases elsewhere
    have after := atOne_step_elsewhere calm.distinct net about other
    rwa [← result_use event] at after
  | none =>
    cases u with
    | leave h =>
      have other : h.subscription.location ≠ l := of_decide_eq_false elsewhere
      let closing : Event := .closeSubscription h.subscription
      have closed := atOne_step_elsewhere calm.distinct net (e := closing) rfl other
      have calmly := calm.step net (e := closing) fun _ => nofun
      have dropped := atOne_step_elsewhere calmly.distinct net (e := .detach h) rfl other
      refine ⟨closed.1.trans dropped.1, ?_⟩
      rw [log_leave, sightsAt_append, closed.2, dropped.2]
      rfl
    | look h => exact ⟨.refl l c, rfl⟩
    | find there => exact ⟨.refl l c, rfl⟩
    | advance ms => cases elsewhere
    | _ => cases event

end Use

/-! ## Runs -/

theorem AtOne.seen {c d : Client} {l : Location} (atOne : AtOne l c d) (calm : c.Calm)
    (calm' : d.Calm) (net : Network) (uses : List Use) :
    seen net l uses c = seen net l (uses.filter (·.concerns l)) d := by
  induction uses generalizing c d with
  | nil => rfl
  | cons u rest ih =>
    have calmly := calm.use net u
    cases concerns : u.concerns l with
    | true =>
      obtain ⟨after, sights⟩ := atOne.use calm calm' net u
      have later := ih after calmly (calm'.use net u)
      rw [List.filter_cons, if_pos concerns]
      simp only [Client.seen, concerns, if_true]
      rw [atOne.answer net concerns, sights, later]
    | false =>
      -- The client that is used less stays where it is.
      obtain ⟨after, nothing⟩ := atOne_use_elsewhere calm net concerns
      have later := ih (after.symm.trans atOne) calmly calm'
      rw [List.filter_cons, if_neg (by simp [concerns])]
      simp only [Client.seen, concerns, nothing, later]
      rfl

/-- What a client shows of a location in the course of a run is what it shows when all uses that
are about other locations are left out. -/
theorem locations_are_independent (config : Config) (net : Network) (l : Location)
    (uses : List Use) :
    seen net l uses (ofConfig config) =
      seen net l (uses.filter (·.concerns l)) (ofConfig config) :=
  (AtOne.refl l (ofConfig config)).seen (calm_ofConfig config) (calm_ofConfig config) net uses

/-- The keepalives of two subscriptions fall between one another, and only those of one show. -/
example :
    let here : Location := ⟨"overworld", ⟨1, 2, 3⟩⟩
    let there : Location := ⟨"overworld", ⟨4, 5, 6⟩⟩
    let every : Interval := .clamp 20
    let uses : List Use := [.subscribe here every, .advance 7000, .subscribe there every,
      .advance 90000, .unsubscribe there, .close]
    (seen (fun _ _ => none) here uses (ofConfig {})).filterMap (fun
        | .sight (.sent time attempt) => some (time, attempt.kind)
        | _ => none) =
      [(0, .start every), (60000, .keepalive every), (97000, .stop)] := by
  decide +kernel +zetaReduce

end ObservationFeed.Client
