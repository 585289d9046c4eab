import ObservationFeed.Proofs.Client.Intake

/-!
# Responses that come late

A response that is behind one that was applied is dropped.  Which responses were
applied can be told from the history of the client alone: one response after the
other is handed to the subscription while it is open, and it is applied if it has
no tick or a tick that is not below any of theirs.  A subscription keeps only the
last of these ticks, which is as good as the largest because those before it are
no larger.
-/

namespace ObservationFeed.Client

open KeyedList Subscription Place

/-! ## What was applied -/

/-- The response for a location that a move brings. -/
def Move.response? (l : Location) : Move → Option Response
  | .event e => e.response? l
  | .operation there e => if there = l then e.response? l else none
  | .hear response => if response.location = l then some response else none
  | .chore .. | .depart .. | .shut => none

/-- The response that was handed to an open subscription. -/
def Record.accepted? (h : SubscriptionHandle) (r : Record) : Option Response :=
  if (r.client.place h.location).listens h.number then r.move.response? h.location else none

/-- A tick is absent, or none of some responses has a tick above it. -/
def isFresh (applied : List Response) (tick : Option Int64) : Bool :=
  tick.all fun a => applied.all fun r => r.serverTick.all fun b => b ≤ a

/-- The responses that an open subscription was handed and that were fresh then, the latest
first. -/
def appliedTo (h : SubscriptionHandle) : List Record → List Response
  | [] => []
  | r :: past =>
    match r.accepted? h with
    | some response =>
      if isFresh (appliedTo h past) response.serverTick then response :: appliedTo h past
      else appliedTo h past
    | none => appliedTo h past

/-- The ticks of the responses that have one. -/
def ticks (applied : List Response) : List Int64 := applied.filterMap (·.serverTick)

/-- What applied responses leave in a subscription. -/
def Intake.of (applied : List Response) : Intake :=
  ⟨⟨applied.length, applied.head?.map (·.snapshot)⟩, (ticks applied).head?⟩

theorem isFresh_some {applied : List Response} {a : Int64} :
    isFresh applied (some a) = true ↔ ∀ b ∈ ticks applied, b ≤ a := by
  simp only [isFresh, ticks, Option.all_some, List.all_eq_true, Option.all_eq_true,
    decide_eq_true_eq, List.mem_filterMap]
  exact ⟨fun each b ⟨r, member, has⟩ => each r member b has,
    fun each r member b has => each b ⟨r, member, has⟩⟩

/-- The ticks of the applied responses never decrease. -/
theorem ordered_appliedTo (h : SubscriptionHandle) (past : List Record) :
    (ticks (appliedTo h past)).Pairwise fun later earlier => earlier ≤ later := by
  induction past with
  | nil => exact List.Pairwise.nil
  | cons r past ih =>
    rw [appliedTo]
    split
    · next response _ =>
      split
      · next fresh =>
        cases tick : response.serverTick with
        | none => simpa only [ticks, List.filterMap_cons, tick] using ih
        | some a =>
          rw [tick] at fresh
          simp only [ticks, List.filterMap_cons, tick]
          exact List.pairwise_cons.mpr ⟨isFresh_some.mp fresh, ih⟩
      · exact ih
    · exact ih

/-- The last tick is as good as all of them. -/
theorem isCurrent_of {applied : List Response}
    (ordered : (ticks applied).Pairwise fun later earlier => earlier ≤ later)
    (tick : Option Int64) : (Intake.of applied).isCurrent tick = isFresh applied tick := by
  cases tick with
  | none => rfl
  | some a =>
    rw [Bool.eq_iff_iff, isFresh_some, Intake.isCurrent, Intake.of]
    simp only [Option.all_some]
    cases all : ticks applied with
    | nil => simp
    | cons highest rest =>
      rw [all] at ordered
      have below := (List.pairwise_cons.mp ordered).1
      simp only [List.forall_mem_cons, List.head?_cons, Option.all_some, decide_eq_true_eq]
      exact ⟨fun first => ⟨first, fun b member => Int64.le_trans (below b member) first⟩,
        And.left⟩

theorem intake_appliedTo (h : SubscriptionHandle) (r : Record) (past : List Record) :
    Intake.of (appliedTo h (r :: past)) =
      (Intake.of (appliedTo h past)).after (r.accepted? h) := by
  rw [appliedTo]
  cases r.accepted? h with
  | none => rfl
  | some response =>
    simp only [Intake.after, isCurrent_of (ordered_appliedTo h past)]
    split
    · cases tick : response.serverTick <;>
        simp [Intake.of, Intake.publish, Feed.publish, ticks, tick]
    · rfl

/-! ## Histories -/

variable {c : Client} {net : Network} {past : List Record} {m : Move}

theorem Lives.unclosed (lives : Lives past c) : c.closed = false := by
  induction lives with
  | start config => rfl
  | move past c net m lives goesOn ih =>
    cases m with
    | event e =>
      refine ((step_framed net c e).closed ?_).trans ih
      rintro rfl
      exact goesOn trivial
    | operation | chore | depart => exact ih
    | hear response =>
      rw [make, accept]
      split
      · exact ih
      · exact ih
    | shut => exact absurd trivial goesOn

theorem intake_settle (effect : Effect) (t : Timing) (transport : Transport) (p : Place)
    (n : Nat) : (effect.settle t transport p).1.intake n = (effect.place p).intake n := by
  cases effect with
  | still | polled => rfl
  | moved after emission => exact intake_runTasks after t transport n

/-- Of all moves only a response for an open subscription changes what it has taken. -/
theorem Consistent.intake_make (consistent : Consistent past c) (unclosed : c.closed = false)
    (net : Network) (m : Move) (l : Location) (n : Nat) :
    ((c.make net m).place l).intake n =
      ((c.place l).intake n).after (Record.accepted? ⟨l, n⟩ ⟨c, net, m⟩) := by
  have sound := (consistent.fit l).sound
  cases m with
  | event e =>
    have place : (c.step net e).1.place l = (c.outcomeAt net l e).1 :=
      congrArg Prod.fst (step_at consistent.distinct net e l)
    simp only [Client.make, place, intake_settle]
    exact intake_effect sound unclosed e n
  | operation there e =>
    simp only [Client.make, place_setPlace, Record.accepted?, Move.response?]
    by_cases here : there = l
    · subst here
      simp only [if_true]
      exact intake_effect sound unclosed e n
    · simp only [here, if_false, ite_self]
      rfl
  | chore h chore =>
    simp only [Client.make, place_setPlace, Record.accepted?, Move.response?, ite_self]
    split
    · next here =>
      rw [here]
      exact intake_tend ..
    · rfl
  | hear response =>
    simp only [Client.make, place_accept, unclosed, and_true, Record.accepted?, Move.response?]
    by_cases here : response.location = l
    · simp only [here, if_true]
      exact sound.intake_accept c.timing (net l) response n
    · simp only [here, if_false, ite_self]
      rfl
  | depart h call cancelled =>
    simp only [Client.make, place_depart, Record.accepted?, Move.response?, ite_self]
    split
    · exact Place.intake_depart ..
    · rfl
  | shut =>
    simp only [Client.make, place_shut, unclosed, if_true, Record.accepted?, Move.response?, ite_self]
    exact Place.intake_close ..

theorem Lives.intake (lives : Lives past c) (l : Location) (n : Nat) :
    (c.place l).intake n = .of (appliedTo ⟨l, n⟩ past) := by
  induction lives with
  | start config => rfl
  | move past c net m lives goesOn ih =>
    rw [lives.consistent.intake_make lives.unclosed, ih, intake_appliedTo]

/-- Of an open subscription in any history of a client that was neither closed nor let go: the ticks
of the applied responses never decrease, the value it shows is that of the last of them, and its
highest tick is that of the last that had one.  The next response for its location is dropped if it
has a tick that is below one of theirs, which leaves the place as it is and lets out nothing.  If not
it is applied, and answers everyone who waits. -/
theorem applied_iff_fresh (lives : Lives past c) {h : SubscriptionHandle} {s : Subscription}
    (found : c.subscription? h = some s) (isOpen : s.isClosed = false) :
    let applied := appliedTo h past
    (ticks applied).Pairwise (fun later earlier => earlier ≤ later) ∧
      s.feed = ⟨applied.length, applied.head?.map (·.snapshot)⟩ ∧
      s.highest = (ticks applied).head? ∧
      ∀ net response, response.location = h.location →
        (isFresh applied response.serverTick = false → c.respond net response =
          c.atPlace net h.location ⟨c.place h.location, .none, .ok true⟩) ∧
        (isFresh applied response.serverTick = true → ∃ s', c.respond net response =
            c.atPlace net h.location ⟨(c.place h.location).set h.number s',
              ⟨[], answerAll (.ok response.snapshot) s.next.calls⟩, .ok true⟩ ∧
          s'.feed = s.feed.publish response.snapshot ∧
          s'.highest = response.serverTick.or s.highest) := by
  intro applied
  have fit := lives.consistent.fit h.location
  have there : (c.place h.location).subscription? h.number = some s := found
  have taken : s.intake = .of applied := (intake_some there).symm.trans (lives.intake _ _)
  have pending := (fit.sound.entry h.number).mpr ⟨s, there, isOpen⟩
  refine ⟨ordered_appliedTo h past, congrArg Intake.feed taken, congrArg Intake.highest taken, ?_⟩
  intro net response here
  have handed : c.respond net response = c.atPlace net h.location
      ⟨(c.place h.location).set h.number
          (s.publish c.now response.snapshot response.serverTick).1,
        ⟨[], (s.publish c.now response.snapshot response.serverTick).2⟩, .ok true⟩ := by
    rw [Client.respond, lives.unclosed, here]
    exact congrArg (c.atPlace net h.location)
      (respond_live c.timing (net h.location) response pending there isOpen)
  have stale : s.isStale response.serverTick = !isFresh applied response.serverTick := by
    rw [isStale_eq, taken, isCurrent_of (ordered_appliedTo h past)]
  constructor
  · intro behind
    rw [behind] at stale
    rw [handed, publish_stale stale, set_found there]
    rfl
  · intro fresh
    have awaited : s.next.value = .pending := by
      rcases fit.sound.each h.number s there with stillOpen | spent
      · exact stillOpen.awaited
      · cases isOpen.symm.trans spent.isClosed
    rw [fresh] at stale
    obtain ⟨-, feed, -, answers⟩ := shown_publish awaited stale c.now response.snapshot
    rw [answers] at handed
    refine ⟨_, handed, feed, ?_⟩
    have current : s.intake.isCurrent response.serverTick = true := by
      rw [taken, isCurrent_of (ordered_appliedTo h past)]
      exact fresh
    have applies := intake_publish s c.now response
    rw [Intake.after, if_pos current] at applies
    exact congrArg Intake.highest applies

/-- A response that comes late, between one with a tick and one without. -/
theorem applied_iff_fresh_of_late :
    let works : Network := fun _ _ => none
    let h : SubscriptionHandle := ⟨⟨"overworld", ⟨1, 2, 3⟩⟩, 0⟩
    let hears (tick : Option Int64) : Move := .event (.respond ⟨h.location, .empty, tick⟩)
    let opens : Move := .event (.subscribe h.location (.clamp 20))
    let c₀ := ofConfig {}
    let c₁ := c₀.make works opens
    let c₂ := c₁.make works (hears (some 7))
    let c₃ := c₂.make works (hears (some 5))
    let c₄ := c₃.make works (hears none)
    let past : List Record := [⟨c₃, works, hears none⟩, ⟨c₂, works, hears (some 5)⟩,
      ⟨c₁, works, hears (some 7)⟩, ⟨c₀, works, opens⟩]
    Lives past c₄ ∧ ∃ s, c₄.subscription? h = some s ∧ s.isClosed = false ∧
      s.feed = ⟨2, some .empty⟩ ∧ s.highest = some 7 ∧
      ∀ net, c₄.respond net ⟨h.location, .empty, some 6⟩ =
        c₄.atPlace net h.location ⟨c₄.place h.location, .none, .ok true⟩ := by
  intro works h hears opens c₀ c₁ c₂ c₃ c₄ past
  have lives : Lives past c₄ :=
    .move _ c₃ works _ (.move _ c₂ works _ (.move _ c₁ works _
      (.move _ c₀ works opens (.start {}) id) id) id) id
  have opened : (c₄.subscription? h).map Subscription.isClosed = some false := by
    decide +kernel +zetaReduce
  have applied : appliedTo h past =
      [⟨h.location, .empty, none⟩, ⟨h.location, .empty, some 7⟩] := by
    decide +kernel +zetaReduce
  -- From here on it does not matter what the states are.
  clear_value past c₄
  obtain ⟨s, found, isOpen⟩ := Option.map_eq_some_iff.mp opened
  obtain ⟨-, feed, highest, next⟩ := applied_iff_fresh lives found isOpen
  rw [applied] at feed highest next
  refine ⟨lives, s, found, isOpen, feed, highest, fun net => ?_⟩
  exact (next net ⟨h.location, .empty, some 6⟩ rfl).1 (by decide)

end ObservationFeed.Client
