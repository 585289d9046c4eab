import ObservationFeed.Proofs.Client.Course

/-!
# The grammar of a client's messages

About each location a client sends a sequence of chapters: a one-shot request,
or a subscription from its start over its renewals to its stop.  Only the
subscription that is open lacks its stop.

A second one-shot request is sent only after a response has answered the first
or a subscription has taken it over.
-/

namespace ObservationFeed.Client

open KeyedList Subscription Place

/-! ## Chapters -/

/-- What is sent for one thing that is pending, from its beginning to its end. -/
inductive Chapter where
  | single
  | subscription (every : Interval) (renewals : Nat)

namespace Chapter

/-- The messages about a subscription before its stop. -/
def opening (every : Interval) (renewals : Nat) : List RequestKind :=
  .start every :: List.replicate renewals (.keepalive every)

def messages : Chapter → List RequestKind
  | single => [.single]
  | subscription every renewals => opening every renewals ++ [.stop]

def isSubscription : Chapter → Bool
  | single => false
  | subscription .. => true

end Chapter

/-- What is sent in some chapters. -/
def told (chapters : List Chapter) : List RequestKind := chapters.flatMap Chapter.messages

/-- The number of subscriptions in some chapters. -/
def subscriptionsIn (chapters : List Chapter) : Nat := chapters.countP Chapter.isSubscription

theorem told_snoc (chapters : List Chapter) (last : Chapter) :
    told (chapters ++ [last]) = told chapters ++ last.messages := by
  simp [told]

theorem subscriptionsIn_snoc (chapters : List Chapter) (last : Chapter) :
    subscriptionsIn (chapters ++ [last]) =
      subscriptionsIn chapters + last.isSubscription.toNat := by
  rw [subscriptionsIn, List.countP_append, subscriptionsIn]
  cases last <;> rfl

/-- The messages that lead to a phase and a number of subscriptions: whole chapters, and the
beginning of one if a subscription is open. -/
inductive Told : Phase → Nat → List RequestKind → Prop where
  | idle (chapters : List Chapter) : Told .idle (subscriptionsIn chapters) (told chapters)
  | asked (chapters : List Chapter) : Told .asked (subscriptionsIn chapters) (told chapters)
  | subscribed (chapters : List Chapter) (every : Interval) (feed : Feed Snapshot)
      (renewals : Nat) :
      Told (.subscribed (subscriptionsIn chapters) every feed) (subscriptionsIn chapters + 1)
        (told chapters ++ Chapter.opening every renewals)

theorem Told.perform {o : Outline} {sent : List RequestKind} (told : Told o.phase o.opened sent)
    (d : Deed) :
    Told (o.perform d).1.phase (o.perform d).1.opened
      (sent ++ taken (o.perform d).2.attempts) := by
  obtain ⟨phase, calls, nextCall, opened⟩ := o
  -- A new call and a new subscription begin a chapter where none is open, and closing ends one.
  cases d with
  | nothing | refuse | giveUp =>
    rw [Outline.perform]
    exact (List.append_nil sent).symm ▸ told
  | call =>
    cases told with
    | idle chapters =>
      have count : subscriptionsIn (chapters ++ [.single]) = subscriptionsIn chapters :=
        subscriptionsIn_snoc ..
      change Told .asked (subscriptionsIn chapters) (Client.told chapters ++ Chapter.single.messages)
      rw [← told_snoc, ← count]
      exact .asked (chapters ++ [.single])
    | asked chapters => exact (List.append_nil _).symm ▸ .asked chapters
    | subscribed chapters every feed renewals =>
      exact (List.append_nil _).symm ▸ .subscribed chapters every feed renewals
  | subscribe every =>
    cases told with
    | idle chapters => exact .subscribed chapters every .empty 0
    | asked chapters => exact .subscribed chapters every .empty 0
    | subscribed chapters every feed renewals =>
      exact (List.append_nil _).symm ▸ .subscribed chapters every feed renewals
  | apply snapshot =>
    cases told with
    | idle chapters => exact (List.append_nil _).symm ▸ .idle chapters
    | asked chapters => exact (List.append_nil _).symm ▸ .idle chapters
    | subscribed chapters every feed renewals =>
      exact (List.append_nil _).symm ▸ .subscribed chapters every (feed.publish snapshot) renewals
  | renew =>
    cases told with
    | idle chapters => exact (List.append_nil _).symm ▸ .idle chapters
    | asked chapters => exact (List.append_nil _).symm ▸ .asked chapters
    | subscribed chapters every feed renewals =>
      have longer : Chapter.opening every renewals ++ [.keepalive every] =
          Chapter.opening every (renewals + 1) := by
        rw [Chapter.opening, Chapter.opening, List.replicate_succ', List.cons_append]
      rw [List.append_assoc]
      exact longer ▸ .subscribed chapters every feed (renewals + 1)
  | close =>
    cases told with
    | idle chapters => exact (List.append_nil _).symm ▸ .idle chapters
    | asked chapters => exact (List.append_nil _).symm ▸ .idle chapters
    | subscribed chapters every feed renewals =>
      have count : subscriptionsIn (chapters ++ [.subscription every renewals]) =
          subscriptionsIn chapters + 1 := subscriptionsIn_snoc ..
      change Told .idle (subscriptionsIn chapters + 1)
        (Client.told chapters ++ Chapter.opening every renewals ++ [.stop])
      rw [List.append_assoc, ← count]
      exact told_snoc chapters (.subscription every renewals) ▸
        .idle (chapters ++ [.subscription every renewals])

theorem Told.performAll {o : Outline} {sent : List RequestKind} (told : Told o.phase o.opened sent)
    (deeds : List Deed) :
    Told (o.performAll deeds).1.phase (o.performAll deeds).1.opened
      (sent ++ taken (o.performAll deeds).2.attempts) := by
  induction deeds generalizing o sent with
  | nil => exact (List.append_nil sent).symm ▸ told
  | cons d rest ih =>
    rw [Outline.performAll, Emission.attempts_append, taken_append, ← List.append_assoc]
    exact ih (told.perform d)

/-- With its stop the last chapter is whole. -/
theorem Told.chapters {phase : Phase} {opened : Nat} {sent : List RequestKind}
    (told : Told phase opened sent) :
    ∃ chapters, sent ++ (if phase.isSubscribed then [.stop] else []) = Client.told chapters ∧
      subscriptionsIn chapters = opened := by
  cases told with
  | idle chapters | asked chapters => exact ⟨chapters, List.append_nil _, rfl⟩
  | subscribed chapters every feed renewals =>
    refine ⟨chapters ++ [.subscription every renewals], ?_, subscriptionsIn_snoc ..⟩
    rw [told_snoc, Chapter.messages, ← List.append_assoc]
    rfl

variable {net : Network} {c : Client} {l : Location} {events : List Event}

theorem attemptsAt_append (l : Location) (a b : List LogEntry) :
    attemptsAt l (a ++ b) = attemptsAt l a ++ attemptsAt l b :=
  congrArg Emission.attempts (emissionAt_append l a b)

theorem Course.told (course : Course net c events) (works : ∀ l kind, net l kind = none)
    (regular : Regular c) {sent : List RequestKind}
    (told : Told (c.place l).outline.phase (c.place l).outline.opened sent) :
    Told ((play net c events).1.place l).outline.phase
      ((play net c events).1.place l).outline.opened
      (sent ++ taken (attemptsAt l (play net c events).2)) := by
  induction events generalizing c sent with
  | nil => exact (List.append_nil sent).symm ▸ told
  | cons e rest ih =>
    obtain ⟨renewals, closes, outline, emission, -⟩ := regular.follows works course.1 l
    have first := told.performAll (c.deed l e :: Outline.tasks renewals closes)
    rw [← outline, ← emission, attempts_emissionAt] at first
    rw [play_cons, attemptsAt_append, taken_append, ← List.append_assoc]
    exact ih course.2 (regular.step works course.1) first

theorem single_mem_perform {o : Outline} {d : Deed} :
    .single ∈ taken (o.perform d).2.attempts ↔ d = .call ∧ o.phase = .idle := by
  obtain ⟨phase, calls, nextCall, opened⟩ := o
  cases d <;> cases phase <;>
    simp [Outline.perform, Phase.request, Phase.renewal, Phase.farewell, Phase.isSubscribed, taken,
      Emission.none]

/-- Only calls send one-shot requests. -/
theorem call_mem_of_single {o : Outline} {deeds : List Deed}
    (sends : .single ∈ taken (o.performAll deeds).2.attempts) : .call ∈ deeds := by
  induction deeds generalizing o with
  | nil => cases sends
  | cons d rest ih =>
    rw [Outline.performAll, Emission.attempts_append, taken_append, List.mem_append] at sends
    rcases sends with here | later
    · rw [(single_mem_perform.mp here).1]
      exact List.mem_cons_self
    · exact List.mem_cons_of_mem d (ih later)

/-- An event sends a one-shot request about a location. -/
def Asks (net : Network) (c : Client) (l : Location) (e : Event) : Prop :=
  .single ∈ taken (attemptsAt l (c.step net e).2)

variable {e : Event}

theorem Regular.asks_iff (regular : Regular c) (works : ∀ l kind, net l kind = none)
    (possible : e.Possible c) :
    Asks net c l e ↔ c.deed l e = .call ∧ (c.place l).outline.phase = .idle := by
  obtain ⟨renewals, closes, -, emission, -⟩ := regular.follows works possible l
  have tasks : .call ∉ Outline.tasks renewals closes := by
    cases closes <;> simp [Outline.tasks]
  rw [Asks, ← attempts_emissionAt, emission, Outline.performAll,
    Emission.attempts_append, taken_append, List.mem_append, single_mem_perform]
  exact or_iff_left fun later => tasks (call_mem_of_single later)

/-- The client accepts a response for a location. -/
def Accepts (net : Network) (c : Client) (l : Location) : Event → Prop
  | .respond r => r.location = l ∧ (c.respond net r).answer = .ok true
  | _ => False

/-- A subscription is opened and takes over the callers of a one-shot call. -/
def Promotes (net : Network) (c : Client) (l : Location) : Event → Prop
  | .subscribe there every => there = l ∧ ∃ awaited n s, (c.place l).call? = some awaited ∧
      ((c.step net (.subscribe there every)).1.place l).live? = some (n, s) ∧
      s.next.calls = awaited.calls
  | _ => False

theorem call?_of_phase {p : Place} {born : Nat → Bool} (sound : p.Sound born)
    (asked : p.outline.phase = .asked) :
    ∃ awaited, p.pending = some (.single awaited) ∧ p.call? = some awaited := by
  cases sound.shows with
  | idle pending outline | live _ _ pending _ _ outline =>
    rw [outline] at asked
    cases asked
  | asked awaited pending => exact ⟨awaited, pending, by rw [Place.call?, pending]⟩

/-- A pending one-shot call stays pending until it is answered, promoted or given up with the
client. -/
theorem Regular.asked_step (regular : Regular c) (works : ∀ l kind, net l kind = none)
    (possible : e.Possible c) (asked : (c.place l).outline.phase = .asked) :
    ((c.step net e).1.place l).outline.phase = .asked ∨ Accepts net c l e ∨ Promotes net c l e ∨
      Gone (c.step net e).1 := by
  obtain ⟨born, fit⟩ := regular.fit l
  obtain ⟨awaited, pending, call⟩ := call?_of_phase fit.sound asked
  have stays (phase : ((c.place l).outline.perform (c.deed l e)).1.phase = .asked) :
      ((c.step net e).1.place l).outline.phase = .asked := by
    rw [regular.does_deed works possible l (.inr (by rw [phase]; rfl)), phase]
  cases does : c.deed l e with
  | nothing | refuse | giveUp => exact .inl (stays (by rw [does]; exact asked))
  | call =>
    refine .inl (stays ?_)
    rw [does, Outline.perform, asked]
    rfl
  | subscribe every =>
    obtain ⟨rfl, isOpen⟩ := deed_eq_subscribe does
    have outline := regular.does_deed works possible l (.inl (by rw [does]; rfl))
    rw [does, Outline.perform, asked] at outline
    obtain ⟨s, live, -, -, calls⟩ := live_of_phase (congrArg Outline.phase outline)
    refine .inr (.inr (.inl ⟨rfl, awaited, _, s, call, live, ?_⟩))
    rw [← calls, outline, outline_asked pending]
    rfl
  | apply snapshot =>
    obtain ⟨r, rfl, rfl, isOpen, takes, rfl⟩ := deed_eq_apply does
    refine .inr (.inl ⟨rfl, ?_⟩)
    simp [Client.respond, isOpen, atPlace, Place.respond, Place.hand, pending]
  | renew => exact absurd does deed_ne_renew
  | close =>
    rcases deed_eq_close does with ⟨rfl, -⟩ | rfl | subscribed
    · exact .inr (.inr (.inr (gone_close net c)))
    · exact .inr (.inr (.inr (gone_release net c)))
    · obtain ⟨n, other⟩ := isSubscribed_iff.mp subscribed
      cases pending.symm.trans other

/-- Nothing is asked of a client that is closed or was let go. -/
theorem Gone.not_asks {mid : List Event} (gone : Gone c) (works : ∀ l kind, net l kind = none)
    (regular : Regular c) (course : Course net c (mid ++ [e])) :
    ¬ Asks net (play net c mid).1 l e := by
  induction mid generalizing c with
  | nil =>
    intro asks
    obtain ⟨does, -⟩ := (regular.asks_iff works course.1).mp asks
    obtain ⟨rfl, isOpen⟩ := deed_eq_call does
    rcases gone with closed | released
    · rw [isOpen] at closed
      cases closed
    · cases released.symm.trans course.1
  | cons first rest ih =>
    exact ih (gone.step net first) (regular.step works course.1) course.2

/-- While a one-shot call is pending none is sent, so if one is sent later a response has been
accepted or the pending call was promoted. -/
theorem Course.answered {mid : List Event} (works : ∀ l kind, net l kind = none)
    (regular : Regular c) (course : Course net c (mid ++ [e]))
    (asked : (c.place l).outline.phase = .asked) (asks : Asks net (play net c mid).1 l e) :
    ∃ before between after, mid = before ++ between :: after ∧
      .single ∉ taken (attemptsAt l (play net c before).2) ∧
      (Accepts net (play net c before).1 l between ∨
        Promotes net (play net c before).1 l between) := by
  -- The first event after which the call is not pending any more is the one between.
  induction mid generalizing c with
  | nil =>
    obtain ⟨-, idle⟩ := (regular.asks_iff works course.1).mp asks
    cases asked.symm.trans idle
  | cons first rest ih =>
    have quiet : .single ∉ taken (attemptsAt l (c.step net first).2) := by
      intro sends
      obtain ⟨-, idle⟩ := (regular.asks_iff works course.1).mp sends
      cases asked.symm.trans idle
    rcases regular.asked_step works course.1 asked with stays | accepts | promotes | gone
    · obtain ⟨before, between, after, rfl, silent, answers⟩ :=
        ih (regular.step works course.1) course.2 stays asks
      refine ⟨first :: before, between, after, rfl, ?_, answers⟩
      rw [play_cons, attemptsAt_append, taken_append, List.mem_append]
      exact not_or.mpr ⟨quiet, silent⟩
    · exact ⟨[], first, rest, rfl, nofun, .inl accepts⟩
    · exact ⟨[], first, rest, rfl, nofun, .inr promotes⟩
    · exact absurd asks (gone.not_asks works (regular.step works course.1) course.2)

/-! ## Courses from the beginning -/

end ObservationFeed.Client
