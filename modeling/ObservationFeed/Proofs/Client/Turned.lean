import ObservationFeed.Proofs.Client.Place

/-!
# Operations that open or close a subscription

A new subscription takes over the call that is pending, if there is one, and its
stream is there from the beginning.  Closing the pending subscription sends its
stop and drops its entry; closing one that is over does nothing.  `Turned` is
what all operations have in common.
-/

namespace ObservationFeed.Client.Place

open Subscription

variable {born : Nat → Bool} {p p' : Place}

/-! ## Opening a subscription -/

/-- A subscription that was just opened and has its first stream. -/
structure Newborn (born : Bool) (t : Timing) (s : Subscription) : Prop where
  isOpen : Open born s
  live : s.liveness.isLive = true
  clocked : s.timer.Clocked t.now t.now true
  window : s.timer.window = t.window
  keepalive : s.keepalive = some (t.now + t.period)

theorem newborn_begin (t : Timing) (every : Interval) {first : Option Awaited} {bound : Nat}
    (shared : ∀ awaited, first = some awaited → awaited.Shared bound) :
    Newborn first.isSome t
      ((Subscription.begin t.now t.period t.window every first).attached t.now) := by
  have begun : Open first.isSome (Subscription.begin t.now t.period t.window every first) := {
    unclosed := rfl
    goesOn := rfl
    unstopped := rfl
    renewing := rfl
    consumers := rfl
    waiters := by
      cases first with
      | none => rfl
      | some awaited =>
        have nobody : awaited.callers.filter (·.parked) = [] :=
          List.filter_eq_nil_iff.mpr fun c member => by
            simp [(shared awaited rfl).unparked c member]
        simp [Subscription.begin, Awaited.parkedCount, nobody]
    promoted := by simp [Subscription.begin, Feed.empty]
    awaited := by
      cases first with
      | none => rfl
      | some awaited => exact (shared awaited rfl).awaited
    streams := List.nodup_nil
    numbered := nofun
    calls := by
      cases first with
      | none => exact List.nodup_nil
      | some awaited => exact (shared awaited rfl).distinct }
  obtain ⟨isOpen, timer, -, keepalive⟩ := begun.attach t.now
  have live : ((Subscription.begin t.now t.period t.window every first).attached
      t.now).liveness.isLive = true := by
    rw [attached, updateLiveness_open begun.unclosed]
    simp [Liveness.isLive]
  refine ⟨isOpen, live, ?_, by rw [timer, CleanupTimer.window_edge]; rfl, keepalive⟩
  rw [timer, live]
  -- The timer has never been armed, and the first stream disarms it or leaves it alone.
  have idle := CleanupTimer.orderly_ofWindow t.now t.window
  cases (Subscription.begin t.now t.period t.window every first).liveness.isLive
  · exact ⟨idle.disarm, rfl, fun _ => rfl⟩
  · exact ⟨idle, rfl, fun _ => rfl⟩

/-- The place with another subscription, which is the one that is pending. -/
def adding (p : Place) (s : Subscription) : Place :=
  { p with pending := some (.subscription p.opened.length), opened := p.opened ++ [s] }

theorem subscription?_adding (p : Place) (s : Subscription) (n : Nat) :
    (p.adding s).subscription? n =
      if n = p.opened.length then some s else p.subscription? n := by
  simp only [adding, subscription?, List.getElem?_append]
  by_cases inside : n < p.opened.length
  · simp [inside, Nat.ne_of_lt inside]
  · by_cases last : n = p.opened.length
    · simp [last]
    · have outside : ¬ n - p.opened.length = 0 := by omega
      simp [inside, last, outside]

theorem Sound.adding (sound : p.Sound born) (vacant : ∀ n, p.pending ≠ some (.subscription n))
    {s : Subscription} (isOpen : Open (born p.opened.length) s)
    (called : ∀ c ∈ s.next.callers, c.call < p.nextCall) : (p.adding s).Sound born where
  each n other found := by
    rw [subscription?_adding] at found
    split at found
    · next last =>
      cases found
      exact .inl (last ▸ isOpen)
    · exact sound.each n other found
  entry n := by
    rw [subscription?_adding]
    constructor
    · rintro ⟨⟩
      exact ⟨s, if_pos rfl, isOpen.isClosed⟩
    · rintro ⟨other, found, unclosed⟩
      split at found
      · next last => exact last ▸ rfl
      · -- Another one that is not closed would have been pending.
        exact absurd ((sound.entry n).mpr ⟨other, found, unclosed⟩) (vacant n)
  called n other found := by
    rw [subscription?_adding] at found
    split at found
    · cases found
      exact called
    · exact sound.called n other found
  single := nofun

theorem pending_of_call? {awaited : Awaited} (call : p.call? = some awaited) :
    p.pending = some (.single awaited) := by
  unfold call? at call
  split at call
  · next pending =>
    cases call
    exact pending
  · cases call

theorem openSubscription_eq (p : Place) (t : Timing) {transport : Transport} {every : Interval}
    (works : transport (.start every) = none) :
    p.openSubscription t transport every =
      ⟨p.adding ((Subscription.begin t.now t.period t.window every p.call?).attached t.now),
        ⟨[⟨.start every, none⟩], []⟩, .ok (p.opened.length, 0)⟩ := by
  have attaches (first : Option Awaited) :
      (Subscription.begin t.now t.period t.window every first).attach? t.now =
        some (0, (Subscription.begin t.now t.period t.window every first).attached t.now) :=
    attach?_open rfl
  simp only [openSubscription, works, call?]
  cases p.pending with
  | none => simp only [attaches]; rfl
  | some what => cases what <;> simp only [attaches] <;> rfl

/-- A new subscription takes over the call that is pending, if there is one. -/
theorem Sound.openSubscription (sound : p.Sound born) (t : Timing) (every : Interval) :
    ∃ s, Newborn p.call?.isSome t s ∧ (∀ c ∈ s.next.callers, c.call < p.nextCall) ∧
      s = (Subscription.begin t.now t.period t.window every p.call?).attached t.now := by
  have shared : ∀ awaited, p.call? = some awaited → awaited.Shared p.nextCall :=
    fun awaited call => sound.single awaited (pending_of_call? call)
  refine ⟨_, newborn_begin t every shared, fun c member => ?_, rfl⟩
  rw [attached, next_updateLiveness] at member
  cases call : p.call? with
  | none =>
    rw [call] at member
    cases member
  | some awaited =>
    rw [call] at member
    exact (shared awaited call).called c member

/-- A stream is attached to the live subscription, or to a new one for which a start is sent. -/
theorem Sound.subscribe (sound : p.Sound born) (t : Timing) {transport : Transport}
    {every : Interval} (works : transport (.start every) = none) :
    (Acted born t.now p (p.subscribe t transport every).place ∧
      (p.subscribe t transport every).emission.attempts = []) ∨
    (∃ s, (p.subscribe t transport every).place = p.adding s ∧
      (p.subscribe t transport every).emission.attempts = [⟨.start every, none⟩] ∧
      Newborn p.call?.isSome t s ∧ (∀ n, p.pending ≠ some (.subscription n)) ∧
      ∀ c ∈ s.next.callers, c.call < p.nextCall) := by
  rcases sound.live_or_vacant with ⟨n, s, live, pending, found, isOpen⟩ | ⟨none, vacant⟩
  · have attaches : s.attach? t.now = some (s.nextStream, s.attached t.now) :=
      attach?_open isOpen.unclosed
    rw [Place.subscribe, live]
    simp only [Option.bind_some, attaches, Option.map_some]
    refine .inl ⟨sound.move found (.goes isOpen (isOpen.attach t.now)) (Nat.le_refl _) ?_, rfl⟩
    intro c member
    rw [attached, next_updateLiveness] at member
    exact .inl member
  · obtain ⟨s, newborn, called, same⟩ := sound.openSubscription t every
    refine .inr ⟨s, ?_, ?_, newborn, vacant, called⟩
    · rw [Place.subscribe, none, Option.bind_none, openSubscription_eq p t works, same]
    · rw [Place.subscribe, none, Option.bind_none, openSubscription_eq p t works]

/-! ## Closing a subscription -/

/-- The place after its pending subscription was closed. -/
def closing (p : Place) (n : Nat) (after : Subscription) : Place :=
  { p with pending := none, opened := p.opened.set n after }

theorem Sound.closing (sound : p.Sound born) {n : Nat} {s after : Subscription}
    (pending : p.pending = some (.subscription n)) (found : p.subscription? n = some s)
    (closes : Closes s after) : (p.closing n after).Sound born := by
  have looked (m : Nat) : (p.closing n after).subscription? m =
      if n = m then some after else p.subscription? m := subscription?_set found after m
  refine ⟨?_, ?_, ?_, nofun⟩
  · intro m other there
    rw [looked] at there
    split at there
    · cases there
      exact .inr closes.spent
    · exact sound.each m other there
  · refine fun m => ⟨nofun, ?_⟩
    rintro ⟨other, there, unclosed⟩
    rw [looked] at there
    split at there
    · cases there
      rw [closes.spent.isClosed] at unclosed
      cases unclosed
    · next elsewhere =>
      have also := (sound.entry m).mpr ⟨other, there, unclosed⟩
      rw [pending] at also
      cases also
      exact absurd rfl elsewhere
  · intro m other there c member
    rw [looked] at there
    split at there
    · cases there
      rw [closes.callers] at member
      cases member
    · exact sound.called m other there c member

/-- What an operation makes of a sound place over a transport that works, and the messages that it
sends.  Which subscriptions it may close is given. -/
inductive Turned (born : Nat → Bool) (t : Timing) (byHand : Nat → Prop) (p : Place) :
    Place × List Attempt → Prop where
  | acted (after : Place) (attempts : List Attempt) :
      Acted born t.now p after → (∀ a ∈ attempts, a = ⟨.single, none⟩) →
      Turned born t byHand p (after, attempts)
  | opened (s : Subscription) (every : Interval) :
      Newborn p.call?.isSome t s → (∀ n, p.pending ≠ some (.subscription n)) →
      (∀ c ∈ s.next.callers, c.call < p.nextCall) →
      Turned born t byHand p (p.adding s, [⟨.start every, none⟩])
  | closed (n : Nat) (s after : Subscription) :
      byHand n → p.pending = some (.subscription n) → p.subscription? n = some s →
      Open (born n) s → Closes s after →
      Turned born t byHand p (p.closing n after, [⟨.stop, none⟩])

theorem Turned.mono {t : Timing} {few many : Nat → Prop} {result : Place × List Attempt}
    (turned : Turned born t few p result) (more : ∀ n, few n → many n) :
    Turned born t many p result := by
  cases turned with
  | acted after attempts acted quiet => exact .acted after attempts acted quiet
  | opened s every newborn vacant called => exact .opened s every newborn vacant called
  | closed n s after byHand pending found isOpen closes =>
    exact .closed n s after (more n byHand) pending found isOpen closes

theorem turned_silent {t : Timing} {byHand : Nat → Prop} (acted : Acted born t.now p p') :
    Turned born t byHand p (p', []) :=
  .acted p' [] acted nofun

theorem Sound.closeSubscription (sound : p.Sound born) (t : Timing) {transport : Transport}
    (works : transport .stop = none) (number : Nat) :
    Turned born t (· = number) p ((p.closeSubscription transport number).place,
      (p.closeSubscription transport number).emission.attempts) := by
  rw [Place.closeSubscription]
  cases found : p.subscription? number with
  | none => exact turned_silent (sound.acted_refl t.now)
  | some s =>
    rcases sound.each number s found with isOpen | spent
    · have pending := (sound.entry number).mpr ⟨s, found, isOpen.isClosed⟩
      obtain ⟨after, returns, run, closes⟩ := isOpen.close works
      simp only [run, isOpen.unclosed, Bool.false_eq_true, if_false, unlist, Place.set, pending,
        if_true]
      exact .closed number s after rfl pending found isOpen closes
    · obtain ⟨fades, quiet⟩ := spent.close transport
      -- One that is over is not what is pending, so no entry is dropped.
      have unlisted : p.pending ≠ some (.subscription number) := by
        intro pending
        obtain ⟨_, there, isOpen⟩ := sound.pendingOpen pending
        cases found.symm.trans there
        exact isOpen.not_spent spent
      have same : (if s.liveness.closed = true then p.set number (s.close transport).1
          else (p.set number (s.close transport).1).unlist number) =
          p.set number (s.close transport).1 := by
        simp [unlist, Place.set, unlisted]
      simp only [same, quiet]
      exact turned_silent (sound.move found (.fades spent fades) (Nat.le_refl _)
        fun c member => .inl (fades.callers c member))

/-- Closing the pending subscription when its entry was dropped first. -/
theorem Sound.closePending (sound : p.Sound born) (t : Timing) {transport : Transport}
    (works : transport .stop = none) {number : Nat}
    (pending : p.pending = some (.subscription number)) :
    Turned born t (fun n => p.pending = some (.subscription n)) p
      ((({ p with pending := none } : Place).closeSubscription transport number).place,
        (({ p with pending := none } : Place).closeSubscription transport
          number).emission.attempts) := by
  obtain ⟨s, found, isOpen⟩ := sound.pendingOpen pending
  obtain ⟨after, returns, run, closes⟩ := isOpen.close works
  have there : ({ p with pending := none } : Place).subscription? number = some s := found
  rw [Place.closeSubscription, there]
  simp only [run, isOpen.unclosed, Bool.false_eq_true, if_false, unlist, Place.set, reduceCtorEq]
  exact .closed number s after pending pending found isOpen closes

theorem Sound.unsubscribe (sound : p.Sound born) (t : Timing) {transport : Transport}
    (works : transport .stop = none) :
    Turned born t (fun n => p.pending = some (.subscription n)) p
      ((p.unsubscribe transport).place, (p.unsubscribe transport).emission.attempts) := by
  rw [Place.unsubscribe]
  split
  · next number pending => exact sound.closePending t works pending
  · exact turned_silent (sound.acted_refl t.now)

theorem Sound.close (sound : p.Sound born) (t : Timing) {transport : Transport}
    (works : transport .stop = none) :
    Turned born t (fun n => p.pending = some (.subscription n)) p
      ((p.close transport).place, (p.close transport).emission.attempts) := by
  rw [Place.close]
  split
  · exact turned_silent (sound.acted_refl t.now)
  · next awaited pending =>
    exact turned_silent (sound.repend t.now (by simp [pending]) (Nat.le_refl _) nofun)
  · next number pending => exact sound.closePending t works pending

/-! ## Any operation -/

variable {t : Timing} {byHand : Nat → Prop} {result : Place × List Attempt}

/-- Where each subscription after an operation comes from. -/
theorem Turned.each (turned : Turned born t byHand p result) (sound : p.Sound born) {n : Nat}
    {s' : Subscription} (found : result.1.subscription? n = some s') :
    (∃ s, p.subscription? n = some s ∧ Moves (born n) t.now s s') ∨
    (p.subscription? n = none ∧ Newborn p.call?.isSome t s') ∨
    (byHand n ∧ ∃ s, p.subscription? n = some s ∧ Open (born n) s ∧ Closes s s') := by
  cases turned with
  | acted after attempts acted => exact .inl (acted.before found)
  | opened s every newborn vacant called =>
    rw [subscription?_adding] at found
    split at found
    · next last =>
      cases found
      exact .inr (.inl ⟨List.getElem?_eq_none (Nat.le_of_eq last.symm), newborn⟩)
    · exact .inl ⟨s', found, moves_refl (sound.each n s' found) t.now⟩
  | closed m s after hand pending there isOpen closes =>
    have looked : (p.closing m after).subscription? n =
      if m = n then some after else p.subscription? n := subscription?_set there after n
    rw [looked] at found
    split at found
    · next same =>
      subst same
      cases found
      exact .inr (.inr ⟨hand, s, there, isOpen, closes⟩)
    · exact .inl ⟨s', found, moves_refl (sound.each n s' found) t.now⟩

theorem Turned.sound (turned : Turned born t byHand p result) (sound : p.Sound born)
    {born' : Nat → Bool} (same : ∀ n s, p.subscription? n = some s → born' n = born n)
    (fresh : ∀ n, p.subscription? n = none → born' n = p.call?.isSome) : result.1.Sound born' := by
  have sound' := sound.congr same
  cases turned with
  | acted after attempts acted =>
    refine (acted.sound sound).congr fun n s' found => ?_
    obtain ⟨s, before, -⟩ := acted.before found
    exact same n s before
  | opened s every newborn vacant called =>
    -- The new number was free, so what it is born of is the call that is pending.
    have absent : p.subscription? p.opened.length = none := List.getElem?_eq_none (Nat.le_refl _)
    refine sound'.adding vacant ?_ called
    rw [fresh _ absent]
    exact newborn.isOpen
  | closed n s after hand pending found isOpen closes => exact sound'.closing pending found closes

/-- No subscription goes away, and one that is over stays so. -/
theorem Turned.forth (turned : Turned born t byHand p result) {n : Nat} {s : Subscription}
    (found : p.subscription? n = some s) :
    ∃ s', result.1.subscription? n = some s' ∧ (Spent s → Spent s') := by
  cases turned with
  | acted after attempts acted =>
    obtain ⟨s', found', moves⟩ := acted.moves n s found
    refine ⟨s', found', fun spent => ?_⟩
    cases moves with
    | goes isOpen => exact isOpen.not_spent spent
    | fades _ fades => exact fades.spent
  | opened other every newborn vacant called =>
    have older : n ≠ p.opened.length := Nat.ne_of_lt (List.getElem?_eq_some_iff.mp found).1
    exact ⟨s, by rw [subscription?_adding, if_neg older, found], id⟩
  | closed m before after hand pending there isOpen closes =>
    have looked : (p.closing m after).subscription? n =
      if m = n then some after else p.subscription? n := subscription?_set there after n
    by_cases same : m = n
    · exact ⟨after, by rw [looked, if_pos same], fun _ => closes.spent⟩
    · exact ⟨s, by rw [looked, if_neg same, found], id⟩

end ObservationFeed.Client.Place
