import ObservationFeed.Client.Place
import ObservationFeed.Proofs.Client.Subscription

/-!
# What happens at a place

A place is a list of subscriptions and one thing that is pending.  In a sound
place every subscription is open or over, the pending subscription is the one
that is open, and calls are numbered in order.  Most operations open and close
nothing: they move every subscription by acts of its own and keep the place
sound.
-/

namespace ObservationFeed.Client

open Subscription

/-! ## Sound places -/

/-- How an act moves a subscription that is open or over. -/
inductive Subscription.Moves (born : Bool) (now : Nat) (s s' : Subscription) : Prop where
  | goes : Open born s → Goes born now s s' → Moves born now s s'
  | fades : Spent s → Fades s s' → Moves born now s s'

/-- Callers of a one-shot call: none is counted as parked, and each has a number of its own. -/
structure Awaited.Shared (bound : Nat) (a : Awaited) : Prop where
  awaited : a.value = .pending
  distinct : a.Distinct
  unparked : ∀ c ∈ a.callers, c.parked = false
  called : ∀ c ∈ a.callers, c.call < bound

namespace Place

/-- The one-shot call that is pending, if that is what is pending. -/
def call? (p : Place) : Option Awaited :=
  match p.pending with
  | some (.single awaited) => some awaited
  | _ => none

/-- What holds of every place whose tasks have run. -/
structure Sound (born : Nat → Bool) (p : Place) : Prop where
  each : ∀ n s, p.subscription? n = some s → Open (born n) s ∨ Spent s
  entry : ∀ n, p.pending = some (.subscription n) ↔
    ∃ s, p.subscription? n = some s ∧ s.isClosed = false
  called : ∀ n s, p.subscription? n = some s → ∀ c ∈ s.next.callers, c.call < p.nextCall
  single : ∀ awaited, p.pending = some (.single awaited) → awaited.Shared p.nextCall

/-- An operation that opens and closes nothing. -/
structure Acted (born : Nat → Bool) (now : Nat) (p p' : Place) : Prop where
  count : p'.opened.length = p.opened.length
  moves : ∀ n s, p.subscription? n = some s →
    ∃ s', p'.subscription? n = some s' ∧ Moves (born n) now s s'
  entry : ∀ n, p'.pending = some (.subscription n) ↔ p.pending = some (.subscription n)
  called : ∀ n s, p'.subscription? n = some s → ∀ c ∈ s.next.callers, c.call < p'.nextCall
  single : ∀ awaited, p'.pending = some (.single awaited) → awaited.Shared p'.nextCall

end Place

namespace Subscription

variable {born : Bool} {now : Nat} {s s' : Subscription}

theorem Open.isClosed (isOpen : Open born s) : s.isClosed = false := by
  rw [Subscription.isClosed, isOpen.goesOn, isOpen.unclosed]
  rfl

theorem Spent.isClosed (spent : Spent s) : s.isClosed = true := by
  rw [Subscription.isClosed, spent.ended, Bool.true_or]

theorem Open.not_spent {p : Prop} (isOpen : Open born s) (spent : Spent s) : p := by
  have closed := spent.isClosed
  rw [isOpen.isClosed] at closed
  cases closed

theorem Moves.isClosed (moves : Moves born now s s') : s'.isClosed = s.isClosed := by
  cases moves with
  | goes isOpen goes => rw [isOpen.isClosed, goes.isOpen.isClosed]
  | fades spent fades => rw [spent.isClosed, fades.spent.isClosed]

theorem Moves.either (moves : Moves born now s s') : Open born s' ∨ Spent s' := by
  cases moves with
  | goes _ goes => exact .inl goes.isOpen
  | fades _ fades => exact .inr fades.spent

theorem moves_refl (either : Open born s ∨ Spent s) (now : Nat) : Moves born now s s := by
  rcases either with isOpen | spent
  · exact .goes isOpen ⟨isOpen, (edge_self ..).symm, rfl, rfl⟩
  · exact .fades spent spent.refl

end Subscription

namespace Place

variable {born : Nat → Bool} {now : Nat} {p p' : Place}

theorem isSome_subscription? (p : Place) (n : Nat) :
    (p.subscription? n).isSome = decide (n < p.opened.length) := by
  rw [subscription?, Bool.eq_iff_iff]
  simp

theorem subscription?_set {n : Nat} {s : Subscription} (found : p.subscription? n = some s)
    (s' : Subscription) (m : Nat) :
    (p.set n s').subscription? m = if n = m then some s' else p.subscription? m := by
  have inside : n < p.opened.length := (List.getElem?_eq_some_iff.mp found).1
  simp only [subscription?, Place.set, List.getElem?_set, inside, if_true]

theorem set_found {n : Nat} {s : Subscription} (found : p.subscription? n = some s) :
    p.set n s = p := by
  obtain ⟨bound, rfl⟩ := List.getElem?_eq_some_iff.mp found
  rw [Place.set, List.set_getElem_self]

theorem live?_eq_some {n : Nat} {s : Subscription} :
    p.live? = some (n, s) ↔ p.pending = some (.subscription n) ∧ p.subscription? n = some s := by
  unfold live?
  split
  · next number pending =>
    rw [Option.map_eq_some_iff, pending]
    constructor
    · rintro ⟨_, found, ⟨⟩⟩
      exact ⟨rfl, found⟩
    · rintro ⟨⟨⟩, found⟩
      exact ⟨s, found, rfl⟩
  · next other => exact ⟨nofun, fun ⟨pending, _⟩ => absurd pending (other n)⟩

theorem not_found_empty (n : Nat) (s : Subscription) : empty.subscription? n ≠ some s := nofun

theorem sound_empty (born : Nat → Bool) : empty.Sound born where
  each n s found := absurd found (not_found_empty n s)
  entry n := ⟨nofun, fun ⟨s, found, _⟩ => absurd found (not_found_empty n s)⟩
  called n s found := absurd found (not_found_empty n s)
  single := nofun

/-- What an operation finds before, if it opens nothing. -/
theorem Acted.before (acted : Acted born now p p') {n : Nat} {s' : Subscription}
    (found : p'.subscription? n = some s') :
    ∃ s, p.subscription? n = some s ∧ Moves (born n) now s s' := by
  -- An operation that opens nothing has no more subscriptions than before.
  cases there : p.subscription? n with
  | none =>
    have same := isSome_subscription? p n
    rw [there, ← acted.count, ← isSome_subscription?, found] at same
    cases same
  | some s =>
    obtain ⟨_, found', moves⟩ := acted.moves n s there
    rw [found] at found'
    cases found'
    exact ⟨s, rfl, moves⟩

theorem Acted.sound (acted : Acted born now p p') (sound : p.Sound born) : p'.Sound born where
  each n s' found := by
    obtain ⟨s, -, moves⟩ := acted.before found
    exact moves.either
  entry n := by
    rw [acted.entry, sound.entry]
    constructor
    · rintro ⟨s, found, isOpen⟩
      obtain ⟨s', found', moves⟩ := acted.moves n s found
      exact ⟨s', found', moves.isClosed.trans isOpen⟩
    · rintro ⟨s', found', isOpen⟩
      obtain ⟨s, found, moves⟩ := acted.before found'
      exact ⟨s, found, moves.isClosed.symm.trans isOpen⟩
  called := acted.called
  single := acted.single

theorem Sound.congr (sound : p.Sound born) {born' : Nat → Bool}
    (same : ∀ n s, p.subscription? n = some s → born' n = born n) : p.Sound born' where
  each n s found := by
    rw [same n s found]
    exact sound.each n s found
  entry := sound.entry
  called := sound.called
  single := sound.single

/-! ## Operations that open and close nothing -/

/-- Another thing is pending, but no subscription comes or goes. -/
theorem Sound.repend (sound : p.Sound born) (now : Nat) {pending : Option Pending} {nextCall : Nat}
    (entry : ∀ n, pending = some (.subscription n) ↔ p.pending = some (.subscription n))
    (later : p.nextCall ≤ nextCall)
    (single : ∀ awaited, pending = some (.single awaited) → awaited.Shared nextCall) :
    Acted born now p { p with pending, nextCall } where
  count := rfl
  moves n s found := ⟨s, found, moves_refl (sound.each n s found) now⟩
  entry := entry
  called n s found c member := Nat.lt_of_lt_of_le (sound.called n s found c member) later
  single := single

/-- One subscription moves. -/
theorem Sound.move (sound : p.Sound born) {n : Nat} {s s' : Subscription} {nextCall : Nat}
    (found : p.subscription? n = some s) (moves : Moves (born n) now s s')
    (later : p.nextCall ≤ nextCall)
    (called : ∀ c ∈ s'.next.callers, c ∈ s.next.callers ∨ c.call < nextCall) :
    Acted born now p ({ p with nextCall }.set n s') where
  count := List.length_set
  moves m before there := by
    have looked := subscription?_set (p := { p with nextCall }) found s' m
    rw [looked]
    by_cases same : n = m
    · subst same
      cases found.symm.trans there
      exact ⟨s', if_pos rfl, moves⟩
    · exact ⟨before, (if_neg same).trans there, moves_refl (sound.each m before there) now⟩
  entry _ := Iff.rfl
  called m after there c member := by
    rw [subscription?_set (p := { p with nextCall }) found s' m] at there
    by_cases same : n = m
    · subst same
      rw [if_pos rfl] at there
      cases there
      rcases called c member with older | fresh
      · exact Nat.lt_of_lt_of_le (sound.called n s found c older) later
      · exact fresh
    · rw [if_neg same] at there
      exact Nat.lt_of_lt_of_le (sound.called m after there c member) later
  single awaited pending := by
    have shared := sound.single awaited pending
    exact { shared with
      called := fun c member => Nat.lt_of_lt_of_le (shared.called c member) later }

theorem Sound.pendingOpen (sound : p.Sound born) {n : Nat}
    (pending : p.pending = some (.subscription n)) :
    ∃ s, p.subscription? n = some s ∧ Open (born n) s := by
  obtain ⟨s, found, isOpen⟩ := (sound.entry n).mp pending
  rcases sound.each n s found with isOpen | spent
  · exact ⟨s, found, isOpen⟩
  · rw [spent.isClosed] at isOpen
    cases isOpen

/-- Either a subscription is pending, which is open, or none is. -/
theorem Sound.live_or_vacant (sound : p.Sound born) :
    (∃ n s, p.live? = some (n, s) ∧ p.pending = some (.subscription n) ∧
      p.subscription? n = some s ∧ Open (born n) s) ∨
    (p.live? = none ∧ ∀ n, p.pending ≠ some (.subscription n)) := by
  cases live : p.live? with
  | some pair =>
    obtain ⟨n, s⟩ := pair
    obtain ⟨pending, found⟩ := live?_eq_some.mp live
    obtain ⟨_, there, isOpen⟩ := sound.pendingOpen pending
    cases found.symm.trans there
    exact .inl ⟨n, s, rfl, pending, found, isOpen⟩
  | none =>
    refine .inr ⟨rfl, fun n pending => ?_⟩
    obtain ⟨s, found, -⟩ := sound.pendingOpen pending
    rw [live?_eq_some.mpr ⟨pending, found⟩] at live
    cases live

theorem Awaited.shared_join {bound : Nat} {a : Awaited} (shared : a.Shared bound) :
    (a.join bound false).Shared (bound + 1) where
  awaited := shared.awaited
  distinct := by
    refine Awaited.distinct_join shared.distinct (List.any_eq_false.mpr fun c member => ?_) false
    simpa using Nat.ne_of_lt (shared.called c member)
  unparked c member := by
    rcases List.mem_append.mp member with member | last
    · exact shared.unparked c member
    · obtain rfl := List.mem_singleton.mp last
      rfl
  called c member := by
    rcases List.mem_append.mp member with member | last
    · exact Nat.lt_succ_of_lt (shared.called c member)
    · obtain rfl := List.mem_singleton.mp last
      exact Nat.lt_succ_self _

theorem Awaited.shared_fresh (bound : Nat) : Awaited.fresh.Shared bound :=
  ⟨rfl, List.nodup_nil, nofun, nofun⟩

/-- A call at a live subscription waits for its next value. -/
theorem request_live (t : Timing) (transport : Transport) {n : Nat} {s : Subscription}
    (pending : p.pending = some (.subscription n)) (found : p.subscription? n = some s)
    (unclosed : s.liveness.closed = false) :
    p.request t transport = ⟨({ p with nextCall := p.nextCall + 1 } : Place).set n
      (s.withParked t.now p.nextCall), .none, p.nextCall⟩ := by
  have there : p.opened[n]? = some s := found
  simp [Place.request, live?, pending, subscription?, there, park?_open unclosed]

theorem Sound.request (sound : p.Sound born) (t : Timing) {transport : Transport}
    (works : transport .single = none) :
    Acted born t.now p (p.request t transport).place ∧
      ∀ a ∈ (p.request t transport).emission.attempts, a = ⟨.single, none⟩ := by
  have later := Nat.le_succ p.nextCall
  cases pending : p.pending with
  | none =>
    -- Nothing is pending, so the call is sent.
    have run : p.request t transport = ⟨{ p with
        pending := some (.single (Awaited.fresh.join p.nextCall false))
        nextCall := p.nextCall + 1 }, ⟨[⟨.single, none⟩], []⟩, p.nextCall⟩ := by
      simp [Place.request, live?, pending, sendSingle, works]
    rw [run]
    refine ⟨sound.repend t.now (by simp [pending]) later ?_, fun a => List.mem_singleton.mp⟩
    rintro _ ⟨⟩
    exact Awaited.shared_join (Awaited.shared_fresh _)
  | some what =>
    cases what with
    | single awaited =>
      -- The call joins the one that was sent before.
      have run : p.request t transport = ⟨{ p with
          pending := some (.single (awaited.join p.nextCall false))
          nextCall := p.nextCall + 1 }, .none, p.nextCall⟩ := by
        simp [Place.request, pending]
      rw [run]
      refine ⟨sound.repend t.now (by simp [pending]) later ?_, nofun⟩
      rintro _ ⟨⟩
      exact Awaited.shared_join (sound.single awaited pending)
    | subscription n =>
      -- The call waits for what the server sends anyway.
      obtain ⟨s, found, isOpen⟩ := sound.pendingOpen pending
      have fresh : s.next.has p.nextCall = false := List.any_eq_false.mpr fun c member => by
        simpa using Nat.ne_of_lt (sound.called n s found c member)
      rw [request_live t transport pending found isOpen.unclosed]
      have goes := isOpen.park t.now fresh
      refine ⟨sound.move found (.goes isOpen goes) later fun c member => ?_, nofun⟩
      rw [withParked, updateLiveness_open isOpen.unclosed] at member
      rcases List.mem_append.mp member with member | last
      · exact .inl member
      · obtain rfl := List.mem_singleton.mp last
        exact .inr (Nat.lt_succ_self _)

theorem Sound.refuse (sound : p.Sound born) (now : Nat) (e : SyncError) :
    Acted born now p (p.refuse e).place :=
  sound.repend now (fun _ => Iff.rfl) (Nat.le_succ _) fun awaited pending =>
    have shared := sound.single awaited pending
    { shared with called := fun c member => Nat.lt_succ_of_lt (shared.called c member) }

theorem Sound.abort (sound : p.Sound born) (t : Timing) (call : Nat) :
    Acted born t.now p (p.abort t call) where
  count := List.length_map _
  moves n s found := by
    refine ⟨s.abort t.now call, ?_, ?_⟩
    · have there : p.opened[n]? = some s := found
      simp [Place.abort, subscription?, there]
    · rcases sound.each n s found with isOpen | spent
      · exact .goes isOpen (isOpen.abort t.now call)
      · exact .fades spent (spent.abort t.now call)
  entry n := by
    simp only [Place.abort]
    cases p.pending with
    | none => exact Iff.rfl
    | some what => cases what <;> simp
  called n s found c member := by
    obtain ⟨older, there, rfl⟩ : ∃ older, p.subscription? n = some older ∧
        older.abort t.now call = s := by
      simpa [Place.abort, subscription?] using found
    exact sound.called n older there c (Subscription.callers_abort older t.now call c member)
  single awaited pending := by
    simp only [Place.abort] at pending
    cases before : p.pending with
    | none =>
      rw [before] at pending
      cases pending
    | some what =>
      rw [before] at pending
      cases what with
      | subscription n => cases pending
      | single older =>
        cases pending
        have shared := sound.single older before
        exact {
          awaited := shared.awaited
          distinct := Awaited.distinct_leave shared.distinct call
          unparked := fun c member => shared.unparked c (List.mem_filter.mp member).1
          called := fun c member => shared.called c (List.mem_filter.mp member).1 }

theorem Sound.acted_refl (sound : p.Sound born) (now : Nat) : Acted born now p p :=
  sound.repend now (fun _ => Iff.rfl) (Nat.le_refl _) sound.single

theorem Sound.detach (sound : p.Sound born) (t : Timing) (number stream : Nat) :
    Acted born t.now p (p.detach t number stream).2 := by
  rw [Place.detach]
  cases found : p.subscription? number with
  | none => exact sound.acted_refl t.now
  | some s =>
    refine sound.move found ?_ (Nat.le_refl _) fun c member => .inl ?_
    · rcases sound.each number s found with isOpen | spent
      · exact .goes isOpen (isOpen.detach t.now stream)
      · exact .fades spent (spent.detach t.now stream)
    · rwa [Subscription.next_detach] at member

theorem Sound.poll (sound : p.Sound born) (now : Nat) {number stream : Nat} {found : Poll Snapshot}
    {p' : Place} (polled : p.poll number stream = some (found, p')) : Acted born now p p' := by
  obtain ⟨s, there, answered⟩ := Option.bind_eq_some_iff.mp polled
  obtain ⟨⟨answer, s'⟩, seen, same⟩ := Option.map_eq_some_iff.mp answered
  cases same
  refine sound.move there ?_ (Nat.le_refl _) fun c member => .inl ?_
  · rcases sound.each number s there with isOpen | spent
    · exact .goes isOpen (isOpen.poll now seen)
    · exact .fades spent (spent.poll seen)
  · rwa [Subscription.next_poll seen] at member

theorem Sound.depart (sound : p.Sound born) (t : Timing) (number call : Nat) :
    Acted born t.now p (p.depart t number call) := by
  rw [Place.depart]
  cases found : p.subscription? number with
  | none => exact sound.acted_refl t.now
  | some s =>
    refine sound.move found ?_ (Nat.le_refl _) fun c member => .inl ?_
    · rcases sound.each number s found with isOpen | spent
      · exact .goes isOpen (isOpen.depart t.now call)
      · exact .fades spent (spent.depart t.now call)
    · rwa [Subscription.next_depart] at member

/-- A response for a live subscription goes to it. -/
theorem hand_live (transport : Transport) (response : Response)
    (hear : Subscription → Subscription × List Return) {n : Nat} {s : Subscription}
    (pending : p.pending = some (.subscription n)) (found : p.subscription? n = some s)
    (isOpen : s.isClosed = false) :
    p.hand transport response hear = ⟨p.set n (hear s).1, ⟨[], (hear s).2⟩, .ok true⟩ := by
  simp [Place.hand, pending, found, isOpen]

theorem respond_live (t : Timing) (transport : Transport) (response : Response) {n : Nat}
    {s : Subscription} (pending : p.pending = some (.subscription n))
    (found : p.subscription? n = some s) (isOpen : s.isClosed = false) :
    p.respond t transport response =
      ⟨p.set n (s.publish t.now response.snapshot response.serverTick).1,
        ⟨[], (s.publish t.now response.snapshot response.serverTick).2⟩, .ok true⟩ :=
  hand_live transport response _ pending found isOpen

theorem Sound.hand (sound : p.Sound born) (now : Nat) (transport : Transport) (response : Response)
    {hear : Subscription → Subscription × List Return}
    (goes : ∀ b s, Open b s → Goes b now s (hear s).1)
    (callers : ∀ s, ∀ c ∈ (hear s).1.next.callers, c ∈ s.next.callers) :
    Acted born now p (p.hand transport response hear).place ∧
      (p.hand transport response hear).emission.attempts = [] := by
  cases pending : p.pending with
  | none =>
    rw [Place.hand, pending]
    exact ⟨sound.acted_refl now, rfl⟩
  | some what =>
    cases what with
    | single awaited =>
      rw [Place.hand, pending]
      exact ⟨sound.repend now (by simp [pending]) (Nat.le_refl _) nofun, rfl⟩
    | subscription n =>
      obtain ⟨s, found, isOpen⟩ := sound.pendingOpen pending
      rw [hand_live transport response hear pending found isOpen.isClosed]
      refine ⟨sound.move found (.goes isOpen (goes _ s isOpen)) (Nat.le_refl _) fun c member => ?_,
        rfl⟩
      exact .inl (callers s c member)

theorem Sound.respond (sound : p.Sound born) (t : Timing) (transport : Transport)
    (response : Response) : Acted born t.now p (p.respond t transport response).place ∧
      (p.respond t transport response).emission.attempts = [] :=
  sound.hand t.now transport response
    (fun _ _ isOpen => isOpen.publish t.now response.snapshot response.serverTick)
    fun s => Subscription.callers_publish s _ _ _

theorem Sound.accept (sound : p.Sound born) (t : Timing) (transport : Transport)
    (response : Response) : Acted born t.now p (p.accept t transport response).place ∧
      (p.accept t transport response).emission.attempts = [] :=
  sound.hand t.now transport response
    (fun _ _ isOpen => isOpen.accept t.now response.snapshot response.serverTick)
    fun s => Subscription.callers_accept s _ _ _

end Place

end ObservationFeed.Client
