import ObservationFeed.Proofs.Client.Run
import ObservationFeed.Proofs.Client.Turned

/-!
# Operations whose message may be refused

A refused request for one observation only uses up the number of its call, and a
refused start changes nothing.  A stop that is refused counts as sent.  So over
any transport an operation turns a sound place as one does over a transport that
works.
-/

namespace ObservationFeed.Client

open Subscription Place

/-- A transport that refuses nothing. -/
def willing : Transport := fun _ => none

/-- Whether its stop is taken makes no difference to a subscription that closes. -/
theorem Subscription.close_fst (s : Subscription) (transport other : Transport) :
    (s.close transport).1 = (s.close other).1 := by
  simp only [Subscription.close, teardown, sendStop]
  cases s.liveness.closed with
  | true => rfl
  | false => cases s.stopSent <;> rfl

namespace Place

variable {born : Nat → Bool} {p : Place}

/-- What an operation makes of a sound place, whatever it sends. -/
def Turns (born : Nat → Bool) (t : Timing) (p after : Place) : Prop :=
  ∃ attempts, Turned born t (fun _ => True) p (after, attempts)

theorem Acted.turns {t : Timing} {after : Place} (acted : Acted born t.now p after) :
    Turns born t p after :=
  ⟨[], turned_silent acted⟩

theorem Turned.turns {t : Timing} {byHand : Nat → Prop} {result : Place × List Attempt}
    (turned : Turned born t byHand p result) : Turns born t p result.1 :=
  ⟨result.2, turned.mono fun _ _ => trivial⟩

theorem Sound.turns_request (sound : p.Sound born) (t : Timing) (transport : Transport) :
    Turns born t p (p.request t transport).place := by
  cases refusal : transport .single with
  | none => exact (sound.request t refusal).1.turns
  | some cause =>
    -- Only where nothing is pending is the transport asked.
    have works := (sound.request t (rfl : willing .single = none)).1.turns
    cases pending : p.pending with
    | none =>
      have same : (p.request t transport).place = (p.refuse (.transport cause)).place := by
        simp only [Place.request, live?, pending, sendSingle, refusal, Option.bind_none]
        rw [← pending]
        rfl
      rw [same]
      exact (sound.refuse t.now (.transport cause)).turns
    | some what =>
      cases what with
      | single awaited => simpa only [Place.request, pending] using works
      | subscription n =>
        obtain ⟨s, found, isOpen⟩ := sound.pendingOpen pending
        rw [request_live t _ pending found isOpen.unclosed] at works ⊢
        exact works

theorem Sound.turns_subscribe (sound : p.Sound born) (t : Timing) (transport : Transport)
    (every : Interval) : Turns born t p (p.subscribe t transport every).place := by
  have works (taking : Transport) (takes : taking (.start every) = none) :
      Turns born t p (p.subscribe t taking every).place := by
    rcases sound.subscribe t takes with ⟨acted, -⟩ | ⟨s, place, -, newborn, vacant, called⟩
    · exact acted.turns
    · rw [place]
      exact ⟨_, .opened s every newborn vacant called⟩
  cases refusal : transport (.start every) with
  | none => exact works transport refusal
  | some cause =>
    have working := works willing rfl
    rw [Place.subscribe] at working ⊢
    split
    · next attaches =>
      simp only [attaches] at working
      exact working
    · have same : (p.openSubscription t transport every).place = p := by
        simp [Place.openSubscription, refusal]
      rw [same]
      exact (sound.acted_refl t.now).turns

theorem place_closeSubscription (p : Place) (transport other : Transport) (number : Nat) :
    (p.closeSubscription transport number).place = (p.closeSubscription other number).place := by
  simp only [Place.closeSubscription]
  cases p.subscription? number with
  | none => rfl
  | some s => simp only [close_fst s transport other]

theorem Sound.turns_closeSubscription (sound : p.Sound born) (t : Timing) (transport : Transport)
    (number : Nat) : Turns born t p (p.closeSubscription transport number).place := by
  rw [place_closeSubscription p transport willing number]
  exact (sound.closeSubscription t (rfl : willing .stop = none) number).turns

theorem Sound.turns_unsubscribe (sound : p.Sound born) (t : Timing) (transport : Transport) :
    Turns born t p (p.unsubscribe transport).place := by
  have same : (p.unsubscribe transport).place = (p.unsubscribe willing).place := by
    rw [Place.unsubscribe, Place.unsubscribe]
    split
    · exact place_closeSubscription ..
    · rfl
  rw [same]
  exact (sound.unsubscribe t (rfl : willing .stop = none)).turns

end Place

/-! ## Events -/

/-- The place after an effect, before any task has run. -/
def Effect.place (p : Place) : Effect → Place
  | .still => p
  | .polled after => after
  | .moved after _ => after

/-- The events that end a client. -/
def Event.Ends : Event → Prop
  | .close | .release => True
  | _ => False

/-- Whatever happens to a client that stays, a sound place is turned by it. -/
theorem turns_effect {net : Network} {c : Client} {l : Location} {born : Nat → Bool}
    (sound : (c.place l).Sound born) {e : Event} (stays : ¬ e.Ends) :
    Turns born c.timing (c.place l) ((c.effect net l e).place (c.place l)) := by
  have same := (sound.acted_refl c.now).turns (t := c.timing)
  cases e with
  | request there =>
    simp only [effect]
    split
    · exact same
    · split
      · exact (sound.refuse c.now .closed).turns (t := c.timing)
      · exact sound.turns_request c.timing (net l)
  | abort call =>
    simp only [effect]
    split
    · exact same
    · exact (sound.abort c.timing call.number).turns
  | subscribe there every =>
    simp only [effect]
    split
    · exact same
    · exact sound.turns_subscribe c.timing (net l) every
  | poll h =>
    simp only [effect]
    split
    · exact same
    · split
      · next polled => exact (sound.poll c.now polled).turns (t := c.timing)
      · exact same
  | detach h =>
    simp only [effect]
    split
    · exact same
    · exact (sound.detach c.timing h.subscription.number h.number).turns
  | closeSubscription h =>
    simp only [effect]
    split
    · exact same
    · exact sound.turns_closeSubscription c.timing (net l) h.number
  | respond response =>
    simp only [effect]
    split
    · exact same
    · exact (sound.respond c.timing (net l) response).1.turns
  | unsubscribe there =>
    simp only [effect]
    split
    · exact same
    · exact sound.turns_unsubscribe c.timing (net l)
  | close | release => exact absurd trivial stays
  | wake time | elapse time => exact same

end ObservationFeed.Client
