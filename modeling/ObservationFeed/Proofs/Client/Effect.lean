import ObservationFeed.Proofs.Client.PlaceTasks
import ObservationFeed.Proofs.Client.Run
import ObservationFeed.Proofs.Client.Turned

/-!
# What events do to sound places

Over a network that works, an event turns a sound place in one of a few ways,
whatever the event is.  Which subscriptions an event closes is given by
`Event.Closes`; everything else that closes a subscription is a task of its own.
-/

namespace ObservationFeed.Client

open KeyedList Subscription Place

/-- A subscription is what is pending at its location. -/
def Lists (c : Client) (h : SubscriptionHandle) : Prop :=
  (c.place h.location).pending = some (.subscription h.number)

/-- The events that close a subscription from outside, or end its scope. -/
def Event.Closes (c : Client) (h : SubscriptionHandle) : Event → Prop
  | .closeSubscription other => other = h
  | .unsubscribe l => l = h.location ∧ c.Lists h
  | .close => c.Lists h
  | .release => True
  | _ => False

/-- What comes of an effect at a sound place over a transport that works. -/
inductive Effect.Works (born : Nat → Bool) (t : Timing) (byHand : Nat → Prop) (p : Place) :
    Effect → Prop where
  | still : Works born t byHand p .still
  | polled (number stream : Nat) (found : Poll Snapshot) (after : Place) :
      p.poll number stream = some (found, after) → Works born t byHand p (.polled after)
  | moved (after : Place) (emission : Emission) :
      Turned born t byHand p (after, emission.attempts) →
      Works born t byHand p (.moved after emission)

theorem effect_works {net : Network} (works : ∀ l kind, net l kind = none) {c : Client}
    {l : Location} {born : Nat → Bool} (sound : (c.place l).Sound born) {e : Event}
    (stays : e ≠ .release) :
    (c.effect net l e).Works born ⟨e.time c, c.period, c.window⟩ (fun n => e.Closes c ⟨l, n⟩)
      (c.place l) := by
  cases e with
  | request there =>
    simp only [effect]
    split
    · exact .still
    · split
      · exact .moved _ _ (turned_silent (sound.refuse c.now .closed))
      · obtain ⟨acted, quiet⟩ := sound.request c.timing (works l .single)
        exact .moved _ _ (.acted _ _ acted quiet)
  | abort call =>
    simp only [effect]
    split
    · exact .still
    · exact .moved _ _ (turned_silent (sound.abort c.timing call.number))
  | subscribe there every =>
    simp only [effect]
    split
    · exact .still
    · rcases sound.subscribe c.timing (works l (.start every)) with
        ⟨acted, quiet⟩ | ⟨s, place, sends, newborn, vacant, called⟩
      · refine .moved _ _ ?_
        rw [quiet]
        exact turned_silent acted
      · refine .moved _ _ ?_
        rw [place, sends]
        exact .opened s every newborn vacant called
  | poll h =>
    simp only [effect]
    split
    · exact .still
    · split
      · next found after polled => exact .polled _ _ found after polled
      · exact .still
  | detach h =>
    simp only [effect]
    split
    · exact .still
    · exact .moved _ _ (turned_silent (sound.detach c.timing _ _))
  | closeSubscription h =>
    simp only [effect]
    split
    · exact .still
    · next here =>
      refine .moved _ _ ((sound.closeSubscription c.timing (works l .stop) h.number).mono ?_)
      -- The effect is at the location of the handle, so the one that is closed is the one it names.
      rintro n rfl
      cases Classical.not_not.mp here
      rfl
  | respond response =>
    simp only [effect]
    split
    · exact .still
    · obtain ⟨acted, quiet⟩ := sound.respond c.timing (net l) response
      refine .moved _ _ ?_
      rw [quiet]
      exact turned_silent acted
  | unsubscribe there =>
    simp only [effect]
    split
    · exact .still
    · next here =>
      refine .moved _ _ ((sound.unsubscribe c.timing (works l .stop)).mono ?_)
      exact fun n pending => ⟨Classical.not_not.mp fun elsewhere => here (.inl elsewhere), pending⟩
  | close =>
    simp only [effect]
    split
    · exact .still
    · exact .moved _ _ ((sound.close c.timing (works l .stop)).mono fun n pending => pending)
  | release => exact absurd rfl stays
  | wake time => exact .moved _ _ (turned_silent (sound.acted_refl (max c.now time)))
  | elapse time => exact .still

/-! ## Operations alone -/

theorem sameBut_accept (c : Client) (net : Network) (response : Response) :
    SameBut c (c.accept net response).client := by
  rw [Client.accept]
  split
  · exact .refl c
  · exact sameBut_setPlace ..

theorem sameBut_depart (c : Client) (h : SubscriptionHandle) (call : Nat) (cancelled : Bool) :
    SameBut c (c.depart h call cancelled).1 :=
  sameBut_setPlace ..

theorem place_accept (c : Client) (net : Network) (response : Response) (l : Location) :
    (c.accept net response).client.place l =
      if response.location = l ∧ c.closed = false then
        ((c.place l).accept c.timing (net l) response).place
      else c.place l := by
  rw [Client.accept]
  cases c.closed with
  | true => simp
  | false =>
    simp only [Bool.false_eq_true, if_false, place_setPlace, and_true]
    split
    · next here => rw [here]
    · rfl

theorem place_depart (c : Client) (h : SubscriptionHandle) (call : Nat) (cancelled : Bool)
    (l : Location) :
    (c.depart h call cancelled).1.place l =
      if h.location = l then (c.place l).depart c.timing h.number call else c.place l := by
  rw [Client.depart, place_setPlace]
  split
  · next here => rw [here]
  · rfl

section Alone

variable {c : Client} {l : Location} {born : Nat → Bool}

/-- A response that is handed over sends nothing. -/
theorem Place.Sound.acted_accept (sound : (c.place l).Sound born) (net : Network)
    (response : Response) :
    Acted born c.now (c.place l) ((c.accept net response).client.place l) ∧
      attemptsAt l (c.accept net response).log = [] := by
  rw [place_accept, Client.accept]
  by_cases closed : c.closed = true
  · rw [if_pos closed, if_neg (by simp [closed])]
    exact ⟨sound.acted_refl c.now, rfl⟩
  · rw [if_neg closed, attemptsAt_cons]
    by_cases here : response.location = l
    · subst here
      obtain ⟨acted, quiet⟩ := sound.accept c.timing (net response.location) response
      rw [if_pos ⟨rfl, Bool.eq_false_iff.mpr closed⟩, if_pos rfl, quiet]
      exact ⟨acted, rfl⟩
    · rw [if_neg fun both => here both.1, if_neg here]
      exact ⟨sound.acted_refl c.now, rfl⟩

/-- Nor does a caller that goes on. -/
theorem Place.Sound.acted_depart (sound : (c.place l).Sound born) (h : SubscriptionHandle)
    (call : Nat) (cancelled : Bool) :
    Acted born c.now (c.place l) ((c.depart h call cancelled).1.place l) ∧
      attemptsAt l (c.depart h call cancelled).2 = [] := by
  refine ⟨?_, ?_⟩
  · rw [place_depart]
    split
    · exact sound.depart c.timing h.number call
    · exact sound.acted_refl c.now
  · rw [Client.depart, attemptsAt_cons]
    split <;> rfl

end Alone

end ObservationFeed.Client
