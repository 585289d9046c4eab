import ObservationFeed.Proofs.Client.Handover

/-!
# What a move decides about a call

A call that is accepted waits until a response for its location is applied,
which answers it, or until its subscription or the client closes, which cancels
it.  `verdict` says what one move decides about a call that waits.  Where a
response is handed over and the call is parked, its value is held for it; then it
waits no more, and what it goes on with is decided when it goes on.
-/

namespace ObservationFeed.Client

open KeyedList Subscription Place

/-! ## Verdicts -/

/-- What a move decides about a call that waits. -/
inductive Verdict where
  | waits
  | givenUp
  /-- A subscription holds a value for the call, which goes on later. -/
  | provided (n : Nat) (snapshot : Snapshot)
  | answered (result : Except SyncError Snapshot)

/-- The number of the subscription that a call waits for, if it waits for one. -/
def waitsOn? (c : Client) (call : CallHandle) : Option Nat :=
  (c.place call.location).waitsOn? call.number

/-- A move closes the client. -/
def shuts (net : Network) (c : Client) (m : Move) : Bool := !c.closed && (c.make net m).closed

/-- A move closes the client, or the subscription that a call waits for. -/
def closesOn (net : Network) (c : Client) (call : CallHandle) (m : Move) : Bool :=
  c.shuts net m ||
    (c.waitsOn? call).any fun n =>
      ((c.make net m).subscription? ⟨call.location, n⟩).any (·.isClosed)

def verdict (net : Network) (c : Client) (call : CallHandle) (m : Move) : Verdict :=
  if m.givesUp call then .givenUp
  else match c.applied? call.location m with
    | some snapshot =>
      match c.putsOff? call m with
      | some n => .provided n snapshot
      | none => .answered (.ok snapshot)
    | none => if c.closesOn net call m then .answered (.error .cancelled) else .waits

/-- The answers that a verdict gives. -/
def Verdict.answers : Verdict → List (Except SyncError Snapshot)
  | answered result => [result]
  | _ => []

/-- What a verdict decides for a call, whether it is answered with it or provided. -/
def Verdict.decision : Verdict → Option (Except SyncError Snapshot)
  | answered result => some result
  | provided _ snapshot => some (.ok snapshot)
  | _ => none

variable {net : Network} {c : Client} {l : Location} {m : Move} {n call : Nat}
  {snapshot : Snapshot} {closes : Bool}

/-! ## Deeds -/

theorem givesUp_iff : m.givesUp ⟨l, call⟩ = true ↔ c.undertakes l m = .giveUp call := by
  rw [Move.givesUp, undertakes]
  cases m.event? l with
  | none => simp
  | some e =>
    simp only [Option.any_some]
    constructor
    · intro gives
      cases e with
      | abort other =>
        obtain rfl : other = ⟨l, call⟩ := by simpa [Event.givesUp] using gives
        simp [deed]
      | _ => cases gives
    · intro does
      obtain rfl := deed_eq_giveUp does
      simp [Event.givesUp]

/-- A response that is handed over is applied or does nothing that shows. -/
theorem undertakes_hear (c : Client) (l : Location) (response : Response) :
    c.undertakes l (.hear response) = .nothing ∨
      c.undertakes l (.hear response) = .apply response.snapshot := by
  simp only [undertakes, Move.event?, deed]
  split
  · exact .inl rfl
  · split
    · exact .inr rfl
    · exact .inl rfl

/-- A client is closed by a move that closes what is pending at every location. -/
theorem undertakes_of_shuts (shuts : c.shuts net m = true) : c.undertakes l m = .close := by
  rw [Client.shuts, Bool.and_eq_true, Bool.not_eq_true'] at shuts
  obtain ⟨unclosed, closes⟩ := shuts
  have deed : c.deed l .close = .close := by simp [deed, unclosed]
  rcases closed_make_or net c m with same | rfl | rfl
  · cases closes.symm.trans (same.trans unclosed)
  · exact deed
  · exact deed

theorem shuts_of_close (unclosed : c.closed = false) (closes : m = .event .close ∨ m = .shut) :
    c.shuts net m = true := by
  rw [Client.shuts, unclosed]
  rcases closes with rfl | rfl
  · simp only [make, step, Client.close, unclosed]
    exact (sameBut_closePlaces net (keys c.places) { c with closed := true }).closed
  · simp only [make, Client.shut, unclosed]
    rfl

/-! ## Calls that wait -/

theorem Place.hasCallers_of_waits {p : Place} (waits : call ∈ p.outline.calls) :
    p.hasCallers = true := by
  cases some : p.hasCallers with
  | true => rfl
  | false =>
    change call ∈ p.calls at waits
    rw [(callers_of_hasCallers some).1] at waits
    cases waits

/-- A call waits for a one-shot call or for the live subscription. -/
theorem Place.Sound.waitsOn?_of_waits {born : Nat → Bool} {p : Place} (sound : p.Sound born)
    (heard : p.Heard) (waits : call ∈ p.outline.calls) :
    (p.outline.phase = .asked ∧ p.waitsOn? call = none) ∨
      ∃ n, p.pending = some (.subscription n) ∧ p.waitsOn? call = some n := by
  rw [sound.waitsOn?_eq heard]
  cases sound.shows with
  | idle pending outline =>
    rw [outline] at waits
    cases waits
  | asked awaited pending shared outline =>
    refine .inl ⟨by rw [outline], ?_⟩
    rw [live?, pending]
    rfl
  | live n s pending found isOpen outline =>
    rw [outline] at waits
    have has : s.next.has call = true := Awaited.has_iff.mpr waits
    refine .inr ⟨n, pending, ?_⟩
    rw [live?_eq_some.mpr ⟨pending, found⟩, Option.bind_some, if_pos has]

/-- Whoever is parked waits. -/
theorem Place.Sound.unparked_of_absent {born : Nat → Bool} {p : Place} (sound : p.Sound born)
    (heard : p.Heard) (absent : call ∉ p.outline.calls) : p.parkedOn? call = none := by
  rw [sound.parkedOn?_eq heard]
  cases live : p.live? with
  | none => rfl
  | some entry =>
    obtain ⟨pending, found⟩ := live?_eq_some.mp live
    rw [Option.bind_some]
    refine if_neg fun parked => absent ?_
    obtain ⟨caller, member, rfl, -⟩ := Awaited.hasParked_iff.mp parked
    rw [outline_live pending found]
    exact List.mem_map_of_mem member

/-- A subscription that was there is closed exactly if it is not what is pending. -/
theorem Place.Sound.isClosed_iff {born : Nat → Bool} {p : Place} (sound : p.Sound born) {n : Nat}
    (inside : n < p.opened.length) :
    (p.subscription? n).any Subscription.isClosed = true ↔
      p.outline.phase.number? ≠ some n := by
  obtain ⟨s, found⟩ : ∃ s, p.subscription? n = some s := ⟨_, List.getElem?_eq_getElem inside⟩
  rw [Ne, sound.number?_outline, sound.entry, found, Option.any_some]
  constructor
  · rintro closed ⟨_, ⟨⟩, unclosed⟩
    cases closed.symm.trans unclosed
  · intro never
    cases closed : s.isClosed with
    | true => rfl
    | false => exact absurd ⟨s, rfl, closed⟩ never

/-- A client is not let go while a call waits. -/
theorem not_release_of_waits (possible : (Event.release).Possible c)
    (waits : call ∈ (c.place l).outline.calls) : False := by
  have nobody := hasCallers_place possible.2 l
  rw [Place.hasCallers_of_waits waits] at nobody
  cases nobody

/-- Where a one-shot call is pending nothing is closed but the whole client. -/
theorem shuts_of_asked (possible : m.Possible c) {born : Nat → Bool}
    (sound : (c.place l).Sound born) (waits : call ∈ (c.place l).outline.calls)
    (asked : (c.place l).outline.phase = .asked) (does : c.undertakes l m = .close) :
    c.shuts net m = true := by
  have unsubscribed : (c.place l).isSubscribed = false := by
    rw [← sound.isSubscribed_outline, asked]
    rfl
  have ends {e : Event} (does : c.deed l e = .close) :
      (e = .close ∧ c.closed = false) ∨ e = .release := by
    rcases deed_eq_close does with close | release | subscribed
    · exact .inl close
    · exact .inr release
    · cases unsubscribed.symm.trans subscribed
  cases m with
  | event e =>
    rcases ends does with ⟨rfl, unclosed⟩ | rfl
    · exact shuts_of_close unclosed (.inl rfl)
    · exact (not_release_of_waits possible waits).elim
  | operation there e =>
    simp only [undertakes, Move.event?] at does
    split at does
    · next e' event =>
      split at event
      · cases event
        rcases ends does with ⟨rfl, -⟩ | rfl
        · exact absurd trivial possible.1
        · exact absurd trivial possible.1
      · cases event
    · cases does
  | hear response =>
    rcases undertakes_hear c l response with nothing | applies
    · cases nothing.symm.trans does
    · cases applies.symm.trans does
  | chore | depart => cases does
  | shut =>
    have does : c.deed l .close = .close := does
    rcases ends does with ⟨-, unclosed⟩ | release
    · exact shuts_of_close unclosed (.inr rfl)
    · cases release

/-- What a call waits for is closed by the deed of a move or by the tasks. -/
theorem Regular.closesOn_iff (regular : Regular c) (works : ∀ l kind, net l kind = none)
    (possible : m.Possible c) (waits : call ∈ (c.place l).outline.calls)
    (ensued : Ensued net c l m closes) :
    c.closesOn net ⟨l, call⟩ m = true ↔ c.undertakes l m = .close ∨ closes = true := by
  obtain ⟨born, fit⟩ := regular.fit l
  rw [closesOn, waitsOn?, Bool.or_eq_true]
  rcases fit.sound.waitsOn?_of_waits (regular.heard l) waits with
    ⟨asked, onNone⟩ | ⟨n, pending, onSome⟩
  · rw [onNone, Option.any_none]
    constructor
    · rintro (shuts | ⟨⟨⟩⟩)
      exact .inl (undertakes_of_shuts shuts)
    · rintro (does | tasks)
      · exact .inl (shuts_of_asked possible fit.sound waits asked does)
      · -- The tasks close a subscription only, and none is opened by a deed that shows no interest.
        obtain ⟨idle, subscribed⟩ := ensued.closed tasks
        generalize c.undertakes l m = d at idle subscribed
        generalize (c.place l).outline = o at asked subscribed
        obtain ⟨phase, calls, nextCall, opened⟩ := o
        cases asked
        cases d <;> contradiction
  · obtain ⟨born', fit'⟩ := (regular.make works possible).fit l
    have inside : n < ((c.make net m).place l).opened.length := by
      obtain ⟨s, found, -⟩ := fit.sound.pendingOpen pending
      have before : n < (c.place l).opened.length := (List.getElem?_eq_some_iff.mp found).1
      have more := (c.place l).outline.opened_performAll
        (c.undertakes l m :: Outline.tasks 0 closes)
      rw [← ensued.outline] at more
      exact Nat.lt_of_lt_of_le before more
    have ends := Outline.number?_performAll_tasks ((fit.sound.number?_outline n).mpr pending)
      (c.undertakes l m) 0 closes
    rw [← ensued.outline] at ends
    rw [onSome, Option.any_some, ← ends]
    refine (or_congr_right (fit'.sound.isClosed_iff inside)).trans (or_iff_right_of_imp ?_)
    exact fun shuts => ends.mpr (.inl (undertakes_of_shuts shuts))

/-! ## What becomes of a call -/

/-- What a verdict leaves of a call at its location. -/
structure Left (after : Client) (call : CallHandle) (verdict : Verdict) : Prop where
  waits : call.number ∈ (after.place call.location).outline.calls ↔ verdict = .waits
  holds : ∀ n snapshot, verdict = .provided n snapshot → after.Holds call n snapshot
  unheld : (∀ n snapshot, verdict ≠ .provided n snapshot) → after.Unheld call

section Decides

variable (regular : Regular c) (ensued : Ensued net c l m closes)
  (waits : call ∈ (c.place l).outline.calls) (unheld : c.Unheld ⟨l, call⟩)

include regular ensued waits unheld

theorem decides_givenUp (gives : m.givesUp ⟨l, call⟩ = true) :
    answersTo call (c.emits net l m).returns = [] ∧
      Left (c.make net m) ⟨l, call⟩ .givenUp := by
  have numbered := regular.numbered l
  have prompt : c.putsOff? ⟨l, call⟩ m = none := by
    cases m with
    | hear => cases gives
    | _ => rfl
  have does := (givesUp_iff (c := c)).mp gives
  have absent : call ∉ ((c.place l).outline.perform (c.undertakes l m)).1.calls := by
    rw [does]
    simp [Outline.perform]
  obtain ⟨answers, absent⟩ := Outline.performAll_absent
    (numbered.perform (c.undertakes l m)) absent
    (Nat.lt_of_lt_of_le (numbered.called call waits) (Outline.nextCall_perform ..))
    (Outline.tasks 0 closes)
  refine ⟨?_, ?_, ?_, fun _ => regular.unheld_make unheld (.inl prompt)⟩
  · rw [ensued.returns call (unheld.takesNothing m), prompt, Outline.performAll]
    rw [does] at answers ⊢
    exact answers
  · rw [ensued.outline, Outline.performAll]
    simp only [reduceCtorEq, iff_false]
    exact absent
  · rintro _ _ ⟨⟩

/-- A response that is applied answers a call, unless it is parked and goes on later. -/
theorem decides_applied (kept : c.undertakes l m ≠ .giveUp call)
    (applied : c.applied? l m = some snapshot) {verdict : Verdict}
    (decided : verdict = match c.putsOff? ⟨l, call⟩ m with
      | some n => .provided n snapshot
      | none => .answered (.ok snapshot)) :
    answersTo call (c.emits net l m).returns = verdict.answers ∧
      Left (c.make net m) ⟨l, call⟩ verdict := by
  obtain ⟨answers, stays⟩ := Outline.performAll_waiting (regular.numbered l) waits kept 0 closes
  have returns := ensued.returns call (unheld.takesNothing m)
  rw [answers, applied?_eq_some.mp applied] at returns
  rw [← ensued.outline, applied?_eq_some.mp applied] at stays
  subst decided
  cases off : c.putsOff? ⟨l, call⟩ m with
  | none =>
    refine ⟨?_, stays.trans (iff_of_false nofun nofun), nofun, fun _ => ?_⟩
    · rw [returns, off]
      rfl
    · exact regular.unheld_make unheld (.inl off)
  | some n =>
    refine ⟨?_, stays.trans (iff_of_false nofun nofun), ?_, fun other => ?_⟩
    · rw [returns, off]
      rfl
    · rintro _ _ ⟨⟩
      exact regular.provided_make unheld off applied
    · exact absurd rfl (other n snapshot)

/-- Where nothing is applied a call is cancelled by what closes, and waits otherwise. -/
theorem decides_unapplied (kept : c.undertakes l m ≠ .giveUp call)
    (unapplied : c.applied? l m = none) {verdict : Verdict}
    (decided : verdict = if c.undertakes l m = .close ∨ closes = true then
      .answered (.error .cancelled) else .waits) :
    answersTo call (c.emits net l m).returns = verdict.answers ∧
      Left (c.make net m) ⟨l, call⟩ verdict := by
  have other : ∀ snapshot, c.undertakes l m ≠ .apply snapshot := by
    intro snapshot does
    cases unapplied.symm.trans (applied?_eq_some.mpr does)
  -- A response that is not applied closes nothing.
  have idle : (c.putsOff? ⟨l, call⟩ m).isSome = true →
      ¬ (c.undertakes l m = .close ∨ closes = true) := by
    intro off
    cases m with
    | hear response =>
      rintro (close | tasks)
      · rcases undertakes_hear c l response with nothing | applies
        · cases nothing.symm.trans close
        · cases applies.symm.trans close
      · cases (ensued.bare (by trivial)).symm.trans tasks
    | _ => cases off
  obtain ⟨answers, stays⟩ := Outline.performAll_waiting (regular.numbered l) waits kept 0 closes
  have returns := ensued.returns call (unheld.takesNothing m)
  rw [answers, Outline.answer?_of_not_apply closes other] at returns
  rw [← ensued.outline, Outline.answer?_of_not_apply closes other] at stays
  subst decided
  refine ⟨?_, ?_, ?_, fun _ => regular.unheld_make unheld (.inr unapplied)⟩
  · rw [returns]
    split
    · next off =>
      rw [if_neg (idle off)]
      rfl
    · split <;> rfl
  · refine stays.trans ?_
    split
    · exact iff_of_false nofun nofun
    · exact iff_of_true rfl rfl
  · intro n snapshot provided
    split at provided <;> cases provided

end Decides

/-- What one move decides about a call that waits is its verdict. -/
theorem Regular.decides (regular : Regular c) (works : ∀ l kind, net l kind = none)
    (possible : m.Possible c) (waits : call ∈ (c.place l).outline.calls)
    (unheld : c.Unheld ⟨l, call⟩) :
    answersTo call (c.emits net l m).returns = (c.verdict net ⟨l, call⟩ m).answers ∧
      Left (c.make net m) ⟨l, call⟩ (c.verdict net ⟨l, call⟩ m) := by
  obtain ⟨closes, ensued⟩ := regular.ensued works possible l
  have closing := regular.closesOn_iff works possible waits ensued
  rw [verdict]
  split
  · next gives => exact decides_givenUp regular ensued waits unheld gives
  · next keeps =>
    have kept := mt (givesUp_iff (c := c)).mpr keeps
    cases applied : c.applied? l m with
    | some snapshot => exact decides_applied regular ensued waits unheld kept applied rfl
    | none =>
      refine decides_unapplied regular ensued waits unheld kept applied ?_
      simp only [closing]

/-- Calls that are made later have higher numbers. -/
theorem Regular.nextCall_make (regular : Regular c) (works : ∀ l kind, net l kind = none)
    (possible : m.Possible c) (l : Location) :
    (c.place l).nextCall ≤ ((c.make net m).place l).nextCall := by
  obtain ⟨closes, ensued⟩ := regular.ensued works possible l
  have more := (c.place l).outline.nextCall_performAll
    (c.undertakes l m :: Outline.tasks 0 closes)
  rw [← ensued.outline] at more
  exact more

theorem Regular.unparked_of_absent (regular : Regular c)
    (absent : call ∉ (c.place l).outline.calls) : (c.place l).parkedOn? call = none := by
  obtain ⟨born, fit⟩ := regular.fit l
  exact fit.sound.unparked_of_absent (regular.heard l) absent

theorem putsOff?_eq_none (unparked : (c.place l).parkedOn? call = none) (m : Move) :
    c.putsOff? ⟨l, call⟩ m = none := by
  cases m with
  | hear response => exact unparked
  | _ => rfl

/-- A call that does not wait and takes nothing is not answered, and does not wait later. -/
theorem Regular.absent (regular : Regular c) (works : ∀ l kind, net l kind = none)
    (possible : m.Possible c) (absent : call ∉ (c.place l).outline.calls)
    (older : call < (c.place l).nextCall) :
    (c.TakesNothing ⟨l, call⟩ m → answersTo call (c.emits net l m).returns = []) ∧
      call ∉ ((c.make net m).place l).outline.calls := by
  obtain ⟨closes, ensued⟩ := regular.ensued works possible l
  obtain ⟨answers, absent'⟩ := Outline.performAll_absent (regular.numbered l) absent older
    (c.undertakes l m :: Outline.tasks 0 closes)
  refine ⟨fun nothing => ?_, ensued.outline ▸ absent'⟩
  rw [ensued.returns call nothing, answers]
  exact ite_self _

/-- Only calls that were made are answered. -/
theorem Regular.returned (regular : Regular c) (works : ∀ l kind, net l kind = none)
    (possible : m.Possible c) (unmade : ((c.make net m).place l).nextCall ≤ call)
    (unheld : c.Unheld ⟨l, call⟩) : answersTo call (c.emits net l m).returns = [] := by
  obtain ⟨closes, ensued⟩ := regular.ensued works possible l
  have returned := Outline.returned_performAll (regular.numbered l)
    (c.undertakes l m :: Outline.tasks 0 closes)
  rw [← ensued.outline] at returned
  rw [ensued.returns call (unheld.takesNothing m)]
  split
  · rfl
  · rw [answersTo, List.map_eq_nil_iff, List.filter_eq_nil_iff]
    intro r member same
    have made : r.call < ((c.make net m).place l).nextCall := returned r member
    rw [of_decide_eq_true same] at made
    exact Nat.not_lt.mpr unmade made

/-! ## Calls that were not made -/

/-- What holds of a client between two moves: it is regular, and it holds nothing for calls that were
not made. -/
structure Orderly (c : Client) : Prop where
  regular : Regular c
  unmade : ∀ l call, (c.place l).nextCall ≤ call → c.Unheld ⟨l, call⟩

theorem orderly_ofConfig (config : Config) : Orderly (ofConfig config) :=
  ⟨regular_ofConfig config, fun _ _ _ _ => rfl⟩

theorem Orderly.make (orderly : Orderly c) (works : ∀ l kind, net l kind = none)
    (possible : m.Possible c) : Orderly (c.make net m) where
  regular := orderly.regular.make works possible
  unmade l call unmade := by
    have before := Nat.le_trans (orderly.regular.nextCall_make works possible l) unmade
    have absent : call ∉ (c.place l).outline.calls := fun waits =>
      Nat.not_lt.mpr before ((orderly.regular.numbered l).called call waits)
    have unparked := orderly.regular.unparked_of_absent absent
    exact orderly.regular.unheld_make (orderly.unmade l call before)
      (.inl (putsOff?_eq_none unparked m))

end ObservationFeed.Client
