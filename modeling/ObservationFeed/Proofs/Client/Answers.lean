import ObservationFeed.Proofs.Client.Verdict

/-!
# The answers of calls

A call is answered at most once, and with what `fate` says.  `fate` goes through
the moves after the call up to the first that decides about it; if a response is
handed over then while the call is parked, it goes on up to the move in which the
caller goes on itself.  What is decided then need not be what the caller finds:
if its subscription closes before it goes on, it may find that.

Calls that wait together have the same decided for them, and while a call waits
for a subscription that took it over nothing is published there.
-/

namespace ObservationFeed.Client

open KeyedList Subscription Place

/-! ## Runs of moves -/

/-- The client after some moves. -/
def makeAll (net : Network) : Client → List Move → Client
  | c, [] => c
  | c, m :: rest => makeAll net (c.make net m) rest

/-- The calls at a location that are answered in some moves. -/
def answered (net : Network) (l : Location) : Client → List Move → List Return
  | _, [] => []
  | c, m :: rest => (c.emits net l m).returns ++ answered net l (c.make net m) rest

/-- Each move is possible when it is made. -/
def Feasible (net : Network) : Client → List Move → Prop
  | _, [] => True
  | c, m :: rest => m.Possible c ∧ Feasible net (c.make net m) rest

instance decidableFeasible (net : Network) :
    (c : Client) → (moves : List Move) → Decidable (Feasible net c moves)
  | _, [] => .isTrue trivial
  | c, m :: rest =>
    have := decidableFeasible net (c.make net m) rest
    inferInstanceAs (Decidable (m.Possible c ∧ Feasible net (c.make net m) rest))

/-- What is decided for a call that waits, if anything is: the first decision, unless the call is
given up before. -/
def decided (net : Network) (call : CallHandle) :
    Client → List Move → Option (Except SyncError Snapshot)
  | _, [] => none
  | c, m :: rest =>
    match c.verdict net call m with
    | .waits => decided net call (c.make net m) rest
    | verdict => verdict.decision

/-- What a caller goes on with for which a subscription holds a value, if it does. -/
def goesOnWith (net : Network) (h : SubscriptionHandle) (call : Nat) (snapshot : Snapshot) :
    Client → List Move → Option (Except SyncError Snapshot)
  | _, [] => none
  | c, m :: rest =>
    if m.givesUp ⟨h.location, call⟩ then none
    else match m.goesOn? h call with
      | some cancelled =>
        some (if cancelled && c.hasEnded h then .error .cancelled else .ok snapshot)
      | none => goesOnWith net h call snapshot (c.make net m) rest

/-- What a call that waits is answered, if it is. -/
def fate (net : Network) (call : CallHandle) :
    Client → List Move → Option (Except SyncError Snapshot)
  | _, [] => none
  | c, m :: rest =>
    match c.verdict net call m with
    | .waits => fate net call (c.make net m) rest
    | .givenUp => none
    | .provided n snapshot =>
      goesOnWith net ⟨call.location, n⟩ call.number snapshot (c.make net m) rest
    | .answered result => some result

/-- The number of the subscription that a call is parked on, if it is parked. -/
def parkedOn? (c : Client) (call : CallHandle) : Option Nat :=
  (c.place call.location).parkedOn? call.number

variable {net : Network} {c : Client} {l : Location} {m : Move} {moves : List Move}
  {n call : Nat} {snapshot : Snapshot}

theorem makeAll_append (net : Network) (c : Client) (first second : List Move) :
    makeAll net c (first ++ second) = makeAll net (makeAll net c first) second := by
  induction first generalizing c with
  | nil => rfl
  | cons m rest ih => exact ih (c.make net m)

theorem answered_append (net : Network) (l : Location) (c : Client) (first second : List Move) :
    answered net l c (first ++ second) =
      answered net l c first ++ answered net l (makeAll net c first) second := by
  induction first generalizing c with
  | nil => rfl
  | cons m rest ih =>
    rw [List.cons_append, answered, ih, answered, List.append_assoc]
    rfl

theorem feasible_append {first second : List Move} :
    Feasible net c (first ++ second) ↔
      Feasible net c first ∧ Feasible net (makeAll net c first) second := by
  induction first generalizing c with
  | nil => exact ⟨fun feasible => ⟨trivial, feasible⟩, And.right⟩
  | cons m rest ih =>
    rw [List.cons_append, Feasible, Feasible, ih, and_assoc]
    rfl

theorem Feasible.orderly (feasible : Feasible net c moves) (works : ∀ l kind, net l kind = none)
    (orderly : Orderly c) : Orderly (makeAll net c moves) := by
  induction moves generalizing c with
  | nil => exact orderly
  | cons m rest ih => exact ih feasible.2 (orderly.make works feasible.1)

theorem Feasible.nextCall (feasible : Feasible net c moves) (works : ∀ l kind, net l kind = none)
    (regular : Regular c) (l : Location) :
    (c.place l).nextCall ≤ ((makeAll net c moves).place l).nextCall := by
  induction moves generalizing c with
  | nil => exact Nat.le_refl _
  | cons m rest ih =>
    exact Nat.le_trans (regular.nextCall_make works feasible.1 l)
      (ih feasible.2 (regular.make works feasible.1))

theorem Feasible.regular (feasible : Feasible net c moves) (works : ∀ l kind, net l kind = none)
    (regular : Regular c) : Regular (makeAll net c moves) := by
  induction moves generalizing c with
  | nil => exact regular
  | cons m rest ih => exact ih feasible.2 (regular.make works feasible.1)

/-! ## One call -/

theorem Feasible.stays_absent (feasible : Feasible net c moves)
    (works : ∀ l kind, net l kind = none) (regular : Regular c)
    (absent : call ∉ (c.place l).outline.calls) (older : call < (c.place l).nextCall) :
    call ∉ ((makeAll net c moves).place l).outline.calls := by
  induction moves generalizing c with
  | nil => exact absent
  | cons m rest ih =>
    exact ih feasible.2 (regular.make works feasible.1)
      (regular.absent works feasible.1 absent older).2
      (Nat.lt_of_lt_of_le older (regular.nextCall_make works feasible.1 l))

/-- A call that is settled is not answered again. -/
theorem Feasible.settled (feasible : Feasible net c moves) (works : ∀ l kind, net l kind = none)
    (regular : Regular c) (absent : call ∉ (c.place l).outline.calls)
    (older : call < (c.place l).nextCall) (unheld : c.Unheld ⟨l, call⟩) :
    answersTo call (answered net l c moves) = [] := by
  induction moves generalizing c with
  | nil => rfl
  | cons m rest ih =>
    obtain ⟨answers, absent'⟩ := regular.absent works feasible.1 absent older
    have unparked := putsOff?_eq_none (regular.unparked_of_absent absent) m
    have later := ih feasible.2 (regular.make works feasible.1) absent'
      (Nat.lt_of_lt_of_le older (regular.nextCall_make works feasible.1 l))
      (regular.unheld_make unheld (.inl unparked))
    rw [answered, answersTo_append, answers (unheld.takesNothing m), later]
    rfl

/-- A call for which a value is held is answered with what it goes on with. -/
theorem Feasible.holding (feasible : Feasible net c moves) (works : ∀ l kind, net l kind = none)
    (regular : Regular c) (absent : call ∉ (c.place l).outline.calls)
    (older : call < (c.place l).nextCall) (holds : c.Holds ⟨l, call⟩ n snapshot) :
    answersTo call (answered net l c moves) =
      (goesOnWith net ⟨l, n⟩ call snapshot c moves).toList := by
  induction moves generalizing c with
  | nil => rfl
  | cons m rest ih =>
    obtain ⟨answers, absent'⟩ := regular.absent works feasible.1 absent older
    have unparked := regular.unparked_of_absent absent
    have regular' := regular.make works feasible.1
    have older' := Nat.lt_of_lt_of_le older (regular.nextCall_make works feasible.1 l)
    -- Once the value is taken or given up the call is settled.
    have settled (gone : m.givesUp ⟨l, call⟩ = true ∨ (m.goesOn? ⟨l, n⟩ call).isSome = true) :
        answersTo call (answered net l (c.make net m) rest) = [] :=
      feasible.2.settled works regular' absent' older' (regular.released_make holds unparked gone)
    rw [answered, answersTo_append, goesOnWith]
    split
    · next gives =>
      have stays : m.goesOn? ⟨l, n⟩ call = none := by
        cases m with
        | depart => cases gives
        | _ => rfl
      rw [answers (holds.takesNothing stays), settled (.inl gives)]
      rfl
    · next keeps =>
      cases goesOn : m.goesOn? ⟨l, n⟩ call with
      | some cancelled =>
        rw [holds.takes goesOn, settled (.inr (by rw [goesOn]; rfl))]
        rfl
      | none =>
        rw [answers (holds.takesNothing goesOn)]
        exact ih feasible.2 regular' absent' older'
          (regular.holds_make holds unparked (Bool.eq_false_iff.mpr keeps) goesOn)

/-- A call that waits is answered with its fate. -/
theorem Feasible.fate (feasible : Feasible net c moves) (works : ∀ l kind, net l kind = none)
    (regular : Regular c) (waits : call ∈ (c.place l).outline.calls)
    (unheld : c.Unheld ⟨l, call⟩) :
    answersTo call (answered net l c moves) =
      (Client.fate net ⟨l, call⟩ c moves).toList := by
  induction moves generalizing c with
  | nil => rfl
  | cons m rest ih =>
    obtain ⟨answers, left⟩ := regular.decides works feasible.1 waits unheld
    have regular' := regular.make works feasible.1
    have older := Nat.lt_of_lt_of_le ((regular.numbered l).called call waits)
      (regular.nextCall_make works feasible.1 l)
    rw [answered, answersTo_append, answers, Client.fate]
    cases verdict : c.verdict net ⟨l, call⟩ m with
    | waits =>
      rw [verdict] at left
      exact ih feasible.2 regular' (left.waits.mpr rfl) (left.unheld nofun)
    | givenUp =>
      rw [verdict] at left
      exact feasible.2.settled works regular' (mt left.waits.mp nofun) older (left.unheld nofun)
    | provided n snapshot =>
      rw [verdict] at left
      exact feasible.2.holding works regular' (mt left.waits.mp nofun) older
        (left.holds n snapshot rfl)
    | answered result =>
      rw [verdict] at left
      exact congrArg ([result] ++ ·)
        (feasible.2.settled works regular' (mt left.waits.mp nofun) older (left.unheld nofun))

/-- Before a call is made it is not answered. -/
theorem Feasible.unmade (feasible : Feasible net c moves) (works : ∀ l kind, net l kind = none)
    (orderly : Orderly c) (unmade : ((makeAll net c moves).place l).nextCall ≤ call) :
    answersTo call (answered net l c moves) = [] := by
  induction moves generalizing c with
  | nil => rfl
  | cons m rest ih =>
    have orderly' := orderly.make works feasible.1
    have after := Nat.le_trans (feasible.2.nextCall works orderly'.regular l) unmade
    have before := Nat.le_trans (orderly.regular.nextCall_make works feasible.1 l) after
    have now := orderly.regular.returned works feasible.1 after (orderly.unmade l call before)
    rw [answered, answersTo_append, now, ih feasible.2 orderly' unmade]
    rfl

/-! ## New calls -/

/-- A move asks for one observation of a location, with or without the tasks. -/
def Move.Asks (l : Location) (m : Move) : Prop :=
  m = .event (.request l) ∨ m = .operation l (.request l)

theorem Move.Asks.undertakes (asks : m.Asks l) (c : Client) :
    c.undertakes l m = if c.closed then .refuse else .call := by
  rcases asks with rfl | rfl <;> simp [Client.undertakes, Move.event?, deed]

theorem Move.Asks.prompt (asks : m.Asks l) (c : Client) (call : CallHandle) :
    c.TakesNothing call m ∧ c.putsOff? call m = none := by
  rcases asks with rfl | rfl
  · exact ⟨trivial, rfl⟩
  · exact ⟨trivial, rfl⟩

theorem Move.Asks.keeps (asks : m.Asks l) (call : CallHandle) : m.givesUp call = false := by
  rcases asks with rfl | rfl
  · rfl
  · rw [Move.givesUp, Move.event?]
    split <;> rfl

/-- A call of a closed client is refused at once. -/
theorem Regular.refuses (regular : Regular c) (works : ∀ l kind, net l kind = none)
    (asks : m.Asks l) (possible : m.Possible c) (closed : c.closed = true) :
    answersTo (c.place l).nextCall (c.emits net l m).returns = [.error .closed] ∧
      (c.place l).nextCall ∉ ((c.make net m).place l).outline.calls ∧
      (c.place l).nextCall < ((c.make net m).place l).nextCall := by
  obtain ⟨closes, ensued⟩ := regular.ensued works possible l
  have numbered := regular.numbered l
  have unasked : (c.place l).nextCall ∉ (c.place l).outline.calls := fun waits =>
    Nat.lt_irrefl _ (numbered.called _ waits)
  have does : c.undertakes l m = .refuse := by rw [asks.undertakes, closed]; rfl
  obtain ⟨nothing, prompt⟩ := asks.prompt c ⟨l, (c.place l).nextCall⟩
  have returns := ensued.returns _ nothing
  have outline := ensued.outline
  rw [prompt, does] at returns
  rw [does] at outline
  obtain ⟨later, absent⟩ := Outline.performAll_absent (numbered.perform .refuse) unasked
    (Nat.lt_succ_self _) (Outline.tasks 0 closes)
  refine ⟨?_, outline ▸ absent, ?_⟩
  · rw [returns]
    simp only [Option.isSome_none, Bool.false_eq_true, if_false, Outline.performAll,
      Emission.returns_append, answersTo_append, later]
    simp [Outline.perform, answerAll, answersTo, Place.outline]
  · have more := ((c.place l).outline.perform .refuse).1.nextCall_performAll
      (Outline.tasks 0 closes)
    change _ < ((c.make net m).place l).outline.nextCall
    rw [outline]
    exact more

/-- A call of an open client waits, and so do those that waited. -/
theorem Regular.accepts (regular : Regular c) (works : ∀ l kind, net l kind = none)
    (asks : m.Asks l) (possible : m.Possible c) (isOpen : c.closed = false) :
    answersTo (c.place l).nextCall (c.emits net l m).returns = [] ∧
      ((c.make net m).place l).outline = ((c.place l).outline.perform .call).1 := by
  obtain ⟨closes, ensued⟩ := regular.ensued works possible l
  have does : c.undertakes l m = .call := by rw [asks.undertakes, isOpen]; rfl
  have stays : closes = false := by
    cases closes with
    | false => rfl
    | true =>
      -- Nobody closes what somebody has just shown interest in.
      obtain ⟨idle, -⟩ := ensued.closed rfl
      rw [does] at idle
      cases idle
  subst stays
  obtain ⟨nothing, prompt⟩ := asks.prompt c ⟨l, (c.place l).nextCall⟩
  have returns := ensued.returns _ nothing
  have outline := ensued.outline
  rw [prompt, does] at returns
  rw [does] at outline
  exact ⟨returns, outline⟩

/-- A call of an open client is among those that wait, and nothing is held for it. -/
theorem Orderly.joins (orderly : Orderly c) (works : ∀ l kind, net l kind = none)
    (asks : m.Asks l) (possible : m.Possible c) (isOpen : c.closed = false) :
    (c.place l).nextCall ∈ ((c.make net m).place l).outline.calls ∧
      (c.make net m).Unheld ⟨l, (c.place l).nextCall⟩ := by
  refine ⟨?_, ?_⟩
  · rw [(orderly.regular.accepts works asks possible isOpen).2]
    exact List.mem_append_right _ (List.mem_singleton_self _)
  · exact orderly.regular.unheld_make (orderly.unmade l _ (Nat.le_refl _))
      (.inl (asks.prompt c _).2)

/-- A call is answered as the moves after it decide, or at once if the client is closed. -/
theorem Feasible.answers {before after : List Move} {ask : Move}
    (feasible : Feasible net c (before ++ ask :: after)) (works : ∀ l kind, net l kind = none)
    (orderly : Orderly c) (asks : ask.Asks l) :
    let now := makeAll net c before
    let call : CallHandle := ⟨l, (now.place l).nextCall⟩
    answersTo call.number (answered net l c (before ++ ask :: after)) =
      if now.closed then [.error .closed]
      else (Client.fate net call (now.make net ask) after).toList := by
  intro now call
  obtain ⟨first, possible, later⟩ := feasible_append.mp feasible
  have orderly' : Orderly now := first.orderly works orderly
  have regular' := orderly'.regular.make works possible
  have silent : answersTo call.number (answered net l c before) = [] :=
    first.unmade works orderly (Nat.le_refl _)
  rw [answered_append, answersTo_append, silent, List.nil_append, answered, answersTo_append]
  cases closed : now.closed with
  | true =>
    obtain ⟨refused, absent, older⟩ := orderly'.regular.refuses works asks possible closed
    have unheld : (now.make net ask).Unheld call := orderly'.regular.unheld_make
      (orderly'.unmade l call.number (Nat.le_refl _)) (.inl (asks.prompt now call).2)
    rw [refused, later.settled works regular' absent older unheld]
    rfl
  | false =>
    obtain ⟨waits, unheld⟩ := orderly'.joins works asks possible closed
    obtain ⟨silent, -⟩ := orderly'.regular.accepts works asks possible closed
    rw [silent, if_neg Bool.false_ne_true]
    exact later.fate works regular' waits unheld

/-! ## What is decided and what is found -/

theorem verdict_provided {call : CallHandle}
    (provided : c.verdict net call m = .provided n snapshot) :
    ∃ response, m = .hear response ∧ c.parkedOn? call = some n := by
  have off : c.putsOff? call m = some n := by
    rw [verdict] at provided
    split at provided
    · cases provided
    · split at provided
      · split at provided
        · next off =>
          cases provided
          exact off
        · cases provided
      · split at provided <;> cases provided
  cases m with
  | hear response => exact ⟨response, rfl, off⟩
  | _ => cases off

/-- Who is not parked is answered when it is decided. -/
theorem Feasible.prompt (feasible : Feasible net c moves) (works : ∀ l kind, net l kind = none)
    (regular : Regular c) (older : call < (c.place l).nextCall)
    (unparked : (c.place l).parkedOn? call = none) :
    Client.fate net ⟨l, call⟩ c moves = decided net ⟨l, call⟩ c moves := by
  induction moves generalizing c with
  | nil => rfl
  | cons m rest ih =>
    rw [Client.fate, decided]
    cases verdict : c.verdict net ⟨l, call⟩ m with
    | waits =>
      exact ih feasible.2 (regular.make works feasible.1)
        (Nat.lt_of_lt_of_le older (regular.nextCall_make works feasible.1 l))
        (regular.unparked_make older unparked net m)
    | givenUp | answered => rfl
    | provided n snapshot =>
      obtain ⟨-, -, parked⟩ := verdict_provided verdict
      cases unparked.symm.trans parked

/-- Who waits for no subscription is parked on none. -/
theorem unparked_of_alone {call : CallHandle} (alone : c.waitsOn? call = none) :
    c.parkedOn? call = none := by
  refine List.findIdx?_eq_none_iff.mpr fun s member => Bool.eq_false_iff.mpr fun parked => ?_
  obtain ⟨caller, waits, same, -⟩ := Awaited.hasParked_iff.mp parked
  have has : s.next.has call.number = true :=
    List.any_eq_true.mpr ⟨caller, waits, decide_eq_true same⟩
  cases (List.findIdx?_eq_none_iff.mp alone s member).symm.trans has

/-- A call is answered what is decided for it, or a response was handed over while it was parked and
it is answered what it goes on with. -/
theorem fate_eq_decided_or (net : Network) (call : CallHandle) (c : Client) (moves : List Move) :
    fate net call c moves = decided net call c moves ∨
      ∃ first response rest n snapshot, moves = first ++ .hear response :: rest ∧
        (makeAll net c first).parkedOn? call = some n ∧
        decided net call c moves = some (.ok snapshot) ∧
        fate net call c moves = goesOnWith net ⟨call.location, n⟩ call.number snapshot
          ((makeAll net c first).make net (.hear response)) rest := by
  induction moves generalizing c with
  | nil => exact .inl rfl
  | cons m rest ih =>
    rw [fate, decided]
    cases verdict : c.verdict net call m with
    | waits =>
      rcases ih (c.make net m) with same | ⟨first, response, later, n, snapshot, rfl, later'⟩
      · exact .inl same
      · exact .inr ⟨m :: first, response, later, n, snapshot, rfl, later'⟩
    | givenUp | answered => exact .inl rfl
    | provided n snapshot =>
      obtain ⟨response, rfl, parked⟩ := verdict_provided verdict
      exact .inr ⟨[], response, rest, n, snapshot, rfl, parked, rfl, rfl⟩

/-! ## Calls that wait together -/

theorem decision_verdict {call : CallHandle} (keeps : m.givesUp call = false) :
    (c.verdict net call m).decision =
      match c.applied? call.location m with
      | some snapshot => some (.ok snapshot)
      | none => if c.closesOn net call m then some (.error .cancelled) else none := by
  rw [verdict, keeps, if_neg Bool.false_ne_true]
  cases c.applied? call.location m with
  | some snapshot =>
    simp only
    cases c.putsOff? call m <;> rfl
  | none =>
    simp only
    split <;> rfl

theorem waits_of_undecided {call : CallHandle} (keeps : m.givesUp call = false)
    (undecided : (c.verdict net call m).decision = none) : c.verdict net call m = .waits := by
  cases verdict : c.verdict net call m with
  | waits => rfl
  | givenUp =>
    rw [Client.verdict, keeps, if_neg Bool.false_ne_true] at verdict
    split at verdict
    · split at verdict <;> cases verdict
    · split at verdict <;> cases verdict
  | provided | answered =>
    rw [verdict] at undecided
    cases undecided

theorem decided_cons {call : CallHandle} (keeps : m.givesUp call = false) (rest : List Move) :
    decided net call c (m :: rest) =
      (c.verdict net call m).decision.or (decided net call (c.make net m) rest) := by
  rw [decided]
  cases verdict : c.verdict net call m with
  | givenUp =>
    cases (waits_of_undecided keeps (by rw [verdict]; rfl)).symm.trans verdict
  | waits | provided | answered => rfl

/-- A move that closes the client decides about every call. -/
theorem isOpen_of_waits {call : CallHandle} (waits : c.verdict net call m = .waits)
    (isOpen : c.closed = false) : (c.make net m).closed = false := by
  cases closes : (c.make net m).closed with
  | false => rfl
  | true =>
    have closesOn : c.closesOn net call m = true := by
      rw [Client.closesOn, shuts, isOpen, closes]
      rfl
    rw [verdict, closesOn] at waits
    split at waits
    · cases waits
    · split at waits
      · split at waits <;> cases waits
      · cases waits

/-- A call still waits, and the client is open, if nothing was decided about it. -/
theorem Feasible.undecided (feasible : Feasible net c moves) (works : ∀ l kind, net l kind = none)
    (regular : Regular c) (waits : call ∈ (c.place l).outline.calls)
    (unheld : c.Unheld ⟨l, call⟩) (isOpen : c.closed = false)
    (kept : ∀ m ∈ moves, m.givesUp ⟨l, call⟩ = false)
    (undecided : decided net ⟨l, call⟩ c moves = none) :
    call ∈ ((makeAll net c moves).place l).outline.calls ∧
      (makeAll net c moves).Unheld ⟨l, call⟩ ∧ (makeAll net c moves).closed = false ∧
      ∀ rest, decided net ⟨l, call⟩ c (moves ++ rest) =
        decided net ⟨l, call⟩ (makeAll net c moves) rest := by
  induction moves generalizing c with
  | nil => exact ⟨waits, unheld, isOpen, fun rest => rfl⟩
  | cons m rest ih =>
    obtain ⟨keeps, kept⟩ := List.forall_mem_cons.mp kept
    rw [decided_cons keeps, Option.or_eq_none_iff] at undecided
    obtain ⟨undecided, later⟩ := undecided
    have verdict := waits_of_undecided keeps undecided
    have left := (regular.decides works feasible.1 waits unheld).2
    rw [verdict] at left
    obtain ⟨stillWaits, stillUnheld, stillOpen, split⟩ := ih feasible.2
      (regular.make works feasible.1) (left.waits.mpr rfl) (left.unheld nofun)
      (isOpen_of_waits verdict isOpen) kept later
    refine ⟨stillWaits, stillUnheld, stillOpen, fun more => ?_⟩
    rw [List.cons_append, decided_cons keeps, undecided]
    exact split more

/-- What is decided for two calls that wait is the same. -/
theorem Feasible.decided_same {other : Nat} (feasible : Feasible net c moves)
    (works : ∀ l kind, net l kind = none) (regular : Regular c)
    (waits : call ∈ (c.place l).outline.calls ∧ other ∈ (c.place l).outline.calls)
    (unheld : c.Unheld ⟨l, call⟩ ∧ c.Unheld ⟨l, other⟩)
    (kept : ∀ m ∈ moves, m.givesUp ⟨l, call⟩ = false ∧ m.givesUp ⟨l, other⟩ = false) :
    decided net ⟨l, call⟩ c moves = decided net ⟨l, other⟩ c moves := by
  induction moves generalizing c with
  | nil => rfl
  | cons m rest ih =>
    obtain ⟨⟨keeps, keeps'⟩, kept⟩ := List.forall_mem_cons.mp kept
    obtain ⟨closes, ensued⟩ := regular.ensued works feasible.1 l
    have closing : c.closesOn net ⟨l, call⟩ m = c.closesOn net ⟨l, other⟩ m := by
      rw [Bool.eq_iff_iff, regular.closesOn_iff works feasible.1 waits.1 ensued,
        regular.closesOn_iff works feasible.1 waits.2 ensued]
    have same : (c.verdict net ⟨l, call⟩ m).decision = (c.verdict net ⟨l, other⟩ m).decision := by
      rw [decision_verdict keeps, decision_verdict keeps', closing]
    rw [decided_cons keeps, decided_cons keeps', ← same]
    cases decision : (c.verdict net ⟨l, call⟩ m).decision with
    | some result => rfl
    | none =>
      have verdict := waits_of_undecided keeps decision
      have verdict' := waits_of_undecided keeps' (same.symm.trans decision)
      have left := (regular.decides works feasible.1 waits.1 unheld.1).2
      have left' := (regular.decides works feasible.1 waits.2 unheld.2).2
      rw [verdict] at left
      rw [verdict'] at left'
      exact ih feasible.2 (regular.make works feasible.1)
        ⟨left.waits.mpr rfl, left'.waits.mpr rfl⟩ ⟨left.unheld nofun, left'.unheld nofun⟩ kept

/-- The same is decided for a call that is made before anything was decided about another. -/
theorem Feasible.shares {mid rest : List Move} {ask again : Move}
    (feasible : Feasible net c (ask :: (mid ++ again :: rest)))
    (works : ∀ l kind, net l kind = none) (orderly : Orderly c) (isOpen : c.closed = false)
    (asks : ask.Asks l) (asksAgain : again.Asks l) :
    let call : CallHandle := ⟨l, (c.place l).nextCall⟩
    let asked := c.make net ask
    let now := makeAll net asked mid
    let other : CallHandle := ⟨l, (now.place l).nextCall⟩
    (∀ m ∈ mid, m.givesUp call = false) → decided net call asked mid = none →
    (∀ m ∈ rest, m.givesUp call = false ∧ m.givesUp other = false) →
    decided net other (now.make net again) rest = decided net call asked (mid ++ again :: rest) := by
  intro call asked now other keptBetween undecided kept
  obtain ⟨possible, after⟩ := feasible
  obtain ⟨between, possible', later⟩ := feasible_append.mp after
  have orderly' : Orderly asked := orderly.make works possible
  have orderly'' : Orderly now := between.orderly works orderly'
  have isOpen' : asked.closed = false := by
    rcases closed_make_or net c ask with same | close | close
    · exact same.trans isOpen
    · rcases asks with rfl | rfl <;> cases close
    · rcases asks with rfl | rfl <;> cases close
  obtain ⟨waits, unheld⟩ := orderly.joins works asks possible isOpen
  obtain ⟨stillWaits, stillUnheld, stillOpen, split⟩ := between.undecided works orderly'.regular
    waits unheld isOpen' keptBetween undecided
  obtain ⟨-, outline⟩ := orderly''.regular.accepts works asksAgain possible' stillOpen
  obtain ⟨otherWaits, otherUnheld⟩ := orderly''.joins works asksAgain possible' stillOpen
  have waitsOn : call.number ∈ ((now.make net again).place l).outline.calls := by
    rw [outline]
    exact List.mem_append_left _ stillWaits
  have unheldOn : (now.make net again).Unheld call :=
    orderly''.regular.unheld_make stillUnheld (.inl (asksAgain.prompt now call).2)
  have keeps : again.givesUp call = false := asksAgain.keeps call
  -- The other call decides nothing about the first.
  have verdict : (now.verdict net call again).decision = none := by
    have left := (orderly''.regular.decides works possible' stillWaits stillUnheld).2
    rw [left.waits.mp waitsOn]
    rfl
  refine Eq.trans ?_ (split (again :: rest)).symm
  rw [decided_cons keeps, verdict]
  exact (later.decided_same works (orderly''.regular.make works possible') ⟨waitsOn, otherWaits⟩
    ⟨unheldOn, otherUnheld⟩ kept).symm

/-! ## Promoted calls -/

/-- What is applied to the live subscription is an act of it. -/
theorem act_of_applied {s : Subscription} (live : (c.place l).live? = some (n, s))
    (applied : c.applied? l m = some snapshot) (net : Network) :
    ∃ response, response.snapshot = snapshot ∧ s.isStale response.serverTick = false ∧
      (Record.act ⟨c, net, m⟩ ⟨l, n⟩ = .hear response ∨
        Record.act ⟨c, net, m⟩ ⟨l, n⟩ = .accept response) := by
  obtain ⟨pending, found⟩ := live?_eq_some.mp live
  have pending : (c.place l).pending = some (.subscription n) := pending
  rw [applied?] at applied
  split at applied
  · next response event =>
    split at applied
    · next holds =>
      obtain ⟨rfl, isOpen, takes⟩ := holds
      cases applied
      refine ⟨response, rfl, by simpa [Place.takes, pending, found] using takes, ?_⟩
      have hears : c.acts response.location (.respond response) n = .hear response := by
        simp [acts, isOpen, pendingActs_self pending]
      cases m with
      | event e =>
        cases event
        exact .inl hears
      | operation there e =>
        rw [Move.event?] at event
        split at event
        · next here =>
          cases event
          exact .inl ((if_pos here).trans hears)
        · cases event
      | hear other =>
        cases event
        exact .inr (by simp [Record.act, isOpen, pendingActs_self pending])
      | shut | chore | depart => cases event
    · cases applied
  · cases applied

theorem Subscription.feed_toiled {s s' : Subscription} (toiled : Toiled s s') :
    s'.feed = s.feed := by
  cases toiled <;> rfl

/-- What is applied to the live subscription is published there. -/
theorem Regular.publishes (regular : Regular c) {s : Subscription}
    (live : (c.place l).live? = some (n, s)) (applied : c.applied? l m = some snapshot)
    (net : Network) :
    ((c.make net m).subscription? ⟨l, n⟩).map Subscription.feed =
      some (s.feed.publish snapshot) := by
  obtain ⟨born, fit⟩ := regular.fit l
  obtain ⟨pending, found⟩ := live?_eq_some.mp live
  obtain ⟨_, there, isOpen⟩ := fit.sound.pendingOpen pending
  cases found.symm.trans there
  have found : c.subscription? ⟨l, n⟩ = some s := found
  have toiled := undergoes_toiled net c ⟨l, n⟩ s m
  rw [subscription?_make regular.distinct found net m]
  refine congrArg some ?_
  -- Its tasks leave alone what the act has published.
  rw [feed_toiled toiled]
  obtain ⟨response, rfl, fresh, hears | accepts⟩ := act_of_applied live applied net
  · rw [hears, Subscription.undergo, if_neg (by rw [isOpen.isClosed]; exact Bool.false_ne_true)]
    exact (shown_publish isOpen.awaited fresh c.now response.snapshot).2.1
  · rw [accepts, Subscription.undergo, if_neg (by rw [isOpen.isClosed]; exact Bool.false_ne_true)]
    exact (shown_accept isOpen.awaited fresh c.now response.snapshot).2.1

/-- While a call waits nothing is published that was not before it. -/
theorem Feasible.unheard (feasible : Feasible net c moves) (works : ∀ l kind, net l kind = none)
    (regular : Regular c) (older : call < (c.place l).nextCall)
    (unheard : (c.place l).outline.Unheard)
    (still : call ∈ ((makeAll net c moves).place l).outline.calls) :
    ((makeAll net c moves).place l).outline.Unheard := by
  induction moves generalizing c with
  | nil => exact unheard
  | cons m rest ih =>
    have regular' := regular.make works feasible.1
    have older' := Nat.lt_of_lt_of_le older (regular.nextCall_make works feasible.1 l)
    -- A call that is answered or given up on the way does not wait in the end.
    have now : call ∈ ((c.make net m).place l).outline.calls := by
      refine Classical.byContradiction fun absent => ?_
      exact feasible.2.stays_absent works regular' absent older' still
    refine ih feasible.2 regular' older' ?_ still
    obtain ⟨closes, ensued⟩ := regular.ensued works feasible.1 l
    rw [ensued.outline] at now ⊢
    exact unheard.performAll now

/-- What is decided for a call that was sent as a one-shot, when it waits for a subscription, is the
first value that the subscription publishes. -/
theorem Feasible.publishes_first {first rest : List Move}
    (feasible : Feasible net c (first ++ m :: rest)) (works : ∀ l kind, net l kind = none)
    (regular : Regular c) (waits : call ∈ (c.place l).outline.calls)
    (alone : c.waitsOn? ⟨l, call⟩ = none) :
    let now := makeAll net c first
    ∀ n snapshot, now.waitsOn? ⟨l, call⟩ = some n → now.applied? l m = some snapshot →
      (now.subscription? ⟨l, n⟩).map Subscription.feed = some .empty ∧
        ((now.make net m).subscription? ⟨l, n⟩).map Subscription.feed =
          some (Feed.empty.publish snapshot) := by
  intro now n snapshot waitsOn applied
  obtain ⟨before, -⟩ := feasible_append.mp feasible
  have regular' : Regular now := before.regular works regular
  obtain ⟨born, fit⟩ := regular.fit l
  obtain ⟨born', fit'⟩ := regular'.fit l
  have unheard : (c.place l).outline.Unheard := by
    rcases fit.sound.waitsOn?_of_waits (regular.heard l) waits with ⟨asked, -⟩ | ⟨_, -, onIt⟩
    · exact .inl asked
    · cases alone.symm.trans onIt
  rw [waitsOn?, fit'.sound.waitsOn?_eq (regular'.heard l)] at waitsOn
  obtain ⟨⟨k, s⟩, live, onIt⟩ := Option.bind_eq_some_iff.mp waitsOn
  split at onIt
  · next has =>
    obtain rfl : n = k := (Option.some.inj onIt).symm
    obtain ⟨pending, found⟩ := live?_eq_some.mp live
    have outline := outline_live pending found
    have still : call ∈ (now.place l).outline.calls := by
      rw [outline]
      exact Awaited.has_iff.mp has
    have phase : (now.place l).outline.phase = .subscribed n s.interval s.feed :=
      congrArg Outline.phase outline
    have empty : s.feed = .empty := by
      rcases before.unheard works regular ((regular.numbered l).called call waits) unheard still with
        asked | ⟨number, every, fresh⟩
      · cases asked.symm.trans phase
      · exact (Phase.subscribed.inj (phase.symm.trans fresh)).2.2
    have there : now.subscription? ⟨l, n⟩ = some s := found
    refine ⟨?_, empty ▸ regular'.publishes live applied net⟩
    rw [there, Option.map_some, empty]
  · cases onIt

/-! ## Comparing answers -/

/-- A value, or that the call was cancelled: what two answers can be compared by. -/
def reply : Except SyncError Snapshot → Option (Option Snapshot)
  | .ok snapshot => some (some snapshot)
  | .error .cancelled => some none
  | .error _ => none

theorem reply_value {result : Except SyncError Snapshot} (value : reply result = some (some snapshot)) :
    result = .ok snapshot := by
  unfold reply at value
  split at value <;> cases value
  rfl

theorem reply_nothing {result : Except SyncError Snapshot} (nothing : reply result = some none) :
    result = .error .cancelled := by
  unfold reply at nothing
  split at nothing <;> cases nothing
  rfl

theorem value_of_reply {result : Option (Except SyncError Snapshot)}
    (value : result.map reply = some (some (some snapshot))) : result = some (.ok snapshot) := by
  obtain ⟨answer, rfl, known⟩ := Option.map_eq_some_iff.mp value
  rw [reply_value known]

/-! ## Runs from the beginning -/

/-- Of any call, in any run over a network that works: of events, of operations without the tasks, of
single tasks and of callers that go on one by one.  A closed client refuses it, and an open one
answers it with its fate.

What is decided for it is the first response for its location that is applied after it, or that the
client or the subscription that it waits for closes before that.  A call that was sent as a one-shot
or joined one is answered with that at once, and so is every other but for one case: a response was
handed over while the call was parked on a live subscription.  Then it is answered with what it goes
on with, which is the value or, if the subscription has closed by then, may be that.  For calls with
nothing decided between them the same is decided, and what is decided for a call that a subscription
took over is the first value that the subscription publishes. -/
theorem decided_by_next_response (works : ∀ l kind, net l kind = none) (config : Config)
    {before after : List Move} {ask : Move} (asks : ask.Asks l)
    (feasible : Feasible net (ofConfig config) (before ++ ask :: after)) :
    let c := makeAll net (ofConfig config) before
    let call : CallHandle := ⟨l, (c.place l).nextCall⟩
    let asked := c.make net ask
    (answersTo call.number (answered net l (ofConfig config) (before ++ ask :: after)) =
      if c.closed then [.error .closed] else (fate net call asked after).toList) ∧
    (c.closed = false →
      (asked.waitsOn? call = none → fate net call asked after = decided net call asked after) ∧
      (fate net call asked after = decided net call asked after ∨
        ∃ first response rest n snapshot, after = first ++ .hear response :: rest ∧
          (makeAll net asked first).parkedOn? call = some n ∧
          decided net call asked after = some (.ok snapshot) ∧
          fate net call asked after = goesOnWith net ⟨l, n⟩ call.number snapshot
            ((makeAll net asked first).make net (.hear response)) rest) ∧
      (∀ mid again rest, after = mid ++ again :: rest → again.Asks l →
        let now := makeAll net asked mid
        let other : CallHandle := ⟨l, (now.place l).nextCall⟩
        (∀ m ∈ mid, m.givesUp call = false) → decided net call asked mid = none →
        (∀ m ∈ rest, m.givesUp call = false ∧ m.givesUp other = false) →
        decided net other (now.make net again) rest = decided net call asked after) ∧
      (asked.waitsOn? call = none → ∀ first m rest, after = first ++ m :: rest →
        let now := makeAll net asked first
        ∀ n snapshot, now.waitsOn? call = some n → now.applied? l m = some snapshot →
          (now.subscription? ⟨l, n⟩).map Subscription.feed = some .empty ∧
            ((now.make net m).subscription? ⟨l, n⟩).map Subscription.feed =
              some (Feed.empty.publish snapshot))) := by
  intro c call asked
  have begun := orderly_ofConfig config
  refine ⟨feasible.answers works begun asks, fun isOpen => ?_⟩
  obtain ⟨first, possible, later⟩ := feasible_append.mp feasible
  have orderly : Orderly c := first.orderly works begun
  have regular : Regular asked := orderly.regular.make works possible
  obtain ⟨waits, -⟩ := orderly.joins works asks possible isOpen
  refine ⟨fun alone => ?_, fate_eq_decided_or net call asked after, ?_, ?_⟩
  · have unparked : (asked.place l).parkedOn? call.number = none :=
      unparked_of_alone alone
    exact later.prompt works regular ((regular.numbered l).called call.number waits) unparked
  · rintro mid again rest rfl asksAgain now other keptBetween undecided kept
    have here : Feasible net c (ask :: (mid ++ again :: rest)) := ⟨possible, later⟩
    exact here.shares works orderly isOpen asks asksAgain keptBetween undecided kept
  · rintro alone first m rest rfl now n snapshot waitsOn applied
    exact later.publishes_first works regular waits alone n snapshot waitsOn applied

/-- Two calls share what a response decides.  The first was sent as a one-shot that a subscription has
taken over, and is answered at once.  The second is parked on the subscription and goes on later,
while it is open. -/
theorem decided_by_next_response_of_promoted :
    let net : Network := fun _ _ => none
    let l : Location := ⟨"overworld", ⟨1, 2, 3⟩⟩
    let asks : Move := .event (.request l)
    let opens : Move := .event (.subscribe l (.clamp 20))
    let parks : Move := .operation l (.request l)
    let hears : Move := .hear ⟨l, .empty, some 7⟩
    let departs : Move := .depart ⟨l, 0⟩ 1 true
    let c₁ := makeAll net (ofConfig {}) [asks]
    let c₃ := makeAll net (ofConfig {}) [asks, opens, parks]
    let moves := [asks, opens, parks, hears, departs]
    Feasible net (ofConfig {}) moves ∧
      answersTo 0 (answered net l (ofConfig {}) moves) = [.ok .empty] ∧
      answersTo 1 (answered net l (ofConfig {}) moves) = [.ok .empty] ∧
      decided net ⟨l, 1⟩ c₃ [hears, departs] =
        decided net ⟨l, 0⟩ c₁ [opens, parks, hears, departs] ∧
      ((c₃.make net hears).subscription? ⟨l, 0⟩).map Subscription.feed =
        some (Feed.empty.publish Snapshot.empty) := by
  intro net l asks opens parks hears departs c₁ c₃ moves
  have works : ∀ l kind, net l kind = none := fun _ _ => rfl
  have feasible : Feasible net (ofConfig {}) ([] ++ asks :: [opens, parks, hears, departs]) := by
    decide +kernel +zetaReduce
  have feasible' : Feasible net (ofConfig {}) ([asks, opens] ++ parks :: [hears, departs]) :=
    feasible
  obtain ⟨answers, isOpen⟩ := decided_by_next_response works {} (.inl rfl) feasible
  obtain ⟨answers', -⟩ := decided_by_next_response works {} (.inr rfl) feasible'
  obtain ⟨-, -, shares, publishes⟩ := isOpen rfl
  -- The clients before the two calls, and their numbers.
  let c₀ := makeAll net (ofConfig {}) []
  let c₂ := makeAll net (ofConfig {}) [asks, opens]
  have number : (c₀.place l).nextCall = 0 := rfl
  have number' : (c₂.place l).nextCall = 1 := by decide +kernel +zetaReduce
  have unclosed : c₀.closed = false := rfl
  have unclosed' : c₂.closed = false := by decide +kernel +zetaReduce
  have asked : c₀.make net asks = c₁ := rfl
  have asked' : c₂.make net parks = c₃ := rfl
  -- What is decided for both is the value, at once or later.
  have fate : fate net ⟨l, 0⟩ c₁ [opens, parks, hears, departs] = some (.ok .empty) :=
    value_of_reply (by decide +kernel +zetaReduce)
  have fate' : Client.fate net ⟨l, 1⟩ c₃ [hears, departs] = some (.ok .empty) :=
    value_of_reply (by decide +kernel +zetaReduce)
  refine ⟨feasible, ?_, ?_, ?_, ?_⟩
  · rw [number, unclosed, asked, fate] at answers
    exact answers
  · rw [number', unclosed', asked', fate'] at answers'
    exact answers'
  · have undecided : (decided net ⟨l, 0⟩ c₁ [opens]).isNone = true := by
      decide +kernel +zetaReduce
    have kept : ∀ m ∈ [hears, departs], m.givesUp ⟨l, 0⟩ = false ∧ m.givesUp ⟨l, 1⟩ = false := by
      decide +kernel +zetaReduce
    have keeps : ∀ m ∈ [opens], m.givesUp ⟨l, 0⟩ = false := by decide +kernel +zetaReduce
    have shared := shares [opens] parks [hears, departs] rfl (.inr rfl)
    have between : makeAll net c₁ [opens] = c₂ :=
      (makeAll_append net (ofConfig {}) [asks] [opens]).symm
    rw [number, asked, between] at shared
    dsimp only at shared
    rw [number', asked'] at shared
    exact shared keeps (Option.isNone_iff_eq_none.mp undecided) kept
  · have alone : c₁.waitsOn? ⟨l, 0⟩ = none := by decide +kernel +zetaReduce
    have waits : c₃.waitsOn? ⟨l, 0⟩ = some 0 := by decide +kernel +zetaReduce
    have applied : c₃.applied? l hears = some .empty := by decide +kernel +zetaReduce
    rw [number, asked] at publishes
    have published := publishes alone [opens, parks] hears [departs] rfl
    have between : makeAll net c₁ [opens, parks] = c₃ :=
      (makeAll_append net (ofConfig {}) [asks] [opens, parks]).symm
    rw [between] at published
    exact (published 0 .empty waits applied).2

/-- A response is applied while a call is parked, and its subscription closes before the caller goes
on.  The caller finds that it was cancelled, although its value was there before the close. -/
theorem cancelled_after_response :
    let net : Network := fun _ _ => none
    let l : Location := ⟨"overworld", ⟨1, 2, 3⟩⟩
    let opens : Move := .event (.subscribe l (.clamp 20))
    let parks : Move := .event (.request l)
    let hears : Move := .hear ⟨l, .empty, some 7⟩
    let closes : Move := .operation l (.unsubscribe l)
    let departs : Move := .depart ⟨l, 0⟩ 0 true
    let c₂ := makeAll net (ofConfig {}) [opens, parks]
    let moves := [opens, parks, hears, closes, departs]
    Feasible net (ofConfig {}) moves ∧ c₂.parkedOn? ⟨l, 0⟩ = some 0 ∧
      c₂.applied? l hears = some .empty ∧
      decided net ⟨l, 0⟩ c₂ [hears, closes, departs] = some (.ok .empty) ∧
      answersTo 0 (answered net l (ofConfig {}) moves) = [.error .cancelled] := by
  intro net l opens parks hears closes departs c₂ moves
  refine ⟨?_, ?_, ?_, ?_, ?_⟩
  · decide +kernel +zetaReduce
  · decide +kernel +zetaReduce
  · decide +kernel +zetaReduce
  · exact value_of_reply (by decide +kernel +zetaReduce)
  · have cancelled : (answersTo 0 (answered net l (ofConfig {}) moves)).map reply = [some none] := by
      decide +kernel +zetaReduce
    obtain ⟨result, only, nothing⟩ := List.map_eq_singleton_iff.mp cancelled
    rw [only, reply_nothing nothing]

end ObservationFeed.Client
