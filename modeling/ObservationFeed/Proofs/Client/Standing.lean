import ObservationFeed.Proofs.Client.Effect
import ObservationFeed.Proofs.Client.Fit
import ObservationFeed.Proofs.Server.Recurring

/-!
# What a client's messages add up to

A server that does what the messages about a location ask may hold a recurring
registration after them, or not; `standing` goes through the messages and says
which.  `lasting` says up to which mark, where a start or a keepalive sets the
mark anew.

Whatever happens to a sound place, what it sends adds up to what it waits for: the
moment at which the next keepalive is due is the mark that its messages leave, if
they set it one period ahead.  So starts and keepalives are sent while a
subscription is pending, and the last message about one that goes is its stop.
-/

namespace ObservationFeed.Client

open CleanupTimer KeyedList Subscription Place

/-! ## Messages -/

/-- Whether a recurring registration may be held after some messages, by whether one was before. -/
def standing (held : Bool) (kinds : List RequestKind) : Bool := kinds.foldl RequestKind.stands held

/-- The messages that the transport took. -/
def taken (attempts : List Attempt) : List RequestKind :=
  (attempts.filter (·.refusal.isNone)).map (·.kind)

theorem taken_append (a b : List Attempt) : taken (a ++ b) = taken a ++ taken b := by
  simp [taken]

theorem standing_append (held : Bool) (a b : List RequestKind) :
    standing held (a ++ b) = standing (standing held a) b :=
  List.foldl_append

/-- What was not held at first is held later only if something brought it in. -/
theorem standing_mono {few many : Bool} (more : few = true → many = true)
    (kinds : List RequestKind) (stands : standing few kinds = true) :
    standing many kinds = true := by
  induction kinds generalizing few many with
  | nil => exact more stands
  | cons kind rest ih =>
    refine ih ?_ stands
    -- A single request leaves what is held; every other message settles it.
    cases kind with
    | single => exact more
    | stop => exact id
    | start | keepalive => exact id

/-! ## Marks -/

/-- The mark after some messages, where starts and keepalives set it to a fresh one. -/
def lasting (fresh : Nat) (mark : Option Nat) (kinds : List RequestKind) : Option Nat :=
  kinds.foldl (RequestKind.lasts fresh) mark

theorem lasting_append (fresh : Nat) (mark : Option Nat) (a b : List RequestKind) :
    lasting fresh mark (a ++ b) = lasting fresh (lasting fresh mark a) b :=
  List.foldl_append

theorem isSome_lasting (fresh : Nat) (mark : Option Nat) (kinds : List RequestKind) :
    (lasting fresh mark kinds).isSome = standing mark.isSome kinds := by
  induction kinds generalizing mark with
  | nil => rfl
  | cons kind rest ih => exact (ih _).trans (by rw [kind.isSome_lasts]; rfl)

theorem lasting_singles (fresh : Nat) (mark : Option Nat) {attempts : List Attempt}
    (all : ∀ a ∈ attempts, a = ⟨.single, none⟩) : lasting fresh mark (taken attempts) = mark := by
  induction attempts with
  | nil => rfl
  | cons first rest ih =>
    obtain ⟨rfl, later⟩ := List.forall_mem_cons.mp all
    exact ih later

/-- What holds of a mark and of the fresh one holds after any messages. -/
theorem forall_lasting {holds : Nat → Prop} {mark : Option Nat}
    (before : ∀ m, mark = some m → holds m) {x : Nat} (fresh : holds x)
    (kinds : List RequestKind) : ∀ m, lasting x mark kinds = some m → holds m := by
  induction kinds generalizing mark with
  | nil => exact before
  | cons kind rest ih =>
    refine ih ?_
    cases kind with
    | start | keepalive => exact fun m same => Option.some.inj same ▸ fresh
    | stop => exact nofun
    | single => exact before

theorem rel_lasting {related : Nat → Nat → Prop} {a b : Option Nat} (marks : Option.Rel related a b)
    {x y : Nat} (fresh : related x y) (kinds : List RequestKind) :
    Option.Rel related (lasting x a kinds) (lasting y b kinds) := by
  induction kinds generalizing a b with
  | nil => exact marks
  | cons kind rest ih =>
    refine ih ?_
    cases kind with
    | start | keepalive => exact .some fresh
    | stop => exact .none
    | single => exact marks

/-! ## Events -/

theorem Event.now_le_time (c : Client) (e : Event) : c.now ≤ e.time c := by
  cases e with
  | wake time | elapse time => exact Nat.le_max_left c.now time
  | _ => exact Nat.le_refl c.now

/-! ## Places -/

namespace Place

/-- Whether a subscription is pending. -/
def isSubscribed (p : Place) : Bool :=
  match p.pending with
  | some (.subscription _) => true
  | _ => false

theorem isSubscribed_iff {p : Place} :
    p.isSubscribed = true ↔ ∃ n, p.pending = some (.subscription n) := by
  unfold isSubscribed
  split
  · next n pending => exact ⟨fun _ => ⟨n, pending⟩, fun _ => rfl⟩
  · next other => exact ⟨nofun, fun ⟨n, pending⟩ => absurd pending (other n)⟩

/-- When the keepalive of the pending subscription wakes. -/
def due? (p : Place) : Option Nat := p.live?.bind (·.2.keepalive)

variable {born : Nat → Bool} {now : Nat} {p : Place} {transport : Transport}

theorem due?_of_live {n : Nat} {s : Subscription} (live : p.live? = some (n, s)) :
    p.due? = s.keepalive := by
  rw [due?, live]
  rfl

theorem due?_of_vacant (vacant : ∀ n, p.pending ≠ some (.subscription n)) : p.due? = none := by
  cases live : p.live? with
  | none => rw [due?, live]; rfl
  | some found => exact absurd (live?_eq_some.mp live).1 (vacant found.1)

theorem Sound.isSome_due? (sound : p.Sound born) : p.due?.isSome = p.isSubscribed := by
  rcases sound.live_or_vacant with ⟨n, s, live, pending, found, isOpen⟩ | ⟨-, vacant⟩
  · rw [due?_of_live live, isSubscribed_iff.mpr ⟨n, pending⟩]
    exact isOpen.renewing
  · rw [due?_of_vacant vacant, isSubscribed]
    split
    · next n pending => exact absurd pending (vacant n)
    · rfl

theorem Fit.ran (fit : p.Fit born now) (period : Nat) (works : ∀ kind, transport kind = none)
    (n : Nat) (s : Subscription) (found : p.subscription? n = some s) (isOpen : Open (born n) s) :
    ∃ last, Ran now last period s (s.runTasks now period transport) := by
  obtain ⟨last, clocked⟩ := fit.ticks n s found isOpen
  exact ⟨last, isOpen.runTasks clocked period works⟩

/-! ## What a place sends -/

/-- An operation moves the time of the next keepalive only by what it sends. -/
theorem Turned.due {t : Timing} {byHand : Nat → Prop} {result : Place × List Attempt}
    (turned : Turned born t byHand p result) (sound : p.Sound born) :
    result.1.due? = lasting (t.now + t.period) p.due? (taken result.2) := by
  cases turned with
  | acted after attempts acted quiet =>
    rw [lasting_singles _ _ quiet]
    rcases sound.live_or_vacant with ⟨n, s, live, pending, found, isOpen⟩ | ⟨-, vacant⟩
    · obtain ⟨s', found', moves⟩ := acted.moves n s found
      have live' : after.live? = some (n, s') :=
        live?_eq_some.mpr ⟨(acted.entry n).mpr pending, found'⟩
      rw [due?_of_live live, due?_of_live live']
      cases moves with
      | goes _ goes => exact goes.keepalive
      | fades spent => exact isOpen.not_spent spent
    · rw [due?_of_vacant vacant,
        due?_of_vacant fun n pending => vacant n ((acted.entry n).mp pending)]
  | opened s every newborn =>
    have live : (p.adding s).live? = some (p.opened.length, s) :=
      live?_eq_some.mpr ⟨rfl, by rw [subscription?_adding, if_pos rfl]⟩
    rw [due?_of_live live]
    exact newborn.keepalive
  | closed n s after => exact due?_of_vacant fun _ => nofun

theorem lasting_renewed {period keepalive : Nat} {s : Subscription} {attempts : List Attempt}
    (renewed : Renewed now period s keepalive attempts) :
    lasting (now + period) s.keepalive (taken attempts) = some keepalive := by
  cases renewed with
  | sleeps time sleeps => exact sleeps
  | wakes => rfl

theorem Fit.due_runTasks (fit : p.Fit born now) (period window : Nat)
    (works : ∀ kind, transport kind = none) :
    (p.runTasks ⟨now, period, window⟩ transport).1.due? = lasting (now + period) p.due?
      (taken (p.runTasks ⟨now, period, window⟩ transport).2.attempts) := by
  rw [fit.sound.attempts_runTasks]
  rcases fit.sound.live_or_vacant with ⟨n, s, live, pending, found, isOpen⟩ | ⟨none, vacant⟩
  · have entry := pending_runTasks_live ⟨now, period, window⟩ transport pending found
      isOpen.unclosed
    have there := subscription?_runTasks ⟨now, period, window⟩ transport p n
    obtain ⟨last, ran⟩ := fit.ran period works n s found isOpen
    generalize run : s.runTasks now period transport = result at ran
    simp only [live, found, Option.map_some, Place.ran, run, due?_of_live live] at entry there ⊢
    cases ran with
    | goesOn keepalive timer attempts clocked rested window' early renewed =>
      simp only [isOpen.unclosed, Bool.false_eq_true, if_false, pending] at entry
      rw [due?_of_live (live?_eq_some.mpr ⟨entry, there⟩), lasting_renewed renewed]
    | closes after attempts returns idle come closes =>
      simp only [closes.closed, if_true] at entry
      rw [taken_append, lasting_append, due?_of_vacant fun n => by rw [entry]; nofun]
      rfl
  · have entry := pending_runTasks_vacant ⟨now, period, window⟩ transport vacant
    rw [none, due?_of_vacant vacant, due?_of_vacant (entry ▸ vacant)]
    rfl

/-! ## The end of all scopes -/

theorem subscription?_endScopes (p : Place) (n : Nat) :
    p.endScopes.subscription? n = (p.subscription? n).map endScope :=
  List.getElem?_map ..

/-- When all scopes end, the pending subscription sends its stop and nothing else is sent. -/
theorem Sound.attempts_released (sound : p.Sound born) (t : Timing)
    (works : ∀ kind, transport kind = none) :
    (p.endScopes.runTasks t transport).2.attempts =
      if p.isSubscribed then [⟨.stop, none⟩] else [] := by
  -- All others are over, and their scopes have ended already.
  have silent (m : Nat) (closed : p.pending ≠ some (.subscription m)) :
      ((p.endScopes.subscription? m).map fun s => (Place.ran t transport s).2.attempts).getD [] =
        [] := by
    rw [subscription?_endScopes]
    cases found : p.subscription? m with
    | none => rfl
    | some s =>
      rcases sound.each m s found with isOpen | spent
      · exact absurd ((sound.entry m).mpr ⟨s, found, isOpen.isClosed⟩) closed
      · simp only [Option.map_some, spent.endScope]
        exact (spent.runTasks t.now t.period transport).2
  rw [Place.runTasks, attempts_runTasksUpTo]
  split
  · next subscribed =>
    obtain ⟨n, pending⟩ := isSubscribed_iff.mp subscribed
    obtain ⟨s, found, isOpen⟩ := sound.pendingOpen pending
    have inside : n < p.endScopes.opened.length := by
      rw [endScopes, List.length_map]
      exact (List.getElem?_eq_some_iff.mp found).1
    rw [flatMap_range_single _ inside fun m other => silent m fun also => ?_,
      subscription?_endScopes, found]
    · exact (isOpen.released t.now t.period (works .stop)).2.1
    · cases pending.symm.trans also
      exact other rfl
  · next unsubscribed =>
    refine List.flatMap_eq_nil_iff.mpr fun m _ => silent m fun pending => ?_
    exact unsubscribed (isSubscribed_iff.mpr ⟨m, pending⟩)

theorem Sound.released (sound : p.Sound born) (t : Timing) (works : ∀ kind, transport kind = none) :
    (p.endScopes.runTasks t transport).1.Sound born ∧
      (∀ n s, (p.endScopes.runTasks t transport).1.subscription? n = some s → Spent s) ∧
      (p.endScopes.runTasks t transport).1.due? = lasting (t.now + t.period) p.due?
        (taken (p.endScopes.runTasks t transport).2.attempts) := by
  -- The entry went when the scopes ended.
  have vacant : ∀ n, p.endScopes.pending ≠ some (.subscription n) := fun n => nofun
  have entry := pending_runTasks_vacant t transport vacant
  have looked (n : Nat) : (p.endScopes.runTasks t transport).1.subscription? n =
      (p.subscription? n).map fun s => (s.endScope.runTasks t.now t.period transport).1 := by
    rw [subscription?_runTasks, subscription?_endScopes, Option.map_map]
    rfl
  have spent : ∀ n s, (p.endScopes.runTasks t transport).1.subscription? n = some s → Spent s := by
    intro n s' found
    rw [looked] at found
    obtain ⟨s, there, rfl⟩ := Option.map_eq_some_iff.mp found
    rcases sound.each n s there with isOpen | spent
    · exact (isOpen.released t.now t.period (works .stop)).1
    · rw [spent.endScope]
      exact (spent.runTasks t.now t.period transport).1.spent
  refine ⟨⟨fun n s found => .inr (spent n s found), ?_, ?_, ?_⟩, spent, ?_⟩
  · intro n
    rw [entry]
    refine ⟨nofun, fun ⟨s, found, unclosed⟩ => ?_⟩
    rw [(spent n s found).isClosed] at unclosed
    cases unclosed
  · intro n s' found c member
    rw [looked] at found
    obtain ⟨s, there, rfl⟩ := Option.map_eq_some_iff.mp found
    have nextCall : (p.endScopes.runTasks t transport).1.nextCall = p.nextCall :=
      nextCall_runTasksUpTo ..
    rw [nextCall]
    rcases sound.each n s there with isOpen | spent
    · exact sound.called n s there c ((isOpen.released t.now t.period (works .stop)).2.2 c member)
    · rw [spent.endScope] at member
      exact sound.called n s there c ((spent.runTasks t.now t.period transport).1.callers c member)
  · rw [entry]
    nofun
  · rw [due?_of_vacant (entry ▸ vacant), sound.attempts_released t works, ← sound.isSome_due?]
    cases p.due? <;> rfl

/-! ## Any event -/

/-- Whatever happens to a fit place, the next keepalive is due when what it sends says. -/
theorem Fit.step {c : Client} {net : Network} {l : Location} (fit : (c.place l).Fit born c.now)
    (works : ∀ l kind, net l kind = none) (e : Event) :
    ∃ born', (c.outcomeAt net l e).1.Fit born' (e.time c) ∧
      (c.outcomeAt net l e).1.due? = lasting (e.time c + c.period) (c.place l).due?
        (taken (c.outcomeAt net l e).2) := by
  rw [outcomeAt]
  have fit := fit.later (e.now_le_time c)
  by_cases release : e = .release
  · subst release
    obtain ⟨sound, spent, due⟩ := fit.sound.released ⟨c.now, c.period, c.window⟩ (works l)
    exact ⟨born, ⟨sound, fun n s found isOpen => isOpen.not_spent (spent n s found)⟩, due⟩
  · -- What the event sends comes first, then what the tasks send.
    have happens := effect_works works fit.sound release
    generalize c.effect net l e = effect at happens ⊢
    cases happens with
    | still => exact ⟨born, fit, rfl⟩
    | polled number stream found after polled =>
      have turned : Turned born ⟨e.time c, c.period, c.window⟩ (fun _ => False) (c.place l)
          (after, []) := turned_silent (fit.sound.poll (e.time c) polled)
      obtain ⟨born', fit'⟩ := fit.turned turned
      exact ⟨born', fit', turned.due fit.sound⟩
    | moved after emission turned =>
      obtain ⟨born', fit'⟩ := fit.turned turned
      refine ⟨born', fit'.runTasks c.period c.window (net l), ?_⟩
      rw [Effect.settle, taken_append, lasting_append, ← turned.due fit.sound]
      exact fit'.due_runTasks c.period c.window (works l)

/-- So what it sends adds up to whether a subscription is pending. -/
theorem Fit.standing_step {c : Client} {net : Network} {l : Location}
    (fit : (c.place l).Fit born c.now) (works : ∀ l kind, net l kind = none) (e : Event) :
    standing (c.place l).isSubscribed (taken (c.outcomeAt net l e).2) =
      (c.outcomeAt net l e).1.isSubscribed := by
  obtain ⟨born', fit', due⟩ := fit.step works e
  rw [← fit.sound.isSome_due?, ← fit'.sound.isSome_due?, due, isSome_lasting]

end Place

end ObservationFeed.Client
