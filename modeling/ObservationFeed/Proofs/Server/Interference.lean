import ObservationFeed.Proofs.Server.Realm

/-!
# Worlds do not interfere

What there is to see of one world does not depend on the others.  A run is
compared with the one in which nothing but the world in question is started,
stopped or used: after each move the sessions of the second are the entries of
that world in the first, and the surroundings are alike for its servers.

Servers share their connections.  What they can notice of each other there is
whether a client can be reached, and sending does not change that.
-/

namespace ObservationFeed.Server

open KeyedList

/-! ## The sessions of one world -/

namespace Sessions

/-- The sessions without those of other worlds. -/
def alone (w : WorldId) (s : Sessions) : Sessions := { s with worlds := entriesOf w s.worlds }

variable {s next : Sessions} {w v : WorldId}

@[simp] theorem history_alone : (s.alone w).history w = s.history w := by
  rw [history, alone, find?_entriesOf, history]

theorem get?_alone : (s.alone w).get? w = s.get? w := by
  rw [get?, history_alone, get?]

/-- Sessions that differ in the entry of one world. -/
theorem alone_put (s : Sessions) (w : WorldId) (h : WorldHistory) :
    ({ s with worlds := put w h s.worlds } : Sessions).alone w =
      { s.alone w with worlds := put w h (s.alone w).worlds } :=
  congrArg (Sessions.mk s.config) (entriesOf_put_self w h s.worlds)

theorem alone_put_other (s : Sessions) (other : v ≠ w) (h : WorldHistory) :
    ({ s with worlds := put v h s.worlds } : Sessions).alone w = s.alone w :=
  congrArg (Sessions.mk s.config) (entriesOf_put_other other h s.worlds)

theorem start_alone : (s.alone w).start w = (s.start w).map (alone w) := by
  rw [start, history_alone, start]
  split
  · rfl
  · exact congrArg Except.ok (alone_put ..).symm

theorem stop_alone : (s.alone w).stop w = (s.stop w).map (alone w) := by
  rw [stop, get?_alone, history_alone, stop]
  cases s.get? w with
  | none => rfl
  | some r => exact congrArg Except.ok (alone_put ..).symm

theorem history_put (s : Sessions) (w : WorldId) (h : WorldHistory) :
    ({ s with worlds := put w h s.worlds } : Sessions).history w = h := by
  rw [history, find?_put, if_pos rfl, Option.getD_some]

theorem start_of_idle (idle : (s.history w).running = false) :
    s.start w =
      .ok { s with worlds := put w ⟨.ofConfig s.config :: (s.history w).opened, true⟩ s.worlds } := by
  simp only [start, idle, Bool.false_eq_true, if_false]

theorem stop_of_running {r : Registrar} (running : s.get? w = some r) :
    s.stop w =
      .ok { s with worlds := put w ⟨r.clear.2 :: (s.history w).opened.tail, false⟩ s.worlds } := by
  simp only [stop, running]

theorem set_alone (number : Nat) (r : Registrar) :
    (s.alone w).set w number r = (s.set w number r).alone w := by
  rw [set, history_alone, set, alone_put]

theorem alone_of_start (other : v ≠ w) (started : s.start v = .ok next) :
    next.alone w = s.alone w := by
  simp only [start] at started
  split at started
  · cases started
  · cases started
    exact alone_put_other s other _

theorem alone_of_stop (other : v ≠ w) (stopped : s.stop v = .ok next) :
    next.alone w = s.alone w := by
  unfold stop at stopped
  split at stopped
  · cases stopped
  · cases stopped
    exact alone_put_other s other _

/-! ## Ticks of all worlds -/

variable {σ : Type} {R : σ → σ → Prop}

theorem tickWorlds_running (hosts : WorldId → Host σ) (v : WorldId) (r : Registrar)
    (earlier : List Registrar) (rest : List (WorldId × WorldHistory)) (s : σ) :
    tickWorlds hosts ((v, ⟨r :: earlier, true⟩) :: rest) s =
      let ticked := r.tickWorld (hosts v) s
      let others := tickWorlds hosts rest ticked.2
      (((ticked.1.1.map fun report => (v, report)).toList ++ others.1.1,
        (v, ⟨ticked.1.2 :: earlier, true⟩) :: others.1.2), others.2) := rfl

theorem tickWorlds_idle (hosts : WorldId → Host σ) (v : WorldId) {h : WorldHistory}
    (idle : h.running = false ∨ h.opened = []) (rest : List (WorldId × WorldHistory)) (s : σ) :
    tickWorlds hosts ((v, h) :: rest) s =
      let others := tickWorlds hosts rest s
      ((others.1.1, (v, h) :: others.1.2), others.2) := by
  obtain ⟨opened, running⟩ := h
  rcases idle with rfl | rfl
  · rfl
  · cases running <;> rfl

theorem entriesOf_report (w v : WorldId) (report : Option SweepReport)
    (rest : List (WorldId × SweepReport)) :
    entriesOf w ((report.map fun report => (v, report)).toList ++ rest) =
      if v = w then (report.map fun report => (v, report)).toList ++ entriesOf w rest
      else entriesOf w rest := by
  cases report with
  | none => exact (ite_self _).symm
  | some report =>
    split
    · next here => subst here; exact entriesOf_cons_self ..
    · next other => exact entriesOf_cons_other other ..

/-- The entries of one world go the same way in the whole list and alone, if its host respects the
relation and the other hosts keep it. -/
theorem tickWorlds_entriesOf {hosts others : WorldId → Host σ} (respects : (hosts w).Respects R)
    (keeps : ∀ v, v ≠ w → ∀ t, (hosts v).Respects fun s s' => s = s' ∧ R s t)
    (same : others w = hosts w) (worlds : List (WorldId × WorldHistory)) {s t : σ}
    (related : R s t) :
    let whole := tickWorlds hosts worlds s
    let alone := tickWorlds others (entriesOf w worlds) t
    entriesOf w whole.1.1 = entriesOf w alone.1.1 ∧ entriesOf w whole.1.2 = alone.1.2 ∧
      R whole.2 alone.2 := by
  induction worlds generalizing s t with
  | nil => exact ⟨rfl, rfl, related⟩
  | cons entry rest ih =>
    obtain ⟨v, opened, running⟩ := entry
    by_cases idle : running = false ∨ opened = []
    · by_cases here : v = w
      · subst here
        obtain ⟨reports, worlds, left⟩ := ih related
        rw [entriesOf_cons_self, tickWorlds_idle hosts v idle, tickWorlds_idle others v idle]
        exact ⟨reports, by rw [entriesOf_cons_self, worlds], left⟩
      · rw [entriesOf_cons_other here, tickWorlds_idle hosts v idle]
        simp only [entriesOf_cons_other here]
        exact ih related
    · obtain ⟨r, earlier, rfl⟩ : ∃ r earlier, opened = r :: earlier :=
        List.exists_cons_of_ne_nil fun none => idle (.inr none)
      obtain rfl : running = true := by simpa using fun stopped => idle (.inl stopped)
      rw [tickWorlds_running]
      by_cases here : v = w
      · subst here
        rw [entriesOf_cons_self, tickWorlds_running, same]
        obtain ⟨ticked, left⟩ := respects.tickWorld r s t related
        obtain ⟨reports, worlds, left⟩ := ih left
        simp only [entriesOf_report, if_true, entriesOf_cons_self]
        rw [ticked, reports, worlds]
        exact ⟨rfl, rfl, left⟩
      · obtain ⟨-, -, left⟩ := (keeps v here t).tickWorld r s s ⟨rfl, related⟩
        simp only [entriesOf_cons_other here, entriesOf_report, if_neg here]
        exact ih left

end Sessions

namespace Realm

variable {ω α : Type} {views : WorldId → Nat → World ω} {sink : ResponseSink (Mailboxes α)}
  {s t : Realm ω α} {w : WorldId}

/-! ## One move -/

theorem step_tickAll {ticked}
    (swept : Sessions.tickWorlds (hosts views sink s.sessions) s.sessions.worlds s.surroundings =
      ticked) :
    s.step views sink .tickAll =
      (.swept ticked.1.1, ⟨{ s.sessions with worlds := ticked.1.2 }, ticked.2⟩) := by
  subst swept
  rfl

theorem step_serve {number : Nat} {r : Registrar} {op : Operation ω} {done}
    (opened : (s.sessions.history w).server? number = some r)
    (performed : r.perform (Surroundings.host (views w number) sink w) (op.within w)
      s.surroundings = done) :
    s.step views sink (.serve w number op) =
      (.answered done.1.1, ⟨s.sessions.set w number done.1.2, done.2⟩) := by
  subst performed
  simp only [step, opened]
  rfl

theorem step_disconnect (s : Realm ω α) (c : ClientId) :
    s.step views sink (.disconnect c) =
      (.told (s.surroundings.boxes.disconnect c).1,
        s.setBoxes (s.surroundings.boxes.disconnect c).2) := rfl

theorem step_hangUp (s : Realm ω α) (c : ClientId) :
    s.step views sink (.hangUp c) =
      (.told (s.surroundings.boxes.hangUp c).1, s.setBoxes (s.surroundings.boxes.hangUp c).2) := rfl

/-- A world that changes by itself changes in the same way on both sides. -/
theorem respects_within (op : Operation ω) (change : Surroundings ω α → Surroundings ω α)
    (elsewhere : op.within w = .elsewhere change) (s t : Surroundings ω α)
    (alike : s.Alike w t) : (change s).Alike w (change t) := by
  cases op <;> cases elsewhere
  refine ⟨?_, alike.asked, alike.reach⟩
  simp only [Surroundings.setWorld, Function.update_self, alike.world]

/-- Another world that changes by itself makes no difference. -/
theorem keeps_within {v : WorldId} {t : Surroundings ω α} (op : Operation ω) (other : v ≠ w)
    (change : Surroundings ω α → Surroundings ω α) (elsewhere : op.within v = .elsewhere change)
    (s s' : Surroundings ω α) (same : s = s' ∧ s.Alike w t) :
    change s = change s' ∧ (change s).Alike w t := by
  obtain ⟨rfl, alike⟩ := same
  cases op <;> cases elsewhere
  exact ⟨rfl, (Function.update_of_ne other.symm ..).trans alike.world, alike.asked, alike.reach⟩

/-- The second realm has the sessions of one world alone, in surroundings that are alike for its
servers. -/
structure Alike (w : WorldId) (s t : Realm ω α) : Prop where
  sessions : t.sessions = s.sessions.alone w
  surroundings : s.surroundings.Alike w t.surroundings

theorem Alike.aspect (alike : Alike w s t) : s.aspect w = t.aspect w := by
  rw [Realm.aspect, Realm.aspect, alike.sessions, Sessions.history_alone,
    alike.surroundings.world, alike.surroundings.asked]

/-- The connections change in the same way on both sides. -/
theorem Alike.setBoxes (alike : Alike w s t) {boxes others : Mailboxes α}
    (reach : boxes.reach = others.reach) : Alike w (s.setBoxes boxes) (t.setBoxes others) :=
  ⟨alike.sessions, alike.surroundings.world, alike.surroundings.asked, reach⟩

/-- What is said of a world that a move is about, and what the move leaves of it. -/
theorem Alike.step (alike : Alike w s t) (steady : sink.Steady) {m : Move ω}
    (concerns : m.concerns w) :
    (s.step views sink m).1.about w = (t.step views sink m).1.about w ∧
      Alike w (s.step views sink m).2 (t.step views sink m).2 := by
  obtain ⟨sessions, surroundings⟩ := alike
  have reach := surroundings.reach
  cases m with
  | start v =>
    obtain rfl : v = w := of_decide_eq_true concerns
    simp only [Realm.step, sessions, Sessions.start_alone]
    cases s.sessions.start v with
    | error cause => exact ⟨rfl, sessions, surroundings⟩
    | ok next => exact ⟨rfl, rfl, surroundings⟩
  | stop v =>
    obtain rfl : v = w := of_decide_eq_true concerns
    simp only [Realm.step, sessions, Sessions.stop_alone]
    cases s.sessions.stop v with
    | error cause => exact ⟨rfl, sessions, surroundings⟩
    | ok next => exact ⟨rfl, rfl, surroundings⟩
  | get v =>
    obtain rfl : v = w := of_decide_eq_true concerns
    refine ⟨?_, sessions, surroundings⟩
    simp only [Realm.step, sessions, Sessions.get?_alone]
  | tickAll =>
    have same : hosts views sink t.sessions w = hosts views sink s.sessions w := by
      rw [hosts, sessions, Sessions.history_alone, hosts]
    have respects : (hosts views sink s.sessions w).Respects _ :=
      Surroundings.respects_host steady _ w
    have keeps (v : WorldId) (other : v ≠ w) (t : Surroundings ω α) :
        (hosts views sink s.sessions v).Respects _ := Surroundings.keeps_host steady _ other t
    obtain ⟨reports, worlds, left⟩ :=
      Sessions.tickWorlds_entriesOf respects keeps same s.sessions.worlds surroundings
    have rest : entriesOf w s.sessions.worlds = t.sessions.worlds := by rw [sessions]; rfl
    rw [rest] at reports worlds left
    rw [step_tickAll rfl, step_tickAll rfl]
    refine ⟨congrArg Reply.swept reports, ?_, left⟩
    rw [← worlds, sessions]
    rfl
  | serve v number op =>
    obtain rfl : v = w := of_decide_eq_true concerns
    cases opened : (s.sessions.history v).server? number with
    | none =>
      have here : (t.sessions.history v).server? number = none := by
        rw [sessions, Sessions.history_alone, opened]
      simp only [Realm.step, opened, here]
      exact ⟨trivial, sessions, surroundings⟩
    | some r =>
      have here : (t.sessions.history v).server? number = some r := by
        rw [sessions, Sessions.history_alone, opened]
      obtain ⟨same, left⟩ := (Surroundings.respects_host steady (views v number) v).perform r
        (respects_within op) _ _ surroundings
      rw [step_serve opened rfl, step_serve here rfl, same, sessions, Sessions.set_alone]
      exact ⟨rfl, rfl, left⟩
  | connect c =>
    refine ⟨rfl, setBoxes ⟨sessions, surroundings⟩ (funext fun other => ?_)⟩
    rw [Mailboxes.reach_connect, Mailboxes.reach_connect, reach]
  | disconnect c =>
    rw [step_disconnect, step_disconnect]
    refine ⟨congrArg Reply.told ?_, setBoxes ⟨sessions, surroundings⟩ (funext fun other => ?_)⟩
    · rw [Mailboxes.disconnect_fst, Mailboxes.disconnect_fst, reach]
    · rw [Mailboxes.reach_disconnect, Mailboxes.reach_disconnect, reach]
  | hangUp c =>
    rw [step_hangUp, step_hangUp]
    refine ⟨congrArg Reply.told ?_, setBoxes ⟨sessions, surroundings⟩ (funext fun other => ?_)⟩
    · rw [Mailboxes.hangUp_fst, Mailboxes.hangUp_fst, reach]
    · rw [Mailboxes.reach_hangUp, Mailboxes.reach_hangUp, reach]
  | collect =>
    refine ⟨rfl, setBoxes ⟨sessions, surroundings⟩ ?_⟩
    rw [Mailboxes.reach_collect, Mailboxes.reach_collect, reach]

/-- A move that is about another world leaves everything as it was. -/
theorem Alike.step_other (alike : Alike w s t) (steady : sink.Steady) {m : Move ω}
    (other : m.concerns w = false) : Alike w (s.step views sink m).2 t := by
  obtain ⟨sessions, surroundings⟩ := alike
  cases m with
  | start v =>
    have other : v ≠ w := of_decide_eq_false other
    cases started : s.sessions.start v with
    | error cause => simpa only [Realm.step, started] using ⟨sessions, surroundings⟩
    | ok next =>
      simp only [Realm.step, started]
      exact ⟨sessions.trans (Sessions.alone_of_start other started).symm, surroundings⟩
  | stop v =>
    have other : v ≠ w := of_decide_eq_false other
    cases stopped : s.sessions.stop v with
    | error cause => simpa only [Realm.step, stopped] using ⟨sessions, surroundings⟩
    | ok next =>
      simp only [Realm.step, stopped]
      exact ⟨sessions.trans (Sessions.alone_of_stop other stopped).symm, surroundings⟩
  | get v => exact ⟨sessions, surroundings⟩
  | serve v number op =>
    have other : v ≠ w := of_decide_eq_false other
    cases opened : (s.sessions.history v).server? number with
    | none => simpa only [Realm.step, opened] using ⟨sessions, surroundings⟩
    | some r =>
      obtain ⟨-, -, left⟩ := (Surroundings.keeps_host steady (views v number) other
        t.surroundings).perform r (keeps_within op other) s.surroundings _ ⟨rfl, surroundings⟩
      rw [step_serve opened rfl]
      exact ⟨sessions.trans (Sessions.alone_put_other _ other _).symm, left⟩
  | tickAll | connect | disconnect | hangUp | collect => cases other

/-! ## Runs -/

theorem Alike.run (alike : Alike w s t) (steady : sink.Steady) (moves : List (Move ω)) :
    Alike w (s.run views sink moves) (t.run views sink (moves.filter (·.concerns w))) := by
  induction moves generalizing s t with
  | nil => exact alike
  | cons m rest ih =>
    cases concerns : m.concerns w with
    | true =>
      rw [List.filter_cons_of_pos concerns]
      exact ih (alike.step steady concerns).2
    | false =>
      rw [List.filter_cons_of_neg (by rw [concerns]; exact Bool.false_ne_true)]
      exact ih (alike.step_other steady concerns)

theorem Alike.seen (alike : Alike w s t) (steady : sink.Steady) (moves : List (Move ω)) :
    s.seen views sink w moves = t.seen views sink w (moves.filter (·.concerns w)) := by
  induction moves generalizing s t with
  | nil => rfl
  | cons m rest ih =>
    cases concerns : m.concerns w with
    | true =>
      obtain ⟨told, left⟩ : (s.step views sink m).1.about w = (t.step views sink m).1.about w ∧ _ :=
        alike.step steady concerns
      rw [List.filter_cons_of_pos concerns]
      simp only [Realm.seen, concerns, if_true, told, left.aspect, ih left]
    | false =>
      rw [List.filter_cons_of_neg (by rw [concerns]; exact Bool.false_ne_true)]
      simp only [Realm.seen, concerns, Bool.false_eq_true, if_false]
      exact ih (alike.step_other steady concerns)

/-! ## Starts and stops -/

/-- A world whose server is running has had a server, and all servers have the same settings. -/
structure Orderly (config : ServerConfig) (s : Sessions) : Prop where
  config : s.config = config
  opened : ∀ e ∈ s.worlds, e.2.running = true → e.2.opened ≠ []

variable {config : ServerConfig} {sessions : Sessions}

theorem Orderly.history (orderly : Orderly config sessions) (w : WorldId)
    (running : (sessions.history w).running = true) : (sessions.history w).opened ≠ [] := by
  unfold Sessions.history at running ⊢
  cases found : find? w sessions.worlds with
  | none =>
    rw [found] at running
    cases running
  | some h =>
    rw [found] at running
    exact orderly.opened _ (mem_of_find? found) running

theorem Orderly.get?_eq_none (orderly : Orderly config sessions) :
    sessions.get? w = none ↔ (sessions.history w).running = false := by
  simp only [Sessions.get?]
  cases running : (sessions.history w).running with
  | false => exact ⟨fun _ => rfl, fun _ => rfl⟩
  | true =>
    obtain ⟨r, earlier, opened⟩ := List.exists_cons_of_ne_nil (orderly.history w running)
    simp [opened]

theorem Orderly.put (orderly : Orderly config sessions) (w : WorldId) {h : WorldHistory}
    (opened : h.running = true → h.opened ≠ []) :
    Orderly config { sessions with worlds := put w h sessions.worlds } := by
  refine ⟨orderly.config, fun e member => ?_⟩
  rcases mem_put member with rfl | member
  · exact opened
  · exact orderly.opened e member

theorem opened_tickWorlds {σ : Type} (hosts : WorldId → Host σ)
    {worlds : List (WorldId × WorldHistory)}
    (opened : ∀ e ∈ worlds, e.2.running = true → e.2.opened ≠ []) (s : σ) :
    ∀ e ∈ (Sessions.tickWorlds hosts worlds s).1.2, e.2.running = true → e.2.opened ≠ [] := by
  induction worlds generalizing s with
  | nil => exact fun _ member => nomatch member
  | cons entry rest ih =>
    obtain ⟨here, later⟩ := List.forall_mem_cons.mp opened
    obtain ⟨v, servers, running⟩ := entry
    by_cases idle : running = false ∨ servers = []
    · rw [Sessions.tickWorlds_idle hosts v idle]
      exact List.forall_mem_cons.mpr ⟨here, ih later s⟩
    · obtain ⟨r, earlier, rfl⟩ : ∃ r earlier, servers = r :: earlier :=
        List.exists_cons_of_ne_nil fun none => idle (.inr none)
      obtain rfl : running = true := by simpa using fun stopped => idle (.inl stopped)
      rw [Sessions.tickWorlds_running]
      exact List.forall_mem_cons.mpr ⟨fun _ => List.cons_ne_nil _ _, ih later _⟩

theorem Orderly.step (orderly : Orderly config s.sessions) (m : Move ω) :
    Orderly config (s.step views sink m).2.sessions := by
  cases m with
  | start v =>
    cases started : s.sessions.start v with
    | error cause => simpa only [Realm.step, started] using orderly
    | ok next =>
      simp only [Realm.step, started]
      simp only [Sessions.start] at started
      split at started
      · cases started
      · cases started
        exact orderly.put v fun _ => List.cons_ne_nil _ _
  | stop v =>
    cases stopped : s.sessions.stop v with
    | error cause => simpa only [Realm.step, stopped] using orderly
    | ok next =>
      simp only [Realm.step, stopped]
      unfold Sessions.stop at stopped
      split at stopped
      · cases stopped
      · cases stopped
        exact orderly.put v fun running => nomatch running
  | tickAll => exact ⟨orderly.config, opened_tickWorlds _ orderly.opened s.surroundings⟩
  | serve v number op =>
    cases opened : (s.sessions.history v).server? number with
    | none => simpa only [Realm.step, opened] using orderly
    | some r =>
      rw [step_serve opened rfl]
      refine orderly.put v fun running none => orderly.history v running ?_
      -- Replacing a server keeps their number.
      have lengths := congrArg List.length none
      simpa using lengths
  | get | connect | disconnect | hangUp | collect => exact orderly

theorem Orderly.run (orderly : Orderly config s.sessions) (moves : List (Move ω)) :
    Orderly config (s.run views sink moves).sessions := by
  induction moves generalizing s with
  | nil => exact orderly
  | cons m rest ih => exact ih (orderly.step m)

/-- How a world is started and stopped. -/
structure Lifecycle (views : WorldId → Nat → World ω) (sink : ResponseSink (Mailboxes α))
    (s : Realm ω α) (w : WorldId) : Prop where
  /-- A world that is not running starts with a new server, whose next tick sweeps. -/
  starts : s.sessions.get? w = none → ∃ next r, s.step views sink (.start w) = (.done, next) ∧
    next.sessions.get? w = some r ∧ r.table = .empty ∧ r.cooldown = 0
  /-- A start of a world that is running is refused and changes nothing. -/
  startRefused : ∀ r, s.sessions.get? w = some r →
    s.step views sink (.start w) = (.refused (.alreadyRunning w), s)
  /-- A world that is running stops, and its last server is left without registrations. -/
  stops : ∀ r, s.sessions.get? w = some r → ∃ next, s.step views sink (.stop w) = (.done, next) ∧
    next.sessions.get? w = none ∧ next.sessions.last? w = some { r with table := .empty }
  /-- A stop of a world that is not running is refused and changes nothing. -/
  stopRefused : s.sessions.get? w = none →
    s.step views sink (.stop w) = (.refused (.notRunning w), s)

theorem Orderly.lifecycle (orderly : Orderly config s.sessions) (w : WorldId) :
    Lifecycle views sink s w where
  starts idle := by
    have started := Sessions.start_of_idle (orderly.get?_eq_none.mp idle)
    refine ⟨⟨_, s.surroundings⟩, .ofConfig s.sessions.config, by rw [Realm.step, started], ?_, rfl, rfl⟩
    simp only [Sessions.get?, Sessions.history_put, if_true, List.head?_cons]
  startRefused r running := by
    cases going : (s.sessions.history w).running with
    | true => simp only [Realm.step, Sessions.start, going, if_true]
    | false =>
      rw [orderly.get?_eq_none.mpr going] at running
      cases running
  stops r running := by
    have stopped := Sessions.stop_of_running running
    refine ⟨⟨_, s.surroundings⟩, by rw [Realm.step, stopped], ?_, ?_⟩
    · simp only [Sessions.get?, Sessions.history_put, Bool.false_eq_true, if_false]
    · simp only [Sessions.last?, Sessions.history_put, List.head?_cons]
      rfl
  stopRefused idle := by simp only [Realm.step, Sessions.stop, idle]

/-! ## One world among others -/

/-- Whatever is done with the servers of several worlds, what is seen of one of them is what is seen
if nothing is done with the others, also between its own moves, and however the worlds go and see
their clients.  At any time it starts exactly if it is not running, anew, and stops exactly if it
is. -/
theorem worlds_do_not_interfere (views : WorldId → Nat → World ω)
    (sink : ResponseSink (Mailboxes α)) (steady : sink.Steady) (config : ServerConfig)
    (world : WorldId → ω) (boxes : Mailboxes α) (moves : List (Move ω)) (w : WorldId) :
    let s : Realm ω α := ofConfig config world boxes
    let own := moves.filter (·.concerns w)
    s.seen views sink w moves = s.seen views sink w own ∧
      (s.run views sink moves).aspect w = (s.run views sink own).aspect w ∧
      Lifecycle views sink (s.run views sink moves) w := by
  intro s own
  have alike : Alike w s s := ⟨rfl, s.surroundings.alike_refl w⟩
  have orderly : Orderly config s.sessions := ⟨rfl, fun _ member => nomatch member⟩
  exact ⟨alike.seen steady moves, (alike.run steady moves).aspect, (orderly.run moves).lifecycle w⟩

/-- The servers of two worlds send to one client, and one of them goes on after it was stopped.  The
other sends as it would alone. -/
theorem worlds_do_not_interfere_of_two :
    let view : World Nat := {
      currentTick := fun count => (.ofNat count, count)
      client := fun _ => pure (some ⟨"overworld", ⟨⟨0⟩, ⟨0⟩, ⟨0⟩⟩⟩)
      isLoaded := fun _ => pure true
      hasContainer := fun _ => pure true
      observe := fun _ _ => pure (.ok .empty) }
    let w : WorldId := ⟨1⟩
    let v : WorldId := ⟨2⟩
    let c : ClientId := ⟨3⟩
    let l : Location := ⟨"overworld", ⟨1, 2, 3⟩⟩
    let asks : Operation Nat := .single c l
    let moves : List (Move Nat) := [.start w, .start v, .connect c, .serve v 0 asks, .serve w 0 asks,
      .serve v 0 (.elsewhere (· + 9)), .serve w 0 (.elsewhere (· + 5)), .tickAll, .stop v,
      .serve v 0 asks, .stop w]
    let own := moves.filter (·.concerns w)
    let s : Realm Nat Response := ofConfig {} (fun _ => 0) .empty
    directSink.Steady ∧
      s.seen (fun _ _ => view) directSink w moves = s.seen (fun _ _ => view) directSink w own ∧
      (moves.length, own.length) = (11, 6) ∧
      ((s.run (fun _ _ => view) directSink moves).aspect w).asked.countP
        (fun x => x.served? = some l) = 2 := by
  intro view w v c l asks moves own s
  obtain ⟨same, -, -⟩ := worlds_do_not_interfere (fun _ _ => view) directSink steady_directSink {}
    (fun _ => 0) .empty moves w
  exact ⟨steady_directSink, same, by decide +kernel +zetaReduce, by decide +kernel +zetaReduce⟩

end Realm

end ObservationFeed.Server
