import ObservationFeed.Proofs.Client.Traces

/-!
# What streams yield

A stream yields what its subscription publishes, the latest value only and none
of them twice.  `news` are the publications since a stream last yielded, read off
the history of the client; a stream that has never yielded counts those from
before it began.  A poll yields the latest of the news, and where there are none
it finds the stream pending or at its end, by whether the subscription has
closed.  The invariant behind it is that the number of a stream's news is what
its version is behind that of the feed.
-/

namespace ObservationFeed.Client

open Subscription Place

/-! ## Publications and polls -/

def Poll.value? {α : Type} : Poll α → Option α
  | .value found => some found
  | .pending | .finished => none

/-- The value of a response that is handed to an open subscription and is not stale. -/
def Subscription.publishes? (s : Subscription) : Act → Option Snapshot
  | .hear response | .accept response =>
    if s.isClosed || s.isStale response.serverTick then none else some response.snapshot
  | _ => none

/-- The value that a subscription publishes in a move. -/
def Record.published? (h : SubscriptionHandle) (r : Record) : Option Snapshot :=
  (r.client.subscription? h).bind fun s => s.publishes? (r.act h)

/-- A move polls a stream. -/
def Move.polls (k : StreamHandle) : Move → Bool
  | .event (.poll other) => other = k
  | .operation l (.poll other) => l = k.subscription.location && other = k
  | _ => false

/-- The value that a stream yields in a move. -/
def Record.yielded? (k : StreamHandle) (r : Record) : Option Snapshot :=
  if r.move.polls k then (r.client.poll k).1.value? else none

/-- The values that a subscription has published, the latest first. -/
def publications (h : SubscriptionHandle) (past : List Record) : List Snapshot :=
  past.filterMap (·.published? h)

/-- The values that a stream has yielded, the latest first. -/
def yields (k : StreamHandle) (past : List Record) : List Snapshot :=
  past.filterMap (·.yielded? k)

/-- What was published since a stream last yielded, the latest first.  Before it has yielded, that is
all that was ever published. -/
def news (k : StreamHandle) : List Record → List Snapshot
  | [] => []
  | r :: past =>
    if (r.yielded? k).isSome then []
    else (r.published? k.subscription).toList ++ news k past

theorem publications_cons (h : SubscriptionHandle) (r : Record) (past : List Record) :
    publications h (r :: past) = (r.published? h).toList ++ publications h past := by
  rw [publications, List.filterMap_cons]
  cases r.published? h <;> rfl

theorem yields_cons (k : StreamHandle) (r : Record) (past : List Record) :
    yields k (r :: past) = (r.yielded? k).toList ++ yields k past := by
  rw [yields, List.filterMap_cons]
  cases r.yielded? k <;> rfl

/-- The news are the latest publications. -/
theorem news_prefix (k : StreamHandle) (past : List Record) :
    news k past <+: publications k.subscription past := by
  induction past with
  | nil => exact List.prefix_rfl
  | cons r past ih =>
    rw [news, publications_cons]
    split
    · exact List.nil_prefix
    · exact (List.prefix_append_right_inj _).mpr ih

/-! ## One stream -/

/-- What a poll finds, by the news and by whether the subscription has ended. -/
def Poll.ofNews (news : List Snapshot) (ended : Bool) : Poll Snapshot :=
  match news with
  | latest :: _ => .value latest
  | [] => if ended then .finished else .pending

/-- How far a stream is behind its subscription. -/
structure Stream.Owed (news : List Snapshot) (s : Subscription) (stream : Stream) : Prop where
  behind : news.length + (if stream.primed then stream.seen else 0) = s.feed.version
  atEnd : stream.finished = true → s.ended = true ∧ news = []

/-- A stream that is attached can be polled. -/
theorem Subscription.isSome_poll? {s : Subscription} {n : Nat}
    (attached : s.streams.any (·.1 = n) = true) : (s.poll? n).isSome := by
  obtain ⟨e, member, same⟩ := List.any_eq_true.mp attached
  rw [poll?, Option.isSome_map, List.lookup_isSome_iff]
  exact ⟨e, member, beq_iff_eq.mpr (of_decide_eq_true same).symm⟩

/-- What holds of a subscription and its streams, by what it has published and by the news of the
stream with each number. -/
structure Subscription.Delivers (published : List Snapshot) (news : Nat → List Snapshot)
    (s : Subscription) : Prop where
  feed : s.feed = ⟨published.length, published.head?⟩
  ended : s.liveness.closed = true → s.ended = true
  numbered : ∀ e ∈ s.streams, e.1 < s.nextStream
  /-- Streams that have not begun have yielded nothing. -/
  ahead : ∀ n, s.nextStream ≤ n → news n = published
  owed : ∀ e ∈ s.streams, e.2.Owed (news e.1) s

section Streams

variable {published : List Snapshot} {fresh : List Snapshot} {s s' : Subscription}
  {stream : Stream}

/-- A poll yields the latest of the news, and leaves none. -/
theorem Stream.Owed.poll (owed : stream.Owed fresh s)
    (feed : s.feed = ⟨published.length, published.head?⟩) (recent : fresh <+: published) :
    (stream.poll s.feed s.ended).1 = .ofNews fresh s.ended ∧
      (stream.poll s.feed s.ended).2.Owed [] s := by
  obtain ⟨seen, primed, finished⟩ := stream
  obtain ⟨behind, atEnd⟩ := owed
  cases finished with
  | true =>
    obtain ⟨ended, rfl⟩ := atEnd rfl
    simp only [Stream.poll, if_true, Poll.ofNews, ended]
    exact ⟨trivial, behind, fun _ => ⟨ended, rfl⟩⟩
  | false =>
    -- The stream has something to yield exactly if there are news.
    have current : (if primed && s.feed.version == seen then none else s.feed.latest) =
        fresh.head? := by
      obtain ⟨older, rfl⟩ := recent
      simp only [feed, List.length_append] at behind ⊢
      cases fresh with
      | nil =>
        cases primed with
        | true =>
          have same : older.length = seen := by simpa using behind.symm
          simp [same]
        | false =>
          have none : older = [] := List.length_eq_zero_iff.mp (by simpa using behind.symm)
          simp [none]
      | cons value rest =>
        cases primed with
        | true =>
          have ahead : ¬ rest.length + 1 + older.length = seen := by
            simp only [List.length_cons, if_true] at behind
            omega
          simp [ahead]
        | false => simp
    simp only [Stream.poll, Bool.false_eq_true, if_false, current]
    cases fresh with
    | nil =>
      cases ended : s.ended with
      | true => exact ⟨by rfl, Nat.zero_add _, fun _ => ⟨ended, rfl⟩⟩
      | false => exact ⟨by rfl, Nat.zero_add _, nofun⟩
    | cons value rest => exact ⟨by rfl, Nat.zero_add _, nofun⟩

theorem Stream.Owed.congr (owed : stream.Owed fresh s) (feed : s'.feed = s.feed)
    (ended : s.ended = true → s'.ended = true) : stream.Owed fresh s' where
  behind := by rw [feed, owed.behind]
  atEnd finished := (owed.atEnd finished).imp_left ended

end Streams

/-! ## One subscription -/

namespace Subscription

/-- The value that the stream with a number yields in an act. -/
def yields? (s : Subscription) (n : Nat) : Act → Option Snapshot
  | .poll stream => if stream = n then (s.poll? n).bind (·.1.value?) else none
  | _ => none

section Delivers

variable {published : List Snapshot} {news : Nat → List Snapshot} {s s' : Subscription}
  {now : Nat} {transport : Transport}

/-- Nothing is published and nothing is yielded. -/
theorem Delivers.still (delivers : s.Delivers published news) (feed : s'.feed = s.feed)
    (ended : s.ended = true → s'.ended = true)
    (closes : s'.liveness.closed = true → s.liveness.closed = true ∨ s'.ended = true)
    (streams : ∀ e ∈ s'.streams, e ∈ s.streams) (next : s'.nextStream = s.nextStream) :
    s'.Delivers published news where
  feed := feed.trans delivers.feed
  ended closed := (closes closed).elim (fun closed => ended (delivers.ended closed)) id
  numbered e member := next ▸ delivers.numbered e (streams e member)
  ahead n bound := delivers.ahead n (next ▸ bound)
  owed e member := (delivers.owed e (streams e member)).congr feed ended

theorem Delivers.toiled (delivers : s.Delivers published news) (toiled : Toiled s s') :
    s'.Delivers published news := by
  cases toiled with
  | goesOn => exact delivers.still rfl id .inl (fun _ => id) rfl
  | closes => exact delivers.still rfl (fun _ => rfl) (fun _ => .inr rfl) (fun _ => id) rfl

theorem Delivers.updateLiveness (delivers : s.Delivers published news) (now : Nat)
    (change : Liveness → Liveness) (same : ∀ l, (change l).closed = l.closed) :
    (s.updateLiveness now change).Delivers published news := by
  rw [Subscription.updateLiveness]
  split
  · exact delivers
  · refine delivers.still rfl id (fun closed => .inl ?_) (fun _ => id) rfl
    exact (same s.liveness).symm.trans closed

theorem Delivers.attach (delivers : s.Delivers published news)
    (unclosed : s.liveness.closed = false) :
    (s.attached now).Delivers published news := by
  rw [attached, updateLiveness_open unclosed]
  refine ⟨delivers.feed, ?_, ?_, ?_, ?_⟩
  · intro closed
    cases unclosed.symm.trans closed
  · intro e member
    rcases List.mem_append.mp member with member | last
    · exact Nat.lt_succ_of_lt (delivers.numbered e member)
    · obtain rfl := List.mem_singleton.mp last
      exact Nat.lt_succ_self _
  · exact fun n bound => delivers.ahead n (Nat.le_of_succ_le bound)
  · intro e member
    rcases List.mem_append.mp member with member | last
    · exact (delivers.owed e member).congr rfl id
    · obtain rfl := List.mem_singleton.mp last
      -- Nothing was polled yet, so all that was published is still to come.
      refine ⟨?_, fun finished => by cases finished⟩
      simp only [delivers.ahead _ (Nat.le_refl _), Stream.begin, delivers.feed]
      rfl

/-- What is published is news to every stream, whatever becomes of the callers. -/
theorem Delivers.feeds (delivers : s.Delivers published news) (isOpen : s.ended = false)
    (snapshot : Snapshot) (next : Awaited) (answered : List Answered) (highest : Option Int64) :
    ({ s with next, answered, highest, feed := s.feed.publish snapshot } : Subscription).Delivers
      (snapshot :: published) (fun n => snapshot :: news n) := by
  refine ⟨?_, delivers.ended, delivers.numbered, ?_, ?_⟩
  · rw [delivers.feed]
    rfl
  · exact fun n bound => congrArg _ (delivers.ahead n bound)
  · intro e member
    obtain ⟨behind, atEnd⟩ := delivers.owed e member
    refine ⟨?_, fun finished => ?_⟩
    · simp only [Feed.publish, List.length_cons, ← behind]
      omega
    · cases isOpen.symm.trans (atEnd finished).1

theorem Delivers.publish (delivers : s.Delivers published news) (isOpen : s.ended = false)
    {tick : Option Int64} (applied : s.isStale tick = false) (snapshot : Snapshot) :
    (s.publish now snapshot tick).1.Delivers (snapshot :: published)
      (fun n => snapshot :: news n) := by
  rw [Subscription.publish, applied]
  simp only [Bool.false_eq_true, if_false]
  have told := delivers.feeds isOpen snapshot .fresh s.answered (tick.or s.highest)
  exact (told.updateLiveness now (fun l => { l with promoted := false })
    fun _ => rfl).updateLiveness now _ fun _ => rfl

theorem Delivers.accept (delivers : s.Delivers published news) (isOpen : s.ended = false)
    {tick : Option Int64} (applied : s.isStale tick = false) (snapshot : Snapshot) :
    (s.accept now snapshot tick).1.Delivers (snapshot :: published)
      (fun n => snapshot :: news n) := by
  rw [Subscription.accept, applied]
  simp only [Bool.false_eq_true, if_false]
  exact (delivers.feeds isOpen snapshot .fresh _ (tick.or s.highest)).updateLiveness now _
    fun _ => rfl

theorem Delivers.depart (delivers : s.Delivers published news) (now call : Nat) :
    (s.depart now call).Delivers published news := by
  have without : ({ s with answered := s.answered.eraseP (·.call = call) } :
      Subscription).Delivers published news :=
    delivers.still rfl id .inl (fun _ => id) rfl
  rw [Subscription.depart]
  split
  · exact without.updateLiveness now (fun l => { l with waiters := l.waiters - 1 }) fun _ => rfl
  · exact delivers

theorem Delivers.poll (delivers : s.Delivers published news) (recent : ∀ n, news n <+: published)
    {number : Nat} {found : Poll Snapshot} (polled : s.poll? number = some (found, s')) :
    found = .ofNews (news number) s.ended ∧
      s'.Delivers published (fun n => if number = n then [] else news n) := by
  obtain ⟨stream, there, same⟩ := Option.map_eq_some_iff.mp polled
  have member : (number, stream) ∈ s.streams := by
    obtain ⟨before, after, all, -⟩ := List.lookup_eq_some_iff.mp there
    rw [all]
    exact List.mem_append_right _ List.mem_cons_self
  obtain ⟨finds, owed⟩ := (delivers.owed _ member).poll delivers.feed (recent number)
  cases same
  refine ⟨finds, delivers.feed, delivers.ended, ?_, ?_, ?_⟩
  · intro e member
    obtain ⟨older, there, rfl⟩ := List.mem_map.mp member
    split
    · next same => exact same ▸ delivers.numbered older there
    · exact delivers.numbered older there
  · intro n bound
    have other : ¬ number = n := Nat.ne_of_lt (Nat.lt_of_lt_of_le (delivers.numbered _ member) bound)
    rw [if_neg other]
    exact delivers.ahead n bound
  · intro e member
    obtain ⟨older, there, rfl⟩ := List.mem_map.mp member
    by_cases here : older.1 = number
    · rw [if_pos here, if_pos rfl]
      exact owed.congr rfl id
    · rw [if_neg here, if_neg (Ne.symm here)]
      exact (delivers.owed older there).congr rfl id

/-- What an act makes of the publications and the news. -/
theorem Delivers.undergo (delivers : s.Delivers published news)
    (recent : ∀ n, news n <+: published) (now : Nat) (transport : Transport) (a : Act) :
    (s.undergo now transport a).1.Delivers ((s.publishes? a).toList ++ published) (fun n =>
      if (s.yields? n a).isSome then [] else (s.publishes? a).toList ++ news n) := by
  cases a with
  | nothing => exact delivers
  | attach =>
    cases closed : s.liveness.closed with
    | true =>
      simp only [Subscription.undergo, attach?, closed]
      exact delivers
    | false =>
      rw [Subscription.undergo, attach?_open closed]
      exact delivers.attach closed
  | detach stream =>
    rw [Subscription.undergo, Subscription.detach]
    split
    · have without : ({ s with streams := s.streams.filter (·.1 ≠ stream) } :
          Subscription).Delivers published news :=
        delivers.still rfl id .inl (fun e member => (List.mem_filter.mp member).1) rfl
      exact without.updateLiveness now (fun l => { l with consumers := l.consumers - 1 }) fun _ => rfl
    · exact delivers
  | poll stream =>
    cases polled : s.poll? stream with
    | none =>
      have same (n : Nat) : s.yields? n (.poll stream) = none := by
        rw [yields?]
        split
        · next here => rw [← here, polled]; rfl
        · rfl
      simp only [Subscription.undergo, polled, same]
      exact delivers
    | some result =>
      obtain ⟨found, s'⟩ := result
      obtain ⟨finds, after⟩ := delivers.poll recent polled
      have same (n : Nat) : (if (s.yields? n (.poll stream)).isSome then [] else news n) =
          if stream = n then [] else news n := by
        rw [yields?]
        by_cases here : stream = n
        · subst here
          -- A poll that yields nothing finds no news.
          simp only [if_true, polled, Option.bind_some, finds]
          cases news stream with
          | nil => exact ite_self _
          | cons value rest => rfl
        · simp [here]
      simp only [Subscription.undergo, polled, publishes?, Option.toList_none, List.nil_append, same]
      exact after
  | park call =>
    cases closed : s.liveness.closed with
    | true =>
      simp only [Subscription.undergo, park?, closed]
      exact delivers
    | false =>
      rw [Subscription.undergo, park?_open closed, withParked]
      have counted := delivers.updateLiveness now (fun l => { l with waiters := l.waiters + 1 })
        fun _ => rfl
      exact counted.still rfl id .inl (fun _ => id) rfl
  | giveUp call =>
    have left : ({ s with next := s.next.leave call } : Subscription).Delivers published news :=
      delivers.still rfl id .inl (fun _ => id) rfl
    rw [Subscription.undergo, Subscription.abort, forgo]
    split
    · exact (left.updateLiveness now (fun l => { l with waiters := l.waiters - 1 })
        fun _ => rfl).depart now call
    · exact left.depart now call
  | hear response =>
    rw [Subscription.undergo, publishes?]
    cases closed : s.isClosed with
    | true => exact delivers.toiled (toiled_close s transport)
    | false =>
      cases stale : s.isStale response.serverTick with
      | true =>
        simp only [publish_stale stale]
        exact delivers
      | false =>
        have goesOn : s.ended = false := (Bool.or_eq_false_iff.mp closed).1
        exact delivers.publish goesOn stale response.snapshot
  | accept response =>
    rw [Subscription.undergo, publishes?]
    cases closed : s.isClosed with
    | true => exact delivers.toiled (toiled_close s transport)
    | false =>
      cases stale : s.isStale response.serverTick with
      | true =>
        simp only [accept_stale stale]
        exact delivers
      | false =>
        have goesOn : s.ended = false := (Bool.or_eq_false_iff.mp closed).1
        exact delivers.accept goesOn stale response.snapshot
  | depart call cancelled => exact delivers.depart now call
  | close => exact delivers.toiled (toiled_close s transport)
  | endScope =>
    exact delivers.still rfl (fun _ => rfl) (fun _ => .inr rfl) (fun _ => id) rfl

theorem delivers_newest (p : Place) (t : Timing) (every : Interval) :
    (p.newest t every).Delivers [] fun _ => [] := by
  have begun : (Subscription.begin t.now t.period t.window every p.call?).Delivers []
      fun _ => [] := ⟨rfl, nofun, nofun, fun _ _ => rfl, nofun⟩
  exact begun.attach rfl

end Delivers

end Subscription

/-! ## Histories -/

section Histories

variable {c : Client} {net : Network} {h : SubscriptionHandle} {k : StreamHandle}
  {past : List Record} {s : Subscription} {r : Record}

theorem acts_eq_poll {c : Client} {l : Location} {e : Event} {n stream : Nat} :
    c.acts l e n = .poll stream ↔ e = .poll ⟨⟨l, n⟩, stream⟩ := by
  cases e with
  | poll other =>
    obtain ⟨⟨there, m⟩, number⟩ := other
    by_cases here : there = l
    · by_cases same : m = n <;> simp [acts, actsOn, here, same]
    · simp [acts, here]
  | request | subscribe | respond | unsubscribe | close | detach | closeSubscription =>
    refine iff_of_false (elsewhere_ne ?_ (unless_ne ?_ ?_ _) _) fun same => by cases same
    all_goals exact fun same => by cases same
  | abort call =>
    refine iff_of_false ?_ fun same => by cases same
    rw [acts]
    split
    · exact fun same => by cases same
    · exact fun same => by cases same
  | release | wake | elapse =>
    exact iff_of_false (fun same => by cases same) fun same => by cases same

theorem Record.act_eq_poll : r.act k.subscription = .poll k.number ↔ r.move.polls k = true := by
  obtain ⟨c, net, m⟩ := r
  obtain ⟨⟨l, n⟩, stream⟩ := k
  cases m with
  | event e =>
    rw [Record.act, acts_eq_poll]
    cases e <;> simp [Move.polls]
  | operation there e =>
    simp only [Record.act]
    by_cases here : there = l
    · rw [if_pos here, acts_eq_poll]
      cases e <;> simp [Move.polls, here]
    · rw [if_neg here]
      cases e <;> simp [Move.polls, here]
  | chore => simp [Record.act, Move.polls]
  | hear | shut =>
    refine iff_of_false (unless_ne ?_ (unless_ne ?_ ?_ _) _) fun same => by cases same
    all_goals exact fun same => by cases same
  | depart =>
    refine iff_of_false (unless_ne ?_ ?_ _) fun same => by cases same
    all_goals exact fun same => by cases same

theorem value?_poll (found : c.subscription? k.subscription = some s) :
    (c.poll k).1.value? = (s.poll? k.number).bind (·.1.value?) := by
  have there : (c.place k.subscription.location).subscription? k.subscription.number = some s :=
    found
  rw [Client.poll, Place.poll, there, Option.bind_some]
  cases s.poll? k.number <;> rfl

theorem Record.yielded?_eq (found : r.client.subscription? k.subscription = some s) :
    r.yielded? k = s.yields? k.number (r.act k.subscription) := by
  rw [Record.yielded?, value?_poll found]
  by_cases polls : r.move.polls k = true
  · rw [if_pos polls, Record.act_eq_poll.mpr polls, yields?, if_pos rfl]
  · rw [if_neg polls]
    have other := mt Record.act_eq_poll.mp polls
    cases act : r.act k.subscription with
    | poll stream =>
      rw [act] at other
      have different : ¬ stream = k.number := fun same => other (congrArg Act.poll same)
      rw [yields?, if_neg different]
    | _ => rfl

theorem Record.yielded?_absent (absent : r.client.subscription? k.subscription = none) :
    r.yielded? k = none := by
  have there : (r.client.place k.subscription.location).subscription? k.subscription.number = none :=
    absent
  rw [Record.yielded?, Client.poll, Place.poll, there]
  exact ite_self _

theorem news_cons (k : StreamHandle) (r : Record) (past : List Record) :
    news k (r :: past) = if (r.yielded? k).isSome then []
      else (r.published? k.subscription).toList ++ news k past := rfl

/-- What holds of a subscription after any history, whether or not it was opened by then. -/
structure Serves (past : List Record) (c : Client) (h : SubscriptionHandle) : Prop where
  absent : c.subscription? h = none →
    publications h past = [] ∧ ∀ n, news ⟨h, n⟩ past = []
  delivers : ∀ s, c.subscription? h = some s →
    s.Delivers (publications h past) fun n => news ⟨h, n⟩ past

/-- A subscription that is not there publishes and yields nothing. -/
theorem silent_absent (absent : c.subscription? h = none)
    (nothing : publications h past = [] ∧ ∀ n, news ⟨h, n⟩ past = []) (net : Network) (m : Move) :
    publications h (⟨c, net, m⟩ :: past) = [] ∧
      ∀ n, news ⟨h, n⟩ (⟨c, net, m⟩ :: past) = [] := by
  have unpublished : Record.published? h ⟨c, net, m⟩ = none := by
    rw [Record.published?, absent]
    rfl
  refine ⟨?_, fun n => ?_⟩
  · rw [publications_cons, unpublished, nothing.1]
    rfl
  · rw [news_cons, unpublished, nothing.2 n]
    exact ite_self _

theorem Serves.make (serves : Serves past c h) (distinct : KeyedList.Distinct c.places)
    (net : Network) (m : Move) : Serves (⟨c, net, m⟩ :: past) (c.make net m) h := by
  cases found : c.subscription? h with
  | none =>
    have silent := silent_absent found (serves.absent found) net m
    refine ⟨fun _ => silent, fun s' there => ?_⟩
    rcases absent_make distinct found net m with still | ⟨-, every, _, opened, toiled⟩
    · cases still.symm.trans there
    · cases opened.symm.trans there
      rw [silent.1, funext silent.2]
      exact (delivers_newest _ _ every).toiled toiled
  | some s =>
    have becomes := subscription?_make distinct found net m
    refine ⟨fun absent => ?_, fun s' there => ?_⟩
    · cases becomes.symm.trans absent
    · cases becomes.symm.trans there
      have acted := (serves.delivers s found).undergo (fun n => news_prefix ⟨h, n⟩ past) c.now
        (net h.location) (Record.act ⟨c, net, m⟩ h)
      have published : Record.published? h ⟨c, net, m⟩ =
          s.publishes? (Record.act ⟨c, net, m⟩ h) := by
        rw [Record.published?, found]
        rfl
      have yielded (n : Nat) : Record.yielded? ⟨h, n⟩ ⟨c, net, m⟩ =
          s.yields? n (Record.act ⟨c, net, m⟩ h) := Record.yielded?_eq found
      simp only [publications_cons, news_cons, published, yielded]
      exact acted.toiled (undergoes_toiled net c h s m)

theorem Leads.serves {config : Config} (leads : Leads (ofConfig config) past c)
    (h : SubscriptionHandle) : Serves past c h := by
  induction leads with
  | here => exact ⟨fun _ => ⟨rfl, fun _ => rfl⟩, fun s found => nomatch found⟩
  | move past c net m leads ih => exact ih.make (leads.distinct KeyedList.distinct_nil) net m

/-- A stream that is attached yields the latest of its news, or is pending or at its end. -/
theorem Leads.poll_eq {config : Config} (leads : Leads (ofConfig config) past c)
    (found : c.subscription? k.subscription = some s)
    (attached : (s.poll? k.number).isSome) : (c.poll k).1 = .ofNews (news k past) s.ended := by
  have delivers := (leads.serves k.subscription).delivers s found
  have there : (c.place k.subscription.location).subscription? k.subscription.number = some s :=
    found
  obtain ⟨⟨answer, s'⟩, polled⟩ := Option.isSome_iff_exists.mp attached
  obtain ⟨finds, -⟩ := delivers.poll (fun n => news_prefix ⟨k.subscription, n⟩ past) polled
  rw [Client.poll, Place.poll, there, Option.bind_some, polled]
  exact finds

theorem Leads.yields_news {config : Config} (leads : Leads (ofConfig config) past c)
    {m : Move} {value : Snapshot} (yielded : Record.yielded? k ⟨c, net, m⟩ = some value) :
    ∃ rest, news k past = value :: rest := by
  cases found : c.subscription? k.subscription with
  | none => cases (Record.yielded?_absent (r := ⟨c, net, m⟩) found).symm.trans yielded
  | some s =>
    have polled := value?_poll found
    rw [Record.yielded?] at yielded
    split at yielded
    · cases answer : s.poll? k.number with
      | none =>
        rw [answer] at polled
        cases polled.symm.trans yielded
      | some result =>
        rw [leads.poll_eq found (by rw [answer]; rfl)] at yielded
        cases all : news k past with
        | nil =>
          rw [all, Poll.ofNews] at yielded
          split at yielded <;> cases yielded
        | cons latest rest =>
          rw [all] at yielded
          cases yielded
          exact ⟨rest, rfl⟩
    · cases yielded

theorem Record.unpublished {value : Snapshot} (yielded : r.yielded? k = some value) :
    r.published? k.subscription = none := by
  have polls : r.move.polls k = true := by
    rw [Record.yielded?] at yielded
    split at yielded
    · next polls => exact polls
    · cases yielded
  rw [Record.published?, Record.act_eq_poll.mpr polls]
  cases r.client.subscription? k.subscription <;> rfl

/-- The publications are the news and those before, of which the last is the last that was yielded.
The stream has yielded some of these, in their order. -/
theorem Leads.yields_older {config : Config} (leads : Leads (ofConfig config) past c)
    (k : StreamHandle) : ∃ older, publications k.subscription past = news k past ++ older ∧
      (yields k past).Sublist older ∧ (yields k past).head? = older.head? := by
  induction leads with
  | here => exact ⟨[], rfl, List.Sublist.refl [], rfl⟩
  | move past c net m leads ih =>
    obtain ⟨older, split, some, last⟩ := ih
    rw [publications_cons, yields_cons, news_cons]
    cases yielded : Record.yielded? k ⟨c, net, m⟩ with
    | none =>
      refine ⟨older, ?_, some, last⟩
      rw [split, ← List.append_assoc]
      rfl
    | some value =>
      -- A move that yields publishes nothing, and what it yields is the first of the news.
      obtain ⟨rest, first⟩ := leads.yields_news yielded
      have unpublished : Record.published? k.subscription ⟨c, net, m⟩ = none :=
        Record.unpublished yielded
      rw [unpublished, split, first]
      refine ⟨value :: rest ++ older, rfl, ?_, rfl⟩
      exact (some.trans (List.sublist_append_right rest older)).cons_cons value

/-- Of a stream in any history, whatever else happens, its subscription and the client being closed
or let go included.  What it yields are publications of its subscription, in their order and each at
most once, and the news are all that was published after the last of them.  While it is attached a
poll yields a value exactly if there are news, and then the most recent publication.  A poll finds it
pending exactly if there are none and the subscription is open, and at its end exactly if there are
none and the subscription has closed; then the last value that it has yielded is the most recent
publication. -/
theorem stream_yields_latest {config : Config} (leads : Leads (ofConfig config) past c)
    (k : StreamHandle) :
    (yields k past).Sublist (publications k.subscription past) ∧
    (∃ older, publications k.subscription past = news k past ++ older ∧
      (yields k past).head? = older.head?) ∧
    ∀ s, c.subscription? k.subscription = some s → s.streams.any (·.1 = k.number) = true →
      (∀ value, (c.poll k).1 = .value value ↔
        news k past ≠ [] ∧ (publications k.subscription past).head? = some value) ∧
      ((c.poll k).1 = .pending ↔ s.isClosed = false ∧ news k past = []) ∧
      ((c.poll k).1 = .finished ↔ s.isClosed = true ∧ news k past = []) ∧
      ((c.poll k).1 = .finished →
        (yields k past).head? = (publications k.subscription past).head?) := by
  obtain ⟨older, split, some, last⟩ := leads.yields_older k
  refine ⟨?_, ⟨older, split, last⟩, fun s found attached => ?_⟩
  · rw [split]
    exact some.trans (List.sublist_append_right ..)
  · have delivers := (leads.serves k.subscription).delivers s found
    have polled := isSome_poll? attached
    have closed : s.isClosed = s.ended := by
      rw [Subscription.isClosed, Bool.or_eq_left_iff_imp]
      exact delivers.ended
    rw [leads.poll_eq found polled, split, closed]
    cases all : news k past with
    | nil =>
      cases s.ended with
      | true => simp [Poll.ofNews, last]
      | false => simp [Poll.ofNews]
    | cons latest rest => simp [Poll.ofNews]

/-- A stream that begins after the first publication yields it, misses the second, yields the third
although its subscription has closed by then, and ends. -/
theorem stream_yields_latest_of_late :
    let works : Network := fun _ _ => none
    let h : SubscriptionHandle := ⟨⟨"overworld", ⟨1, 2, 3⟩⟩, 0⟩
    let shot (slot : UInt8) : Snapshot := ⟨.ofList [(⟨"gauge", slot⟩, .empty)]⟩
    let joins : Move := .event (.subscribe h.location (.clamp 20))
    let hears (slot : UInt8) : Move := .event (.respond ⟨h.location, shot slot, none⟩)
    let polls : Move := .operation h.location (.poll ⟨h, 1⟩)
    let c₀ := ofConfig {}
    let c₁ := c₀.make works joins
    let c₂ := c₁.make works (hears 1)
    let c₃ := c₂.make works joins
    let c₄ := c₃.make works polls
    let c₅ := c₄.make works (hears 2)
    let c₆ := c₅.make works (hears 3)
    let c₇ := c₆.make works (.event .close)
    let c₈ := c₇.make works polls
    let past : List Record := [⟨c₆, works, .event .close⟩, ⟨c₅, works, hears 3⟩,
      ⟨c₄, works, hears 2⟩, ⟨c₃, works, polls⟩, ⟨c₂, works, joins⟩, ⟨c₁, works, hears 1⟩,
      ⟨c₀, works, joins⟩]
    let later : List Record := ⟨c₇, works, polls⟩ :: past
    Leads c₀ later c₈ ∧ publications h later = [shot 3, shot 2, shot 1] ∧
      yields ⟨h, 1⟩ past = [shot 1] ∧ (c₇.poll ⟨h, 1⟩).1 = .value (shot 3) ∧
      yields ⟨h, 1⟩ later = [shot 3, shot 1] ∧ (c₈.poll ⟨h, 1⟩).1 = .finished := by
  intro works h shot joins hears polls c₀ c₁ c₂ c₃ c₄ c₅ c₆ c₇ c₈ past later
  have leads : Leads c₀ past c₇ :=
    .move _ c₆ works _ (.move _ c₅ works _ (.move _ c₄ works _ (.move _ c₃ works _
      (.move _ c₂ works _ (.move _ c₁ works _ (.move _ c₀ works _ .here))))))
  have leads' : Leads c₀ later c₈ := .move _ c₇ works _ leads
  have closed : (c₇.subscription? h).map (fun s => s.isClosed && s.streams.any (·.1 = 1)) =
      some true := by decide +kernel +zetaReduce
  have published : publications h past = [shot 3, shot 2, shot 1] := by
    decide +kernel +zetaReduce
  have unseen : news ⟨h, 1⟩ past = [shot 3, shot 2] := by decide +kernel +zetaReduce
  have seen : yields ⟨h, 1⟩ past = [shot 1] := by decide +kernel +zetaReduce
  have closed' : (c₈.subscription? h).map (fun s => s.isClosed && s.streams.any (·.1 = 1)) =
      some true := by decide +kernel +zetaReduce
  have published' : publications h later = [shot 3, shot 2, shot 1] := by
    decide +kernel +zetaReduce
  have unseen' : news ⟨h, 1⟩ later = [] := by decide +kernel +zetaReduce
  have seen' : yields ⟨h, 1⟩ later = [shot 3, shot 1] := by decide +kernel +zetaReduce
  -- From here on it does not matter what the states are.
  clear_value later past c₈ c₇
  obtain ⟨s, found, closing⟩ := Option.map_eq_some_iff.mp closed
  obtain ⟨s', found', closing'⟩ := Option.map_eq_some_iff.mp closed'
  obtain ⟨-, attached⟩ := (Bool.and_eq_true_iff).mp closing
  obtain ⟨ended, attached'⟩ := (Bool.and_eq_true_iff).mp closing'
  obtain ⟨value, -⟩ := (stream_yields_latest leads ⟨h, 1⟩).2.2 s found attached
  obtain ⟨-, -, finished, -⟩ := (stream_yields_latest leads' ⟨h, 1⟩).2.2 s' found' attached'
  refine ⟨leads', published', seen, (value _).mpr ⟨?_, ?_⟩, seen', finished.mpr ⟨ended, unseen'⟩⟩
  · rw [unseen]
    nofun
  · rw [published]
    rfl

end Histories

end ObservationFeed.Client
