import Mathlib.Data.List.Perm.Subperm
import ObservationFeed.Proofs.Mailbox
import ObservationFeed.Proofs.Server.Respects
import ObservationFeed.Site

/-!
# Who was sent a response

A sweep hands the observation of a location to each due client in turn, and a
client that cannot be reached does not keep the others from theirs.  What the
sweep reports is another matter: a location counts as broadcast, and its due
clients as notified, only if all of them were reached.

What was handed over is read off the channels, by what waits there after the
sweep and did not before.
-/

namespace ObservationFeed.Server

open KeyedList

/-! ## Counting -/

section Counts

variable {α : Type} {p q : α → Prop} {m n : Nat}

theorem Counts.congr (counts : Counts p n) (same : ∀ a, p a ↔ q a) : Counts q n := by
  obtain ⟨items, nodup, member, length⟩ := counts
  exact ⟨items, nodup, fun a => (member a).trans (same a), length⟩

theorem Counts.or (first : Counts p m) (second : Counts q n) (apart : ∀ a, p a → ¬ q a) :
    Counts (fun a => p a ∨ q a) (m + n) := by
  obtain ⟨left, nodupLeft, memLeft, rfl⟩ := first
  obtain ⟨right, nodupRight, memRight, rfl⟩ := second
  refine ⟨left ++ right, List.nodup_append.mpr ⟨nodupLeft, nodupRight, ?_⟩, ?_, by simp⟩
  · rintro a here _ there rfl
    exact apart a ((memLeft a).mp here) ((memRight a).mp there)
  · simp [memLeft, memRight]

/-- The number of some things with a property is that of all exactly if there are no others. -/
theorem Counts.whole_iff (part : Counts p n) (within : ∀ a, p a → q a) :
    Counts q n ↔ ∀ a, q a → p a := by
  constructor
  · rintro ⟨all, nodup, memAll, length⟩
    obtain ⟨items, nodupItems, memItems, rfl⟩ := part
    have listed : items ⊆ all := fun a here => (memAll a).mpr (within a ((memItems a).mp here))
    have perm := (nodupItems.subperm listed).perm_of_length_le (Nat.le_of_eq length)
    exact fun a has => (memItems a).mp (perm.mem_iff.mpr ((memAll a).mpr has))
  · exact fun others => part.congr fun a => ⟨within a, others a⟩

end Counts

/-! ## What came to wait -/

/-- The client can be handed a message. -/
def Reached (boxes : Mailboxes Response) (c : ClientId) : Prop := boxes.reach c = some (true, false)

/-- A response about the location waits for the client after, and did not before. -/
def Delivered (before after : Mailboxes Response) (c : ClientId) (l : Location) : Prop :=
  ∃ response ∈ (after.inbox c).drop (before.inbox c).length, response.location = l

instance (boxes : Mailboxes Response) (c : ClientId) : Decidable (Reached boxes c) :=
  inferInstanceAs (Decidable (_ = _))

instance (before after : Mailboxes Response) (c : ClientId) (l : Location) :
    Decidable (Delivered before after c l) :=
  inferInstanceAs (Decidable (∃ response ∈ (_ : List Response), response.location = l))

/-- From some channels to others, responses came to wait about locations with some due clients: at
each location for all that can be reached, or for none.  The number is that of the responses about
locations all of whose due clients can be reached. -/
structure Ledger (due : Location → List ClientId) (before after : Mailboxes Response)
    (notified : Nat) : Prop where
  reach : after.reach = before.reach
  grows : ∀ c, before.inbox c <+: after.inbox c
  owed : ∀ c l, Delivered before after c l → c ∈ due l ∧ Reached before c
  even : ∀ c l, Delivered before after c l → ∀ other ∈ due l, Reached before other →
    Delivered before after other l
  counts : Counts (fun e : ClientId × Location =>
    Delivered before after e.1 e.2 ∧ ∀ c ∈ due e.2, Reached before c) notified

namespace Ledger

variable {due later : Location → List ClientId} {a b d : Mailboxes Response} {m n : Nat}

theorem not_delivered_self (a : Mailboxes Response) (c : ClientId) (l : Location) :
    ¬ Delivered a a c l := by
  simp [Delivered]

theorem silent (due : Location → List ClientId) (a : Mailboxes Response) : Ledger due a a 0 where
  reach := rfl
  grows _ := List.prefix_rfl
  owed c l delivered := absurd delivered (not_delivered_self a c l)
  even c l delivered := absurd delivered (not_delivered_self a c l)
  counts := ⟨[], List.nodup_nil, by simp [not_delivered_self], rfl⟩

theorem delivered_trans (first : Ledger due a b m) (second : Ledger later b d n) (c : ClientId)
    (l : Location) : Delivered a d c l ↔ Delivered a b c l ∨ Delivered b d c l := by
  obtain ⟨fresh, here⟩ := first.grows c
  obtain ⟨more, there⟩ := second.grows c
  simp only [Delivered, ← there, ← here, List.append_assoc, List.drop_left, List.mem_append,
    or_and_right, exists_or]
  rw [← List.append_assoc, List.drop_left]

/-- Responses about some locations, and then about others. -/
theorem trans (first : Ledger due a b m) (second : Ledger later b d n)
    (apart : ∀ l, due l = [] ∨ later l = []) :
    Ledger (fun l => due l ++ later l) a d (m + n) := by
  have same (c : ClientId) : Reached b c ↔ Reached a c := by rw [Reached, first.reach, Reached]
  -- A location that a response is about is owed its observation in one of the two parts only.
  have onlyFirst (c : ClientId) (l : Location) (delivered : Delivered a b c l) : later l = [] :=
    (apart l).resolve_left (List.ne_nil_of_mem (first.owed c l delivered).1)
  have onlySecond (c : ClientId) (l : Location) (delivered : Delivered b d c l) : due l = [] :=
    (apart l).resolve_right (List.ne_nil_of_mem (second.owed c l delivered).1)
  refine ⟨second.reach.trans first.reach, fun c => (first.grows c).trans (second.grows c),
    ?owed, ?even, ?counts⟩
  case owed =>
    intro c l delivered
    rcases (first.delivered_trans second c l).mp delivered with here | there
    · simpa using (first.owed c l here).imp_left Or.inl
    · obtain ⟨listed, reached⟩ := second.owed c l there
      exact ⟨List.mem_append_right _ listed, (same c).mp reached⟩
  case even =>
    intro c l delivered other listed reached
    rw [first.delivered_trans second]
    rcases (first.delivered_trans second c l).mp delivered with here | there
    · rw [onlyFirst c l here, List.append_nil] at listed
      exact .inl (first.even c l here other listed reached)
    · rw [onlySecond c l there, List.nil_append] at listed
      exact .inr (second.even c l there other listed ((same other).mpr reached))
  case counts =>
    refine (first.counts.or second.counts ?_).congr ?_
    · rintro ⟨c, l⟩ ⟨here, -⟩ ⟨there, -⟩
      have listed := (first.owed c l here).1
      rw [onlySecond c l there] at listed
      cases listed
    · rintro ⟨c, l⟩
      simp only [first.delivered_trans second, same]
      constructor
      · rintro (⟨here, all⟩ | ⟨there, all⟩)
        · exact ⟨.inl here, by simpa [onlyFirst c l here] using all⟩
        · exact ⟨.inr there, by simpa [onlySecond c l there] using all⟩
      · rintro ⟨here | there, all⟩
        · exact .inl ⟨here, by simpa [onlyFirst c l here] using all⟩
        · exact .inr ⟨there, by simpa [onlySecond c l there] using all⟩

/-- One observation is handed to the due clients of its location. -/
theorem fanned (response : Response) {clients : List ClientId} (nodup : clients.Nodup)
    (a : Mailboxes Response) :
    Ledger (fun l => if l = response.location then clients else []) a
      (a.deliverAll response clients).2
      (if ∀ c ∈ clients, Reached a c then clients.length else 0) := by
  have delivered (c : ClientId) (l : Location) :
      Delivered a (a.deliverAll response clients).2 c l ↔
        (c ∈ clients ∧ Reached a c) ∧ response.location = l := by
    simp only [Delivered, Mailboxes.inbox_deliverAll response nodup, List.drop_left]
    split
    · next reached => simp [reached, Reached]
    · next missed => simp [missed, Reached]
  refine ⟨Mailboxes.reach_deliverAll response clients a, fun c => ?grows, ?owed, ?even, ?counts⟩
  case grows =>
    rw [Mailboxes.inbox_deliverAll response nodup]
    exact List.prefix_append ..
  case owed =>
    intro c l handed
    obtain ⟨⟨listed, reached⟩, rfl⟩ := (delivered c l).mp handed
    exact ⟨by rwa [if_pos rfl], reached⟩
  case even =>
    intro c l handed other listed reached
    obtain ⟨-, rfl⟩ := (delivered c l).mp handed
    rw [if_pos rfl] at listed
    exact (delivered other _).mpr ⟨⟨listed, reached⟩, rfl⟩
  case counts =>
    split
    · next all =>
      refine ⟨clients.map fun c => (c, response.location), ?_, ?_, List.length_map ..⟩
      · exact List.pairwise_map.mpr (nodup.imp fun different same => different (Prod.mk.inj same).1)
      · rintro ⟨c, l⟩
        simp only [List.mem_map, Prod.mk.injEq, delivered]
        constructor
        · rintro ⟨c, listed, rfl, rfl⟩
          exact ⟨⟨⟨listed, all c listed⟩, rfl⟩, by simpa using all⟩
        · rintro ⟨⟨⟨listed, -⟩, rfl⟩, -⟩
          exact ⟨c, listed, rfl, rfl⟩
    · next missed =>
      refine ⟨[], List.nodup_nil, ?_, rfl⟩
      rintro ⟨c, l⟩
      simp only [List.not_mem_nil, delivered, false_iff, not_and]
      rintro ⟨-, rfl⟩ all
      rw [if_pos rfl] at all
      exact missed all

end Ledger

/-! ## Sweeps -/

/-- The world with a sink that takes every response and hands over none. -/
def muted {ω : Type} (view : World ω) : Host (Site ω Response) where
  toWorld := view.within Site.world Site.setWorld
  send _ _ := pure (.ok ())

theorem respects_muted {ω : Type} (view : World ω) (boxes : Mailboxes Response) :
    (muted view).Respects fun s s' => s = s' ∧ s.boxes = boxes := by
  have kept {α : Type} (question : StateM ω α) :
      Respects (fun s s' => s = s' ∧ s.boxes = boxes)
        (onPart Site.world Site.setWorld question : StateM (Site ω Response) α) := by
    rintro s _ ⟨rfl, same⟩
    exact ⟨rfl, rfl, same⟩
  exact ⟨kept _, fun _ => kept _, fun _ => kept _, fun _ => kept _, fun _ _ => kept _,
    fun _ _ => respects_pure _⟩

namespace Sweep

variable {ω : Type} (view : World ω) (limits : Limits) (now : Tick)

/-- The checks of clients ask the world alone. -/
theorem checkClients_congr {σ : Type} {host other : Host σ} (same : host.toWorld = other.toWorld)
    (l : Location) (clients : Clients) :
    checkClients host limits now l clients = checkClients other limits now l clients := by
  induction clients with
  | nil => rfl
  | cons entry rest ih => simp only [checkClients, same, ih]

theorem due_checkClients_sublist {σ : Type} (host : Host σ) (l : Location) (clients : Clients)
    (s : σ) : (checkClients host limits now l clients s).1.due.Sublist (keys clients) := by
  induction clients generalizing s with
  | nil => exact List.nil_sublist _
  | cons entry rest ih =>
    obtain ⟨c, r⟩ := entry
    obtain ⟨due, -⟩ := checkClients_cons host limits now l c r rest s
    rw [due]
    split
    · exact (ih _).cons_cons c
    · exact (ih _).cons c

/-- A sink that answers without a failure has reached every client. -/
theorem send_directSink (response : Response) (due : List ClientId) (s : Site ω Response) :
    ((Site.host view directSink).send due response s).2.boxes =
        (s.boxes.deliverAll response due).2 ∧
      ((∀ c ∈ due, Reached s.boxes c) ↔
        ((Site.host view directSink).send due response s).1 = .ok ()) := by
  refine ⟨rfl, ?_⟩
  have told : ((Site.host view directSink).send due response s).1 = _ :=
    Mailboxes.deliverAll_fst response due s.boxes
  have reached : (∀ c ∈ due, Reached s.boxes c) ↔
      (due.findSome? fun c => Mailboxes.refusal? c (s.boxes.reach c)) = none := by
    simp only [List.findSome?_eq_none_iff, Mailboxes.refusal?_eq_none, Reached]
  rw [told, reached]
  cases due.findSome? fun c => Mailboxes.refusal? c (s.boxes.reach c) <;> simp

/-- What is handed over for one location. -/
theorem ledger_broadcast (l : Location) {due : List ClientId} (nodup : due.Nodup)
    (s : Site ω Response) :
    Ledger (fun there => if there = l then due else []) s.boxes
      (broadcast (Site.host view directSink) now l due s).2.boxes
      (tallyOf due (broadcast (Site.host view directSink) now l due s).1).notified := by
  have held : ((Site.host view directSink).hasContainer l s).2.boxes = s.boxes := rfl
  simp only [broadcast, run_bind]
  generalize (Site.host view directSink).hasContainer l s = found at held ⊢
  split
  · have seen : ((Site.host view directSink).observe l true found.2).2.boxes = s.boxes := held
    simp only [run_bind]
    generalize (Site.host view directSink).observe l true found.2 = observed at seen ⊢
    cases observed.1 with
    | error cause =>
      have nothing := Ledger.silent (fun there => if there = l then due else []) s.boxes
      rwa [← seen] at nothing ⊢
    | ok snapshot =>
      let response : Response := ⟨l, snapshot, now.signed?⟩
      have handed := Ledger.fanned response nodup observed.2.boxes
      obtain ⟨left, all⟩ := send_directSink view response due observed.2
      rw [← left] at handed
      rw [← seen]
      simp only [run_bind]
      cases answer : ((Site.host view directSink).send due response observed.2).1 with
      | error cause =>
        rw [if_neg (by rw [all, answer]; nofun)] at handed
        exact handed
      | ok _ =>
        rw [if_pos (all.mpr answer)] at handed
        exact handed
  · have nothing := Ledger.silent (fun there => if there = l then due else []) s.boxes
    rwa [← held] at nothing ⊢

theorem boxes_isInteractable (l : Location) (s : Site ω Response) :
    (Limits.isInteractable (Site.host view directSink).toWorld l s).2.boxes = s.boxes :=
  ((respects_muted view s.boxes).isInteractable l s s ⟨rfl, rfl⟩).2.2

theorem boxes_checkClients (l : Location) (clients : Clients) (s : Site ω Response) :
    (checkClients (Site.host view directSink) limits now l clients s).2.boxes = s.boxes := by
  have same : (Site.host view directSink).toWorld = (muted view).toWorld := rfl
  rw [checkClients_congr limits now same]
  exact ((respects_muted view s.boxes).checkClients limits now l clients s s ⟨rfl, rfl⟩).2.2

theorem ledger_sweepLocation (l : Location) {clients : Clients} (distinct : Distinct clients)
    (s : Site ω Response) :
    let swept := sweepLocation (Site.host view directSink) limits now l clients s
    let due := (dueAmong (Site.host view directSink) limits now l clients s).1
    Ledger (fun there => if there = l then due else []) s.boxes swept.2.boxes
      swept.1.2.notified := by
  cases clients with
  | nil => exact .silent ..
  | cons entry rest =>
    have placed := boxes_isInteractable view l s
    have opened : sweepLocation (Site.host view directSink) limits now l (entry :: rest) s =
      sweepClients (Site.host view directSink) limits now l (entry :: rest) s := rfl
    simp only [opened, sweepClients, dueAmong, run_bind]
    generalize Limits.isInteractable (Site.host view directSink).toWorld l s = ok at placed ⊢
    split
    · have checks := boxes_checkClients view limits now l (entry :: rest) ok.2
      have part :=
        due_checkClients_sublist limits now (Site.host view directSink) l (entry :: rest) ok.2
      simp only [run_bind]
      generalize checkClients (Site.host view directSink) limits now l (entry :: rest) ok.2 =
        checked at checks part ⊢
      rw [← placed, ← checks]
      split
      · exact .silent ..
      · have handed := ledger_broadcast view now l (part.nodup distinct) checked.2
        rw [← Nat.zero_add (Tally.notified _)] at handed
        exact handed
    · rw [← placed]
      exact .silent ..

/-- Nobody is due at a location that is not filed. -/
theorem dueAmong_reach_of_fresh {σ : Type} (host : Host σ) {l : Location}
    {filed : List (Location × Clients)} (fresh : l ∉ keys filed) (s : σ) :
    ((reach host limits now l filed >>= dueAmong host limits now l) s).1 = [] := by
  have nothing := yields_reach host limits now l filed s
  rw [find?_eq_none.mpr fresh, Option.getD_none] at nothing
  rw [run_bind, nothing, dueAmong, run_bind]
  split <;> rfl

theorem ledger_sweepFiled {filed : List (Location × Clients)} (distinct : Distinct filed)
    (clients : ∀ e ∈ filed, Distinct e.2) (s : Site ω Response) :
    let host := Site.host view directSink
    let swept := sweepFiled host limits now filed s
    Ledger (fun l => ((reach host limits now l filed >>= dueAmong host limits now l) s).1) s.boxes
      swept.2.boxes swept.1.2.notified := by
  intro host swept
  induction filed generalizing s with
  | nil =>
    exact .silent ..
  | cons entry rest ih =>
    obtain ⟨there, registered⟩ := entry
    obtain ⟨fresh, distinct⟩ := distinct_cons.mp distinct
    obtain ⟨alone, others⟩ := List.forall_mem_cons.mp clients
    have here := ledger_sweepLocation view limits now there alone s
    have later := ih distinct others (sweepLocation host limits now there registered s).2
    have absent := dueAmong_reach_of_fresh limits now host fresh
    have both := here.trans later fun l => by
      by_cases same : l = there
      · subst same
        exact .inr (absent _)
      · exact .inl (if_neg same)
    -- The locations after this one are reached in the surroundings that it leaves.
    have due (l : Location) :
        ((reach host limits now l ((there, registered) :: rest) >>=
            dueAmong host limits now l) s).1 =
          (if l = there then (dueAmong host limits now there registered s).1 else []) ++
            ((reach host limits now l rest >>= dueAmong host limits now l)
              (sweepLocation host limits now there registered s).2).1 := by
      rw [run_bind, reach_cons]
      by_cases same : l = there
      · subst same
        rw [if_pos rfl, if_pos rfl, absent, List.append_nil]
      · rw [if_neg (Ne.symm same), if_neg same]
        rfl
    simp only [due]
    exact both

/-- In a world of any kind, and whichever clients are connected, unknown or gone, a sweep reports as
notified the clients that were handed a response at the locations all of whose due clients can be
reached.  So the number is that of all the clients and locations with a response handed over
exactly if no location with one has a due client that cannot be reached. -/
theorem notified_counts_whole_broadcasts {t : Table} (proper : t.Proper) (s : Site ω Response) :
    let host := Site.host view directSink
    let swept := run host limits now t s
    let due (l : Location) := (dueAt host limits now t l s).1
    let delivered (e : ClientId × Location) := Delivered s.boxes swept.2.boxes e.1 e.2
    (∀ c l, delivered (c, l) → ∀ other, delivered (other, l) ↔
      other ∈ due l ∧ Reached s.boxes other) ∧
    Counts (fun e => delivered e ∧ ∀ c ∈ due e.2, Reached s.boxes c) swept.1.2.tally.notified ∧
    (Counts delivered swept.1.2.tally.notified ↔
      ∀ c l, delivered (c, l) → ∀ other ∈ due l, Reached s.boxes other) := by
  intro host swept due delivered
  have ledger : Ledger due s.boxes swept.2.boxes swept.1.2.tally.notified := by
    have filed := ledger_sweepFiled view limits now proper.distinct_filed proper.clients_filed s
    obtain ⟨-, tally, left⟩ := run_filed host limits now t s
    rw [tally, left]
    exact filed
  refine ⟨fun c l handed other => ⟨ledger.owed other l, fun owed => ?_⟩, ledger.counts, ?_⟩
  · exact ledger.even c l handed other owed.1 owed.2
  · rw [ledger.counts.whole_iff fun e whole => whole.1, Prod.forall]
    exact forall₃_congr fun c l handed => and_iff_right handed

/-- Two clients are due at one location, both are connected, and both are counted. -/
theorem notified_counts_whole_broadcasts_of_connected :
    let view : World Unit := {
      currentTick := pure (.ofNat 6)
      client := fun _ => pure (some ⟨"overworld", ⟨⟨0⟩, ⟨0⟩, ⟨0⟩⟩⟩)
      isLoaded := fun _ => pure true
      hasContainer := fun _ => pure true
      observe := fun _ _ => pure (.ok .empty) }
    let c : ClientId := ⟨1⟩
    let d : ClientId := ⟨2⟩
    let l : Location := ⟨"overworld", ⟨1, 2, 3⟩⟩
    let t := (Table.empty.update c l fun _ => .single c (.ofNat 5)).update d l
      fun _ => .single d (.ofNat 5)
    let s : Site Unit Response := ⟨(), (Mailboxes.empty.connect c).connect d⟩
    let swept := run (Site.host view directSink) ⟨Limits.defaultRange⟩ (.ofNat 6) t s
    t.Proper ∧
      Counts (fun e : ClientId × Location => Delivered s.boxes swept.2.boxes e.1 e.2) 2 := by
  intro view c d l t s swept
  have proper : t.Proper := (Table.proper_empty.update c l _).update d l _
  obtain ⟨-, -, exactly⟩ :=
    notified_counts_whole_broadcasts view ⟨Limits.defaultRange⟩ (.ofNat 6) proper s
  have notified : swept.1.2.tally.notified = 2 := by decide +kernel +zetaReduce
  rw [← notified]
  refine ⟨proper, exactly.mpr fun _ there _ other due => ?_⟩
  by_cases filed : there ∈ keys t.filed
  · obtain rfl : there = l := List.mem_singleton.mp filed
    revert other
    decide +kernel +zetaReduce
  · have nobody : (dueAt (Site.host view directSink) ⟨Limits.defaultRange⟩ (.ofNat 6) t there s).1 =
        [] := dueAmong_reach_of_fresh _ _ _ filed s
    simp only [nobody, List.not_mem_nil] at due

/-- Two clients are due at one location and only one is connected.  That one is handed the response,
and nobody is counted. -/
theorem notified_misses_delivery :
    let view : World Unit := {
      currentTick := pure (.ofNat 6)
      client := fun _ => pure (some ⟨"overworld", ⟨⟨0⟩, ⟨0⟩, ⟨0⟩⟩⟩)
      isLoaded := fun _ => pure true
      hasContainer := fun _ => pure true
      observe := fun _ _ => pure (.ok .empty) }
    let c : ClientId := ⟨1⟩
    let d : ClientId := ⟨2⟩
    let l : Location := ⟨"overworld", ⟨1, 2, 3⟩⟩
    let t := (Table.empty.update c l fun _ => .single c (.ofNat 5)).update d l
      fun _ => .single d (.ofNat 5)
    let s : Site Unit Response := ⟨(), Mailboxes.empty.connect c⟩
    let swept := run (Site.host view directSink) ⟨Limits.defaultRange⟩ (.ofNat 6) t s
    Delivered s.boxes swept.2.boxes c l ∧
      swept.1.2.tally = ⟨1, 2, 0, 0, 1⟩ ∧
      ¬ Counts (fun e : ClientId × Location => Delivered s.boxes swept.2.boxes e.1 e.2)
        swept.1.2.tally.notified := by
  intro view c d l t s swept
  have delivered : Delivered s.boxes swept.2.boxes c l := by decide +kernel +zetaReduce
  have tally : swept.1.2.tally = ⟨1, 2, 0, 0, 1⟩ := by decide +kernel +zetaReduce
  refine ⟨delivered, tally, ?_⟩
  rintro ⟨items, -, member, length⟩
  rw [tally, List.length_eq_zero_iff] at length
  have listed : (c, l) ∈ items := (member (c, l)).mpr delivered
  rw [length] at listed
  cases listed

end Sweep

end ObservationFeed.Server
