import Mathlib.Data.List.Nodup
import ObservationFeed.Mailbox
import ObservationFeed.Proofs.KeyedList

/-!
# What becomes of the connections

Each operation on the connections is an operation on the line of each client by
itself.  A message is added at the end of a client's last channel as often as
the client is listed, if the connection is known and the receiving end is
there, and whatever becomes of the others.

Whether a message can be handed to a client is therefore settled by these two
facts.  The messages that wait make no difference to it, and handing over more
of them does not change it.
-/

namespace ObservationFeed

open KeyedList Server

variable {α : Type}

namespace Line

/-- Whether messages reach the last channel. -/
def passable (line : Line α) : Bool := line.connected && !line.channel.hungUp

/-- A line with more messages at the end of its last channel. -/
def push (line : Line α) (messages : List α) : Line α :=
  { line with channel := { line.channel with queue := line.channel.queue ++ messages } }

/-- The channels a client has had, the last one first. -/
def channels (line : Line α) : List (Channel α) := line.channel :: line.earlier

@[simp] theorem passable_push (line : Line α) (messages : List α) :
    (line.push messages).passable = line.passable := rfl

theorem push_nil (line : Line α) : line.push [] = line := by simp [push]

theorem push_push (line : Line α) (first second : List α) :
    (line.push first).push second = line.push (first ++ second) := by simp [push]

end Line

namespace Mailboxes

/-- Whether a client's last connection is still known, and whether its receiving end is gone. -/
def reach (m : Mailboxes α) (c : ClientId) : Option (Bool × Bool) :=
  (find? c m.lines).map fun line => (line.connected, line.channel.hungUp)

/-- Why a client cannot be handed a message. -/
def refusal? (c : ClientId) : Option (Bool × Bool) → Option TransportError
  | none | some (false, _) => some (.unknownClient c)
  | some (true, true) => some .closed
  | some (true, false) => none

/-- The channels a client has had, the last one first. -/
def channels (m : Mailboxes α) (c : ClientId) : List (Channel α) :=
  ((find? c m.lines).map Line.channels).getD []

/-! ## Lines -/

theorem find?_connect (m : Mailboxes α) (c other : ClientId) :
    find? other (m.connect c).lines =
      if c = other then some ⟨⟨[], false⟩, true, m.channels c⟩ else find? other m.lines := by
  rw [connect, channels, find?_put]
  cases find? c m.lines <;> rfl

theorem find?_disconnect (m : Mailboxes α) (c other : ClientId) :
    find? other (m.disconnect c).2.lines =
      if c = other then (find? c m.lines).map fun line => { line with connected := false }
      else find? other m.lines := by
  unfold disconnect
  cases found : find? c m.lines with
  | none => grind
  | some line => exact find?_put ..

theorem find?_hangUp (m : Mailboxes α) (c other : ClientId) :
    find? other (m.hangUp c).2.lines =
      if c = other then (find? c m.lines).map fun line => { line with channel := ⟨[], true⟩ }
      else find? other m.lines := by
  unfold hangUp
  cases found : find? c m.lines with
  | none => grind
  | some line => exact find?_put ..

theorem find?_collect (m : Mailboxes α) (c : ClientId) :
    find? c m.collect.2.lines =
      (find? c m.lines).map fun line =>
        { line with channel := { line.channel with queue := [] } } :=
  find?_map c m.lines fun _ (line : Line α) =>
    ({ line with channel := { line.channel with queue := [] } } : Line α)

/-- A message is handed over exactly if the client can be reached, and added to its channel. -/
theorem deliver_cases (m : Mailboxes α) (c : ClientId) (message : α) :
    (∃ e, m.deliver c message = .error e ∧ refusal? c (m.reach c) = some e ∧
      ∀ line, find? c m.lines = some line → line.passable = false) ∨
      ∃ line, find? c m.lines = some line ∧ line.passable ∧ refusal? c (m.reach c) = none ∧
        m.deliver c message = .ok ⟨put c (line.push [message]) m.lines⟩ := by
  unfold deliver reach
  cases found : find? c m.lines with
  | none => exact .inl ⟨_, rfl, rfl, nofun⟩
  | some line =>
    obtain ⟨⟨queue, hungUp⟩, connected, earlier⟩ := line
    cases connected with
    | false =>
      refine .inl ⟨_, rfl, rfl, ?_⟩
      rintro _ ⟨⟩
      rfl
    | true =>
      cases hungUp with
      | true =>
        refine .inl ⟨_, rfl, rfl, ?_⟩
        rintro _ ⟨⟩
        rfl
      | false => exact .inr ⟨_, rfl, rfl, rfl, rfl⟩

/-- Each client that can be reached is handed the message as often as it is listed, whoever else
cannot be. -/
theorem find?_deliverAll (message : α) (clients : List ClientId) (m : Mailboxes α) (c : ClientId) :
    find? c (m.deliverAll message clients).2.lines = (find? c m.lines).map fun line =>
      line.push (List.replicate (if line.passable then clients.count c else 0) message) := by
  induction clients generalizing m with
  | nil => simp [deliverAll, Line.push_nil]
  | cons first rest ih =>
    rw [deliverAll]
    rcases m.deliver_cases first message with
      ⟨e, outcome, -, closed⟩ | ⟨line, found, passable, -, outcome⟩
    · rw [outcome]
      refine (ih m).trans (Option.map_congr fun line here => ?_)
      by_cases same : first = c
      · simp [closed line (same ▸ here)]
      · simp [List.count_cons_of_ne same]
    · simp only [outcome, ih, find?_put]
      by_cases same : first = c
      · subst same
        simp [found, passable, Line.push_push, List.replicate_succ]
      · simp [same, List.count_cons_of_ne same]

/-! ## Reaching clients -/

theorem reach_connect (m : Mailboxes α) (c other : ClientId) :
    (m.connect c).reach other = if c = other then some (true, false) else m.reach other := by
  rw [reach, find?_connect]
  split <;> rfl

theorem disconnect_fst (m : Mailboxes α) (c : ClientId) :
    (m.disconnect c).1 = ((m.reach c).map (·.1)).getD false := by
  unfold disconnect reach
  cases find? c m.lines <;> rfl

theorem reach_disconnect (m : Mailboxes α) (c other : ClientId) :
    (m.disconnect c).2.reach other =
      if c = other then (m.reach c).map fun reach => (false, reach.2) else m.reach other := by
  rw [reach, find?_disconnect, reach]
  split
  · rw [Option.map_map, Option.map_map]
    rfl
  · rfl

theorem hangUp_fst (m : Mailboxes α) (c : ClientId) :
    (m.hangUp c).1 = ((m.reach c).map (!·.2)).getD false := by
  unfold hangUp reach
  cases find? c m.lines <;> rfl

theorem reach_hangUp (m : Mailboxes α) (c other : ClientId) :
    (m.hangUp c).2.reach other =
      if c = other then (m.reach c).map fun reach => (reach.1, true) else m.reach other := by
  rw [reach, find?_hangUp, reach]
  split
  · rw [Option.map_map, Option.map_map]
    rfl
  · rfl

theorem reach_collect (m : Mailboxes α) : m.collect.2.reach = m.reach := by
  funext c
  rw [reach, find?_collect, Option.map_map]
  rfl

theorem reach_deliverAll (message : α) (clients : List ClientId) (m : Mailboxes α) :
    (m.deliverAll message clients).2.reach = m.reach := by
  funext c
  rw [reach, find?_deliverAll, Option.map_map]
  rfl

/-- The first client that cannot be reached settles the answer. -/
theorem deliverAll_fst (message : α) (clients : List ClientId) (m : Mailboxes α) :
    (m.deliverAll message clients).1 =
      ((clients.findSome? fun c => refusal? c (m.reach c)).map .error).getD (.ok ()) := by
  induction clients generalizing m with
  | nil => rfl
  | cons c rest ih =>
    rw [deliverAll, List.findSome?_cons]
    rcases m.deliver_cases c message with
      ⟨e, outcome, refused, -⟩ | ⟨line, found, -, passes, outcome⟩
    · rw [outcome, refused]
      rfl
    · have same : (⟨put c (line.push [message]) m.lines⟩ : Mailboxes α).reach = m.reach := by
        funext other
        rw [reach, find?_put]
        split
        · next here => rw [← here, reach, found]; rfl
        · rfl
      rw [outcome, passes, ← same]
      exact ih _

theorem refusal?_eq_none {c : ClientId} {reach : Option (Bool × Bool)} :
    refusal? c reach = none ↔ reach = some (true, false) := by
  rcases reach with _ | ⟨_ | _, _ | _⟩ <;> simp [refusal?]

/-! ## What waits -/

/-- The messages that wait in a client's last channel. -/
def inbox (m : Mailboxes α) (c : ClientId) : List α :=
  ((find? c m.lines).map fun line => line.channel.queue).getD []

/-- Each client of the list that can be reached is handed the message, whoever else cannot. -/
theorem inbox_deliverAll (message : α) {clients : List ClientId} (nodup : clients.Nodup)
    (m : Mailboxes α) (c : ClientId) :
    (m.deliverAll message clients).2.inbox c = m.inbox c ++
      if c ∈ clients ∧ m.reach c = some (true, false) then [message] else [] := by
  rw [inbox, find?_deliverAll, inbox, reach]
  cases find? c m.lines with
  | none => simp
  | some line =>
    have times : clients.count c = if c ∈ clients then 1 else 0 := by
      split
      · next listed => exact List.nodup_iff_count_eq_one.mp nodup c listed
      · next unlisted => exact List.count_eq_zero_of_not_mem unlisted
    simp only [Line.push, Line.passable]
    grind

end Mailboxes

/-! ## Sinks -/

/-- What the sink answers depends on nothing but which clients can be reached, and it does not
change that. -/
structure Server.ResponseSink.Steady {α : Type} (sink : ResponseSink (Mailboxes α)) : Prop where
  same : ∀ clients response boxes others, boxes.reach = others.reach →
    (sink.send clients response boxes).1 = (sink.send clients response others).1
  keeps : ∀ clients response boxes, (sink.send clients response boxes).2.reach = boxes.reach

theorem steady_directSink : directSink.Steady where
  same clients response boxes others alike := by
    change (boxes.deliverAll response clients).1 = (others.deliverAll response clients).1
    rw [Mailboxes.deliverAll_fst, Mailboxes.deliverAll_fst, alike]
  keeps clients response boxes := Mailboxes.reach_deliverAll response clients boxes

theorem steady_wireSink : wireSink.Steady where
  same clients response boxes others alike := by
    simp only [wireSink]
    cases Wire.writeResponse response with
    | error e => rfl
    | ok frame => simp only [Mailboxes.deliverAll_fst, alike]
  keeps clients response boxes := by
    simp only [wireSink]
    cases Wire.writeResponse response with
    | error e => rfl
    | ok frame => exact Mailboxes.reach_deliverAll frame clients boxes

end ObservationFeed
