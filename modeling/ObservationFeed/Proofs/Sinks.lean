import ObservationFeed.Proofs.Mailbox
import ObservationFeed.Proofs.Wire.Response

/-!
# The two sinks

A response can be handed over as it is or in its written form.  After the same
dealings with the connections both ways give the same answer and reach the same
clients as often, and the frames read back as the response.  Only a response
that has no written form makes a difference: as a frame it reaches nobody.

Either way a connection is handed what is sent in its time, in that order and
until it is given up.  What is sent after the client has connected again goes to
its new channel.
-/

namespace ObservationFeed

open KeyedList Server

/-- What is done with the connections to clients. -/
inductive Dealing where
  | connect (client : ClientId)
  | disconnect (client : ClientId)
  /-- The receiving end of a client's channel is given up. -/
  | hangUp (client : ClientId)
  | send (clients : List ClientId) (response : Response)
  /-- The clients receive what waits for them. -/
  | collect
  deriving DecidableEq

namespace Dealing

variable {α : Type}

/-- Whether a client's connection is forgotten or its receiving end is given up. -/
def givesUp (c : ClientId) : Dealing → Bool
  | disconnect other | hangUp other => other = c
  | _ => false

/-- What is sent to a client, as often as it is listed, by a sink that knows a form of some
responses. -/
def sends (form? : Response → Option α) (c : ClientId) : Dealing → List α
  | send clients response =>
    match form? response with
    | some message => List.replicate (clients.count c) message
    | none => []
  | _ => []

end Dealing

/-- What is sent to a client, in that order, until its connection is given up. -/
def transcript {α : Type} (form? : Response → Option α) (c : ClientId) (during : List Dealing) :
    List α :=
  (during.takeWhile fun d => !d.givesUp c).flatMap (Dealing.sends form? c)

namespace Mailboxes

variable {α : Type}

/-- What the clients receive, and the connections afterwards. -/
def deal (sink : ResponseSink (Mailboxes α)) (m : Mailboxes α) :
    Dealing → List (ClientId × α) × Mailboxes α
  | .connect c => ([], m.connect c)
  | .disconnect c => ([], (m.disconnect c).2)
  | .hangUp c => ([], (m.hangUp c).2)
  | .send clients response => ([], (sink.send clients response m).2)
  | .collect => m.collect

def dealAll (sink : ResponseSink (Mailboxes α)) :
    List Dealing → Mailboxes α → List (ClientId × α) × Mailboxes α
  | [], m => ([], m)
  | d :: rest, m =>
    let (here, m) := m.deal sink d
    let (later, m) := dealAll sink rest m
    (here ++ later, m)

/-- What a client receives among what the clients receive. -/
def received (c : ClientId) (messages : List (ClientId × α)) : List α :=
  (entriesOf c messages).map (·.2)

/-- What comes of sending to some clients: the first that cannot be reached settles the answer, and
each that can be reached is handed the message as often as it is listed. -/
structure FansOut (m : Mailboxes α) (reach : ClientId → Option (Bool × Bool))
    (clients : List ClientId) (message : α) (outcome : Except TransportError Unit × Mailboxes α) :
    Prop where
  answer : outcome.1 = ((clients.findSome? fun c => refusal? c (reach c)).map .error).getD (.ok ())
  handed : ∀ c, find? c outcome.2.lines = (find? c m.lines).map fun line =>
    line.push (List.replicate (if reach c = some (true, false) then clients.count c else 0) message)

/-- Each connection is handed what is sent while it is its client's last one, in that order and
until it is given up.  What was not received by then stays in its channel for good, unless it is
lost with the receiving end. -/
def InOrder (sink : ResponseSink (Mailboxes α)) (form? : Response → Option α)
    (history : List Dealing) : Prop :=
  ∀ before c during after, history = before ++ .connect c :: (during ++ after) →
    .connect c ∉ during → (∀ d ∈ after.head?, d = .connect c) →
      ∃ channel lost,
        ((dealAll sink history .empty).2.channels c)[after.count (.connect c)]? = some channel ∧
        received c (dealAll sink during (dealAll sink (before ++ [.connect c]) .empty).2).1 ++
          channel.queue ++ lost = transcript form? c during ∧
        (.hangUp c ∉ during → lost = [])

variable {sink : ResponseSink (Mailboxes α)} {form? : Response → Option α} {m : Mailboxes α}

/-! ## One send -/

theorem fansOut_deliverAll (message : α) (clients : List ClientId) (m : Mailboxes α) :
    m.FansOut m.reach clients message (m.deliverAll message clients) where
  answer := deliverAll_fst message clients m
  handed c := by
    refine (find?_deliverAll message clients m c).trans (Option.map_congr fun line found => ?_)
    have passes : m.reach c = some (true, false) ↔ line.passable = true := by
      simp [reach, found, Line.passable]
    simp only [passes]

/-- The sink hands each response over in its form, and one that has none to nobody. -/
def HandsOver (sink : ResponseSink (Mailboxes α)) (form? : Response → Option α) : Prop :=
  ∀ clients response m, (sink.send clients response m).2 =
    match form? response with
    | some message => (m.deliverAll message clients).2
    | none => m

theorem handsOver_directSink : HandsOver directSink some := fun _ _ _ => rfl

theorem handsOver_wireSink : HandsOver wireSink fun r => (Wire.writeResponse r).toOption := by
  intro clients response m
  simp only [wireSink]
  cases Wire.writeResponse response <;> rfl

theorem HandsOver.find?_send (hands : HandsOver sink form?) (clients : List ClientId)
    (response : Response) (m : Mailboxes α) (c : ClientId) :
    find? c (sink.send clients response m).2.lines = (find? c m.lines).map fun line =>
      line.push (if line.passable then (Dealing.send clients response).sends form? c else []) := by
  rw [hands, Dealing.sends]
  cases form? response with
  | none => simp [Line.push_nil]
  | some message =>
    rw [find?_deliverAll]
    refine Option.map_congr fun line _ => ?_
    split <;> rfl

/-! ## A connection in its time -/

theorem received_append (c : ClientId) (first second : List (ClientId × α)) :
    received c (first ++ second) = received c first ++ received c second := by
  simp [received, entriesOf]

theorem received_collect (distinct : Distinct m.lines) {c : ClientId} {line : Line α}
    (found : find? c m.lines = some line) : received c m.collect.1 = line.channel.queue := by
  have of_line := entriesOf_flatMap distinct (fun line : Line α => line.channel.queue) c
  rw [received, collect, of_line, found, List.map_map]
  exact List.map_id _

theorem distinct_deliverAll (message : α) (clients : List ClientId) (distinct : Distinct m.lines) :
    Distinct (m.deliverAll message clients).2.lines := by
  induction clients generalizing m with
  | nil => exact distinct
  | cons c rest ih =>
    rw [deliverAll]
    rcases m.deliver_cases c message with ⟨e, outcome, -⟩ | ⟨line, -, -, -, outcome⟩
    · rw [outcome]
      exact ih distinct
    · rw [outcome]
      exact ih (distinct.put ..)

theorem distinct_deal (hands : HandsOver sink form?) (distinct : Distinct m.lines) (d : Dealing) :
    Distinct (m.deal sink d).2.lines := by
  cases d with
  | connect c => exact distinct.put ..
  | disconnect c | hangUp c =>
    simp only [deal, disconnect, hangUp]
    split
    · exact distinct.put ..
    · exact distinct
  | send clients response =>
    rw [deal, hands]
    cases form? response with
    | none => exact distinct
    | some message => exact distinct_deliverAll message clients distinct
  | collect =>
    exact distinct.map fun _ line => { line with channel := { line.channel with queue := [] } }

theorem distinct_dealAll (hands : HandsOver sink form?) (distinct : Distinct m.lines)
    (dealings : List Dealing) : Distinct (dealAll sink dealings m).2.lines := by
  induction dealings generalizing m with
  | nil => exact distinct
  | cons d rest ih => exact ih (distinct_deal hands distinct d)

/-- What dealings other than a new connection make of a client's line.  The account is of what was
received, what waits and what was lost, against what waited and what was sent. -/
structure Continues (line left : Line α) (received sent lost : List α) : Prop where
  earlier : left.earlier = line.earlier
  account : received ++ left.channel.queue ++ lost =
    line.channel.queue ++ if line.passable then sent else []

theorem continues_givenUp {left : Mailboxes α} {b c : ClientId} {line : Line α}
    {change : Line α → Line α} {lost : List α} (found : find? c m.lines = some line)
    (lines : find? c left.lines =
      if b = c then (find? b m.lines).map change else find? c m.lines)
    (shut : (change line).passable = false) (earlier : (change line).earlier = line.earlier)
    (kept : (change line).channel.queue ++ lost = line.channel.queue) :
    ∃ after, find? c left.lines = some after ∧ after.passable = (line.passable && !decide (b = c)) ∧
      Continues line after [] [] (if b = c then lost else []) := by
  by_cases same : b = c
  · subst same
    rw [if_pos rfl, found, Option.map_some] at lines
    exact ⟨_, lines, by simp [shut], earlier, by simp [kept]⟩
  · rw [if_neg same, found] at lines
    exact ⟨line, lines, by simp [same], rfl, by simp [same]⟩

theorem continues_deal (hands : HandsOver sink form?) (distinct : Distinct m.lines) {c : ClientId}
    {line : Line α} (found : find? c m.lines = some line) {d : Dealing} (other : d ≠ .connect c) :
    ∃ left, find? c (m.deal sink d).2.lines = some left ∧
      left.passable = (line.passable && !d.givesUp c) ∧
      Continues line left (received c (m.deal sink d).1) (d.sends form? c)
        (if d = .hangUp c then line.channel.queue else []) := by
  have silent : received c ([] : List (ClientId × α)) = [] := rfl
  cases d with
  | connect b =>
    have different : b ≠ c := fun same => other (same ▸ rfl)
    have left := m.find?_connect b c
    rw [if_neg different, found] at left
    exact ⟨_, left, by simp [Dealing.givesUp], rfl, by simp [deal, silent, Dealing.sends]⟩
  | disconnect b =>
    have left := continues_givenUp found (m.find?_disconnect b c) rfl rfl (List.append_nil _)
    simp only [reduceCtorEq, if_false]
    rwa [ite_self] at left
  | hangUp b =>
    have shut : { line with channel := (⟨[], true⟩ : Channel α) }.passable = false := by
      simp [Line.passable]
    simp only [Dealing.hangUp.injEq]
    exact continues_givenUp found (m.find?_hangUp b c) shut rfl (List.nil_append _)
  | send clients response =>
    have left := hands.find?_send clients response m c
    rw [found, Option.map_some] at left
    exact ⟨_, left, by simp [Dealing.givesUp], rfl, by simp [deal, silent, Line.push]⟩
  | collect =>
    have left := m.find?_collect c
    rw [found, Option.map_some] at left
    refine ⟨_, left, by simp [Dealing.givesUp, Line.passable], rfl, ?_⟩
    simp [deal, received_collect distinct found, Dealing.sends]

theorem transcript_cons (form? : Response → Option α) (c : ClientId) (d : Dealing)
    (rest : List Dealing) : transcript form? c (d :: rest) =
      d.sends form? c ++ if d.givesUp c then [] else transcript form? c rest := by
  rw [transcript, List.takeWhile_cons]
  cases d with
  | disconnect b | hangUp b =>
    by_cases same : b = c <;> simp [Dealing.givesUp, Dealing.sends, same, transcript]
  | connect _ | send _ _ | collect => simp [Dealing.givesUp, transcript]

/-- While a connection is its client's last one, it is handed what is sent. -/
theorem continues_dealAll (hands : HandsOver sink form?) {during : List Dealing} {m : Mailboxes α}
    (distinct : Distinct m.lines) {c : ClientId} {line : Line α}
    (found : find? c m.lines = some line) (others : .connect c ∉ during) :
    ∃ left lost, find? c (dealAll sink during m).2.lines = some left ∧
      (.hangUp c ∉ during → lost = []) ∧
      Continues line left (received c (dealAll sink during m).1) (transcript form? c during) lost := by
  induction during generalizing m line with
  | nil =>
    exact ⟨line, [], found, fun _ => rfl, rfl, by simp [dealAll, received, entriesOf, transcript]⟩
  | cons d rest ih =>
    obtain ⟨other, others⟩ := not_or.mp (others ∘ List.mem_cons.mpr)
    obtain ⟨middle, here, passable, first⟩ := continues_deal hands distinct found (Ne.symm other)
    obtain ⟨left, lost, last, spared, second⟩ := ih (distinct_deal hands distinct d) here others
    generalize gone : (if d = .hangUp c then line.channel.queue else []) = dropped at first
    refine ⟨left, lost ++ dropped, last, fun held => ?_, second.earlier.trans first.earlier, ?_⟩
    · obtain ⟨here, held⟩ := not_or.mp (held ∘ List.mem_cons.mpr)
      rw [spared held, ← gone, if_neg (Ne.symm here), List.append_nil]
    · let more := if middle.passable then transcript form? c rest else []
      -- What is lost is the last, for nothing is handed over after the receiving end is gone.
      have swap : more ++ dropped = dropped ++ more := by
        by_cases hangs : d = .hangUp c
        · simp [more, passable, hangs, Dealing.givesUp]
        · simp [← gone, hangs]
      calc
        _ = received c (m.deal sink d).1 ++ (received c (dealAll sink rest (m.deal sink d).2).1 ++
              left.channel.queue ++ lost) ++ dropped := by
          simp [dealAll, received_append]
        _ = received c (m.deal sink d).1 ++ middle.channel.queue ++ (more ++ dropped) := by
          rw [second.account]
          simp [more]
        _ = line.channel.queue ++ (if line.passable then d.sends form? c else []) ++ more := by
          rw [swap, ← List.append_assoc, first.account]
        _ = _ := by
          rw [transcript_cons]
          simp only [more, passable]
          cases line.passable <;> cases d.givesUp c <;> simp

/-! ## A connection after its time -/

/-- A client's earlier channels stay as they are, and each new connection adds one before them. -/
theorem channels_dealAll (hands : HandsOver sink form?) (dealings : List Dealing) {m : Mailboxes α}
    (distinct : Distinct m.lines) {c : ClientId} {line : Line α}
    (found : find? c m.lines = some line) :
    ∃ left newer, find? c (dealAll sink dealings m).2.lines = some left ∧
      left.channels = newer ++ line.earlier ∧ newer.length = dealings.count (.connect c) + 1 := by
  induction dealings generalizing m line with
  | nil => exact ⟨line, [line.channel], found, rfl, rfl⟩
  | cons d rest ih =>
    have distinct := distinct_deal hands distinct d
    by_cases connects : d = .connect c
    · subst connects
      have here := m.find?_connect c c
      rw [if_pos rfl, channels, found] at here
      obtain ⟨left, newer, last, channels, count⟩ := ih distinct here
      refine ⟨left, newer ++ [line.channel], last, ?_, ?_⟩
      · rw [channels, List.append_assoc]
        rfl
      · rw [List.length_append, count, List.count_cons_self]
        rfl
    · obtain ⟨middle, here, -, step⟩ := continues_deal hands ‹_› found connects
      obtain ⟨left, newer, last, channels, count⟩ := ih distinct here
      refine ⟨left, newer, last, step.earlier ▸ channels, ?_⟩
      rw [count, List.count_cons_of_ne connects]

theorem channel_stays (hands : HandsOver sink form?) (distinct : Distinct m.lines) {c : ClientId}
    {line : Line α} (found : find? c m.lines = some line) {after : List Dealing}
    (next : ∀ d ∈ after.head?, d = .connect c) :
    ((dealAll sink after m).2.channels c)[after.count (.connect c)]? = some line.channel := by
  cases after with
  | nil =>
    rw [dealAll, channels, found]
    rfl
  | cons d rest =>
    obtain rfl : d = .connect c := next d rfl
    have replaced : find? c (m.deal sink (.connect c)).2.lines =
        some ⟨⟨[], false⟩, true, line.channels⟩ := by
      rw [deal, find?_connect, if_pos rfl, channels, found]
      rfl
    obtain ⟨left, newer, last, all, count⟩ :=
      channels_dealAll hands rest (distinct_deal hands distinct _) replaced
    have whole : (dealAll sink (.connect c :: rest) m).2.channels c = newer ++ line.channels := by
      rw [channels, dealAll, last]
      exact all
    rw [whole, List.count_cons_self, ← count, List.getElem?_append_right (Nat.le_refl _)]
    simp [Line.channels]

theorem dealAll_append (sink : ResponseSink (Mailboxes α)) (first second : List Dealing)
    (m : Mailboxes α) :
    (dealAll sink (first ++ second) m).2 = (dealAll sink second (dealAll sink first m).2).2 := by
  induction first generalizing m with
  | nil => rfl
  | cons d rest ih => exact ih _

theorem HandsOver.inOrder (hands : HandsOver sink form?) (history : List Dealing) :
    InOrder sink form? history := by
  intro before c during after split others next
  -- A new connection starts with an empty channel that messages reach.
  have opened : find? c (dealAll sink (before ++ [.connect c]) .empty).2.lines =
      some ⟨⟨[], false⟩, true, (dealAll sink before .empty).2.channels c⟩ := by
    rw [dealAll_append]
    exact (find?_connect ..).trans (if_pos rfl)
  have distinct := distinct_dealAll hands distinct_nil (before ++ [.connect c])
  obtain ⟨line, lost, waits, spared, continued⟩ := continues_dealAll hands distinct opened others
  have whole : history = (before ++ [.connect c]) ++ during ++ after := by simp [split]
  refine ⟨line.channel, lost, ?_, continued.account, spared⟩
  rw [whole, dealAll_append, dealAll_append]
  exact channel_stays hands (distinct_dealAll hands distinct during) waits next

/-! ## Both sinks -/

theorem reach_deal {frames : Mailboxes Wire.Bytes} {boxes : Mailboxes Response}
    (alike : boxes.reach = frames.reach) (d : Dealing) :
    (boxes.deal directSink d).2.reach = (frames.deal wireSink d).2.reach := by
  funext c
  cases d with
  | connect b => simp only [deal, reach_connect, alike]
  | disconnect b => simp only [deal, reach_disconnect, alike]
  | hangUp b => simp only [deal, reach_hangUp, alike]
  | send clients response =>
    simp only [deal, steady_directSink.keeps, steady_wireSink.keeps, alike]
  | collect => simp only [deal, reach_collect, alike]

theorem reach_dealAll (history : List Dealing) {boxes : Mailboxes Response}
    {frames : Mailboxes Wire.Bytes} (alike : boxes.reach = frames.reach) :
    (dealAll directSink history boxes).2.reach = (dealAll wireSink history frames).2.reach := by
  induction history generalizing boxes frames with
  | nil => exact alike
  | cons d rest ih => exact ih (reach_deal alike d)

end Mailboxes

open Mailboxes in
/-- After the same dealings both sinks answer a send alike and reach the same clients as often, and
what is handed over in the one reads back as what is handed over in the other.  Where nothing can be
written, nothing is handed over in the written form.  Both keep the order of what they are sent. -/
theorem sinks_agree (history : List Dealing) :
    let boxes := (dealAll directSink history .empty).2
    let frames := (dealAll wireSink history .empty).2
    (∀ clients response frame, Wire.writeResponse response = .ok frame →
      (directSink.send clients response boxes).1 = (wireSink.send clients response frames).1 ∧
      boxes.FansOut boxes.reach clients response (directSink.send clients response boxes) ∧
      frames.FansOut boxes.reach clients frame (wireSink.send clients response frames) ∧
      (response.serverTick ≠ some (-1) → Wire.responseOfBytes frame = .ok response)) ∧
    (∀ clients response e, Wire.writeResponse response = .error e →
      wireSink.send clients response frames = (.error (.notEncoded e.message), frames)) ∧
    InOrder directSink some history ∧
    InOrder wireSink (fun r => (Wire.writeResponse r).toOption) history := by
  intro boxes frames
  have alike : boxes.reach = frames.reach := reach_dealAll history rfl
  refine ⟨fun clients response frame written => ?_, fun clients response e refused => ?_,
    handsOver_directSink.inOrder history, handsOver_wireSink.inOrder history⟩
  · have direct : boxes.FansOut boxes.reach clients response _ := fansOut_deliverAll ..
    have inFrames : wireSink.send clients response frames = frames.deliverAll frame clients := by
      simp only [wireSink, written]
    have wire : frames.FansOut boxes.reach clients frame (wireSink.send clients response frames) :=
      inFrames ▸ alike ▸ fansOut_deliverAll ..
    refine ⟨direct.answer.trans wire.answer.symm, direct, wire, fun carried => ?_⟩
    have same : response.carried = response := by
      rw [Response.carried, Wire.carried_eq, if_neg carried]
    exact (Wire.reads_writeResponse written).exactly.trans (congrArg _ same)
  · simp only [wireSink, refused]

open Mailboxes in
/-- A client that is listed twice, after one whose receiving end is gone and before one that is not
known.  An earlier response waits where the client was connected before. -/
theorem sinks_agree_of_repeats :
    let a : ClientId := ⟨1⟩
    let b : ClientId := ⟨2⟩
    let stranger : ClientId := ⟨3⟩
    let response : Response := ⟨⟨"hall", ⟨0, 64, 0⟩⟩, .empty, some 7⟩
    let history : List Dealing :=
      [.connect a, .connect b, .hangUp b, .send [a] response, .connect a]
    let boxes := (dealAll directSink history .empty).2
    let frames := (dealAll wireSink history .empty).2
    let frame : Wire.Bytes := [4, 104, 97, 108, 108, 0, 0, 0, 0, 0, 0, 0, 64, 0, 0, 0, 0, 0, 8]
    Wire.responseOfBytes frame = .ok response ∧
      (directSink.send [b, a, stranger, a] response boxes).1 = .error .closed ∧
      (wireSink.send [b, a, stranger, a] response frames).1 = .error .closed ∧
      (wireSink.send [b, a, stranger, a] response frames).2.inbox a = [frame, frame] := by
  intro a b stranger response history boxes frames frame
  have written : Wire.writeResponse response = .ok frame := by decide +kernel +zetaReduce
  obtain ⟨agree, -⟩ := sinks_agree history
  obtain ⟨same, direct, wire, reads⟩ := agree [b, a, stranger, a] response frame written
  have closed : (directSink.send [b, a, stranger, a] response boxes).1 = .error .closed :=
    direct.answer.trans (by decide +kernel +zetaReduce)
  refine ⟨reads (by decide), closed, same.symm.trans closed, ?_⟩
  rw [inbox, wire.handed]
  decide +kernel +zetaReduce

end ObservationFeed
