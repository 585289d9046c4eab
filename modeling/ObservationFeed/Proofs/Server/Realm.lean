import Mathlib.Logic.Function.Basic
import ObservationFeed.Proofs.Mailbox
import ObservationFeed.Proofs.Server.Exchange
import ObservationFeed.Proofs.Server.Respects
import ObservationFeed.Server.Sessions
import ObservationFeed.Site

/-!
# Several worlds, one set of connections

The sessions of several worlds at work.  Each world has a state of its own, and
its servers put down what they ask; all servers send through the same
connections.

Whoever holds a server can use it, also when it was stopped and the world was
started again.  So each server that was opened for a world has a number, and
may see the world in its own way.
-/

namespace ObservationFeed.Server

open KeyedList

/-! ## Surroundings -/

/-- What surrounds the servers of several worlds. -/
structure Surroundings (ω α : Type) where
  /-- The state of each world. -/
  world : WorldId → ω
  /-- What the servers of each world have asked, with the answers. -/
  asked : WorldId → List Exchange
  boxes : Mailboxes α

namespace Surroundings

variable {ω α : Type}

/-- What surrounds the servers of one world, with what they have asked. -/
def part (w : WorldId) (s : Surroundings ω α) : Site ω α × List Exchange :=
  (⟨s.world w, s.boxes⟩, s.asked w)

def setPart (w : WorldId) (part : Site ω α × List Exchange) (s : Surroundings ω α) :
    Surroundings ω α :=
  ⟨Function.update s.world w part.1.world, Function.update s.asked w part.2, part.1.boxes⟩

def setWorld (w : WorldId) (world : ω) (s : Surroundings ω α) : Surroundings ω α :=
  { s with world := Function.update s.world w world }

/-- The host of a server that sees its world in some way. -/
def host (view : World ω) (sink : ResponseSink (Mailboxes α)) (w : WorldId) :
    Host (Surroundings ω α) where
  toWorld := (Site.host view sink).noted.toWorld.within (part w) (setPart w)
  toResponseSink := (Site.host view sink).noted.toResponseSink.within (part w) (setPart w)

/-- The surroundings are the same for the servers of a world, but for the messages that wait. -/
structure Alike (w : WorldId) (s t : Surroundings ω α) : Prop where
  world : s.world w = t.world w
  asked : s.asked w = t.asked w
  reach : s.boxes.reach = t.boxes.reach

theorem alike_refl (w : WorldId) (s : Surroundings ω α) : Alike w s s := ⟨rfl, rfl, rfl⟩

variable {view : World ω} {sink : ResponseSink (Mailboxes α)} {w v : WorldId}

/-! ## What a server's questions change -/

/-- Parts that are the same but for the messages that wait. -/
structure PartAlike (p q : Site ω α × List Exchange) : Prop where
  world : p.1.world = q.1.world
  asked : p.2 = q.2
  reach : p.1.boxes.reach = q.1.boxes.reach

theorem Alike.part {s t : Surroundings ω α} (alike : Alike w s t) :
    PartAlike (s.part w) (t.part w) :=
  ⟨alike.world, alike.asked, alike.reach⟩

theorem PartAlike.setPart {p q : Site ω α × List Exchange} (alike : PartAlike p q) (w : WorldId)
    (s t : Surroundings ω α) : Alike w (s.setPart w p) (t.setPart w q) where
  world := by simp only [Surroundings.setPart, Function.update_self, alike.world]
  asked := by simp only [Surroundings.setPart, Function.update_self, alike.asked]
  reach := alike.reach

/-- What a server of another world leaves of its part makes no difference, if the same clients can
be reached. -/
theorem Alike.setPart {s t : Surroundings ω α} (alike : Alike w s t) (other : v ≠ w)
    {p : Site ω α × List Exchange} (reach : p.1.boxes.reach = s.boxes.reach) :
    Alike w (s.setPart v p) t where
  world := (Function.update_of_ne other.symm ..).trans alike.world
  asked := (Function.update_of_ne other.symm ..).trans alike.asked
  reach := reach.trans alike.reach

/-- A question that is answered the same for parts that are alike is so for whole surroundings. -/
theorem respects_onPart {β : Type} {question : StateM (Site ω α × List Exchange) β}
    (respects : Respects PartAlike question) (w : WorldId) :
    Respects (Alike w) (onPart (part w) (setPart w) question) := by
  intro s t alike
  obtain ⟨same, left⟩ := respects _ _ alike.part
  exact ⟨same, left.setPart w s t⟩

theorem respects_world {β : Type} (note : β → Exchange) (ask : StateM ω β) :
    Respects (PartAlike (α := α)) (noting note (onPart Site.world Site.setWorld ask)) := by
  rintro ⟨⟨world, boxes⟩, asked⟩ ⟨⟨_, others⟩, _⟩ ⟨rfl, rfl, reach⟩
  exact ⟨rfl, rfl, rfl, reach⟩

theorem respects_sink (steady : sink.Steady) (clients : List ClientId) (response : Response) :
    Respects (PartAlike (ω := ω)) (noting (Exchange.sent clients response)
      (onPart Site.boxes Site.setBoxes (sink.send clients response))) := by
  rintro ⟨⟨world, boxes⟩, asked⟩ ⟨⟨_, others⟩, _⟩ ⟨rfl, rfl, reach⟩
  have same := steady.same clients response boxes others reach
  refine ⟨same, rfl, ?_, ?_⟩
  · exact congrArg (fun answer => asked ++ [Exchange.sent clients response answer]) same
  · exact (steady.keeps ..).trans (reach.trans (steady.keeps ..).symm)

theorem respects_host (steady : sink.Steady) (view : World ω) (w : WorldId) :
    (host view sink w).Respects (Alike w) where
  currentTick := respects_onPart (respects_world _ _) w
  client _ := respects_onPart (respects_world _ _) w
  isLoaded _ := respects_onPart (respects_world _ _) w
  hasContainer _ := respects_onPart (respects_world _ _) w
  observe _ _ := respects_onPart (respects_world _ _) w
  send clients response := respects_onPart (respects_sink steady clients response) w

/-- For the servers of one world, those of another leave the surroundings as they are. -/
theorem keeps_host (steady : sink.Steady) (view : World ω) (other : v ≠ w)
    (t : Surroundings ω α) :
    (host view sink v).Respects fun s s' => s = s' ∧ Alike w s t := by
  have keeps {β : Type} {question : StateM (Site ω α × List Exchange) β}
      (reach : ∀ p, (question p).2.1.boxes.reach = p.1.boxes.reach) :
      Respects (fun s s' => s = s' ∧ Alike w s t) (onPart (part v) (setPart v) question) := by
    rintro s _ ⟨rfl, alike⟩
    exact ⟨rfl, rfl, alike.setPart other (reach (s.part v))⟩
  exact ⟨keeps fun _ => rfl, fun _ => keeps fun _ => rfl, fun _ => keeps fun _ => rfl,
    fun _ => keeps fun _ => rfl, fun _ _ => keeps fun _ => rfl,
    fun clients response => keeps fun p => steady.keeps clients response p.1.boxes⟩

end Surroundings

/-! ## Servers by number -/

/-- The server that was opened for a world after so many others. -/
def WorldHistory.server? (h : WorldHistory) (number : Nat) : Option Registrar :=
  h.opened.reverse[number]?

/-- Puts a server that was opened for a world into another state. -/
def Sessions.set (s : Sessions) (world : WorldId) (number : Nat) (r : Registrar) : Sessions :=
  let h := s.history world
  { s with worlds := put world { h with opened := (h.opened.reverse.set number r).reverse } s.worlds }

/-! ## Realms -/

/-- The servers of several worlds with what surrounds them. -/
structure Realm (ω α : Type) where
  sessions : Sessions
  surroundings : Surroundings ω α

/-- What can be done with the servers of several worlds, and what can happen around them. -/
inductive Move (ω : Type) where
  | start (world : WorldId)
  | stop (world : WorldId)
  | get (world : WorldId)
  | tickAll
  /-- A server that was opened for a world is used, or the world changes by itself. -/
  | serve (world : WorldId) (number : Nat) (op : Operation ω)
  | connect (client : ClientId)
  | disconnect (client : ClientId)
  | hangUp (client : ClientId)
  /-- The messages that wait are taken. -/
  | collect

/-- Whether a move is about a world, as those are that are about no world in particular. -/
def Move.concerns {ω : Type} (w : WorldId) : Move ω → Bool
  | start world | stop world | get world | serve world _ _ => world = w
  | tickAll | connect _ | disconnect _ | hangUp _ | collect => true

/-- What is told of a move. -/
inductive Reply where
  | done
  | refused (cause : SyncError)
  | found (server : Option Registrar)
  | swept (reports : List (WorldId × SweepReport))
  /-- No server has this number. -/
  | absent
  | answered (answer : Answer)
  /-- Whether there was a connection, or a receiving end. -/
  | told (was : Bool)

/-- What a reply says of a world. -/
def Reply.about (w : WorldId) : Reply → Reply
  | swept reports => swept (entriesOf w reports)
  | reply => reply

/-- The operation on a world in the surroundings of several. -/
def Operation.within {ω α : Type} (w : WorldId) : Operation ω → Operation (Surroundings ω α)
  | stop c l => .stop c l
  | single c l => .single c l
  | start c l every => .start c l every
  | keepalive c l every => .keepalive c l every
  | handle c m => .handle c m
  | setTickInterval ticks => .setTickInterval ticks
  | clearCooldown => .clearCooldown
  | tick now => .tick now
  | tickWorld => .tickWorld
  | clear => .clear
  | elsewhere change => .elsewhere fun s => s.setWorld w (change (s.world w))

/-- What there is to see of a world: its servers, what they have asked, and its state. -/
structure Aspect (ω : Type) where
  history : WorldHistory
  asked : List Exchange
  world : ω

namespace Realm

variable {ω α : Type}

/-- No server, and nothing asked. -/
def ofConfig (config : ServerConfig) (world : WorldId → ω) (boxes : Mailboxes α) : Realm ω α :=
  ⟨.ofConfig config, ⟨world, fun _ => [], boxes⟩⟩

def aspect (s : Realm ω α) (w : WorldId) : Aspect ω :=
  ⟨s.sessions.history w, s.surroundings.asked w, s.surroundings.world w⟩

def setBoxes (boxes : Mailboxes α) (s : Realm ω α) : Realm ω α :=
  { s with surroundings.boxes := boxes }

variable (views : WorldId → Nat → World ω) (sink : ResponseSink (Mailboxes α))

/-- The hosts of the servers last opened. -/
def hosts (s : Sessions) (w : WorldId) : Host (Surroundings ω α) :=
  Surroundings.host (views w ((s.history w).opened.length - 1)) sink w

def step (s : Realm ω α) : Move ω → Reply × Realm ω α
  | .start w =>
    match s.sessions.start w with
    | .ok sessions => (.done, { s with sessions })
    | .error cause => (.refused cause, s)
  | .stop w =>
    match s.sessions.stop w with
    | .ok sessions => (.done, { s with sessions })
    | .error cause => (.refused cause, s)
  | .get w => (.found (s.sessions.get? w), s)
  | .tickAll =>
    let ((reports, sessions), surroundings) :=
      s.sessions.tickAll (hosts views sink s.sessions) s.surroundings
    (.swept reports, ⟨sessions, surroundings⟩)
  | .serve w number op =>
    match (s.sessions.history w).server? number with
    | none => (.absent, s)
    | some r =>
      let ((answer, r), surroundings) :=
        r.perform (Surroundings.host (views w number) sink w) (op.within w) s.surroundings
      (.answered answer, ⟨s.sessions.set w number r, surroundings⟩)
  | .connect c => (.done, s.setBoxes (s.surroundings.boxes.connect c))
  | .disconnect c =>
    let (was, boxes) := s.surroundings.boxes.disconnect c
    (.told was, s.setBoxes boxes)
  | .hangUp c =>
    let (was, boxes) := s.surroundings.boxes.hangUp c
    (.told was, s.setBoxes boxes)
  | .collect => (.done, s.setBoxes s.surroundings.boxes.collect.2)

/-- The realm after some moves. -/
def run : List (Move ω) → Realm ω α → Realm ω α
  | [], s => s
  | m :: rest, s => run rest (s.step views sink m).2

/-- What is seen of a world while some moves are made: what is told of each that is about it, and
what there is to see then. -/
def seen (w : WorldId) : List (Move ω) → Realm ω α → List (Reply × Aspect ω)
  | [], _ => []
  | m :: rest, s =>
    let (reply, next) := s.step views sink m
    if m.concerns w then (reply.about w, next.aspect w) :: seen w rest next else seen w rest next

end Realm

end ObservationFeed.Server
