import ObservationFeed.Pump
import ObservationFeed.Site

/-!
# Links

A server and several clients, joined by connections that carry every message in
its written form.  Frames are read as soon as they are sent.

Either end of a connection can stop reading: when it meets a frame that holds
no message, or when the connection is cut.  After that nothing more can be sent
to it.  A client is let go when neither its owner nor the reading end holds it.

Time is the clients' time and passes for all of them together.  It stops at
every moment at which a task of one of them wakes, and what that task sends is
read before the next one wakes.
-/

namespace ObservationFeed

open Client KeyedList Server

/-- A client and its connection to the server. -/
structure Connection where
  client : Client
  /-- The way to the server, which is hung up when the server has stopped reading. -/
  line : RequestLine
  /-- Whether the owner of the client holds it. -/
  held : Bool
  /-- Whether the client reads what the server sends. -/
  reading : Bool
  deriving DecidableEq, Repr

/-- A server and its clients. -/
structure Link (σ : Type) where
  now : Nat
  server : Registrar
  site : Site σ Wire.Bytes
  connections : List (ClientId × Connection)

/-- What passes over a link. -/
inductive Passage where
  /-- What a client let out, for the server. -/
  | emitted (client : ClientId) (entry : LogEntry)
  /-- What the server sent to a client. -/
  | sent (client : ClientId) (frame : Wire.Bytes)

namespace Link

variable {σ : Type}

/-- A server and clients with nothing on the way. -/
def ofConfig (server : ServerConfig) (client : Config) (clients : List ClientId) (world : σ) :
    Link σ where
  now := 0
  server := .ofConfig server
  site := ⟨world, clients.foldl Mailboxes.connect .empty⟩
  connections := clients.map fun id => (id, ⟨.ofConfig client, .wire, true, true⟩)

/-- The answers of the link's world and the sending to its clients. -/
def host (world : World σ) : Host (Site σ Wire.Bytes) := Site.host world wireSink

def connection? (link : Link σ) (id : ClientId) : Option Connection := find? id link.connections

def setConnection (link : Link σ) (id : ClientId) (c : Connection) : Link σ :=
  { link with connections := put id c link.connections }

/-! ## Towards the server -/

/-- Puts frames in front of the server, and tells whether it was reading them. -/
def feedServer (world : World σ) (id : ClientId) (frames : List Wire.Bytes) (link : Link σ) :
    Bool × Link σ :=
  match link.connection? id with
  | none => (false, link)
  | some c =>
    if c.line.hungUp then (false, link)
    else
      let ((intact, server), state) := link.server.feed world id frames link.site.world
      let line := { c.line with hungUp := !intact }
      (true, { link with server, site := link.site.setWorld state }.setConnection id
        { c with line })

/-- Hands to the server what a client has let out. -/
def carry (world : World σ) (id : ClientId) (log : List LogEntry) (link : Link σ) :
    Link σ × List Passage :=
  ((link.feedServer world id (log.flatMap LogEntry.frames)).2, log.map (.emitted id))

def perform {α : Type} (world : World σ) (id : ClientId) (op : Client → Network → Outcome α)
    (link : Link σ) : Option (α × Link σ × List Passage) :=
  (link.connection? id).map fun c =>
    let outcome := op c.client c.line.network
    let link := link.setConnection id { c with client := outcome.client }
    (outcome.answer, link.carry world id outcome.log)

/-- Lets a client do something whose answer is of no interest. -/
def run (world : World σ) (id : ClientId) (op : Client → Network → Client × List LogEntry)
    (link : Link σ) : Link σ × List Passage :=
  let step (c : Client) (net : Network) : Outcome Unit :=
    let (c, log) := op c net
    ⟨c, log, ()⟩
  ((link.perform world id step).map (·.2)).getD (link, [])

/-! ## Towards the clients -/

/-- Lets go of a client that nobody holds. -/
def releaseUnheld (world : World σ) (id : ClientId) (link : Link σ) : Link σ × List Passage :=
  match link.connection? id with
  | none => (link, [])
  | some c => if c.held || c.reading then (link, []) else link.run world id Client.release

def stopReading (world : World σ) (id : ClientId) (link : Link σ) : Link σ × List Passage :=
  match link.connection? id with
  | none => (link, [])
  | some c =>
    { link with site := link.site.setBoxes (link.site.boxes.hangUp id).2 }.setConnection id
      { c with reading := false } |>.releaseUnheld world id

/-- Puts frames in front of a client, and tells whether it was reading them. -/
def feedClient (world : World σ) (id : ClientId) (frames : List Wire.Bytes) (link : Link σ) :
    Bool × Link σ × List Passage :=
  match link.connection? id with
  | none => (false, link, [])
  | some c =>
    if !c.reading then (false, link, [])
    else
      match link.perform world id fun client net => client.feed net frames with
      | none => (false, link, [])
      | some (intact, link, passages) =>
        if intact then (true, link, passages)
        else
          let (link, more) := link.stopReading world id
          (true, link, passages ++ more)

/-- Hands to the clients, one by one, what was sent to them. -/
def deliverAll (world : World σ) :
    List (ClientId × Wire.Bytes) → Link σ → Link σ × List Passage
  | [], link => (link, [])
  | (id, frame) :: rest, link =>
    let (_, link, here) := link.feedClient world id [frame]
    let (link, more) := deliverAll world rest link
    (link, .sent id frame :: here ++ more)

/-- Lets the server do something, and hands to the clients what it has sent. -/
def serve {α : Type} (world : World σ)
    (op : Registrar → StateM (Site σ Wire.Bytes) (α × Registrar)) (link : Link σ) :
    α × Link σ × List Passage :=
  let ((answer, server), site) := op link.server link.site
  let (messages, site) := site.collect
  (answer, deliverAll world messages { link with server, site })

/-! ## Connections -/

/-- Both ends of a connection stop reading. -/
def cut (world : World σ) (id : ClientId) (link : Link σ) : Link σ × List Passage :=
  match link.connection? id with
  | none => (link, [])
  | some c => (link.setConnection id { c with line := c.line.hangUp.2 }).stopReading world id

/-- The owner of a client lets it go. -/
def letGo (world : World σ) (id : ClientId) (link : Link σ) : Link σ × List Passage :=
  match link.connection? id with
  | none => (link, [])
  | some c => (link.setConnection id { c with held := false }).releaseUnheld world id

/-! ## Time -/

/-- The next time at which a task of a client wakes. -/
def nextWake? (link : Link σ) : Option Nat :=
  (link.connections.filterMap fun e => e.2.client.nextWake?).min?

/-- Moves the clock of some clients and lets their tasks run that are due. -/
def wakeAt (world : World σ) (time : Nat) : List ClientId → Link σ → Link σ × List Passage
  | [], link => (link, [])
  | id :: rest, link =>
    let (link, here) := link.run world id fun c net => c.wakeAt net time
    let (link, more) := wakeAt world time rest link
    (link, here ++ more)

def setClocks (time : Nat) (link : Link σ) : Link σ :=
  { link with
    now := time
    connections := link.connections.map fun e =>
      (e.1, { e.2 with client := { e.2.client with now := time } }) }

/-- Lets time pass up to a moment, with at most a number of stops on the way. -/
def advanceWithin (world : World σ) (moment : Nat) : Nat → Link σ → Link σ × List Passage
  | 0, link => (link.setClocks moment, [])
  | fuel + 1, link =>
    match link.nextWake? with
    | none => (link.setClocks moment, [])
    | some time =>
      if moment < time then (link.setClocks moment, [])
      else
        let (link, here) := link.wakeAt world time (keys link.connections)
        let (link, more) := advanceWithin world moment fuel link
        (link, here ++ more)

def advance (world : World σ) (ms : Nat) (link : Link σ) : Link σ × List Passage :=
  advanceWithin world (link.now + ms) (ms + 1) link

end Link

end ObservationFeed
