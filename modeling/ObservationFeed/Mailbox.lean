import ObservationFeed.KeyedList
import ObservationFeed.Server.Host

/-!
# Mailboxes

Connections to clients, each with a channel for its messages.  A message is
handed to each client of a list in turn; a client that is not connected, or
whose end of the channel is gone, does not keep the others from theirs, and
the first such failure is the answer.

Responses can be handed over as they are or in their written form.  In the
second case a response that cannot be written reaches nobody.
-/

namespace ObservationFeed

/-- The messages on their way to one end. -/
structure Channel (α : Type) where
  queue : List α
  /-- Whether the receiving end is gone. -/
  hungUp : Bool
  deriving Repr

/-- The connections a client has had. -/
structure Line (α : Type) where
  /-- The channel of the last connection. -/
  channel : Channel α
  /-- Whether that connection is still known. -/
  connected : Bool
  /-- The channels of earlier connections. -/
  earlier : List (Channel α)
  deriving Repr

/-- The connections to all clients. -/
structure Mailboxes (α : Type) where
  lines : List (ClientId × Line α)
  deriving Repr

namespace Mailboxes

open KeyedList

variable {α : Type}

def empty : Mailboxes α := ⟨[]⟩

/-- Whether a client holds the receiving end of its last channel. -/
def listening (m : Mailboxes α) (client : ClientId) : Bool :=
  match find? client m.lines with
  | some line => !line.channel.hungUp
  | none => false

/-- Connects a client by a new channel. -/
def connect (m : Mailboxes α) (client : ClientId) : Mailboxes α :=
  let earlier := match find? client m.lines with
    | some line => line.channel :: line.earlier
    | none => []
  ⟨put client ⟨⟨[], false⟩, true, earlier⟩ m.lines⟩

/-- Forgets a client's connection, and tells whether there was one. -/
def disconnect (m : Mailboxes α) (client : ClientId) : Bool × Mailboxes α :=
  match find? client m.lines with
  | some line => (line.connected, ⟨put client { line with connected := false } m.lines⟩)
  | none => (false, m)

/-- Gives up the receiving end of a client's channel with what waits in it, and tells whether there
was one. -/
def hangUp (m : Mailboxes α) (client : ClientId) : Bool × Mailboxes α :=
  match find? client m.lines with
  | some line =>
    (!line.channel.hungUp, ⟨put client { line with channel := ⟨[], true⟩ } m.lines⟩)
  | none => (false, m)

def deliver (m : Mailboxes α) (client : ClientId) (message : α) :
    Except TransportError (Mailboxes α) :=
  match find? client m.lines with
  | none => .error (.unknownClient client)
  | some line =>
    if !line.connected then .error (.unknownClient client)
    else if line.channel.hungUp then .error .closed
    else
      let channel := { line.channel with queue := line.channel.queue ++ [message] }
      .ok ⟨put client { line with channel } m.lines⟩

/-- Hands a message to each client of a list, and returns the first failure. -/
def deliverAll (m : Mailboxes α) (message : α) :
    List ClientId → Except TransportError Unit × Mailboxes α
  | [] => (.ok (), m)
  | client :: rest =>
    match m.deliver client message with
    | .ok m => deliverAll m message rest
    | .error e => (.error e, (deliverAll m message rest).2)

/-- The messages that wait at receiving ends, and the connections without them. -/
def collect (m : Mailboxes α) : List (ClientId × α) × Mailboxes α :=
  (m.lines.flatMap fun (client, line) => line.channel.queue.map fun message => (client, message),
    ⟨m.lines.map fun (client, line) =>
      (client, { line with channel := { line.channel with queue := [] } })⟩)

end Mailboxes

/-- Hands over responses as they are. -/
def directSink : Server.ResponseSink (Mailboxes Response) where
  send clients response := fun boxes => boxes.deliverAll response clients

/-- Hands over responses in their written form. -/
def wireSink : Server.ResponseSink (Mailboxes Wire.Bytes) where
  send clients response := fun boxes =>
    match Wire.writeResponse response with
    | .error e => (.error (.notEncoded e.message), boxes)
    | .ok frame => boxes.deliverAll frame clients

end ObservationFeed
