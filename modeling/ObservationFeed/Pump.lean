import ObservationFeed.Client.RequestLine
import ObservationFeed.Server.Registrar

/-!
# Pumps

What reads frames at either end of a connection, one after the other, and hands
on the messages in them.  A frame that holds no message ends the connection in
its direction: the frames before it count and those after it do not.
-/

namespace ObservationFeed

open Server

/-- Does what a client's frames ask for, and tells whether the pump goes on. -/
def Server.Registrar.feed {σ : Type} (world : World σ) (client : ClientId) :
    List Wire.Bytes → Registrar → StateM σ (Bool × Registrar)
  | [], r => return (true, r)
  | frame :: rest, r =>
    match Wire.requestOfBytes frame with
    | .error _ => return (false, r)
    | .ok message => do
      let (_, r) ← r.handle world client message
      feed world client rest r

/-- Hands the responses in the server's frames to a client, and tells whether the pump goes on.  A
response that the client refuses stops nothing. -/
def Client.feed (net : Client.Network) : List Wire.Bytes → Client → Client.Outcome Bool
  | [], c => ⟨c, [], true⟩
  | frame :: rest, c =>
    match Wire.responseOfBytes frame with
    | .error _ => ⟨c, [], false⟩
    | .ok response =>
      let here := c.respond net response
      let later := feed net rest here.client
      ⟨later.client, here.log ++ later.log, later.answer⟩

end ObservationFeed
