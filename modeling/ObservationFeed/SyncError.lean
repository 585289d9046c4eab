import ObservationFeed.Identity
import ObservationFeed.Location

/-!
# Failures

Why a request, an observation or a close failed, and how several failures of
one close become one.
-/

namespace ObservationFeed

/-- Why a message was not handed over. -/
inductive TransportError where
  /-- The other end is gone. -/
  | closed
  | unknownClient (client : ClientId)
  /-- The message has no written form. -/
  | notEncoded (reason : String)
  deriving DecidableEq, Repr

/-- Why a container could not be observed. -/
inductive ObserveError where
  | unavailable (reason : String)
  | sourceFailed (source reason : String)
  deriving DecidableEq, Repr

/-- Why an operation of a client or of a server failed. -/
inductive SyncError where
  | closed
  | cancelled
  | subscriptionClosed (location : Location)
  | transport (cause : TransportError)
  | observe (cause : ObserveError)
  /-- A close failed several times over. -/
  | teardown (first : SyncError) (suppressed : List SyncError)
  /-- Entries were left after a close. -/
  | tableNotEmpty (remaining : Nat) (causes : List SyncError)
  /-- There is nothing to run background tasks on. -/
  | noRuntime
  | alreadyRunning (world : WorldId)
  | notRunning (world : WorldId)
  deriving Repr

namespace TransportError

def message : TransportError → String
  | closed => "transport channel closed"
  | unknownClient client => "no connection for client " ++ client.text
  | notEncoded reason => "message could not be encoded: " ++ reason

/-- The word for the kind of a failure, the same whatever its details. -/
def kind : TransportError → String
  | closed => "Closed"
  | unknownClient _ => "UnknownClient"
  | notEncoded _ => "Encode"

end TransportError

namespace ObserveError

def message : ObserveError → String
  | unavailable reason => "observation container unavailable: " ++ reason
  | sourceFailed source reason => "observation source " ++ source ++ " failed: " ++ reason

end ObserveError

namespace SyncError

def message : SyncError → String
  | closed => "sync manager is closed"
  | cancelled => "pending observation request was cancelled"
  | subscriptionClosed location => "subscription for " ++ location.text ++ " is closed"
  | transport cause => "transport error: " ++ cause.message
  | observe cause => "observation failed: " ++ cause.message
  | teardown first suppressed =>
    first.message ++ " (" ++ toString suppressed.length ++ " more suppressed)"
  | tableNotEmpty remaining causes =>
    toString remaining ++ " entries left after close (" ++ toString causes.length ++ " causes)"
  | noRuntime => "no tokio runtime is available"
  | alreadyRunning world => "world session " ++ world.text ++ " is already running"
  | notRunning world => "world session " ++ world.text ++ " is not running"

/-- The word for the kind of a failure, the same whatever its details. -/
def kind : SyncError → String
  | closed => "Closed"
  | cancelled => "Cancelled"
  | subscriptionClosed _ => "SubscriptionClosed"
  | transport _ => "Transport"
  | observe _ => "Observe"
  | teardown .. => "Teardown"
  | tableNotEmpty .. => "TableNotEmpty"
  | noRuntime => "NoRuntime"
  | alreadyRunning _ => "AlreadyRunning"
  | notRunning _ => "NotRunning"

/-- One result for failures in the order in which they happened: none is a success, one is itself,
and of several the first leads. -/
def collect : List SyncError → Except SyncError Unit
  | [] => .ok ()
  | [e] => .error e
  | e :: suppressed => .error (teardown e suppressed)

end SyncError

end ObservationFeed
