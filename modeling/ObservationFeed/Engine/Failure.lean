import ObservationFeed.Config.Document
import ObservationFeed.SyncError
import ObservationFeed.Wire.Error

/-!
# Failures of the demonstration

Why the demonstration could not be set up or did not run to its end, and how
that is told: what failed, and below it the causes, each one because of the
next.
-/

namespace ObservationFeed.Engine

/-- Why the demonstration failed. -/
inductive EngineError where
  | config (cause : ConfigError)
  | sync (cause : SyncError)
  | wire (cause : Wire.Error)
  /-- The log could not be set up. -/
  | logging (reason : String)
  /-- There is nothing to observe. -/
  | noGauges
  deriving Repr

namespace EngineError

def message : EngineError → String
  | config cause => "config error: " ++ cause.message
  | sync cause => "sync error: " ++ cause.message
  | wire cause => "protocol error: " ++ cause.message
  | logging reason => "logging error: " ++ reason
  | noGauges => "demo world has no gauges"

/-- The texts of a failure and of its cause. -/
def causes (e : EngineError) : List String :=
  e.message :: match e with
    | config cause => [cause.message]
    | sync cause => [cause.message]
    | wire cause => [cause.message]
    | _ => []

end EngineError

/-- What failed and why. -/
structure Failure where
  context : String
  causes : List String
  deriving DecidableEq, Repr

/-- A failure as it is told.  Causes are numbered if there is more than one. -/
def Failure.lines (f : Failure) : List String :=
  let causes := match f.causes with
    | [cause] => [cause]
    | causes => causes.mapIdx fun i cause => toString i ++ ": " ++ cause
  ["Error: " ++ f.context, "", "Caused by:"] ++ causes.map ("    " ++ ·)

end ObservationFeed.Engine
