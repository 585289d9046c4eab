import ObservationFeed.Engine.Run

/-!
# Reports

All that the program shows: the records that its settings let through, what is
wrong with those settings, and what failed.
-/

namespace ObservationFeed.Engine

/-- What the program shows. -/
structure Report where
  logging : LoggingConfig
  records : List Record
  failure : Option Failure
  deriving DecidableEq, Repr

namespace Report

def configFile : String := "telemetry-config.yaml"

def loaded (c : Config) : Record :=
  ⟨.info, "Configuration loaded", [("tick_interval", .number c.server.tickInterval.toNat),
    ("max_age_ticks", .number c.server.maxAgeTicks.toNat),
    ("interaction_range", .double c.server.interactionRange),
    ("keepalive_ms", .number c.keepaliveMs)]⟩

def complete : Record := ⟨.info, "telemetry-engine shutdown complete", []⟩

/-- The report of a program that could not read its settings. -/
def ofConfigError (e : ConfigError) : Report :=
  ⟨{}, [], some ⟨"failed to load " ++ configFile, [e.message]⟩⟩

/-- The report of a program with some settings. -/
def ofConfig (config : Config) (client : ClientId) (noise : Noise) : Report :=
  let (records, result) := Run.run config client noise
  match result with
  | .ok () => ⟨config.logging, loaded config :: records ++ [complete], none⟩
  | .error e => ⟨config.logging, loaded config :: records, some ⟨"demo run failed", e.causes⟩⟩

/-- The report of a program that finds its settings in a file. -/
def ofFile (file : FileContent) (client : ClientId) (noise : Noise) : Report :=
  match Config.ofFileOrUsual file with
  | .error e => ofConfigError e
  | .ok config => ofConfig config client noise

def shown (r : Report) : List Record :=
  let filter := LogFilter.parse r.logging.level
  r.records.filter fun record => filter.admits origin record.names record.level

def lines (r : Report) : List String :=
  r.shown.map fun record => if r.logging.json then record.json else record.shown

/-- The lines of complaints and of what failed. -/
def errorLines (r : Report) : List String :=
  (LogFilter.complaints r.logging.level ++ (r.failure.map Failure.lines).getD []).flatMap
    (·.splitOn "\n")

end Report

end ObservationFeed.Engine
