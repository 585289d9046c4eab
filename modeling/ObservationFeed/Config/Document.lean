import ObservationFeed.Config
import ObservationFeed.Yaml.Value

/-!
# Settings from documents

Settings are read from a document with a section for each of their groups.  What
is left out has its usual value, what is not known is passed over, and nothing
that is known may be given twice.  An empty document or section gives the usual
values.
-/

namespace ObservationFeed

open Yaml (Node)

/-- Why there are no settings. -/
inductive ConfigError where
  /-- The file cannot be read as text. -/
  | unreadable
  /-- The text is not a document with settings. -/
  | malformed
  /-- The settings break a rule. -/
  | invalid (rule : Config.Violation)
  deriving DecidableEq, Repr

def ConfigError.message : ConfigError → String
  | unreadable => "failed to read config file"
  | malformed => "failed to parse config YAML"
  | invalid rule => "invalid configuration: " ++ rule.reason

/-- What is found where a file is looked for. -/
inductive FileContent where
  | missing
  /-- Something that is no file or may not be read. -/
  | unreadable
  | bytes (content : List UInt8)
  deriving DecidableEq, Repr

namespace Config

/-! ## Sections -/

/-- The named parts of a mapping in a document. -/
structure Section where
  document : Yaml.Document
  parts : List (String × Node)

namespace Section

def ofNode? (document : Yaml.Document) (node : Node) : Option Section :=
  match document.resolve node with
  | some (.mapping entries) => do
    let parts ← entries.mapM fun (key, value) => do
      let name ← (← document.resolve key).text?
      return (name, value)
    return ⟨document, parts⟩
  | some (.scalar [] .plain _) => some ⟨document, []⟩
  | _ => none

/-- Reads the part with a name, if there is one. -/
def part? {α : Type} (s : Section) (name : String) (default : α) (read : Node → Option α) :
    Option α :=
  match s.parts.filter (·.1 = name) with
  | [] => some default
  | [(_, node)] => (s.document.resolve node).bind read
  | _ => none

/-- Reads the section with a name, if there is one. -/
def group? {α : Type} (s : Section) (name : String) (default : α) (read : Section → Option α) :
    Option α :=
  s.part? name default fun node => (ofNode? s.document node).bind read

def uint32? (s : Section) (name : String) (default : UInt32) : Option UInt32 :=
  s.part? name default fun node => (node.natural? UInt32.size).map UInt32.ofNat

def uint64? (s : Section) (name : String) (default : UInt64) : Option UInt64 :=
  s.part? name default fun node => (node.natural? UInt64.size).map UInt64.ofNat

end Section

/-! ## Groups of settings -/

def server? (s : Section) : Option ServerConfig := do
  let usual : ServerConfig := {}
  return {
    tickInterval := ← s.uint32? "tick_interval" usual.tickInterval
    maxAgeTicks := ← s.uint64? "max_age_ticks" usual.maxAgeTicks
    interactionRange := ← s.part? "interaction_range" usual.interactionRange Node.double? }

def client? (s : Section) : Option ClientConfig := do
  let usual : ClientConfig := {}
  return {
    subscriptionTimeoutMs := ← s.uint64? "subscription_timeout_ms" usual.subscriptionTimeoutMs
    tickDurationMs := ← s.uint64? "tick_duration_ms" usual.tickDurationMs }

def logging? (s : Section) : Option LoggingConfig := do
  let usual : LoggingConfig := {}
  return {
    level := ← s.part? "level" usual.level Node.text?
    json := ← s.part? "json" usual.json Node.bool? }

def engine? (s : Section) : Option EngineConfig := do
  let usual : EngineConfig := {}
  return {
    runTicks := ← s.uint64? "run_ticks" usual.runTicks
    subscribeInterval := ← s.uint32? "subscribe_interval" usual.subscribeInterval
    gaugeCount := ← s.uint32? "gauge_count" usual.gaugeCount }

def ofSection? (s : Section) : Option Config := do
  return {
    server := ← s.group? "server" {} server?
    client := ← s.group? "client" {} client?
    logging := ← s.group? "logging" {} logging?
    engine := ← s.group? "engine" {} engine? }

/-! ## Texts and files -/

/-- The settings in a document, whether or not they keep the rules. -/
def ofDocument? (d : Yaml.Document) : Option Config :=
  match d.root with
  | none => some {}
  | some node => (Section.ofNode? d node).bind ofSection?

/-- Settings that keep the rules. -/
def validate (c : Config) : Except ConfigError Unit :=
  match c.violation? with
  | some rule => .error (.invalid rule)
  | none => .ok ()

def parse (text : String) : Except ConfigError Config := do
  match (Yaml.Document.parse? text).bind ofDocument? with
  | none => throw .malformed
  | some config =>
    config.validate
    return config

def ofFile : FileContent → Except ConfigError Config
  | .bytes content =>
    match String.fromUTF8? ⟨content.toArray⟩ with
    | some text => parse text
    | none => .error .unreadable
  | _ => .error .unreadable

/-- The settings in a file, or the usual ones if there is no file. -/
def ofFileOrUsual : FileContent → Except ConfigError Config
  | .missing => .ok {}
  | file => ofFile file

end Config

end ObservationFeed
