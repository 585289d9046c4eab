import ObservationFeed.Pattern.Validity
import ObservationFeed.Text.Bytes
import ObservationFeed.Yaml.Value

/-!
# Log filters

Which records of a log are shown.  A filter is a list of rules between commas.
A rule is a level on its own, or it says which records it is about and perhaps
gives a level after an equals sign: records whose origin starts with a name,
and in brackets those made in a scope or, in braces, those with a field.

A record is shown if its level is within the rule that is closest to it: the
one that names its origin at the greatest length, then one that names a field;
of equal rules the last one counts.  Rules that make no sense are complained of
and passed over, and where none is left only errors are shown.
-/

namespace ObservationFeed.Engine

/-- How much a record matters. -/
inductive Level where
  | error
  | warn
  | info
  | debug
  | trace
  deriving DecidableEq, Repr

namespace Level

/-- The place of a level among all, from the one that matters most. -/
def rank : Level → Nat
  | error => 1
  | warn => 2
  | info => 3
  | debug => 4
  | trace => 5

def text : Level → String
  | error => "ERROR"
  | warn => "WARN"
  | info => "INFO"
  | debug => "DEBUG"
  | trace => "TRACE"

end Level

/-- A field that records may have, perhaps with a value that is wanted. -/
structure FieldRule where
  name : List Char
  value : Option (List Char)
  deriving DecidableEq, Repr

/-- One rule of a filter. -/
structure LogRule where
  /-- The start of the origins that the rule is about. -/
  origin : List Char
  /-- The scope in which records have to be made. -/
  scope : Option (List Char)
  field : Option FieldRule
  /-- The rank of the last level that is shown, zero if none is. -/
  rank : Nat
  deriving DecidableEq, Repr

/-- Why a text is not a rule. -/
inductive LogRuleError where
  | malformed
  | unknownLevel
  /-- The value wanted of a field cannot be searched for. -/
  | badPattern (cause : Pattern.PatternError)
  deriving DecidableEq, Repr

def LogRuleError.message : LogRuleError → String
  | malformed => "invalid filter directive"
  | unknownLevel => "error parsing level filter: expected one of \"off\", \"error\", \"warn\", " ++
    "\"info\", \"debug\", \"trace\", or a number 0-5"
  | badPattern cause => "invalid field filter: " ++ cause.message

namespace FieldRule

/-- Whether a text is a number with a plus sign, which is no pattern. -/
def isPositive (text : List Char) : Bool :=
  text.head? == some '+' &&
    ((Yaml.decimalParts? text.tail).isSome ||
      ["inf", "infinity", "nan"].contains (String.ofList text.tail).toLower)

/-- The rule that a text between braces stands for.  What follows a second equals sign does not
count. -/
def parse (text : List Char) : Except LogRuleError FieldRule :=
  let name := text.takeWhile (· != '=')
  match text.drop name.length with
  | [] => .ok ⟨name, none⟩
  | _ :: rest =>
    let value := rest.takeWhile (· != '=')
    match if isPositive value then none else Pattern.error? value with
    | none => .ok ⟨name, some value⟩
    | some cause => .error (.badPattern cause)

/-- Whether one of two rules that may be missing comes before the other one. -/
def precedes : Option FieldRule → Option FieldRule → Bool
  | none, some _ => true
  | some a, some b => a.name < b.name
  | _, none => false

end FieldRule

/-- How far the text of a rule is read.  White space around the text is passed over when its parts
are told apart; the parts are cut out of the whole text, at the bytes at which they are without that
white space. -/
structure RuleText where
  whole : List Char
  /-- What is left, without white space at the end. -/
  rest : List Char
  /-- The bytes in front of it, without white space at the beginning. -/
  place : Nat
  deriving DecidableEq, Repr

namespace RuleText

def start (text : List Char) : RuleText := ⟨text, Text.trimmed text, 0⟩

def after (t : RuleText) (chars : List Char) : RuleText :=
  { t with rest := t.rest.drop chars.length, place := t.place + Text.byteCount chars }

/-- The place at which a character comes that satisfies a condition, or the end. -/
def upTo (t : RuleText) (p : Char → Bool) : RuleText := t.after (t.rest.takeWhile (!p ·))

def tail (t : RuleText) : RuleText := t.after (t.rest.take 1)

/-- The part from a place on, unless it would begin inside a character. -/
def partFrom (t : RuleText) : Except LogRuleError (List Char) :=
  ((Text.dropBytes? t.place t.whole).map .ok).getD (.error .malformed)

/-- The part between two places, unless it would begin or end inside a character. -/
def partTo (t u : RuleText) : Except LogRuleError (List Char) := do
  let part ← t.partFrom
  ((Text.takeBytes? (u.place - t.place) part).map .ok).getD (.error .malformed)

end RuleText

namespace LogRule

/-- Whether a character can begin the name of an origin. -/
def isOriginStart (c : Char) : Bool := c == '-' || c == ':' || c == '_' || Text.isAlphanumeric c

/-- The rank that a word or a number stands for. -/
def rank? (word : List Char) : Option Nat :=
  match (String.ofList word).toLower with
  | "off" => some 0
  | "error" => some 1
  | "warn" => some 2
  | "info" => some 3
  | "debug" => some 4
  | "trace" => some 5
  | _ => (Yaml.ofDigits? 10 (Yaml.withoutPlus word)).filter (· ≤ 5)

/-- Reads the level at the end of a rule.  Everything is shown where there is none. -/
def readLevel (r : LogRule) (t : RuleText) : Except LogRuleError LogRule := do
  let word ← t.partFrom
  if word.isEmpty then return { r with rank := 5 }
  match rank? word with
  | some rank => return { r with rank }
  | none => throw .unknownLevel

/-- Reads what follows the closing bracket. -/
def readEnd (r : LogRule) (t : RuleText) : Except LogRuleError LogRule :=
  match t.rest with
  | [] => .ok { r with rank := 5 }
  | '=' :: _ => r.readLevel t.tail
  | _ => .error .malformed

/-- Reads a field up to the closing bracket. -/
def readField (r : LogRule) (t : RuleText) : Except LogRuleError LogRule := do
  let u := t.upTo (· == '\x7d')
  if u.rest.isEmpty || u.place == t.place then throw .malformed
  let field ← FieldRule.parse (← t.partTo u)
  let u := u.tail
  match u.rest with
  | ']' :: _ => readEnd { r with field := some field } u.tail
  | _ => throw .malformed

/-- Reads a scope or a field behind the opening bracket. -/
def readBrackets (r : LogRule) (t : RuleText) : Except LogRuleError LogRule := do
  let u := t.upTo fun c => c == ']' || c == '\x7b'
  match u.rest with
  | [] => throw .malformed
  | ']' :: _ => readEnd { r with scope := some (← t.partTo u) } u.tail
  | _ =>
    let scope ← t.partTo u
    readField { r with scope := if scope.isEmpty then none else some scope } u.tail

/-- The rule about all records and levels. -/
def broadest : LogRule := ⟨[], none, none, 5⟩

/-- The rule that a text without commas stands for. -/
def parse (text : List Char) : Except LogRuleError LogRule := do
  let t := RuleText.start text
  match t.rest with
  | [] => throw .malformed
  | '[' :: _ => broadest.readBrackets t.tail
  | c :: _ =>
    if !isOriginStart c then throw .malformed
    let u := t.tail.upTo fun c => c == '=' || c == '['
    match u.rest with
    | [] =>
      match rank? text with
      | some rank => return { broadest with rank }
      | none => return { broadest with origin := text }
    | '=' :: _ => readLevel { broadest with origin := ← t.partTo u } u.tail
    | _ => readBrackets { broadest with origin := ← t.partTo u } u.tail

/-- Whether a rule is about the records of an origin with some fields, made in no scope.  What
value a field has is known only of a scope. -/
def covers (r : LogRule) (origin : String) (fields : List String) : Bool :=
  r.scope.isNone && r.origin.isPrefixOf origin.toList &&
    r.field.all fun f => f.value.isNone && fields.contains (String.ofList f.name)

/-- Whether a rule is closer than another one to records that both are about. -/
def isCloser (a b : LogRule) : Bool :=
  b.origin.length < a.origin.length ||
    (b.origin.length == a.origin.length && FieldRule.precedes b.field a.field)

/-- The rule of two that counts, where the second one comes later. -/
def closer (a b : LogRule) : LogRule := if a.isCloser b then a else b

end LogRule

/-- Which records are shown. -/
structure LogFilter where
  rules : List LogRule
  deriving DecidableEq, Repr

namespace LogFilter

/-- The rules of a filter, as they are written. -/
def parts (text : String) : List String := (text.splitOn ",").filter (· != "")

def parse (text : String) : LogFilter :=
  match (parts text).filterMap fun part => (LogRule.parse part.toList).toOption with
  | [] => ⟨[{ LogRule.broadest with rank := Level.error.rank }]⟩
  | rules => ⟨rules⟩

/-- What is wrong with the rules that are passed over. -/
def complaints (text : String) : List String :=
  (parts text).filterMap fun part =>
    match LogRule.parse part.toList with
    | .ok _ => none
    | .error e => some ("ignoring \x60" ++ part ++ "\x60: " ++ e.message)

def admits (f : LogFilter) (origin : String) (fields : List String) (level : Level) : Bool :=
  match f.rules.filter (·.covers origin fields) with
  | [] => false
  | rule :: rules => level.rank ≤ (rules.foldl LogRule.closer rule).rank

end LogFilter

end ObservationFeed.Engine
