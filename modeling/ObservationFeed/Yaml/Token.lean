import ObservationFeed.Yaml.Scalar
import ObservationFeed.Yaml.Tag

/-!
# Tokens

A document as a list of tokens.  Indentation is turned into tokens that open
and close block collections.  A mapping key that is not announced by a question
mark shows only at its colon; the tokens that open the mapping and announce the
key are then put in front of it.  Such a key lies on one line and within 1024 bytes.
-/

namespace ObservationFeed.Yaml

/-- A token of a document. -/
inductive Token where
  | directive (directive : Directive)
  | documentStart
  | documentEnd
  | blockSequenceStart
  | blockMappingStart
  | blockEnd
  | flowSequenceStart
  | flowSequenceEnd
  | flowMappingStart
  | flowMappingEnd
  | blockEntry
  | flowEntry
  | key
  | value
  | alias (name : String)
  | anchor (name : String)
  | tag (tag : ShortTag)
  | scalar (text : List Char) (style : ScalarStyle)
  deriving DecidableEq, Repr

/-- A place where a key may have begun. -/
structure KeyMark where
  /-- The number of tokens before the key. -/
  position : Nat
  place : Cursor
  /-- Whether nothing but a key can stand there. -/
  required : Bool
  deriving DecidableEq, Repr

/-- How far a document has been divided into tokens. -/
structure Scanner where
  cursor : Cursor
  /-- More than there are characters in the document. -/
  bound : Nat
  tokens : Array Token
  /-- The column of the innermost block collection, minus one if there is none. -/
  indent : Int
  /-- The columns of the block collections around it. -/
  indents : List Int
  /-- Where a key may have begun, for the innermost flow collection and those around it. -/
  keys : List (Option KeyMark)
  /-- Whether a key may begin here. -/
  keyAllowed : Bool
  deriving DecidableEq, Repr

namespace Scanner

def start (text : List Char) : Scanner :=
  ⟨.start text, text.length + 1, #[], -1, [], [none], true⟩

/-- Whether the place is inside a flow collection. -/
def inFlow (s : Scanner) : Bool := 1 < s.keys.length

def push (s : Scanner) (t : Token) : Scanner := { s with tokens := s.tokens.push t }

/-- Puts a token in front of those after the first ones. -/
def pushAt (s : Scanner) (position : Nat) (t : Token) : Scanner :=
  { s with tokens := s.tokens.insertIdxIfInBounds position t }

def goTo (s : Scanner) (c : Cursor) : Scanner := { s with cursor := c }

def skip (s : Scanner) (n : Nat) : Scanner := s.goTo (s.cursor.drop n)

/-- Says whether a key may begin from now on. -/
def allowKey (s : Scanner) (allowed : Bool) : Scanner := { s with keyAllowed := allowed }

/-! ## Keys -/

/-- Whether a key that began at a mark would have become too long. -/
def isStale (s : Scanner) (m : KeyMark) : Bool :=
  m.place.line < s.cursor.line || m.place.index + 1024 < s.cursor.index

/-- Gives up the keys that have become too long, none of which may be required. -/
def dropStaleKeys? (s : Scanner) : Option Scanner :=
  if s.keys.any fun k => k.any fun m => s.isStale m && m.required then none
  else some { s with keys := s.keys.map fun k => k.filter fun m => !s.isStale m }

/-- Gives up the innermost key, which may not be required. -/
def dropKey? (s : Scanner) : Option Scanner :=
  match s.keys with
  | [] => some s
  | k :: rest => if k.any (·.required) then none else some { s with keys := none :: rest }

/-- Notes that a key may begin here. -/
def markKey? (s : Scanner) : Option Scanner :=
  if s.keyAllowed then do
    let required := !s.inFlow && s.indent == s.cursor.column
    let s ← s.dropKey?
    return { s with keys := some ⟨s.tokens.size, s.cursor, required⟩ :: s.keys.tail }
  else some s

/-! ## Indentation -/

/-- Opens a block collection at a column to the right of the innermost one. -/
def indentTo (s : Scanner) (column position : Nat) (t : Token) : Scanner :=
  if s.inFlow || column ≤ s.indent then s
  else { s.pushAt position t with indent := column, indents := s.indent :: s.indents }

/-- Closes block collections, as many as there are to the right of a column. -/
def closeBlocks (column : Int) : List Int → Scanner → Scanner
  | [], s => s
  | outer :: rest, s =>
    if s.indent > column then
      closeBlocks column rest { s.push .blockEnd with indent := outer, indents := rest }
    else s

/-- Closes the block collections to the right of a column. -/
def unindentTo (s : Scanner) (column : Int) : Scanner :=
  if s.inFlow then s else closeBlocks column s.indents s

/-! ## Blanks -/

/-- Skips blanks, comments and line breaks.  A tab may not stand where a key may begin.  A byte
order mark may start a line, where it takes up a column. -/
def skipBlanks : Nat → Scanner → Scanner
  | 0, s => s
  | fuel + 1, s =>
    let c := s.cursor
    let c := if c.column = 0 ∧ c.isAt '\ufeff' then c.drop 1 else c
    let c := c.skip fun d => d == ' ' || ((s.inFlow || !s.keyAllowed) && d == '\t')
    let c := if c.isAt '#' then c.skip (!isBreak ·) else c
    match c.lineBreak? with
    | some (_, c) => skipBlanks fuel ((s.goTo c).allowKey (s.keyAllowed || !s.inFlow))
    | none => s.goTo c

/-! ## Tokens -/

/-- Ends everything that is open, before a directive or a mark between documents. -/
def endDocument? (s : Scanner) : Option Scanner :=
  (s.unindentTo (-1)).dropKey?.map fun s => s.allowKey false

/-- A mark between documents. -/
def documentMark? (s : Scanner) (t : Token) : Option Scanner :=
  s.endDocument?.map fun s => (s.skip 3).push t

def scanDirective? (s : Scanner) : Option Scanner := do
  let s ← s.endDocument?
  let (directive, c) ← directive? s.cursor
  return (s.goTo c).push (.directive directive)

def openFlow? (s : Scanner) (t : Token) : Option Scanner :=
  s.markKey?.map fun s => (({ s with keys := none :: s.keys }.allowKey true).skip 1).push t

def closeFlow? (s : Scanner) (t : Token) : Option Scanner :=
  s.dropKey?.map fun s =>
    (({ s with keys := if s.inFlow then s.keys.tail else s.keys }.allowKey false).skip 1).push t

/-- The comma between the items of a flow collection. -/
def flowEntry? (s : Scanner) : Option Scanner :=
  s.dropKey?.map fun s => ((s.allowKey true).skip 1).push .flowEntry

/-- Opens a block collection for an indicator, which has to stand where a key could. -/
def openBlock? (s : Scanner) (t : Token) : Option Scanner :=
  if s.inFlow then some s
  else if s.keyAllowed then some (s.indentTo s.cursor.column s.tokens.size t)
  else none

/-- The dash before an item of a block sequence. -/
def blockEntry? (s : Scanner) : Option Scanner := do
  let s ← (← s.openBlock? .blockSequenceStart).dropKey?
  return ((s.allowKey true).skip 1).push .blockEntry

/-- The question mark before a key. -/
def key? (s : Scanner) : Option Scanner := do
  let s ← (← s.openBlock? .blockMappingStart).dropKey?
  return ((s.allowKey !s.inFlow).skip 1).push .key

/-- The colon before a value.  If a key has begun before it, the key is announced now. -/
def value? (s : Scanner) : Option Scanner :=
  match s.keys with
  | some m :: rest =>
    let s := { s with keys := none :: rest }.pushAt m.position .key
    let s := s.indentTo m.place.column m.position .blockMappingStart
    some (((s.allowKey false).skip 1).push .value)
  | _ => (s.openBlock? .blockMappingStart).map fun s =>
    ((s.allowKey !s.inFlow).skip 1).push .value

def node? (s : Scanner) (read : Cursor → Option (Token × Cursor)) : Option Scanner := do
  let s ← s.markKey?
  let (t, c) ← read s.cursor
  return ((s.allowKey false).goTo c).push t

/-- A plain scalar.  A key may begin in the line after it. -/
def plainScalar? (s : Scanner) : Option Scanner := do
  let s ← s.markKey?
  let (text, broken, c) ←
    plain? s.inFlow (s.indent + 1) s.bound s.cursor .none
  return ((s.allowKey broken).goTo c).push (.scalar text .plain)

def quotedScalar? (s : Scanner) (style : ScalarStyle) : Option Scanner :=
  s.node? fun c =>
    (quoted? (style = .singleQuoted) s.bound (c.drop 1)).map fun (text, c) =>
      (.scalar text style, c)

/-- A block scalar.  A key may begin after it. -/
def blockScalar? (s : Scanner) (style : ScalarStyle) : Option Scanner := do
  let s ← s.dropKey?
  let (text, c) ← block? (style = .literal) s.indent s.bound (s.cursor.drop 1)
  return ((s.allowKey true).goTo c).push (.scalar text style)

def scanAt? (s : Scanner) (char : Char) : Option Scanner :=
  let wordEnds := endsWord (s.cursor.rest.drop 1)
  let blankFollows := (s.cursor.rest.drop 1).head?.any isBlank
  match char with
  | '[' => s.openFlow? .flowSequenceStart
  | '\x7b' => s.openFlow? .flowMappingStart
  | ']' => s.closeFlow? .flowSequenceEnd
  | '\x7d' => s.closeFlow? .flowMappingEnd
  | ',' => s.flowEntry?
  | '-' =>
    if wordEnds then s.blockEntry? else if blankFollows then none else s.plainScalar?
  | '?' => if s.inFlow || wordEnds then s.key? else s.plainScalar?
  | ':' => if s.inFlow || wordEnds then s.value? else s.plainScalar?
  | '*' => s.node? fun c => (anchor? c).map fun (name, c) => (.alias name, c)
  | '&' => s.node? fun c => (anchor? c).map fun (name, c) => (.anchor name, c)
  | '!' => s.node? fun c => (tag? s.inFlow c).map fun (tag, c) => (.tag tag, c)
  | '\'' => s.quotedScalar? .singleQuoted
  | '"' => s.quotedScalar? .doubleQuoted
  | '|' => if s.inFlow then none else s.blockScalar? .literal
  | '>' => if s.inFlow then none else s.blockScalar? .folded
  | '#' => none
  | '%' => none
  | '@' => none
  | '\x60' => none
  | _ => if isBlank char then none else s.plainScalar?

/-- The tokens of the next thing in a document, absent at its end. -/
def scan? (s : Scanner) : Option (Bool × Scanner) := do
  let s ← (skipBlanks s.bound s).dropStaleKeys?
  let s := s.unindentTo s.cursor.column
  let c := s.cursor
  match c.head? with
  | none => return (true, ← s.endDocument?)
  | some char =>
    let next ←
      if c.column = 0 ∧ char = '%' then s.scanDirective?
      else if c.isAtMark '-' then s.documentMark? .documentStart
      else if c.isAtMark '.' then s.documentMark? .documentEnd
      else s.scanAt? char
    return (false, next)

/-- The tokens up to the end of a document. -/
def scanAll? : Nat → Scanner → Option (List Token)
  | 0, _ => none
  | fuel + 1, s => do
    let (done, s) ← s.scan?
    if done then return s.tokens.toList else scanAll? fuel s

end Scanner

def tokens? (text : String) : Option (List Token) :=
  let chars := text.toList
  if chars.all isAllowed then Scanner.scanAll? (chars.length + 1) (.start chars) else none

end ObservationFeed.Yaml
