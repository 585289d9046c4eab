import ObservationFeed.KeyedList
import ObservationFeed.Yaml.Token

/-!
# Nodes

A document as a tree.  A node that is missing, such as the value of a key with
nothing after it, is an empty plain scalar.

A node may be named by an anchor and stand again elsewhere by an alias.  Names
are numbered by how many there were before, also where a name is given anew;
of two nodes with one number the later one counts.
-/

namespace ObservationFeed.Yaml

/-- A node of a document. -/
inductive Node where
  | scalar (text : List Char) (style : ScalarStyle) (tag : Option TagText)
  | sequence (items : List Node)
  | mapping (entries : List (Node × Node))
  /-- The node that an anchor has given a number. -/
  | alias (number : Nat)
  deriving Repr

/-- A document, which may have no node at all. -/
structure Document where
  root : Option Node
  /-- The nodes with a number, the later ones first. -/
  numbered : List (Nat × Node)

namespace Document

/-- The node that an alias stands for, and any other node itself. -/
def resolve (d : Document) : Node → Option Node
  | .alias number => KeyedList.find? number d.numbered
  | node => some node

end Document

/-- How far tokens have been put together. -/
structure Assembly where
  tokens : List Token
  /-- The abbreviations of tags. -/
  rules : List TagRule
  /-- The numbers of the names. -/
  names : List (String × Nat)
  numbered : List (Nat × Node)

/-- A step of putting tokens together, which may find that they do not fit. -/
abbrev Assemble := StateT Assembly Option

namespace Assemble

def peek : Assemble (Option Token) := do return (← get).tokens.head?

def skip : Assemble Unit := modify fun a => { a with tokens := a.tokens.tail }

def isAt (tokens : List Token) : Assemble Bool := do
  return (← peek).any fun t => tokens.contains t

/-- Goes on after a token if it comes next, and tells whether it does. -/
def accept (token : Token) : Assemble Bool := do
  if ← isAt [token] then
    skip
    return true
  else return false

/-- Goes on after a token, which has to come next. -/
def expect (token : Token) : Assemble Unit := do
  if ← accept token then return () else failure

/-! ## Properties -/

/-- A node that is missing. -/
def missing : Node := .scalar [] .plain none

/-- Writes an abbreviated tag out. -/
def tagText? (tag : ShortTag) : Assemble TagText := do
  if tag.handle.isEmpty then return tag.suffix
  let some rule := (← get).rules.find? (·.handle == tag.handle) | failure
  return rule.start ++ tag.suffix

def anchor? : Assemble (Option String) := do
  match ← peek with
  | some (.anchor name) =>
    skip
    return some name
  | _ => return none

def nextTag? : Assemble (Option TagText) := do
  match ← peek with
  | some (.tag tag) =>
    skip
    return some (← tagText? tag)
  | _ => return none

/-- The anchor and the tag of a node, in either order. -/
def properties : Assemble (Option String × Option TagText) := do
  match ← anchor? with
  | some name => return (some name, ← nextTag?)
  | none =>
    match ← nextTag? with
    | some tag => return (← anchor?, some tag)
    | none => return (none, none)

/-- Gives the node of a step its number, if it has a name. -/
def numbering (name : Option String) (node : Assemble Node) : Assemble Node := do
  let some name := name | node
  let a ← get
  let number := a.names.length
  set { a with names := KeyedList.put name number a.names, numbered := [] }
  let result ← node
  modify fun b => { b with numbered := b.numbered ++ (number, result) :: a.numbered }
  return result

/-- The node that a name stands for. -/
def named? (name : String) : Assemble Node := do
  let some number := KeyedList.find? name (← get).names | failure
  return .alias number

/-! ## Nodes -/

/-- A node, unless one of some tokens stands in its place. -/
def unlessAt (ends : List Token) (node : Assemble Node) : Assemble Node := do
  if ← isAt ends then return missing else node

/-- A node of which there is nothing but its properties. -/
def bare (named : Bool) (tag : Option TagText) : Assemble Node :=
  if named || tag.isSome then return .scalar [] .plain tag else failure

/-- A value, if its mark comes next, and else none. -/
def valueOr (ends : List Token) (node : Assemble Node) : Assemble Node := do
  if ← accept .value then unlessAt ends node else return missing

/-- The comma before an item that is not the first. -/
def comma (first : Bool) : Assemble Unit := do
  if first then return () else expect .flowEntry

/-- What may stand after the key of a pair inside a flow sequence instead of a node. -/
def pairEnds : List Token := [.flowEntry, .flowSequenceEnd]

/-- What may stand in a flow mapping instead of a node. -/
def flowEnds : List Token := [.flowEntry, .flowMappingEnd]

/-- What may stand in a block mapping instead of a node. -/
def blockEnds : List Token := [.key, .value, .blockEnd]

mutual

/-- A node.  Block collections may be forbidden; a sequence at the indentation of its key may be
allowed. -/
def node (block indentless : Bool) : Nat → Assemble Node
  | 0 => failure
  | fuel + 1 => do
    match ← peek with
    | some (.alias name) =>
      skip
      named? name
    | _ =>
      let (name, tag) ← properties
      numbering name (content block indentless name.isSome tag fuel)

/-- A node without its properties.  It may be missing if it has some. -/
def content (block indentless named : Bool) (tag : Option TagText) : Nat → Assemble Node
  | 0 => failure
  | fuel + 1 => do
    match ← peek with
    | some (.scalar text style) =>
      skip
      return .scalar text style (if tag = some (tagText ['!']) then none else tag)
    | some .flowSequenceStart =>
      skip
      return .sequence (← flowItems true fuel)
    | some .flowMappingStart =>
      skip
      return .mapping (← flowEntries true fuel)
    | some .blockEntry =>
      if indentless then return .sequence (← indentlessItems fuel) else bare named tag
    | some .blockSequenceStart =>
      if block then
        skip
        return .sequence (← blockItems fuel)
      else bare named tag
    | some .blockMappingStart =>
      if block then
        skip
        return .mapping (← blockEntries fuel)
      else bare named tag
    | _ => bare named tag

def blockItems : Nat → Assemble (List Node)
  | 0 => failure
  | fuel + 1 => do
    if ← accept .blockEntry then
      let item ← unlessAt [.blockEntry, .blockEnd] (node true false fuel)
      return item :: (← blockItems fuel)
    else
      expect .blockEnd
      return []

/-- The items of a block sequence at the indentation of its key, which nothing closes. -/
def indentlessItems : Nat → Assemble (List Node)
  | 0 => failure
  | fuel + 1 => do
    if ← accept .blockEntry then
      let item ← unlessAt (.blockEntry :: blockEnds) (node true false fuel)
      return item :: (← indentlessItems fuel)
    else return []

def blockEntries : Nat → Assemble (List (Node × Node))
  | 0 => failure
  | fuel + 1 => do
    if ← accept .key then
      let key ← unlessAt blockEnds (node true true fuel)
      let value ← valueOr blockEnds (node true true fuel)
      return (key, value) :: (← blockEntries fuel)
    else
      expect .blockEnd
      return []

/-- The items of a flow sequence.  An item with a key is a mapping of one entry; where the key
itself is missing, the token in its place is skipped. -/
def flowItems (first : Bool) : Nat → Assemble (List Node)
  | 0 => failure
  | fuel + 1 => do
    if ← accept .flowSequenceEnd then return []
    comma first
    if ← accept .flowSequenceEnd then return []
    let item ←
      if ← accept .key then
        let key ←
          if ← isAt (.value :: pairEnds) then
            skip
            pure missing
          else node false false fuel
        let value ← valueOr pairEnds (node false false fuel)
        pure (.mapping [(key, value)])
      else node false false fuel
    return item :: (← flowItems false fuel)

def flowEntries (first : Bool) : Nat → Assemble (List (Node × Node))
  | 0 => failure
  | fuel + 1 => do
    if ← accept .flowMappingEnd then return []
    comma first
    if ← accept .flowMappingEnd then return []
    let entry ←
      if ← accept .key then
        let key ← unlessAt (.value :: flowEnds) (node false false fuel)
        let value ← valueOr flowEnds (node false false fuel)
        pure (key, value)
      else
        let key ← node false false fuel
        pure (key, missing)
    return entry :: (← flowEntries false fuel)

end

/-! ## Documents -/

/-- The abbreviations that every document has. -/
def usualRules : List TagRule :=
  [⟨"!", tagText ['!']⟩, ⟨"!!", tagText "tag:yaml.org,2002:".toList⟩]

/-- Reads the lines before a document.  The version may be given once, and each abbreviation
once. -/
def directives (versioned : Bool) : List Token → Assemble Unit
  | .directive (.version major minor) :: rest => do
    if versioned || major ≠ 1 || (minor ≠ 1 && minor ≠ 2) then failure
    skip
    directives true rest
  | .directive (.tag rule) :: rest => do
    if (← get).rules.any (·.handle == rule.handle) then failure
    skip
    modify fun a => { a with rules := a.rules ++ [rule] }
    directives versioned rest
  | _ => return ()

/-- The node of a document that begins with lines before it or with its mark. -/
def markedRoot (fuel : Nat) : Assemble Node := do
  directives false (← get).tokens
  expect .documentStart
  modify fun a => { a with rules := a.rules ++ usualRules }
  match ← peek with
  | none => return missing
  | some (.directive _) => return missing
  | some .documentStart => return missing
  | some .documentEnd => return missing
  | some _ => node true false fuel

def root (fuel : Nat) : Assemble (Option Node) := do
  match ← peek with
  | none => return none
  | some (.directive _) => return some (← markedRoot fuel)
  | some .documentStart => return some (← markedRoot fuel)
  | some _ =>
    modify fun a => { a with rules := usualRules }
    return some (← node true false fuel)

end Assemble

namespace Document

/-- The document that tokens make up.  Nothing may follow it but marks of its end. -/
def ofTokens? (tokens : List Token) : Option Document := do
  let (root, rest) ← (Assemble.root (3 * tokens.length + 8)).run ⟨tokens, [], [], []⟩
  if rest.tokens.all (· == .documentEnd) then return ⟨root, rest.numbered⟩ else none

def parse? (text : String) : Option Document := (tokens? text).bind ofTokens?

end Document

end ObservationFeed.Yaml
