import ObservationFeed.Hex
import ObservationFeed.Pattern.Basic
import ObservationFeed.Text.Alphanumeric
import ObservationFeed.Text.Space

/-!
# Reading patterns

The pattern that a text stands for, if it stands for one.  Braces have no
meaning here but to count repetitions or to give a name or a number at length,
and a text that is searched for in a filter has no closing brace; so an opening
one is an error wherever it has a meaning.
-/

namespace ObservationFeed.Pattern

/-- How far a pattern is read. -/
structure Reader where
  rest : List Char
  /-- Whether blanks and comments do not count. -/
  spaced : Bool
  /-- The names of groups so far. -/
  names : List (List Char)

/-- A step of reading, which may fail. -/
abbrev Read := StateT Reader Option

namespace Read

/-! ## Characters -/

def peek : Read (Option Char) := do return (← get).rest.head?

def skip (n : Nat) : Read Unit := modify fun r => { r with rest := r.rest.drop n }

/-- The next character, which has to be there, and goes on after it. -/
def next : Read Char := do
  let some c ← peek | failure
  skip 1
  return c

/-- Goes on after a text if it comes next, and tells whether it does. -/
def accept (text : String) : Read Bool := do
  if text.toList.isPrefixOf (← get).rest then
    skip text.length
    return true
  else return false

/-- What follows blanks and comments.  A comment begins with a number sign and ends with a line. -/
def afterBlanks : Bool → List Char → List Char
  | _, [] => []
  | true, c :: rest => afterBlanks (c != '\n') rest
  | false, c :: rest =>
    if Text.isSpace c then afterBlanks false rest
    else if c == '#' then afterBlanks true rest
    else c :: rest

/-- Goes on after blanks and comments, if they do not count. -/
def blanks : Read Unit :=
  modify fun r => if r.spaced then { r with rest := afterBlanks false r.rest } else r

/-- Goes on after a character and blanks.  There has to be something after them. -/
def skipToNext : Read Unit := do
  skip 1
  blanks
  let some _ ← peek | failure

/-- The first character that is neither a blank nor the first sign of a comment. -/
def firstSign : Bool → List Char → Option Char
  | _, [] => none
  | inComment, c :: rest =>
    if Text.isSpace c then firstSign inComment rest
    else if !inComment && c == '#' then firstSign true rest
    else some c

/-- The character after the next one and after blanks.  In a comment this is its first sign. -/
def peekSecond : Read (Option Char) := do
  let r ← get
  let rest := r.rest.tail
  return if r.spaced then (firstSign false rest).or rest.head? else rest.head?

/-! ## Escapes -/

/-- What an escape stands for. -/
inductive Escape where
  | letter (letter : Letter)
  | escaped (name : NamedClass) (negated : Bool)
  | property
  | lineEnd
  | wordEnd

/-- Hexadecimal digits.  Blanks between them do not count if none do. -/
def hexDigits : Nat → Read (List Char)
  | 0 => return []
  | count + 1 => do
    let c ← next
    if (Hex.value? c).isNone then failure
    blanks
    return c :: (← hexDigits count)

/-- The character with a number of some digits. -/
def numbered (width : Nat) (asByte : Bool) : Read Escape := do
  skipToNext
  let some n := Hex.number? (← hexDigits width) | failure
  if (0xd800 ≤ n ∧ n ≤ 0xdfff) ∨ 0x10ffff < n then failure
  return .letter ⟨Char.ofNat n, asByte⟩

def property : Read Escape := do
  skipToNext
  let c ← next
  if c == '\x7b' || c == '\\' then failure
  blanks
  return .property

def escapeOf? (c : Char) : Option Escape :=
  let char (char : Char) : Option Escape := some (.letter ⟨char, false⟩)
  match c with
  | 'd' => some (.escaped .digit false)
  | 'D' => some (.escaped .digit true)
  | 's' => some (.escaped .space false)
  | 'S' => some (.escaped .space true)
  | 'w' => some (.escaped .word false)
  | 'W' => some (.escaped .word true)
  | 'a' => char '\x07'
  | 'f' => char '\x0c'
  | 't' => char '\t'
  | 'n' => char '\n'
  | 'r' => char '\r'
  | 'v' => char '\x0b'
  | 'A' => some .lineEnd
  | 'z' => some .lineEnd
  | 'b' => some .wordEnd
  | 'B' => some .wordEnd
  | '<' => some .wordEnd
  | '>' => some .wordEnd
  | _ => if c.toNat < 0x80 && !c.isAlphanum then char c else none

def escape : Read Escape := do
  match ← peek with
  | some 'x' => numbered 2 true
  | some 'u' => numbered 4 false
  | some 'U' => numbered 8 false
  | some 'p' => property
  | some 'P' => property
  | _ =>
    let some found := escapeOf? (← next) | failure
    return found

/-! ## Classes -/

/-- What is left after the name of a class, from behind its opening bracket on. -/
def namedClass? : List Char → Option (ClassSet × List Char)
  | ':' :: rest =>
    let negated := rest.head? == some '^'
    let rest := if negated then rest.tail else rest
    let name := rest.takeWhile (· != ':')
    match rest.drop name.length with
    | ':' :: ']' :: rest =>
      (NamedClass.ofName? (String.ofList name)).map fun found => (.named found negated, rest)
    | _ => none
  | _ => none

/-- Dashes at the beginning of a class, at most some, which stand for themselves. -/
def dashes : Nat → Read (List ClassSet)
  | 0 => return []
  | count + 1 => do
    if (← peek) == some '-' then
      skipToNext
      return .letter ⟨'-', false⟩ :: (← dashes count)
    else return []

/-- Reads the beginning of a class behind its opening bracket: whether it is negated, and what
stands for itself there. -/
def classStart : Read (Bool × List ClassSet) := do
  blanks
  let negated := (← peek) == some '^'
  if negated then skipToNext
  let dashes ← dashes (← get).rest.length
  if dashes.isEmpty && (← peek) == some ']' then
    skipToNext
    return (negated, [.letter ⟨']', false⟩])
  else
    let some _ ← peek | failure
    return (negated, dashes)

def classSign : Read Escape := do
  match ← next with
  | '\\' => escape
  | c => return .letter ⟨c, false⟩

/-- What an escape stands for in a class. -/
def classSetOf? : Escape → Option ClassSet
  | .letter letter => some (.letter letter)
  | .escaped name negated => some (.escaped name negated)
  | .property => some .property
  | _ => none

/-- Reads a sign of a class or a range of characters. -/
def classItem : Read ClassSet := do
  let first ← classSign
  blanks
  let some c ← peek | failure
  let second ← peekSecond
  if c != '-' || second == some ']' || second == some '-' then
    let some set := classSetOf? first | failure
    return set
  else
    skipToNext
    match first, ← classSign with
    | .letter first, .letter last =>
      if last.char < first.char then failure else return .range first last
    | _, _ => failure

/-- The operation that a sign stands for if it is doubled. -/
def operation? : List Char → Option ClassOperation
  | '&' :: '&' :: _ => some .intersection
  | '-' :: '-' :: _ => some .difference
  | '~' :: '~' :: _ => some .symmetricDifference
  | _ => none

/-- A class after what it is joined with. -/
def joined (before : Option (ClassOperation × ClassSet)) (set : ClassSet) : ClassSet :=
  match before with
  | none => set
  | some (operation, left) => .joined operation left set

/-- Reads the rest of a class, up to and with its closing bracket, after what it is joined with and
some items. -/
def classRest : Nat → Option (ClassOperation × ClassSet) → List ClassSet → Read ClassSet
  | 0, _, _ => failure
  | fuel + 1, before, items => do
    blanks
    match operation? (← get).rest with
    | some operation =>
      skip 2
      classRest fuel (some (operation, joined before (.ofItems items))) []
    | none =>
      match ← peek with
      | some ']' =>
        skip 1
        return joined before (.ofItems items)
      | some '[' =>
        match namedClass? (← get).rest.tail with
        | some (set, rest) =>
          modify fun r => { r with rest }
          classRest fuel before (items ++ [set])
        | none =>
          skip 1
          let (negated, start) ← classStart
          let set ← classRest fuel none start
          classRest fuel before (items ++ [.nested negated set])
      | _ => classRest fuel before (items ++ [← classItem])

/-- Reads a class behind its opening bracket. -/
def bracketed : Read Part := do
  let (negated, start) ← classStart
  return .bracketed negated (← classRest ((← get).rest.length + 1) none start)

/-! ## Groups -/

/-- Whether characters are the name of a group. -/
def isGroupName (name : List Char) : Bool :=
  name.head?.any (fun c => c == '_' || Text.isAlphabetic c) &&
    name.all fun c => c == '_' || c == '.' || c == '[' || c == ']' || Text.isAlphanumeric c

/-- Reads a name up to its closing bracket.  No other group has it. -/
def groupName : Read Unit := do
  let r ← get
  let name := r.rest.takeWhile (· != '>')
  if !isGroupName name || r.names.contains name then failure
  set { r with rest := r.rest.drop name.length, names := name :: r.names }
  if (← next) != '>' then failure

/-- Reads flags and the sign after them, and tells whether that opens a group. -/
def groupFlags : Read (Flags × Bool) := do
  let letters := (← get).rest.takeWhile fun c => c != ':' && c != ')'
  skip letters.length
  let some flags := Flags.ofChars? letters | failure
  return (flags, (← next) == ':')

/-- Reads the beginning of a group behind its parenthesis, or all of it if it only sets flags.
Tells whether the group is open. -/
def groupStart : Read (Flags × Bool) := do
  blanks
  for sign in ["?=", "?!", "?<=", "?<!"] do
    if ← accept sign then failure
  if ← (accept "?P<" <||> accept "?<") then
    groupName
    return ([], true)
  else if ← accept "?" then
    let (flags, isOpen) ← groupFlags
    if !isOpen && flags.isEmpty then failure
    return (flags, isOpen)
  else return ([], true)

/-! ## Patterns -/

/-- Reads a sign that stands for itself or for some characters. -/
def sign : Read Part := do
  match ← next with
  | '\\' =>
    match ← escape with
    | .letter letter => return .letter letter
    | .escaped name negated => return .escaped name negated
    | .property => return .property
    | .lineEnd => return .lineEnd
    | .wordEnd => return .wordEnd
  | '.' => return .dot
  | '^' => return .lineEnd
  | '$' => return .lineEnd
  | c => return .letter ⟨c, false⟩

/-- The parts before a sign for repetition, the last one repeated.  There has to be one, and it
must not be flags. -/
def repeatLast? (parts : List Part) : Option (List Part) :=
  match parts.getLast? with
  | none => none
  | some (.flags _) => none
  | some part => some (parts.dropLast ++ [.repeated part])

/-- Reads the rest of a choice, up to the end of the text or of the group, after the branches and
the parts before it. -/
def branches : Nat → List Part → List Part → Read Part
  | 0, _, _ => failure
  | fuel + 1, done, parts => do
    blanks
    match ← peek with
    | some '|' =>
      skip 1
      branches fuel (done ++ [.ofSequence parts]) []
    | some '(' =>
      skip 1
      let (flags, isOpen) ← groupStart
      let spaced := (← get).spaced
      modify fun r => { r with spaced := flags.isOn .spaced r.spaced }
      if isOpen then
        let part ← branches fuel [] []
        if (← next) != ')' then failure
        modify fun r => { r with spaced }
        branches fuel done (parts ++ [.group flags part])
      else branches fuel done (parts ++ [.flags flags])
    | some '[' =>
      skip 1
      branches fuel done (parts ++ [← bracketed])
    | some '\x7b' => failure
    | some c =>
      if c == ')' then return finish done parts
      else if c == '*' || c == '+' || c == '?' then
        let some parts := repeatLast? parts | failure
        skip 1
        let _ ← accept "?"
        branches fuel done parts
      else branches fuel done (parts ++ [← sign])
    | none => return finish done parts
where
  finish (done parts : List Part) : Part :=
    if done.isEmpty then .ofSequence parts else .choice (done ++ [.ofSequence parts])

end Read

def read? (chars : List Char) : Option Part := do
  let (part, r) ← (Read.branches (chars.length + 1) [] []).run ⟨chars, false, []⟩
  if r.rest.isEmpty && part.depth ≤ depthLimit then some part else none

end ObservationFeed.Pattern
