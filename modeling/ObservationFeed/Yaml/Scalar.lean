import ObservationFeed.Hex
import ObservationFeed.Yaml.Cursor

/-!
# Scalars

The five ways to write a text: plain, in single or double quotes, and as a
literal or folded block.

In a plain or quoted text a line break between words counts as a space, and
several breaks count as one less; blanks around them do not count.  In a folded
block this holds between lines that do not start with a blank.
-/

namespace ObservationFeed.Yaml

/-- How a scalar is written. -/
inductive ScalarStyle where
  | plain
  | singleQuoted
  | doubleQuoted
  | literal
  | folded
  deriving DecidableEq, Repr

/-! ## Gaps between words -/

/-- Blanks and line breaks between the words of a scalar. -/
structure Gap where
  /-- The blanks, as long as no line has ended. -/
  blanks : List Char
  /-- Whether a line has ended. -/
  broken : Bool
  /-- The first line break that counts. -/
  first : Option Char
  /-- The line breaks after it. -/
  more : List Char
  deriving DecidableEq, Repr

namespace Gap

def none : Gap := ⟨[], false, .none, []⟩

/-- What a gap stands for. -/
def text (g : Gap) : List Char :=
  if g.broken then
    match g.first with
    | some '\n' => if g.more.isEmpty then [' '] else g.more
    | some c => c :: g.more
    | .none => g.more
  else g.blanks

/-- Reads blanks and line breaks.  A tab in a new line has to be at the least column. -/
def read? (leastColumn : Int) : Nat → Cursor → Gap → Option (Gap × Cursor)
  | 0, c, g => some (g, c)
  | fuel + 1, c, g =>
    match c.head?, c.lineBreak? with
    | _, some (char, c) =>
      read? leastColumn fuel c
        (if g.broken then { g with more := g.more ++ [char] } else ⟨[], true, some char, []⟩)
    | some char, .none =>
      if isBlank char then
        if g.broken && char == '\t' && c.column < leastColumn then .none
        else
          read? leastColumn fuel (c.drop 1)
            (if g.broken then g else { g with blanks := g.blanks ++ [char] })
      else some (g, c)
    | .none, .none => some (g, c)

end Gap

/-! ## Plain scalars -/

/-- Whether a character separates or encloses the items of a flow collection. -/
def isFlowIndicator (c : Char) : Bool :=
  c == ',' || c == '[' || c == ']' || c == '\x7b' || c == '\x7d'

/-- The word at the front of a plain scalar.  A colon ends it where it ends a word, and in a flow
collection must not stand before an indicator. -/
def plainWord? (inFlow : Bool) : List Char → Option (List Char)
  | [] => some []
  | c :: rest =>
    if isBlank c || isBreak c then some []
    else if inFlow && c == ':' && rest.head?.any (fun d => isFlowIndicator d || d == '?') then none
    else if (c == ':' && endsWord rest) || (inFlow && isFlowIndicator c) then some []
    else (plainWord? inFlow rest).map (c :: ·)

/-- Reads a plain scalar from a gap on.  Its lines have to be indented by the least column, outside
of flow collections.  Answers its text, the place after it and the blanks that follow, and whether
a line has ended among those. -/
def plain? (inFlow : Bool) (leastColumn : Int) :
    Nat → Cursor → Gap → Option (List Char × Bool × Cursor)
  | 0, _, _ => none
  | fuel + 1, c, gap =>
    if c.isAtDocumentMark || c.isAt '#' then some ([], gap.broken, c)
    else do
      let word ← plainWord? inFlow c.rest
      if word.isEmpty then return ([], gap.broken, c)
      let text := gap.text ++ word
      let (gap, c) ← Gap.read? leastColumn fuel (c.drop word.length) .none
      if gap = .none || (!inFlow && c.column < leastColumn) then return (text, gap.broken, c)
      let (more, broken, c) ← plain? inFlow leastColumn fuel c gap
      return (text ++ more, broken, c)

/-! ## Quoted scalars -/

/-- The character that an escape of one letter stands for. -/
def letterEscape? (c : Char) : Option Char :=
  match c with
  | '0' => some '\x00'
  | 'a' => some '\x07'
  | 'b' => some '\x08'
  | 't' => some '\t'
  | '\t' => some '\t'
  | 'n' => some '\n'
  | 'v' => some '\x0b'
  | 'f' => some '\x0c'
  | 'r' => some '\r'
  | 'e' => some '\x1b'
  | ' ' => some ' '
  | '"' => some '"'
  | '/' => some '/'
  | '\\' => some '\\'
  | 'N' => some '\u0085'
  | '_' => some '\u00a0'
  | 'L' => some '\u2028'
  | 'P' => some '\u2029'
  | _ => none

/-- The number of hexadecimal digits after an escape's letter. -/
def escapeWidth? (c : Char) : Option Nat :=
  match c with
  | 'x' => some 2
  | 'u' => some 4
  | 'U' => some 8
  | _ => none

/-- The character that an escape stands for, and how many characters the escape has after its
backslash. -/
def escape? : List Char → Option (Char × Nat)
  | [] => none
  | c :: rest =>
    match escapeWidth? c with
    | none => (letterEscape? c).map fun char => (char, 1)
    | some width => do
      let digits := rest.take width
      if digits.length < width then none
      let n ← Hex.number? digits
      if (0xd800 ≤ n ∧ n ≤ 0xdfff) ∨ 0x10ffff < n then none
      return (Char.ofNat n, width + 1)

/-- Reads the word at the front of a quoted scalar.  Tells whether it ends with an escaped line
break. -/
def quotedWord? (single : Bool) : Nat → Cursor → Option (List Char × Bool × Cursor)
  | 0, c => some ([], false, c)
  | fuel + 1, c =>
    let onward (char : Char) (c : Cursor) : Option (List Char × Bool × Cursor) :=
      (quotedWord? single fuel c).map fun (word, escaped, c) => (char :: word, escaped, c)
    match c.rest with
    | [] => some ([], false, c)
    | char :: rest =>
      if isBlank char || isBreak char then some ([], false, c)
      else if single then
        if char = '\'' then
          if rest.head? = some '\'' then onward '\'' (c.drop 2) else some ([], false, c)
        else onward char (c.drop 1)
      else if char = '"' then some ([], false, c)
      else if char = '\\' then
        if rest.head?.any isBreak then some ([], true, (c.drop 1).skipLineBreak)
        else
          match escape? rest with
          | none => none
          | some (char, width) => onward char (c.drop (width + 1))
      else onward char (c.drop 1)

/-- Reads a quoted scalar after its opening quote, up to and with the closing one. -/
def quoted? (single : Bool) : Nat → Cursor → Option (List Char × Cursor)
  | 0, _ => none
  | fuel + 1, c => do
    if c.isAtDocumentMark || c.rest.isEmpty then none
    let (word, escaped, c) ← quotedWord? single fuel c
    if c.isAt (if single then '\'' else '"') then return (word, c.drop 1)
    let (gap, c) ← Gap.read? 0 fuel c { Gap.none with broken := escaped }
    let (more, c) ← quoted? single fuel c
    return (word ++ gap.text ++ more, c)

/-! ## Block scalars -/

/-- What becomes of the line breaks at the end of a block. -/
inductive Chomping where
  | strip
  | clip
  | keep
  deriving DecidableEq, Repr

/-- Reads a sign for the treatment of the last line breaks. -/
def chomping? (c : Cursor) : Option (Chomping × Cursor) :=
  if c.isAt '-' then some (.strip, c.drop 1)
  else if c.isAt '+' then some (.keep, c.drop 1)
  else none

/-- Reads a digit that gives the indentation, zero if there is none.  The digit zero is an
error. -/
def increment? (c : Cursor) : Option (Nat × Cursor) :=
  match c.head? with
  | some char =>
    if char = '0' then none
    else if '1' ≤ char ∧ char ≤ '9' then some (char.toNat - 48, c.drop 1)
    else some (0, c)
  | none => some (0, c)

/-- Reads the two signs after a block's indicator, in either order. -/
def blockHeader? (c : Cursor) : Option (Chomping × Nat × Cursor) :=
  match chomping? c with
  | some (chomping, c) => (increment? c).map fun (increment, c) => (chomping, increment, c)
  | none => do
    let (increment, c) ← increment? c
    if increment = 0 then return (.clip, 0, c)
    let (chomping, c) := (chomping? c).getD (.clip, c)
    return (chomping, increment, c)

/-- Reads the empty lines before a line of a block, up to an indentation, which is none yet if it
is zero.  Answers the line breaks, the widest indentation seen, and the place after. -/
def blockBreaks? (indent : Nat) : Nat → Cursor → Nat → Option (List Char × Nat × Cursor)
  | 0, c, widest => some ([], widest, c)
  | fuel + 1, c, widest =>
    let spaces := c.rest.takeWhile (· == ' ')
    let c := c.drop (if indent = 0 then spaces.length else min spaces.length (indent - c.column))
    let widest := max widest c.column
    if (indent = 0 || c.column < indent) && c.isAt '\t' then none
    else
      match c.lineBreak? with
      | none => some ([], widest, c)
      | some (char, c) =>
        (blockBreaks? indent fuel c widest).map fun (breaks, widest, c) => (char :: breaks, widest, c)

/-- Where the lines of a block stand between. -/
structure BlockState where
  /-- The line break after the last line. -/
  last : List Char
  /-- The line breaks of the empty lines since. -/
  empty : List Char
  /-- Whether the last line starts with a blank. -/
  blank : Bool

/-- What stands for the line breaks before a line. -/
def BlockState.joint (s : BlockState) (literal blank : Bool) : List Char :=
  if !literal && s.last == ['\n'] && !s.blank && !blank then
    if s.empty.isEmpty then [' '] else s.empty
  else s.last ++ s.empty

def blockLines? (literal : Bool) (indent : Nat) :
    Nat → Cursor → BlockState → Option (List Char × BlockState × Cursor)
  | 0, c, s => some ([], s, c)
  | fuel + 1, c, s =>
    if c.column ≠ indent || c.rest.isEmpty then some ([], s, c)
    else do
      let blank := c.head?.any isBlank
      let (line, c) := c.span (!isBreak ·)
      let (last, c) := match c.lineBreak? with
        | some (char, c) => ([char], c)
        | none => ([], c)
      let (empty, _, c) ← blockBreaks? indent fuel c 0
      let (more, t, c) ← blockLines? literal indent fuel c ⟨last, empty, blank⟩
      return (s.joint literal blank ++ line ++ more, t, c)

/-- Reads a block after its indicator.  The block is indented more than what it belongs to, and has
fewer characters than a bound. -/
def block? (literal : Bool) (parent : Int) (bound : Nat) (c : Cursor) :
    Option (List Char × Cursor) := do
  let (chomping, increment, c) ← blockHeader? c
  let c ← c.skipRestOfLine?
  let given := if increment = 0 then 0 else parent.toNat + increment
  let (empty, widest, c) ← blockBreaks? given bound c 0
  let indent := if given = 0 then max widest (max (parent + 1).toNat 1) else given
  let (text, s, c) ← blockLines? literal indent bound c ⟨[], empty, false⟩
  let tail := match chomping with
    | .strip => []
    | .clip => s.last
    | .keep => s.last ++ s.empty
  return (text ++ tail, c)

end ObservationFeed.Yaml
