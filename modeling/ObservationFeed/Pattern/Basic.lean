/-!
# Patterns

What a value can be searched for: characters and classes of them, ends of lines
and of words, repetition, choice, and groups that may set flags for what is in
them or follows them.  A pattern is nested only so deep.
-/

namespace ObservationFeed.Pattern

/-! ## Flags -/

/-- What can be turned on or off for a part of a pattern. -/
inductive Flag where
  | ignoreCase
  | multiLine
  | dotAll
  | swapGreed
  /-- Classes and word ends are those of all scripts, and not of ASCII. -/
  | unicode
  | carriageReturn
  /-- Blanks and comments between the signs of a pattern do not count. -/
  | spaced
  deriving DecidableEq, Repr

def Flag.ofChar? : Char → Option Flag
  | 'i' => some .ignoreCase
  | 'm' => some .multiLine
  | 's' => some .dotAll
  | 'U' => some .swapGreed
  | 'u' => some .unicode
  | 'R' => some .carriageReturn
  | 'x' => some .spaced
  | _ => none

/-- Flags, each with whether it is turned on. -/
abbrev Flags := List (Flag × Bool)

namespace Flags

/-- The flags that letters stand for.  Each letter stands once, and a dash before those that are
turned off. -/
def ofChars? (chars : List Char) : Option Flags :=
  let on := chars.takeWhile (· != '-')
  let off := chars.drop (on.length + 1)
  if chars.eraseDups == chars && chars.getLast? != some '-' then do
    let on ← on.mapM Flag.ofChar?
    let off ← off.mapM Flag.ofChar?
    return on.map (·, true) ++ off.map (·, false)
  else none

/-- Whether a flag is on, given whether it was before. -/
def isOn (flags : Flags) (flag : Flag) (before : Bool) : Bool :=
  ((flags.find? (·.1 == flag)).map (·.2)).getD before

end Flags

/-! ## Classes -/

/-- A class of ASCII characters with a name. -/
inductive NamedClass where
  | alnum
  | alpha
  | ascii
  | blank
  | cntrl
  | digit
  | graph
  | lower
  | print
  | punct
  | space
  | upper
  | word
  | xdigit
  deriving DecidableEq, Repr

def NamedClass.ofName? : String → Option NamedClass
  | "alnum" => some .alnum
  | "alpha" => some .alpha
  | "ascii" => some .ascii
  | "blank" => some .blank
  | "cntrl" => some .cntrl
  | "digit" => some .digit
  | "graph" => some .graph
  | "lower" => some .lower
  | "print" => some .print
  | "punct" => some .punct
  | "space" => some .space
  | "upper" => some .upper
  | "word" => some .word
  | "xdigit" => some .xdigit
  | _ => none

/-- A character, and whether it is written as a byte. -/
structure Letter where
  char : Char
  asByte : Bool
  deriving DecidableEq, Repr

/-- How two classes are joined. -/
inductive ClassOperation where
  | intersection
  | difference
  | symmetricDifference
  deriving DecidableEq, Repr

/-- What stands in a class. -/
inductive ClassSet where
  | empty
  | letter (letter : Letter)
  | range (first last : Letter)
  | named (name : NamedClass) (negated : Bool)
  /-- A class with an escape of its own: digits, blanks or word characters. -/
  | escaped (name : NamedClass) (negated : Bool)
  /-- The characters with a property, which may be of any script. -/
  | property
  | nested (negated : Bool) (set : ClassSet)
  | union (items : List ClassSet)
  | joined (operation : ClassOperation) (left right : ClassSet)
  deriving Repr

def ClassSet.ofItems : List ClassSet → ClassSet
  | [] => .empty
  | [item] => item
  | items => .union items

/-! ## Patterns -/

/-- A part of a pattern. -/
inductive Part where
  | empty
  /-- Flags for what follows in the same group. -/
  | flags (flags : Flags)
  | letter (letter : Letter)
  | dot
  /-- The beginning or the end of a line or of the text. -/
  | lineEnd
  /-- The beginning or the end of a word, or neither. -/
  | wordEnd
  | property
  | escaped (name : NamedClass) (negated : Bool)
  | bracketed (negated : Bool) (set : ClassSet)
  | repeated (part : Part)
  | group (flags : Flags) (part : Part)
  | sequence (parts : List Part)
  | choice (parts : List Part)
  deriving Repr

def Part.ofSequence : List Part → Part
  | [] => .empty
  | [part] => part
  | parts => .sequence parts

/-! ## Depth -/

mutual

def ClassSet.depth : ClassSet → Nat
  | .nested _ set => set.depth + 1
  | .union items => ClassSet.depths items + 1
  | .joined _ left right => max left.depth right.depth + 1
  | .empty => 0
  | .letter _ => 0
  | .range _ _ => 0
  | .named _ _ => 0
  | .escaped _ _ => 0
  | .property => 0

/-- How deep the deepest of some classes is nested. -/
def ClassSet.depths : List ClassSet → Nat
  | [] => 0
  | item :: items => max item.depth (ClassSet.depths items)

end

mutual

def Part.depth : Part → Nat
  | .bracketed _ set => set.depth + 1
  | .repeated part => part.depth + 1
  | .group _ part => part.depth + 1
  | .sequence parts => Part.depths parts + 1
  | .choice parts => Part.depths parts + 1
  | .empty => 0
  | .flags _ => 0
  | .letter _ => 0
  | .dot => 0
  | .lineEnd => 0
  | .wordEnd => 0
  | .property => 0
  | .escaped _ _ => 0

/-- How deep the deepest of some parts is nested. -/
def Part.depths : List Part → Nat
  | [] => 0
  | part :: parts => max part.depth (Part.depths parts)

end

/-- How deep a pattern may be nested. -/
def depthLimit : Nat := 250

end ObservationFeed.Pattern
