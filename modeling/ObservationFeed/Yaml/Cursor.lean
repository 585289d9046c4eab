import ObservationFeed.Text.Bytes

/-!
# Places in a text

A cursor is the rest of a text together with how far it is from the start, in
bytes, in lines, and in characters since the start of the line.  A line
ends with a line feed, a carriage return, both, a next-line character, or a line
or paragraph separator.
-/

namespace ObservationFeed.Yaml

/-! ## Characters -/

/-- Whether a character may stand in a document. -/
def isAllowed (c : Char) : Bool :=
  c == '\t' || c == '\n' || c == '\r' || c == '\u0085' ||
    (0x20 ≤ c.toNat && c.toNat ≤ 0x7e) || (0xa0 ≤ c.toNat && c.toNat ≤ 0xfffd) ||
    0x10000 ≤ c.toNat

def isBlank (c : Char) : Bool := c == ' ' || c == '\t'

def isBreak (c : Char) : Bool :=
  c == '\n' || c == '\r' || c == '\u0085' || c == '\u2028' || c == '\u2029'

/-- Whether a character can stand in a name. -/
def isNameChar (c : Char) : Bool :=
  ('0' ≤ c && c ≤ '9') || ('a' ≤ c && c ≤ 'z') || ('A' ≤ c && c ≤ 'Z') || c == '_' || c == '-'

/-- Whether a text is at its end, at a blank or at the end of a line. -/
def endsWord : List Char → Bool
  | [] => true
  | c :: _ => isBlank c || isBreak c

/-! ## Cursors -/

/-- A place in a text. -/
structure Cursor where
  rest : List Char
  /-- Bytes from the start of the text. -/
  index : Nat
  /-- Lines from the start of the text. -/
  line : Nat
  /-- Characters from the start of the line. -/
  column : Nat
  deriving DecidableEq, Repr

namespace Cursor

def start (text : List Char) : Cursor := ⟨text, 0, 0, 0⟩

def head? (c : Cursor) : Option Char := c.rest.head?

def isAt (c : Cursor) (char : Char) : Bool := c.head? == some char

/-- The place after some characters of a line. -/
def drop (c : Cursor) (n : Nat) : Cursor :=
  ⟨c.rest.drop n, c.index + Text.byteCount (c.rest.take n), c.line, c.column + n⟩

/-- The characters of a line from a place on as long as they satisfy a condition, and the place
after them. -/
def span (c : Cursor) (p : Char → Bool) : List Char × Cursor :=
  let chars := c.rest.takeWhile p
  (chars, c.drop chars.length)

/-- The place after the characters that satisfy a condition. -/
def skip (c : Cursor) (p : Char → Bool) : Cursor := (c.span p).2

/-- Reads the end of a line, if there is one, as the character that stands for it. -/
def lineBreak? (c : Cursor) : Option (Char × Cursor) :=
  let after (ending : List Char) (char : Char) (rest : List Char) : Option (Char × Cursor) :=
    some (char, ⟨rest, c.index + Text.byteCount ending, c.line + 1, 0⟩)
  match c.rest with
  | '\r' :: '\n' :: rest => after ['\r', '\n'] '\n' rest
  | '\r' :: rest => after ['\r'] '\n' rest
  | '\n' :: rest => after ['\n'] '\n' rest
  | '\u0085' :: rest => after ['\u0085'] '\n' rest
  | '\u2028' :: rest => after ['\u2028'] '\u2028' rest
  | '\u2029' :: rest => after ['\u2029'] '\u2029' rest
  | _ => none

/-- The place after the end of a line, if there is one. -/
def skipLineBreak (c : Cursor) : Cursor := (c.lineBreak?.map (·.2)).getD c

/-- Skips blanks and a comment up to the end of the line, unless anything else stands there. -/
def skipRestOfLine? (c : Cursor) : Option Cursor :=
  let c := c.skip isBlank
  let c := if c.isAt '#' then c.skip (!isBreak ·) else c
  match c.head? with
  | none => some c
  | some char => if isBreak char then some c.skipLineBreak else none

/-- Whether one of the marks between documents, three dashes or dots, stands at the start of a
line. -/
def isAtMark (c : Cursor) (char : Char) : Bool :=
  c.column == 0 && c.rest.take 3 == [char, char, char] && endsWord (c.rest.drop 3)

/-- Whether a mark between documents stands at the start of a line. -/
def isAtDocumentMark (c : Cursor) : Bool := c.isAtMark '-' || c.isAtMark '.'

end Cursor

end ObservationFeed.Yaml
