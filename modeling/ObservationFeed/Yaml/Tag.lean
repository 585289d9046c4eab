import ObservationFeed.Hex
import ObservationFeed.Yaml.Cursor

/-!
# Tags, anchors and directives

What stands between the content of a document: names of nodes, tags that say
what a node is, and the lines before a document that say how tags are
abbreviated.
-/

namespace ObservationFeed.Yaml

/-- The bytes of a tag or of a part of one. -/
abbrev TagText := List UInt8

def tagText (chars : List Char) : TagText := chars.map fun c => UInt8.ofNat c.toNat

/-- A tag as it is written: an abbreviation, and what follows it. -/
structure ShortTag where
  handle : String
  suffix : TagText
  deriving DecidableEq, Repr

/-- An abbreviation and what it stands for. -/
structure TagRule where
  handle : String
  start : TagText
  deriving DecidableEq, Repr

/-- A line before a document. -/
inductive Directive where
  | version (major minor : Nat)
  | tag (rule : TagRule)
  deriving DecidableEq, Repr

/-! ## Tags -/

/-- Whether a character can stand in a tag.  Some can only in one that is enclosed. -/
def isTagChar (enclosed : Bool) (c : Char) : Bool :=
  isNameChar c || ";/?:@&=+$.!~*'()".toList.contains c || (enclosed && ",[]".toList.contains c)

/-- The number of bytes that a character has whose first byte is given. -/
def utf8Width? (n : Nat) : Option Nat :=
  if n < 0x80 then some 1
  else if 0xc0 ≤ n ∧ n < 0xe0 then some 2
  else if 0xe0 ≤ n ∧ n < 0xf0 then some 3
  else if 0xf0 ≤ n ∧ n < 0xf8 then some 4
  else none

/-- A byte after a percent sign. -/
def escapedByte? : List Char → Option (UInt8 × List Char)
  | '%' :: a :: b :: rest => (Hex.number? [a, b]).map fun n => (UInt8.ofNat n, rest)
  | _ => none

/-- Bytes after percent signs that continue a character. -/
def escapedBytes? : Nat → List Char → Option (TagText × List Char)
  | 0, cs => some ([], cs)
  | count + 1, cs => do
    let (byte, cs) ← escapedByte? cs
    if byte &&& 0xc0 ≠ 0x80 then none
    let (more, cs) ← escapedBytes? count cs
    return (byte :: more, cs)

/-- The bytes of a character whose bytes follow percent signs. -/
def escapedChar? (cs : List Char) : Option (TagText × List Char) := do
  let (byte, cs) ← escapedByte? cs
  let width ← utf8Width? byte.toNat
  let (more, cs) ← escapedBytes? (width - 1) cs
  return (byte :: more, cs)

def tagChars? (enclosed : Bool) : Nat → List Char → Option (TagText × List Char)
  | 0, cs => some ([], cs)
  | _ + 1, [] => some ([], [])
  | fuel + 1, c :: rest =>
    if c = '%' then do
      let (char, rest) ← escapedChar? (c :: rest)
      let (more, rest) ← tagChars? enclosed fuel rest
      return (char ++ more, rest)
    else if isTagChar enclosed c then
      (tagChars? enclosed fuel rest).map fun (more, rest) => (UInt8.ofNat c.toNat :: more, rest)
    else some ([], c :: rest)

/-- The bytes of a tag that count, which are those before the first zero byte. -/
def TagText.cut (text : TagText) : TagText := text.takeWhile (· != 0)

def tagSuffix? (enclosed : Bool) (c : Cursor) : Option (TagText × Cursor) :=
  (tagChars? enclosed c.rest.length c.rest).map fun (text, rest) =>
    (text, c.drop (c.rest.length - rest.length))

/-- Reads what may be the abbreviation of a tag: an exclamation mark, name characters, and perhaps
another mark. -/
def handle? (c : Cursor) : Option (List Char × Cursor) :=
  if c.isAt '!' then
    let (name, c) := (c.drop 1).span isNameChar
    if c.isAt '!' then some ('!' :: name ++ ['!'], c.drop 1) else some ('!' :: name, c)
  else none

/-- Whether characters are an abbreviation with a mark at either end. -/
def isFullHandle (chars : List Char) : Bool := 1 < chars.length && chars.getLast? == some '!'

/-- Reads a tag that is enclosed in angle brackets and stands for itself. -/
def enclosedTag? (c : Cursor) : Option (ShortTag × Cursor) := do
  let (suffix, c) ← tagSuffix? true (c.drop 2)
  if suffix.isEmpty then none
  if c.isAt '>' then return (⟨"", suffix.cut⟩, c.drop 1) else none

/-- Reads a tag that may be abbreviated. -/
def openTag? (c : Cursor) : Option (ShortTag × Cursor) := do
  let (chars, c) ← handle? c
  let (suffix, c) ← tagSuffix? false c
  if isFullHandle chars then
    if suffix.isEmpty then none else return (⟨String.ofList chars, suffix.cut⟩, c)
  else
    let suffix := TagText.cut (tagText chars.tail ++ suffix)
    return (if suffix.isEmpty then ⟨"", tagText ['!']⟩ else ⟨"!", suffix⟩, c)

/-- Reads a tag.  It has to be followed by the end of a word, or in a flow collection by a comma. -/
def tag? (inFlow : Bool) (c : Cursor) : Option (ShortTag × Cursor) := do
  let (tag, c) ← if (c.drop 1).isAt '<' then enclosedTag? c else openTag? c
  if endsWord c.rest || (inFlow && c.isAt ',') then return (tag, c) else none

/-! ## Anchors -/

/-- Reads the name of a node after its indicator. -/
def anchor? (c : Cursor) : Option (String × Cursor) :=
  let (name, c) := (c.drop 1).span isNameChar
  if name.isEmpty then none
  else if endsWord c.rest || c.head?.any (fun d => "?:,]\x7d%@\x60".toList.contains d) then
    some (String.ofList name, c)
  else none

/-! ## Directives -/

/-- Reads a number of at most nine digits. -/
def versionNumber? (c : Cursor) : Option (Nat × Cursor) :=
  let (digits, c) := c.span fun d => '0' ≤ d && d ≤ '9'
  if digits.isEmpty || 9 < digits.length then none
  else some (digits.foldl (fun n d => n * 10 + (d.toNat - 48)) 0, c)

def version? (c : Cursor) : Option (Directive × Cursor) := do
  let (major, c) ← versionNumber? (c.skip isBlank)
  if !c.isAt '.' then none
  let (minor, c) ← versionNumber? (c.drop 1)
  return (.version major minor, c)

def tagRule? (c : Cursor) : Option (Directive × Cursor) := do
  let (chars, c) ← handle? (c.skip isBlank)
  if !isFullHandle chars && chars ≠ ['!'] then none
  if !c.head?.any isBlank then none
  let (start, c) ← tagSuffix? true (c.skip isBlank)
  if start.isEmpty || !endsWord c.rest then none
  return (.tag ⟨String.ofList chars, start.cut⟩, c)

def directive? (c : Cursor) : Option (Directive × Cursor) := do
  let (name, c) := (c.drop 1).span isNameChar
  if !endsWord c.rest then none
  let (directive, c) ← match String.ofList name with
    | "YAML" => version? c
    | "TAG" => tagRule? c
    | _ => none
  return (directive, ← c.skipRestOfLine?)

end ObservationFeed.Yaml
