import ObservationFeed.Pattern.Reader

/-!
# Which patterns can be searched for

A search goes over texts byte by byte.  The case of letters and the classes and
word ends of all scripts are not known to it; where a pattern turns to those of
ASCII, it must not match a part of a character.  So of a class it matters which
bytes are in it.
-/

namespace ObservationFeed.Pattern

/-- Why a text cannot be searched for. -/
inductive PatternError where
  | malformed
  /-- The ends of words of any script are asked for. -/
  | wordEnd
  deriving DecidableEq, Repr

def PatternError.message : PatternError → String
  | malformed => "error building NFA"
  | wordEnd => "unsupported regex feature for DFAs: cannot build DFAs for regexes with Unicode " ++
    "word boundaries; switch to ASCII word boundaries, or heuristically enable Unicode word " ++
    "boundaries or use a different regex engine"

/-- The flags that matter for what can be searched for. -/
structure Settings where
  ignoreCase : Bool
  unicode : Bool
  deriving DecidableEq, Repr

def Settings.apply (s : Settings) (flags : Flags) : Settings :=
  ⟨flags.isOn .ignoreCase s.ignoreCase, flags.isOn .unicode s.unicode⟩

/-! ## Sets of bytes -/

/-- A set of bytes, as a bit for each. -/
abbrev ByteSet := BitVec 256

namespace ByteSet

def range (first last : Nat) : ByteSet := (((1 : ByteSet) <<< (last + 1 - first)) - 1) <<< first

def ofChars (text : String) : ByteSet := text.toList.foldl (fun s c => s ||| range c.toNat c.toNat) 0

def ascii : ByteSet := range 0 0x7f

def digits : ByteSet := range 0x30 0x39

def upper : ByteSet := range 0x41 0x5a

def lower : ByteSet := range 0x61 0x7a

def ofClass : NamedClass → ByteSet
  | .alnum => digits ||| upper ||| lower
  | .alpha => upper ||| lower
  | .ascii => ascii
  | .blank => ofChars "\t "
  | .cntrl => range 0 0x1f ||| range 0x7f 0x7f
  | .digit => digits
  | .graph => range 0x21 0x7e
  | .lower => lower
  | .print => range 0x20 0x7e
  | .punct => range 0x21 0x2f ||| range 0x3a 0x40 ||| range 0x5b 0x60 ||| range 0x7b 0x7e
  | .space => ofChars "\t\n\x0b\x0c\r "
  | .upper => upper
  | .word => digits ||| upper ||| lower ||| ofChars "_"
  | .xdigit => digits ||| range 0x41 0x46 ||| range 0x61 0x66

/-- A set with each letter in either case. -/
def withBothCases (s : ByteSet) : ByteSet :=
  s ||| ((s &&& upper) <<< 32) ||| ((s &&& lower) >>> 32)

/-- Whether there are only characters of ASCII in a set. -/
def isAscii (s : ByteSet) : Bool := s &&& ~~~ascii == 0

def join (operation : ClassOperation) (a b : ByteSet) : ByteSet :=
  match operation with
  | .intersection => a &&& b
  | .difference => a &&& ~~~b
  | .symmetricDifference => a ^^^ b

end ByteSet

/-! ## Classes -/

mutual

/-- Whether there is anything in a class but classes that are empty or hold everything. -/
def ClassSet.hasContent : ClassSet → Bool
  | .empty => false
  | .nested _ set => set.hasContent
  | .union items => ClassSet.haveContent items
  | .joined _ left right => left.hasContent || right.hasContent
  | .letter _ => true
  | .range _ _ => true
  | .named _ _ => true
  | .escaped _ _ => true
  | .property => true

/-- Whether there is anything in one of some classes. -/
def ClassSet.haveContent : List ClassSet → Bool
  | [] => false
  | item :: items => item.hasContent || ClassSet.haveContent items

end

mutual

/-- Whether all scripts have to be known for a class. -/
def ClassSet.needsScripts : ClassSet → Bool
  | .escaped _ _ => true
  | .property => true
  | .nested _ set => set.needsScripts
  | .union items => ClassSet.needScripts items
  | .joined _ left right => left.needsScripts || right.needsScripts
  | .empty => false
  | .letter _ => false
  | .range _ _ => false
  | .named _ _ => false

/-- Whether all scripts have to be known for one of some classes. -/
def ClassSet.needScripts : List ClassSet → Bool
  | [] => false
  | item :: items => item.needsScripts || ClassSet.needScripts items

end

/-- A set of bytes as the whole of a class.  It must not have parts of characters. -/
def wholeClass? (ignoreCase negated : Bool) (s : ByteSet) : Option ByteSet :=
  let s := if ignoreCase then s.withBothCases else s
  let s := if negated then ~~~s else s
  if s.isAscii then some s else none

mutual

/-- The bytes of what stands in a class, where only ASCII is known. -/
def ClassSet.bytes? (ignoreCase : Bool) : ClassSet → Option ByteSet
  | .empty => some 0
  | .letter l => if l.char.toNat < 0x80 then some (.range l.char.toNat l.char.toNat) else none
  | .range a b =>
    if a.char.toNat < 0x80 && b.char.toNat < 0x80 then some (.range a.char.toNat b.char.toNat)
    else none
  | .named name negated => some (if negated then ~~~ByteSet.ofClass name else .ofClass name)
  | .escaped name negated => if negated then none else some (.ofClass name)
  | .property => none
  | .nested negated set => (set.bytes? ignoreCase).bind (wholeClass? ignoreCase negated)
  | .union items => ClassSet.allBytes? ignoreCase items
  | .joined operation left right => do
    let a ← left.bytes? ignoreCase
    let b ← right.bytes? ignoreCase
    return if ignoreCase then ByteSet.join operation a.withBothCases b.withBothCases
      else ByteSet.join operation a b

def ClassSet.allBytes? (ignoreCase : Bool) : List ClassSet → Option ByteSet
  | [] => some 0
  | item :: items => do return (← item.bytes? ignoreCase) ||| (← ClassSet.allBytes? ignoreCase items)

end

namespace Settings

/-- Whether a class can be searched for. -/
def allowsClass (s : Settings) (negated : Bool) (set : ClassSet) : Bool :=
  if s.unicode then !set.needsScripts && !(s.ignoreCase && set.hasContent)
  else ((set.bytes? s.ignoreCase).bind (wholeClass? s.ignoreCase negated)).isSome

/-- Whether a character can be searched for. -/
def allowsLetter (s : Settings) (l : Letter) : Bool :=
  if s.unicode then !s.ignoreCase else !(l.asByte && 0x80 ≤ l.char.toNat)

end Settings

/-! ## Patterns -/

mutual

/-- What a part finds out, given the settings before it: the settings after it, and whether it asks
for the ends of words of any script.  Nothing if it cannot be searched for. -/
def Part.search? : Part → Settings → Option (Settings × Bool)
  | .empty, s => some (s, false)
  | .flags fs, s => some (s.apply fs, false)
  | .letter l, s => if s.allowsLetter l then some (s, false) else none
  | .dot, s => if s.unicode then some (s, false) else none
  | .lineEnd, s => some (s, false)
  | .wordEnd, s => some (s, s.unicode)
  | .property, _ => none
  | .escaped _ negated, s => if s.unicode || negated then none else some (s, false)
  | .bracketed negated set, s => if s.allowsClass negated set then some (s, false) else none
  | .repeated part, s => part.search? s
  | .group fs part, s => (part.search? (s.apply fs)).map fun found => (s, found.2)
  | .sequence parts, s => Part.searchAll? parts s
  | .choice parts, s => Part.searchAll? parts s

/-- What some parts find out one after the other. -/
def Part.searchAll? : List Part → Settings → Option (Settings × Bool)
  | [], s => some (s, false)
  | part :: parts, s => do
    let (s, a) ← part.search? s
    let (s, b) ← Part.searchAll? parts s
    return (s, a || b)

end

/-- Why a text cannot be searched for, if it cannot. -/
def error? (chars : List Char) : Option PatternError :=
  match (read? chars).bind (·.search? ⟨false, true⟩) with
  | none => some .malformed
  | some (_, wordEnd) => if wordEnd then some .wordEnd else none

end ObservationFeed.Pattern
