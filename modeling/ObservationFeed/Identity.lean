import ObservationFeed.Hex

/-!
# Identities

A client connection and a running world are each named by a 128-bit number.
The number is shown as 32 hexadecimal digits in five hyphenated fields, and
read in four spellings: the digits alone, the hyphenated form, the hyphenated
form in braces, and the hyphenated form after `urn:uuid:` in any case.

An identity is shown after a label that tells clients and worlds apart, and
read with its label or without.
-/

namespace ObservationFeed

/-- A 128-bit number that names something. -/
abbrev Uuid := BitVec 128

namespace Uuid

/-- The number of digits of each field. -/
def fieldWidths : List Nat := [8, 4, 4, 4, 12]

/-- Digits with a hyphen between fields of the given widths. -/
def hyphenate : List Nat → List Char → List Char
  | [], digits => digits
  | [_], digits => digits
  | width :: widths, digits => digits.take width ++ '-' :: hyphenate widths (digits.drop width)

/-- The digits of a text whose fields have the given widths. -/
def unhyphenate? : List Nat → List Char → Option (List Char)
  | [], _ => none
  | [width], text => if text.length = width then some text else none
  | width :: widths, text =>
    match text.drop width with
    | '-' :: rest => (unhyphenate? widths rest).map (text.take width ++ ·)
    | _ => none

def text (u : Uuid) : String :=
  String.ofList (hyphenate fieldWidths (Hex.digits 32 u.toNat))

def ofDigits? (digits : List Char) : Option Uuid :=
  if digits.length = 32 then (Hex.number? digits).map (BitVec.ofNat 128) else none

def ofHyphenated? (text : List Char) : Option Uuid :=
  (unhyphenate? fieldWidths text).bind ofDigits?

/-- The text after `urn:uuid:` in any case. -/
def afterUrn? : List Char → Option (List Char)
  | u :: r :: n :: ':' :: u' :: u'' :: i :: d :: ':' :: rest =>
    if [u, r, n, u', u'', i, d].map Char.toLower = ['u', 'r', 'n', 'u', 'u', 'i', 'd'] then
      some rest
    else none
  | _ => none

def insideBraces? : List Char → Option (List Char)
  | '\x7b' :: rest => if rest.getLast? = some '\x7d' then some rest.dropLast else none
  | _ => none

/-- Reads a number in one of its spellings. -/
def parse? (s : String) : Option Uuid :=
  let text := s.toList
  match text.length with
  | 32 => ofDigits? text
  | 36 => ofHyphenated? text
  | 38 => (insideBraces? text).bind ofHyphenated?
  | 45 => (afterUrn? text).bind ofHyphenated?
  | _ => none

end Uuid

/-- The text after a label and a colon, or the whole text if it does not start so. -/
def unlabel (label : String) (s : String) : String :=
  let start := label.toList ++ [':']
  if start.isPrefixOf s.toList then String.ofList (s.toList.drop start.length) else s

/-- The identity of a connected client. -/
structure ClientId where
  uuid : Uuid
  deriving DecidableEq, Repr

namespace ClientId

def label : String := "client"

instance : Ord ClientId := ⟨compareOn fun c => c.uuid.toNat⟩

def text (c : ClientId) : String := label ++ ":" ++ c.uuid.text

/-- Reads a client's identity, with the label or without. -/
def parse? (s : String) : Option ClientId := (Uuid.parse? (unlabel label s)).map ClientId.mk

end ClientId

/-- The identity of a running world. -/
structure WorldId where
  uuid : Uuid
  deriving DecidableEq, Repr

namespace WorldId

def label : String := "world"

instance : Ord WorldId := ⟨compareOn fun w => w.uuid.toNat⟩

def text (w : WorldId) : String := label ++ ":" ++ w.uuid.text

/-- Reads a world's identity, with the label or without. -/
def parse? (s : String) : Option WorldId := (Uuid.parse? (unlabel label s)).map WorldId.mk

end WorldId

end ObservationFeed
