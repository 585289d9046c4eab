import ObservationFeed.Double.Nearest
import ObservationFeed.Yaml.Node

/-!
# Values

What scalars stand for where a number, a truth value or a text is wanted.

Numbers and truth values are written plainly, or as a literal block with the
tag of the value that is wanted.  Whole numbers may be written in other bases,
and in decimal have no leading zeros.  A text is any scalar.
-/

namespace ObservationFeed.Yaml

/-- The tag of a kind of value. -/
def coreTag (kind : String) : TagText := tagText ("tag:yaml.org,2002:" ++ kind).toList

/-- The text of a scalar that may be read as a value of some kind. -/
def Node.value? (kind : String) : Node → Option (List Char)
  | .scalar text style tag =>
    if style = .plain ∨ (style = .literal ∧ tag = some (coreTag kind)) then some text else none
  | _ => none

/-! ## Whole numbers -/

def isDigit (c : Char) : Bool := '0' ≤ c && c ≤ '9'

/-- The number that digits of a base stand for, which are at least one. -/
def ofDigits? (base : Nat) (digits : List Char) : Option Nat :=
  if digits.isEmpty then none
  else
    digits.foldlM (fun n c => ((Hex.value? c).filter (· < base)).map fun d => n * base + d) 0

def isSigned (text : List Char) : Bool := text.head?.any fun c => c == '+' || c == '-'

/-- A text without one plus sign in front of it. -/
def withoutPlus : List Char → List Char
  | '+' :: rest => rest
  | text => text

/-- The whole number below a bound that a text stands for. -/
def natural? (bound : Nat) (text : List Char) : Option Nat :=
  let number? (base : Nat) (digits : List Char) : Option Nat :=
    (ofDigits? base digits).filter (· < bound)
  match withoutPlus text with
  | '0' :: 'x' :: digits => number? 16 digits
  | '0' :: 'o' :: digits => number? 8 digits
  | '0' :: 'b' :: digits => number? 2 digits
  | '0' :: _ :: _ => none
  | digits => number? 10 digits

/-! ## Doubles -/

/-- The digits, the digits after the point, and the exponent of a decimal without a sign. -/
def decimalParts? (text : List Char) : Option (List Char × List Char × Int) := do
  let whole := text.takeWhile isDigit
  let rest := text.dropWhile isDigit
  let (fraction, rest) := match rest with
    | '.' :: rest => (rest.takeWhile isDigit, rest.dropWhile isDigit)
    | _ => ([], rest)
  if whole.isEmpty && fraction.isEmpty then none
  match rest with
  | [] => return (whole, fraction, 0)
  | e :: rest =>
    if e ≠ 'e' ∧ e ≠ 'E' then none
    let size ← ofDigits? 10 (if isSigned rest then rest.tail else rest)
    return (whole, fraction, if rest.head? = some '-' then -(size : Int) else size)

/-- The finite double nearest to a decimal. -/
def decimal? (text : List Char) : Option Double := do
  let negative := text.head? = some '-'
  let (whole, fraction, exponent) ← decimalParts? (if negative then text.tail else text)
  let n ← ofDigits? 10 (whole ++ fraction)
  let bits := Double.bitsOfDecimal n (exponent - fraction.length)
  if bits < Double.infinityBits then some (.signed negative bits) else none

/-- The words for one of the numbers that are no decimals. -/
def wordForms (word : String) : List (List Char) :=
  ['.' :: word.toLower.toList, '.' :: word.toList, '.' :: word.toUpper.toList]

def double? (text : List Char) : Option Double :=
  if (wordForms "NaN").contains text then some ⟨0x7ff8000000000000⟩
  else if text.head? = some '-' ∧ (wordForms "Inf").contains text.tail then
    some (.signed true Double.infinityBits)
  else
    let text' := withoutPlus text
    if (wordForms "Inf").contains text' then some (.signed false Double.infinityBits)
    else if text.head? = some '+' ∧ isSigned text' then none
    else decimal? text'

/-! ## Scalars -/

/-- The whole number below a bound that a node stands for. -/
def Node.natural? (bound : Nat) (n : Node) : Option Nat :=
  (n.value? "int").bind (Yaml.natural? bound)

def Node.double? (n : Node) : Option Double := (n.value? "float").bind Yaml.double?

def Node.bool? (n : Node) : Option Bool :=
  (n.value? "bool").bind fun text =>
    match String.ofList text with
    | "true" => some true
    | "True" => some true
    | "TRUE" => some true
    | "false" => some false
    | "False" => some false
    | "FALSE" => some false
    | _ => none

def Node.text? : Node → Option String
  | .scalar text _ _ => some (String.ofList text)
  | _ => none

end ObservationFeed.Yaml
