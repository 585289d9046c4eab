import ObservationFeed.Proofs.Wire.Request

/-!
# The layout of messages

The layout of messages as data, apart from readers and writers.  A form is one
way in which a field, and in the end a message, stands in bytes: `bytes` says
which bytes these are and a second function what they mean.  The bounds of the
layout are part of the forms, so every form stands for something.  Padding a
number or filing a point twice makes another form, perhaps of the same message.

The second half shows that bytes have at most one form, whatever follows them.
-/

namespace ObservationFeed.Wire

variable {φ α : Type}

/-! ## Fields -/

/-- A number in groups of seven bits: bytes that announce another one, and the last byte. -/
structure NumberForm (limit : Nat) where
  front : Bytes
  last : UInt8
  announcing : ∀ b ∈ front, ¬ b < 128
  ending : last < 128
  short : front.length < limit

namespace NumberForm

variable {limit : Nat}

def bytes (f : NumberForm limit) : Bytes := f.front ++ [f.last]

/-- The number, whose lowest seven bits come first. -/
def number (f : NumberForm limit) : Nat :=
  f.front.foldr (fun b n => b.toNat % 128 + 128 * n) f.last.toNat

/-- The number that is left of the groups in 32 bits. -/
def int32 (f : NumberForm Varint.maxBytes32) : Int32 := (UInt32.ofNat f.number).toInt32

def int64 (f : NumberForm Varint.maxBytes64) : Int64 := (UInt64.ofNat f.number).toInt64

end NumberForm

/-- A length or a count up to a maximum. -/
structure LengthForm (max : Nat) where
  number : NumberForm Varint.maxBytes32
  nonneg : 0 ≤ number.int32.toInt
  le_max : number.int32.toInt ≤ max

namespace LengthForm

variable {max : Nat}

def bytes (f : LengthForm max) : Bytes := f.number.bytes

def length (f : LengthForm max) : Nat := f.number.int32.toInt.toNat

end LengthForm

/-- A text after its length in bytes. -/
structure TextForm where
  length : LengthForm maxTextBytes
  text : String
  measured : (utf8 text).length = length.length

def TextForm.bytes (f : TextForm) : Bytes := f.length.bytes ++ utf8 f.text

/-- The name of a partition and three coordinates of four bytes, the highest byte first. -/
structure LocationForm where
  partition : TextForm
  x : Int32
  y : Int32
  z : Int32

namespace LocationForm

def bytes (f : LocationForm) : Bytes :=
  f.partition.bytes ++ writeInt32 f.x ++ writeInt32 f.y ++ writeInt32 f.z

def location (f : LocationForm) : Location := ⟨f.partition.text, f.x, f.y, f.z⟩

end LocationForm

/-- A tick, one higher than it is, or zero. -/
structure TickForm where
  raw : NumberForm Varint.maxBytes64
  inRange : raw.int64 ≠ Int64.minValue

namespace TickForm

def bytes (f : TickForm) : Bytes := f.raw.bytes

def tick (f : TickForm) : Option Int64 := if f.raw.int64 = 0 then none else some (f.raw.int64 - 1)

end TickForm

/-- A list after the number of its elements. -/
structure CountedForm (φ : Type) where
  count : LengthForm maxEntries
  items : List φ
  counted : items.length = count.length

def CountedForm.bytes (f : CountedForm φ) (item : φ → Bytes) : Bytes :=
  f.count.bytes ++ f.items.flatMap item

/-! ## Requests -/

structure IntervalForm where
  number : NumberForm Varint.maxBytes32
  one_le : 1 ≤ number.int32.toInt
  le_max : number.int32.toInt ≤ Interval.maxTicks

namespace IntervalForm

def bytes (f : IntervalForm) : Bytes := f.number.bytes

def interval (f : IntervalForm) : Interval where
  ticks := f.number.int32.toInt.toNat
  one_le := (Int.le_toNat (Int.le_of_lt f.one_le)).mpr f.one_le
  le_max := Int.toNat_le.mpr f.le_max

end IntervalForm

inductive KindForm where
  | stop
  | single
  | keepalive (every : IntervalForm)
  | start (every : IntervalForm)

namespace KindForm

def bytes : KindForm → Bytes
  | stop => [0]
  | single => [1]
  | keepalive every => 2 :: every.bytes
  | start every => 3 :: every.bytes

def kind : KindForm → RequestKind
  | stop => .stop
  | single => .single
  | keepalive every => .keepalive every.interval
  | start every => .start every.interval

end KindForm

structure RequestForm where
  location : LocationForm
  kind : KindForm
  clientTick : TickForm

namespace RequestForm

def bytes (f : RequestForm) : Bytes := f.location.bytes ++ f.kind.bytes ++ f.clientTick.bytes

def request (f : RequestForm) : Request := ⟨f.location.location, f.kind.kind, f.clientTick.tick⟩

end RequestForm

/-! ## Responses -/

inductive ValueForm where
  | text (value : TextForm)
  | long (value : Int64)
  /-- Any byte but zero stands for true. -/
  | bool (shown : UInt8)

namespace ValueForm

/-- The tag of the value and the value. -/
def bytes : ValueForm → Bytes
  | text value => 0 :: value.bytes
  | long value => 1 :: writeInt64 value
  | bool shown => [2, shown]

def value : ValueForm → AttributeValue
  | text value => .text value.text
  | long value => .long value
  | bool shown => .bool (shown != 0)

end ValueForm

structure AttributeForm where
  key : TextForm
  value : ValueForm

namespace AttributeForm

def bytes (f : AttributeForm) : Bytes := f.key.bytes ++ f.value.bytes

def named (f : AttributeForm) : Attribute := ⟨f.key.text, f.value.value⟩

end AttributeForm

/-- A point after its flags, whose two lowest bits say which representations it has: one of the bits
is set, as every point has one. -/
structure PointForm where
  flags : UInt8
  point : Point
  long_iff : point.long?.isSome = (flags &&& 1 != 0)
  double_iff : point.double?.isSome = (flags &&& 2 != 0)

def PointForm.bytes (f : PointForm) : Bytes :=
  f.flags :: (f.point.long?.elim [] writeInt64 ++ f.point.double?.elim [] writeDouble)

/-- A point after its attribute tuple. -/
structure EntryForm where
  attributes : CountedForm AttributeForm
  point : PointForm

namespace EntryForm

def bytes (f : EntryForm) : Bytes := f.attributes.bytes AttributeForm.bytes ++ f.point.bytes

def tuple (f : EntryForm) : Attributes := f.attributes.items.map AttributeForm.named

end EntryForm

structure SourceForm where
  name : TextForm
  slot : UInt8
  points : CountedForm EntryForm

namespace SourceForm

def bytes (f : SourceForm) : Bytes :=
  f.name.bytes ++ f.slot :: f.points.bytes EntryForm.bytes

def key (f : SourceForm) : SourceKey := ⟨f.name.text, f.slot⟩

/-- The points of the source, filed from left to right. -/
def filed (f : SourceForm) : Points :=
  .ofList (f.points.items.map fun entry => (entry.tuple, entry.point.point))

end SourceForm

structure ResponseForm where
  location : LocationForm
  sources : CountedForm SourceForm
  serverTick : TickForm

namespace ResponseForm

def bytes (f : ResponseForm) : Bytes :=
  f.location.bytes ++ f.sources.bytes SourceForm.bytes ++ f.serverTick.bytes

/-- The response, whose sources are filed from left to right. -/
def response (f : ResponseForm) : Response where
  location := f.location.location
  snapshot := ⟨.ofList (f.sources.items.map fun source => (source.key, source.filed))⟩
  serverTick := f.serverTick.tick

end ResponseForm

/-! ## Bytes have one form -/

/-- What stands at the front of some bytes is told by the bytes, and so is where it ends. -/
def Unambiguous (bytes : φ → Bytes) : Prop :=
  ∀ f g rest rest', bytes f ++ rest = bytes g ++ rest' → f = g ∧ rest = rest'

theorem Unambiguous.inj {bytes : φ → Bytes} (unambiguous : Unambiguous bytes) {f g : φ}
    (same : bytes f = bytes g) : f = g :=
  (unambiguous f g [] [] (by rw [same])).1

/-- What a reader gets back is told by the bytes it was written in. -/
theorem unambiguous_of_reads {write : α → Bytes} {r : Reader α} (reads : ∀ a, Reads r (write a) a) :
    Unambiguous write := by
  intro a b rest rest' same
  have run := reads a rest
  rw [same, reads b rest'] at run
  cases run
  exact ⟨rfl, rfl⟩

theorem unambiguous_writeInt32 : Unambiguous writeInt32 :=
  unambiguous_of_reads fun n => reads_writeInt32 n ""

theorem unambiguous_writeInt64 : Unambiguous writeInt64 :=
  unambiguous_of_reads fun n => reads_writeInt64 n ""

theorem unambiguous_writeDouble : Unambiguous writeDouble :=
  unambiguous_of_reads fun d => reads_writeDouble d ""

/-- A form with a bound is told by the form that is bounded. -/
theorem Unambiguous.bounded {bytes : φ → Bytes} (unambiguous : Unambiguous bytes) {part : α → φ}
    (inj : ∀ a b, part a = part b → a = b) : Unambiguous fun a => bytes (part a) := by
  intro a b rest rest' same
  obtain ⟨parts, rests⟩ := unambiguous _ _ _ _ same
  exact ⟨inj a b parts, rests⟩

/-- The last byte is the first one that announces no other, by induction on the bytes before it. -/
theorem unambiguous_numberForm (limit : Nat) :
    Unambiguous (NumberForm.bytes : NumberForm limit → Bytes) := by
  intro f g rest rest' same
  obtain ⟨front, last, announcing, ending, short⟩ := f
  obtain ⟨front', last', announcing', ending', short'⟩ := g
  simp only [NumberForm.bytes, List.append_assoc, List.singleton_append] at same
  suffices parts : front = front' ∧ last = last' ∧ rest = rest' by
    obtain ⟨rfl, rfl, rfl⟩ := parts
    exact ⟨rfl, rfl⟩
  clear short short'
  induction front generalizing front' with
  | nil =>
    cases front' with
    | nil =>
      cases same
      exact ⟨rfl, rfl, rfl⟩
    | cons b front' =>
      cases same
      exact absurd ending (announcing' last List.mem_cons_self)
  | cons b front ih =>
    cases front' with
    | nil =>
      cases same
      exact absurd ending' (announcing last' List.mem_cons_self)
    | cons b' front' =>
      obtain ⟨rfl, tails⟩ := List.cons.inj same
      obtain ⟨rfl, parts⟩ := ih (fun b member => announcing b (List.mem_cons_of_mem _ member)) _
        (fun b member => announcing' b (List.mem_cons_of_mem _ member)) tails
      exact ⟨rfl, parts⟩

theorem unambiguous_lengthForm (max : Nat) :
    Unambiguous (LengthForm.bytes : LengthForm max → Bytes) :=
  (unambiguous_numberForm _).bounded fun f g same => by cases f; cases g; cases same; rfl

theorem unambiguous_tickForm : Unambiguous TickForm.bytes :=
  (unambiguous_numberForm _).bounded fun f g same => by cases f; cases g; cases same; rfl

theorem unambiguous_intervalForm : Unambiguous IntervalForm.bytes :=
  (unambiguous_numberForm _).bounded fun f g same => by cases f; cases g; cases same; rfl

theorem utf8_inj {s s' : String} (same : utf8 s = utf8 s') : s = s' := by
  have decoded := fromUTF8?_utf8 s
  rw [same, fromUTF8?_utf8] at decoded
  exact (Option.some.inj decoded).symm

theorem unambiguous_textForm : Unambiguous TextForm.bytes := by
  intro f g rest rest' same
  obtain ⟨length, text, measured⟩ := f
  obtain ⟨length', text', measured'⟩ := g
  simp only [TextForm.bytes, List.append_assoc] at same
  obtain ⟨rfl, afterLength⟩ := unambiguous_lengthForm _ _ _ _ _ same
  -- Both texts have the length that was read.
  obtain ⟨texts, rests⟩ := List.append_inj afterLength (measured.trans measured'.symm)
  obtain rfl := utf8_inj texts
  exact ⟨rfl, rests⟩

theorem unambiguous_locationForm : Unambiguous LocationForm.bytes := by
  intro f g rest rest' same
  obtain ⟨partition, x, y, z⟩ := f
  obtain ⟨partition', x', y', z'⟩ := g
  simp only [LocationForm.bytes, List.append_assoc] at same
  obtain ⟨rfl, afterName⟩ := unambiguous_textForm _ _ _ _ same
  obtain ⟨rfl, afterX⟩ := unambiguous_writeInt32 _ _ _ _ afterName
  obtain ⟨rfl, afterY⟩ := unambiguous_writeInt32 _ _ _ _ afterX
  obtain ⟨rfl, rests⟩ := unambiguous_writeInt32 _ _ _ _ afterY
  exact ⟨rfl, rests⟩

/-- Elements told apart are told apart in a list of known length, by induction on the list. -/
theorem Unambiguous.flatMap {bytes : φ → Bytes} (unambiguous : Unambiguous bytes)
    {items items' : List φ} {rest rest' : Bytes} (lengths : items.length = items'.length)
    (same : items.flatMap bytes ++ rest = items'.flatMap bytes ++ rest') :
    items = items' ∧ rest = rest' := by
  induction items generalizing items' with
  | nil =>
    obtain rfl := List.length_eq_zero_iff.mp lengths.symm
    exact ⟨rfl, same⟩
  | cons item items ih =>
    cases items' with
    | nil => cases lengths
    | cons item' items' =>
      simp only [List.flatMap_cons, List.append_assoc] at same
      obtain ⟨rfl, afterItem⟩ := unambiguous _ _ _ _ same
      obtain ⟨rfl, rests⟩ := ih (Nat.succ.inj lengths) afterItem
      exact ⟨rfl, rests⟩

theorem Unambiguous.counted {item : φ → Bytes} (unambiguous : Unambiguous item) :
    Unambiguous fun f : CountedForm φ => f.bytes item := by
  intro f g rest rest' same
  obtain ⟨count, items, counted⟩ := f
  obtain ⟨count', items', counted'⟩ := g
  simp only [CountedForm.bytes, List.append_assoc] at same
  obtain ⟨rfl, afterCount⟩ := unambiguous_lengthForm _ _ _ _ _ same
  obtain ⟨rfl, rests⟩ := unambiguous.flatMap (counted.trans counted'.symm) afterCount
  exact ⟨rfl, rests⟩

/-! ### Requests -/

theorem unambiguous_kindForm : Unambiguous KindForm.bytes := by
  intro f g rest rest' same
  -- The tags differ unless the constructors are the same.
  cases f <;> cases g <;> simp [KindForm.bytes] at same ⊢
  case stop.stop => exact same
  case single.single => exact same
  case keepalive.keepalive every every' =>
    obtain ⟨rfl, rests⟩ := unambiguous_intervalForm _ _ _ _ same
    exact ⟨rfl, rests⟩
  case start.start every every' =>
    obtain ⟨rfl, rests⟩ := unambiguous_intervalForm _ _ _ _ same
    exact ⟨rfl, rests⟩

theorem unambiguous_requestForm : Unambiguous RequestForm.bytes := by
  intro f g rest rest' same
  obtain ⟨location, kind, tick⟩ := f
  obtain ⟨location', kind', tick'⟩ := g
  simp only [RequestForm.bytes, List.append_assoc] at same
  obtain ⟨rfl, afterLocation⟩ := unambiguous_locationForm _ _ _ _ same
  obtain ⟨rfl, afterKind⟩ := unambiguous_kindForm _ _ _ _ afterLocation
  obtain ⟨rfl, rests⟩ := unambiguous_tickForm _ _ _ _ afterKind
  exact ⟨rfl, rests⟩

/-! ### Responses -/

theorem unambiguous_valueForm : Unambiguous ValueForm.bytes := by
  intro f g rest rest' same
  cases f <;> cases g <;> simp [ValueForm.bytes] at same ⊢
  case text.text value value' =>
    obtain ⟨rfl, rests⟩ := unambiguous_textForm _ _ _ _ same
    exact ⟨rfl, rests⟩
  case long.long value value' =>
    obtain ⟨rfl, rests⟩ := unambiguous_writeInt64 _ _ _ _ same
    exact ⟨rfl, rests⟩
  case bool.bool shown shown' =>
    obtain ⟨rfl, rests⟩ := same
    exact ⟨rfl, rests⟩

theorem unambiguous_attributeForm : Unambiguous AttributeForm.bytes := by
  intro f g rest rest' same
  obtain ⟨key, value⟩ := f
  obtain ⟨key', value'⟩ := g
  simp only [AttributeForm.bytes, List.append_assoc] at same
  obtain ⟨rfl, afterKey⟩ := unambiguous_textForm _ _ _ _ same
  obtain ⟨rfl, rests⟩ := unambiguous_valueForm _ _ _ _ afterKey
  exact ⟨rfl, rests⟩

theorem unambiguous_pointForm : Unambiguous PointForm.bytes := by
  intro f g rest rest' same
  obtain ⟨flags, point, long, double⟩ := f
  obtain ⟨flags', point', long', double'⟩ := g
  simp only [PointForm.bytes, List.cons_append, List.append_assoc] at same
  obtain ⟨rfl, afterFlags⟩ := List.cons.inj same
  -- The flags say which representations there are, so both points have the same ones.
  rw [← long'] at long
  rw [← double'] at double
  cases point <;> cases point' <;> simp only [Point.long?, Point.double?, Option.isSome_some,
    Option.isSome_none, reduceCtorEq, Option.elim_some, Option.elim_none, List.nil_append]
    at long double afterFlags
  case long.long n n' =>
    obtain ⟨rfl, rests⟩ := unambiguous_writeInt64 _ _ _ _ afterFlags
    exact ⟨rfl, rests⟩
  case double.double d d' =>
    obtain ⟨rfl, rests⟩ := unambiguous_writeDouble _ _ _ _ afterFlags
    exact ⟨rfl, rests⟩
  case both.both d n d' n' =>
    obtain ⟨rfl, afterLong⟩ := unambiguous_writeInt64 _ _ _ _ afterFlags
    obtain ⟨rfl, rests⟩ := unambiguous_writeDouble _ _ _ _ afterLong
    exact ⟨rfl, rests⟩

theorem unambiguous_entryForm : Unambiguous EntryForm.bytes := by
  intro f g rest rest' same
  obtain ⟨attributes, point⟩ := f
  obtain ⟨attributes', point'⟩ := g
  simp only [EntryForm.bytes, List.append_assoc] at same
  obtain ⟨rfl, afterAttributes⟩ := unambiguous_attributeForm.counted _ _ _ _ same
  obtain ⟨rfl, rests⟩ := unambiguous_pointForm _ _ _ _ afterAttributes
  exact ⟨rfl, rests⟩

theorem unambiguous_sourceForm : Unambiguous SourceForm.bytes := by
  intro f g rest rest' same
  obtain ⟨name, slot, points⟩ := f
  obtain ⟨name', slot', points'⟩ := g
  simp only [SourceForm.bytes, List.append_assoc, List.cons_append] at same
  obtain ⟨rfl, afterName⟩ := unambiguous_textForm _ _ _ _ same
  obtain ⟨rfl, afterSlot⟩ := List.cons.inj afterName
  obtain ⟨rfl, rests⟩ := unambiguous_entryForm.counted _ _ _ _ afterSlot
  exact ⟨rfl, rests⟩

theorem unambiguous_responseForm : Unambiguous ResponseForm.bytes := by
  intro f g rest rest' same
  obtain ⟨location, sources, tick⟩ := f
  obtain ⟨location', sources', tick'⟩ := g
  simp only [ResponseForm.bytes, List.append_assoc] at same
  obtain ⟨rfl, afterLocation⟩ := unambiguous_locationForm _ _ _ _ same
  obtain ⟨rfl, afterSources⟩ := unambiguous_sourceForm.counted _ _ _ _ afterLocation
  obtain ⟨rfl, rests⟩ := unambiguous_tickForm _ _ _ _ afterSources
  exact ⟨rfl, rests⟩

end ObservationFeed.Wire
