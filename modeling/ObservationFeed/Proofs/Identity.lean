import ObservationFeed.Identity
import ObservationFeed.Proofs.Hex

/-!
# Identities read back

A number is read from a text exactly when the text is, in lower case, one of the number's four
spellings.  The spellings differ in length, so the reader never has to choose between them, and only
the one that starts with `urn` has a colon in it.  So a label with its colon is never the start of a
spelling: what is left when it is taken off, or the whole text where there is none, is all that can
be read, and a label of another kind is never taken for anything.
-/

namespace ObservationFeed

namespace Uuid

/-! ## Fields between hyphens -/

/-- The number of digits of some fields. -/
def total (widths : List Nat) : Nat := widths.foldr (· + ·) 0

theorem hyphenate_append {front digits : List Char} {width next : Nat} {widths : List Nat}
    (whole : front.length = width) :
    hyphenate (width :: next :: widths) (front ++ digits) =
      front ++ '-' :: hyphenate (next :: widths) digits := by
  simp [hyphenate, ← whole]

/-- The first field is taken off with the hyphen after it. -/
theorem unhyphenate?_cons {width next : Nat} {widths : List Nat} {text digits : List Char} :
    unhyphenate? (width :: next :: widths) text = some digits ↔
      ∃ front rest later, front.length = width ∧ text = front ++ '-' :: rest ∧
        unhyphenate? (next :: widths) rest = some later ∧ digits = front ++ later := by
  simp only [unhyphenate?]
  constructor
  · intro read
    split at read
    · next rest hyphen =>
      obtain ⟨later, fields, rfl⟩ := Option.map_eq_some_iff.mp read
      have long : width < text.length := by
        have := congrArg List.length hyphen
        simp at this
        omega
      refine ⟨text.take width, rest, later, by simp; omega, ?_, fields, rfl⟩
      rw [← hyphen, List.take_append_drop]
    · cases read
  · rintro ⟨front, rest, later, rfl, rfl, fields, rfl⟩
    simp [fields]

/-- Hyphens are taken out where they are put in, by induction on the fields. -/
theorem unhyphenate?_eq_some {widths : List Nat} (fields : widths ≠ []) {text digits : List Char} :
    unhyphenate? widths text = some digits ↔
      digits.length = total widths ∧ text = hyphenate widths digits := by
  induction widths generalizing text digits with
  | nil => exact absurd rfl fields
  | cons width widths ih =>
    cases widths with
    | nil =>
      simp only [unhyphenate?, hyphenate, total, List.foldr_cons, List.foldr_nil, Nat.add_zero]
      grind
    | cons next widths =>
      simp only [unhyphenate?_cons, ih (List.cons_ne_nil next widths)]
      constructor
      · rintro ⟨front, rest, later, rfl, rfl, ⟨size, rfl⟩, rfl⟩
        rw [hyphenate_append rfl, List.length_append, size]
        exact ⟨rfl, rfl⟩
      · rintro ⟨size, rfl⟩
        have size : digits.length = width + total (next :: widths) := size
        refine ⟨digits.take width, _, digits.drop width, by simp; omega, rfl, ⟨?_, rfl⟩,
          (List.take_append_drop ..).symm⟩
        simp
        omega

/-- A text is in lower case a hyphenated one when it is hyphenated and its digits are in lower case
those of the other. -/
theorem map_toLower_eq_hyphenate {widths : List Nat} {text digits : List Char}
    (size : digits.length = total widths) :
    text.map Char.toLower = hyphenate widths digits ↔
      ∃ spelt, text = hyphenate widths spelt ∧ spelt.map Char.toLower = digits := by
  induction widths generalizing text digits with
  | nil => simp [hyphenate]
  | cons width widths ih =>
    cases widths with
    | nil => simp [hyphenate]
    | cons next widths =>
      have size : digits.length = width + total (next :: widths) := size
      have later : (digits.drop width).length = total (next :: widths) := by simp; omega
      constructor
      · intro same
        obtain ⟨front, tail, rfl, lowerFront, lowerTail⟩ := List.map_eq_append_iff.mp same
        obtain ⟨c, rest, rfl, hyphen, lowerRest⟩ := List.map_eq_cons_iff.mp lowerTail
        obtain rfl := Hex.eq_of_toLower (by decide) hyphen
        obtain ⟨spelt, rfl, lower⟩ := (ih later).mp lowerRest
        have whole : front.length = width := by
          rw [← List.length_map Char.toLower, lowerFront, List.length_take]
          omega
        refine ⟨front ++ spelt, (hyphenate_append whole).symm, ?_⟩
        rw [List.map_append, lowerFront, lower, List.take_append_drop]
      · rintro ⟨spelt, rfl, rfl⟩
        have rest := (ih later).mpr ⟨spelt.drop width, rfl, List.map_drop⟩
        simp only [hyphenate, List.map_append, List.map_cons, rest, List.map_take]
        rfl

/-! ## The four spellings -/

/-- The four spellings of a number, in lower case. -/
def spellings (u : Uuid) : List String :=
  [String.ofList (Hex.digits 32 u.toNat), u.text, "\x7b" ++ u.text ++ "\x7d", "urn:uuid:" ++ u.text]

theorem ofDigits?_eq_some {digits : List Char} {u : Uuid} :
    ofDigits? digits = some u ↔ digits.map Char.toLower = Hex.digits 32 u.toNat := by
  unfold ofDigits?
  split
  · next size =>
    simp only [Option.map_eq_some_iff, Hex.number?_eq_some, size]
    constructor
    · rintro ⟨n, ⟨bound, lower⟩, rfl⟩
      have bound : n < 2 ^ 128 := bound
      rwa [BitVec.toNat_ofNat, Nat.mod_eq_of_lt bound]
    · intro lower
      exact ⟨u.toNat, ⟨u.isLt, lower⟩, BitVec.ofNat_toNat ..⟩
  · next size =>
    refine iff_of_false nofun fun lower => size ?_
    have := congrArg List.length lower
    simpa using this

theorem ofHyphenated?_eq_some {text : List Char} {u : Uuid} :
    ofHyphenated? text = some u ↔ text.map Char.toLower = u.text.toList := by
  have size : (Hex.digits 32 u.toNat).length = total fieldWidths := Hex.length_digits ..
  have fields : fieldWidths ≠ [] := nofun
  rw [Uuid.text, String.toList_ofList, map_toLower_eq_hyphenate size]
  simp only [ofHyphenated?, Option.bind_eq_some_iff, unhyphenate?_eq_some fields, ofDigits?_eq_some]
  constructor
  · rintro ⟨spelt, ⟨_, rfl⟩, lower⟩
    exact ⟨spelt, rfl, lower⟩
  · rintro ⟨spelt, rfl, lower⟩
    refine ⟨spelt, ⟨?_, rfl⟩, lower⟩
    rw [← List.length_map Char.toLower, lower]
    exact size

theorem insideBraces?_eq_some {text inner : List Char} :
    insideBraces? text = some inner ↔ text = '\x7b' :: inner ++ ['\x7d'] := by
  unfold insideBraces?
  split
  · next rest =>
    split
    · next brace =>
      obtain ⟨front, rfl⟩ := List.getLast?_eq_some_iff.mp brace
      simp [eq_comm]
    · next brace =>
      refine iff_of_false nofun fun same => brace ?_
      obtain rfl := (List.cons.inj same).2
      simp
  · next other =>
    exact iff_of_false nofun fun same => other _ same

theorem afterUrn?_eq_some {text rest : List Char} :
    afterUrn? text = some rest ↔
      ∃ urn, text = urn ++ rest ∧ urn.map Char.toLower = "urn:uuid:".toList := by
  have label : "urn:uuid:".toList = ['u', 'r', 'n', ':', 'u', 'u', 'i', 'd', ':'] := rfl
  rw [label]
  constructor
  · intro read
    unfold afterUrn? at read
    split at read
    · next u r n u' u'' i d rest =>
      split at read
      · next letters =>
        cases read
        refine ⟨[u, r, n, ':', u', u'', i, d, ':'], rfl, ?_⟩
        simp only [List.map_cons, List.map_nil, List.cons.injEq] at letters ⊢
        grind
      · cases read
    · cases read
  · rintro ⟨urn, rfl, lower⟩
    simp only [List.map_eq_cons_iff, List.map_eq_nil_iff] at lower
    obtain ⟨u, _, rfl, first, r, _, rfl, second, n, _, rfl, third, c, _, rfl, colon, lower⟩ := lower
    obtain ⟨u', _, rfl, fourth, u'', _, rfl, fifth, i, _, rfl, sixth, lower⟩ := lower
    obtain ⟨d, _, rfl, seventh, c', _, rfl, colon', rfl⟩ := lower
    -- The letters may be capitals, the colons are themselves.
    obtain rfl := Hex.eq_of_toLower (by decide) colon
    obtain rfl := Hex.eq_of_toLower (by decide) colon'
    simp [afterUrn?, first, second, third, fourth, fifth, sixth, seventh]

theorem braced_eq_some {text : List Char} {u : Uuid} :
    (insideBraces? text).bind ofHyphenated? = some u ↔
      text.map Char.toLower = '\x7b' :: u.text.toList ++ ['\x7d'] := by
  simp only [Option.bind_eq_some_iff, insideBraces?_eq_some, ofHyphenated?_eq_some]
  constructor
  · rintro ⟨inner, rfl, lower⟩
    rw [← lower, List.map_append, List.map_cons]
    rfl
  · intro same
    obtain ⟨front, back, rfl, lowerFront, lowerBack⟩ := List.map_eq_append_iff.mp same
    obtain ⟨c, inner, rfl, opening, lower⟩ := List.map_eq_cons_iff.mp lowerFront
    obtain ⟨d, rfl, closing⟩ := List.map_eq_singleton_iff.mp lowerBack
    obtain rfl := Hex.eq_of_toLower (by decide) opening
    obtain rfl := Hex.eq_of_toLower (by decide) closing
    exact ⟨inner, rfl, lower⟩

theorem urn_eq_some {text : List Char} {u : Uuid} :
    (afterUrn? text).bind ofHyphenated? = some u ↔
      text.map Char.toLower = "urn:uuid:".toList ++ u.text.toList := by
  simp only [Option.bind_eq_some_iff, afterUrn?_eq_some, ofHyphenated?_eq_some,
    List.map_eq_append_iff]
  constructor
  · rintro ⟨rest, ⟨urn, rfl, label⟩, lower⟩
    exact ⟨urn, rest, rfl, label, lower⟩
  · rintro ⟨urn, rest, rfl, label, lower⟩
    exact ⟨rest, ⟨urn, rfl, label⟩, lower⟩

/-- The five fields of a number, from its highest digits to its lowest. -/
theorem toList_text (u : Uuid) :
    u.text.toList = Hex.digits 8 (u.toNat >>> 96) ++ '-' :: Hex.digits 4 (u.toNat >>> 80) ++
      '-' :: Hex.digits 4 (u.toNat >>> 64) ++ '-' :: Hex.digits 4 (u.toNat >>> 48) ++
      '-' :: Hex.digits 12 u.toNat := by
  have first := Hex.digits_add 8 24 u.toNat
  have second := Hex.digits_add 4 20 u.toNat
  have third := Hex.digits_add 4 16 u.toNat
  have fourth := Hex.digits_add 4 12 u.toNat
  rw [Uuid.text, String.toList_ofList, fieldWidths, first, hyphenate_append (Hex.length_digits ..),
    second, hyphenate_append (Hex.length_digits ..), third, hyphenate_append (Hex.length_digits ..),
    fourth, hyphenate_append (Hex.length_digits ..), hyphenate]
  -- Sixteen to a number of digits is two to four times that number.
  simp only [Nat.shiftRight_eq_div_pow, List.append_assoc, List.cons_append]
  rfl

theorem length_text (u : Uuid) : u.text.toList.length = 36 := by
  simp [toList_text]

/-- A text is read as a number when it is, in lower case, one of the number's spellings.  Each
spelling has a length of its own, which the reader goes by. -/
theorem parse?_eq_some {s : String} {u : Uuid} : parse? s = some u ↔ s.toLower ∈ u.spellings := by
  have spelt (t : String) : s.toLower = t ↔ s.toList.map Char.toLower = t.toList := by
    rw [← String.toList_inj, Hex.toList_toLower]
  have braced : ("\x7b" ++ u.text ++ "\x7d").toList = '\x7b' :: u.text.toList ++ ['\x7d'] := by
    simp
  simp only [spellings, List.mem_cons, List.not_mem_nil, or_false, spelt, String.toList_ofList,
    braced, String.toList_append]
  constructor
  · intro read
    simp only [parse?] at read
    split at read
    · exact .inl (ofDigits?_eq_some.mp read)
    · exact .inr (.inl (ofHyphenated?_eq_some.mp read))
    · exact .inr (.inr (.inl (braced_eq_some.mp read)))
    · exact .inr (.inr (.inr (urn_eq_some.mp read)))
    · cases read
  · intro lower
    have size : s.toList.length = (s.toList.map Char.toLower).length := (List.length_map _).symm
    rcases lower with lower | lower | lower | lower
    · have size : s.toList.length = 32 := by rw [size, lower, Hex.length_digits]
      simp only [parse?, size]
      exact ofDigits?_eq_some.mpr lower
    · have size : s.toList.length = 36 := by rw [size, lower, length_text]
      simp only [parse?, size]
      exact ofHyphenated?_eq_some.mpr lower
    · have size : s.toList.length = 38 := by simp [size, lower, length_text]
      simp only [parse?, size]
      exact braced_eq_some.mpr lower
    · have size : s.toList.length = 45 := by simp [size, lower, length_text]
      simp only [parse?, size]
      exact urn_eq_some.mpr lower

theorem parse?_text (u : Uuid) : parse? u.text = some u := by
  have small : u.text.toLower = u.text := by
    rw [← String.toList_inj, Hex.toList_toLower]
    have size : (Hex.digits 32 u.toNat).length = total fieldWidths := Hex.length_digits ..
    rw [Uuid.text, String.toList_ofList, map_toLower_eq_hyphenate size]
    exact ⟨_, rfl, Hex.map_toLower_digits ..⟩
  rw [parse?_eq_some, small]
  simp [spellings]

/-! ## Colons -/

theorem mem_hyphenate {widths : List Nat} {digits : List Char} {c : Char}
    (member : c ∈ hyphenate widths digits) : c = '-' ∨ c ∈ digits := by
  induction widths generalizing digits with
  | nil => exact .inr member
  | cons width widths ih =>
    cases widths with
    | nil => exact .inr member
    | cons next widths =>
      rcases List.mem_append.mp member with front | tail
      · exact .inr (List.mem_of_mem_take front)
      · rcases List.mem_cons.mp tail with hyphen | rest
        · exact .inl hyphen
        · exact (ih rest).imp id List.mem_of_mem_drop

theorem colon_not_mem_digits (k n : Nat) : ':' ∉ Hex.digits k n := by
  intro member
  obtain ⟨d, small, same⟩ := Hex.exists_digit_of_mem member
  exact absurd same (by revert d; decide)

theorem colon_not_mem_text (u : Uuid) : ':' ∉ u.text.toList := by
  rw [Uuid.text, String.toList_ofList]
  intro member
  rcases mem_hyphenate member with hyphen | digit
  · exact absurd hyphen (by decide)
  · exact colon_not_mem_digits _ _ digit

/-- Only one of the spellings has a colon. -/
theorem urn_of_colon {s : String} {u : Uuid} (read : parse? s = some u) (colon : ':' ∈ s.toList) :
    s.toLower = "urn:uuid:" ++ u.text := by
  have colon : ':' ∈ s.toLower.toList := by
    rw [Hex.toList_toLower]
    exact List.mem_map.mpr ⟨':', colon, rfl⟩
  have digits := colon_not_mem_digits 32 u.toNat
  have text := colon_not_mem_text u
  have spelt := parse?_eq_some.mp read
  simp only [spellings, List.mem_cons, List.not_mem_nil, or_false] at spelt
  rcases spelt with same | same | same | same
  · simp [same, digits] at colon
  · simp [same, text] at colon
  · simp [same, text] at colon
  · exact same

/-- No spelling starts with a label, unless the label starts as `urn:uuid:` does. -/
theorem parse?_labelled {label : String} (other : label.toList.head?.map Char.toLower ≠ some 'u')
    (s : String) : parse? (label ++ ":" ++ s) = none := by
  rw [Option.eq_none_iff_forall_ne_some]
  intro u read
  have same := urn_of_colon read (by simp)
  rw [← String.toList_inj] at same
  simp only [Hex.toList_toLower, String.toList_append, List.map_append] at same
  cases start : label.toList with
  | nil => simp [start] at same
  | cons c rest =>
    rw [start] at same other
    exact other (congrArg List.head? same)

end Uuid

/-! ## Labels -/

theorem unlabel_labelled (label s : String) : unlabel label (label ++ ":" ++ s) = s := by
  have text : (label ++ ":" ++ s).toList = label.toList ++ [':'] ++ s.toList := by simp
  have starts : (label.toList ++ [':']).isPrefixOf (label ++ ":" ++ s).toList := by
    rw [text, List.isPrefixOf_iff_prefix]
    exact List.prefix_append ..
  rw [unlabel, if_pos starts, text, List.drop_left, String.ofList_toList]

theorem unlabel_eq_self {label s : String} (bare : ∀ t, s ≠ label ++ ":" ++ t) :
    unlabel label s = s := by
  rw [unlabel, if_neg]
  rw [List.isPrefixOf_iff_prefix]
  rintro ⟨rest, same⟩
  apply bare (String.ofList rest)
  rw [← String.toList_inj, ← same]
  simp

/-- A number is read after a label in the same spellings as without one. -/
theorem parse?_unlabel {label s : String} {u : Uuid}
    (other : label.toList.head?.map Char.toLower ≠ some 'u') :
    Uuid.parse? (unlabel label s) = some u ↔
      Uuid.parse? s = some u ∨ ∃ t, s = label ++ ":" ++ t ∧ Uuid.parse? t = some u := by
  by_cases labelled : ∃ t, s = label ++ ":" ++ t
  · obtain ⟨t, rfl⟩ := labelled
    rw [unlabel_labelled, Uuid.parse?_labelled other]
    constructor
    · intro read
      exact .inr ⟨t, rfl, read⟩
    · rintro (read | ⟨t', same, read⟩)
      · cases read
      · rwa [(String.append_right_inj _).mp same]
  · rw [not_exists] at labelled
    rw [unlabel_eq_self labelled]
    constructor
    · exact .inl
    · rintro (read | ⟨t, same, _⟩)
      · exact read
      · exact absurd same (labelled t)

/-- How the identities of one kind are shown and read, next to a kind with another label. -/
structure Identifies {α : Type} (label other : String) (make : Uuid → α) (text : α → String)
    (parse? : String → Option α) : Prop where
  shown (u : Uuid) : parse? (text (make u)) = some (make u)
  bare (u : Uuid) : parse? u.text = some (make u)
  labelled (u : Uuid) (s : String) :
    parse? (label ++ ":" ++ s) = some (make u) ↔ Uuid.parse? s = some u
  /-- Nothing else is read. -/
  reads (u : Uuid) (s : String) : parse? s = some (make u) ↔
    Uuid.parse? s = some u ∨ ∃ t, s = label ++ ":" ++ t ∧ Uuid.parse? t = some u
  told_apart (u v : Uuid) : text (make u) = text (make v) ↔ u = v
  foreign (s : String) : parse? (other ++ ":" ++ s) = none

section

variable {α : Type} {label other : String} {make : Uuid → α} {text : α → String}
  {parse? : String → Option α}

/-- A kind is told from another one by its label, as long as neither label starts as the spelling
with a colon does. -/
theorem identifies_of_label (shows : ∀ u, text (make u) = label ++ ":" ++ u.text)
    (unlabels : ∀ s, parse? s = (Uuid.parse? (unlabel label s)).map make)
    (distinct : ∀ u v, make u = make v → u = v)
    (own : label.toList.head?.map Char.toLower ≠ some 'u')
    (others : other.toList.head?.map Char.toLower ≠ some 'u')
    (apart : ∀ s t, other ++ ":" ++ s ≠ label ++ ":" ++ t) :
    Identifies label other make text parse? := by
  have number (s : String) (u : Uuid) :
      parse? s = some (make u) ↔ Uuid.parse? (unlabel label s) = some u := by
    rw [unlabels, Option.map_eq_some_iff]
    constructor
    · rintro ⟨v, read, same⟩
      rwa [← distinct v u same]
    · intro read
      exact ⟨u, read, rfl⟩
  have shown (u : Uuid) : parse? (text (make u)) = some (make u) := by
    rw [number, shows, unlabel_labelled]
    exact Uuid.parse?_text u
  constructor
  case shown => exact shown
  case bare =>
    intro u
    rw [number, parse?_unlabel own]
    exact .inl (Uuid.parse?_text u)
  case labelled =>
    intro u s
    rw [number, unlabel_labelled]
  case reads =>
    intro u s
    rw [number, parse?_unlabel own]
  case told_apart =>
    intro u v
    constructor
    · intro same
      have read := shown u
      rw [same, shown v] at read
      exact (distinct v u (Option.some.inj read)).symm
    · exact congrArg fun u => text (make u)
  case foreign =>
    intro s
    rw [unlabels, unlabel_eq_self (apart s), Uuid.parse?_labelled others]
    rfl

end

theorem identifies_client :
    Identifies ClientId.label WorldId.label ClientId.mk ClientId.text ClientId.parse? := by
  apply identifies_of_label
  case shows => exact fun _ => rfl
  case unlabels => exact fun _ => rfl
  case distinct => exact fun u v same => ClientId.mk.inj same
  case own => decide
  case others => decide
  case apart =>
    intro s t same
    have first := congrArg (fun s => s.toList.head?) same
    simp [ClientId.label, WorldId.label] at first

theorem identifies_world :
    Identifies WorldId.label ClientId.label WorldId.mk WorldId.text WorldId.parse? := by
  apply identifies_of_label
  case shows => exact fun _ => rfl
  case unlabels => exact fun _ => rfl
  case distinct => exact fun u v same => WorldId.mk.inj same
  case own => decide
  case others => decide
  case apart =>
    intro s t same
    have first := congrArg (fun s => s.toList.head?) same
    simp [ClientId.label, WorldId.label] at first

/-- A number is shown in five fields and read in its four spellings, in any case.  An identity is
read after its own label in the same spellings or without a label, never after the label of the
other kind, and no two identities look alike. -/
theorem identities_never_cross_over :
    (∀ u : Uuid, u.text.toList =
      Hex.digits 8 (u.toNat >>> 96) ++ '-' :: Hex.digits 4 (u.toNat >>> 80) ++
        '-' :: Hex.digits 4 (u.toNat >>> 64) ++ '-' :: Hex.digits 4 (u.toNat >>> 48) ++
        '-' :: Hex.digits 12 u.toNat) ∧
      (∀ (u : Uuid) (s : String), Uuid.parse? s = some u ↔ s.toLower ∈ u.spellings) ∧
      Identifies ClientId.label WorldId.label ClientId.mk ClientId.text ClientId.parse? ∧
      Identifies WorldId.label ClientId.label WorldId.mk WorldId.text WorldId.parse? ∧
      ∀ (client : ClientId) (world : WorldId), client.text ≠ world.text := by
  refine ⟨Uuid.toList_text, fun _ _ => Uuid.parse?_eq_some, identifies_client, identifies_world, ?_⟩
  intro client world same
  have read := identifies_client.shown client.uuid
  have foreign := identifies_client.foreign world.uuid.text
  rw [show ClientId.text ⟨client.uuid⟩ = WorldId.label ++ ":" ++ world.uuid.text from same,
    foreign] at read
  cases read

example : WorldId.parse? "world:URN:uuid:0190F1C2-0000-7000-8000-00000000000a" =
    some ⟨0x0190f1c200007000800000000000000a⟩ := by decide +kernel

end ObservationFeed
