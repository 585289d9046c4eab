/-!
# Attributes

An observed point is told apart from its neighbours by a list of named values.
Texts come before whole numbers and whole numbers before truth values;
attributes are compared by key and then by value, and lists of them as words
are.
-/

namespace ObservationFeed

/-- The value of an attribute. -/
inductive AttributeValue where
  | text (value : String)
  | long (value : Int64)
  | bool (value : Bool)
  deriving DecidableEq, Repr

namespace AttributeValue

def shown : AttributeValue → String
  | text value => value
  | long value => toString value.toInt
  | bool value => if value then "true" else "false"

def order : AttributeValue → AttributeValue → Ordering
  | text a, text b => compare a b
  | text _, long _ => .lt
  | text _, bool _ => .lt
  | long _, text _ => .gt
  | long a, long b => compare a b
  | long _, bool _ => .lt
  | bool _, text _ => .gt
  | bool _, long _ => .gt
  | bool a, bool b => compare a b

instance : Ord AttributeValue := ⟨order⟩

instance : Std.TransOrd AttributeValue where
  eq_swap {a b} := by
    change order a b = (order b a).swap
    cases a <;> cases b
    case text.text a b => exact @Std.OrientedCmp.eq_swap String compare _ a b
    case long.long a b => exact @Std.OrientedCmp.eq_swap Int64 compare _ a b
    case bool.bool a b => exact @Std.OrientedCmp.eq_swap Bool compare _ a b
    all_goals rfl
  isLE_trans {a b c} := by
    change (order a b).isLE → (order b c).isLE → (order a c).isLE
    cases a <;> cases b <;> cases c <;>
      simp only [order, Ordering.isLE_lt, Ordering.isLE_gt, Bool.false_eq_true,
        implies_true, false_implies]
    case text.text.text a b c => exact @Std.TransCmp.isLE_trans String compare _ a b c
    case long.long.long a b c => exact @Std.TransCmp.isLE_trans Int64 compare _ a b c
    case bool.bool.bool a b c => exact @Std.TransCmp.isLE_trans Bool compare _ a b c

instance : Std.LawfulEqOrd AttributeValue where
  compare_self {a} := by
    change order a a = .eq
    cases a <;> simp [order]
  eq_of_compare {a b} := by
    change order a b = .eq → a = b
    cases a <;> cases b <;> simp [order]

end AttributeValue

/-- A named value. -/
structure Attribute where
  key : String
  value : AttributeValue
  deriving DecidableEq, Repr

namespace Attribute

instance : Ord Attribute := ⟨compareLex (compareOn key) (compareOn value)⟩

instance : Std.TransOrd Attribute :=
  inferInstanceAs (Std.TransCmp (compareLex (compareOn key) (compareOn value)))

instance : Std.LawfulEqOrd Attribute where
  compare_self {a} := by
    change (compare a.key a.key).then (compare a.value a.value) = .eq
    simp
  eq_of_compare {a b} := by
    change (compare a.key b.key).then (compare a.value b.value) = .eq → a = b
    cases a; cases b
    simp [Ordering.then_eq_eq]

end Attribute

/-- The attribute tuple of a point. -/
abbrev Attributes := List Attribute

end ObservationFeed
