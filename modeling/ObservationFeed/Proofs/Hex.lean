import Mathlib.Algebra.Group.Nat.Defs
import Mathlib.Data.List.Induction
import ObservationFeed.Hex

/-!
# Digits read back

A character is read as a digit when it is, in lower case, the character that the digit is written
as.  So a text is read as a number exactly when it is, in lower case, what the number is written as
in so many digits.
-/

namespace ObservationFeed.Hex

/-! ## Lower case -/

theorem toNat_toLower (c : Char) :
    c.toLower.toNat = if 65 ≤ c.toNat ∧ c.toNat ≤ 90 then c.toNat + 32 else c.toNat := by
  have upper : (c.val ≥ 'A'.val ∧ c.val ≤ 'Z'.val) ↔ 65 ≤ c.toNat ∧ c.toNat ≤ 90 := Iff.rfl
  unfold Char.toLower
  by_cases capital : 65 ≤ c.toNat ∧ c.toNat ≤ 90
  · rw [dif_pos (upper.mpr capital), if_pos capital]
    change (c.toNat + 32) % 2 ^ 32 = c.toNat + 32
    omega
  · rw [dif_neg (mt upper.mp capital), if_neg capital]

theorem toList_toLower (s : String) : s.toLower.toList = s.toList.map Char.toLower :=
  String.toList_map

/-- A character that is no small letter is the lower case of itself alone. -/
theorem eq_of_toLower {c d : Char} (sign : d.toNat < 97 ∨ 122 < d.toNat) (same : c.toLower = d) :
    c = d := by
  have number := toNat_toLower c
  rw [same] at number
  apply Char.toNat_inj.mp
  split at number <;> omega

/-! ## Digits -/

theorem toNat_digit :
    ∀ {d : Nat}, d < 16 → (digit d).toNat = if d < 10 then 48 + d else 87 + d := by decide

theorem toLower_digit : ∀ {d : Nat}, d < 16 → (digit d).toLower = digit d := by decide

theorem value?_eq_some {c : Char} {d : Nat} :
    value? c = some d ↔ d < 16 ∧ c.toLower = digit d := by
  have numeral : ('0' ≤ c ∧ c ≤ '9') ↔ 48 ≤ c.toNat ∧ c.toNat ≤ 57 := Iff.rfl
  have small : ('a' ≤ c ∧ c ≤ 'f') ↔ 97 ≤ c.toNat ∧ c.toNat ≤ 102 := Iff.rfl
  have capital : ('A' ≤ c ∧ c ≤ 'F') ↔ 65 ≤ c.toNat ∧ c.toNat ≤ 70 := Iff.rfl
  have lower := toNat_toLower c
  simp only [value?, numeral, small, capital]
  constructor
  · intro read
    have bound : d < 16 := by grind
    refine ⟨bound, Char.toNat_inj.mp ?_⟩
    rw [toNat_digit bound, lower]
    grind
  · rintro ⟨bound, same⟩
    have number := toNat_digit bound
    rw [← same, lower] at number
    grind

/-! ## Texts of digits -/

@[simp] theorem length_digits (k n : Nat) : (digits k n).length = k := by
  induction k generalizing n with
  | zero => rfl
  | succ k ih => simp [digits, ih]

theorem digits_add (j k n : Nat) : digits (j + k) n = digits j (n / 16 ^ k) ++ digits k n := by
  induction k generalizing n with
  | zero => simp [digits]
  | succ k ih =>
    have power : n / 16 / 16 ^ k = n / 16 ^ (k + 1) := by
      rw [Nat.div_div_eq_div_mul, Nat.pow_succ, Nat.mul_comm]
    rw [← Nat.add_assoc, digits, digits, ih, power, List.append_assoc]

theorem map_toLower_digits (k n : Nat) : (digits k n).map Char.toLower = digits k n := by
  induction k generalizing n with
  | zero => rfl
  | succ k ih =>
    have last := toLower_digit (Nat.mod_lt n (by decide : 0 < 16))
    simp [digits, ih, last]

theorem exists_digit_of_mem {k n : Nat} {c : Char} (member : c ∈ digits k n) :
    ∃ d < 16, c = digit d := by
  induction k generalizing n with
  | zero => cases member
  | succ k ih =>
    rcases List.mem_append.mp member with front | last
    · exact ih front
    · exact ⟨n % 16, Nat.mod_lt n (by decide), List.mem_singleton.mp last⟩

theorem continue?_append (n : Nat) (cs ds : List Char) :
    continue? n (cs ++ ds) = (continue? n cs).bind fun m => continue? m ds := by
  induction cs generalizing n with
  | nil => rfl
  | cons c cs ih =>
    simp only [List.cons_append, continue?, Option.bind_assoc]
    congr 1
    funext d
    exact ih _

/-- The last character is the last digit, and the characters before it are the digits before. -/
theorem number?_concat {cs : List Char} {c : Char} {n : Nat} :
    number? (cs ++ [c]) = some n ↔ number? cs = some (n / 16) ∧ value? c = some (n % 16) := by
  simp only [number?, continue?_append, continue?, Option.bind_eq_some_iff, Option.some.injEq]
  constructor
  · rintro ⟨high, front, low, last, rfl⟩
    have bound := (value?_eq_some.mp last).1
    rw [front, last, show (high * 16 + low) / 16 = high by omega,
      show (high * 16 + low) % 16 = low by omega]
    exact ⟨rfl, rfl⟩
  · rintro ⟨front, last⟩
    exact ⟨_, front, _, last, by omega⟩

theorem number?_eq_some {cs : List Char} {n : Nat} :
    number? cs = some n ↔ n < 16 ^ cs.length ∧ cs.map Char.toLower = digits cs.length n := by
  -- Digits are written from the last to the first, so the induction takes the last off.
  induction cs using List.reverseRecOn generalizing n with
  | nil => simp [number?, continue?, digits, eq_comm]
  | append_singleton cs c ih =>
    have size : n < 16 ^ (cs.length + 1) ↔ n / 16 < 16 ^ cs.length := by
      rw [Nat.pow_succ]
      omega
    have below : n % 16 < 16 := Nat.mod_lt n (by decide)
    rw [number?_concat, ih, value?_eq_some, List.length_append, List.length_singleton, size, digits,
      List.map_append, List.map_singleton]
    constructor
    · rintro ⟨⟨bound, front⟩, _, last⟩
      exact ⟨bound, by rw [front, last]⟩
    · rintro ⟨bound, same⟩
      obtain ⟨front, last⟩ := List.append_inj' same rfl
      exact ⟨⟨bound, front⟩, below, (List.cons.inj last).1⟩

end ObservationFeed.Hex
