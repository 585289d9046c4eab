/-!
# Places in bytes

How many bytes characters take up, and parts of a text that are given by
numbers of bytes.  There is no part that begins or ends inside a character.
-/

namespace ObservationFeed.Text

def byteCount (chars : List Char) : Nat := chars.foldr (fun c n => c.utf8Size + n) 0

/-- What is left after a number of bytes. -/
def dropBytes? : Nat → List Char → Option (List Char)
  | 0, chars => some chars
  | _ + 1, [] => none
  | n + 1, c :: chars =>
    if c.utf8Size ≤ n + 1 then dropBytes? (n + 1 - c.utf8Size) chars else none

/-- The characters within a number of bytes. -/
def takeBytes? : Nat → List Char → Option (List Char)
  | 0, _ => some []
  | _ + 1, [] => none
  | n + 1, c :: chars =>
    if c.utf8Size ≤ n + 1 then (takeBytes? (n + 1 - c.utf8Size) chars).map (c :: ·) else none

theorem byteCount_cons (c : Char) (chars : List Char) :
    byteCount (c :: chars) = c.utf8Size + byteCount chars := rfl

theorem byteCount_append (a b : List Char) : byteCount (a ++ b) = byteCount a + byteCount b := by
  induction a with
  | nil => simp [byteCount]
  | cons c a ih => simp only [List.cons_append, byteCount_cons, ih, Nat.add_assoc]

/-- Dropping as many bytes as some characters have drops these characters. -/
theorem dropBytes?_append (a b : List Char) : dropBytes? (byteCount a) (a ++ b) = some b := by
  induction a with
  | nil => cases b <;> rfl
  | cons c a ih =>
    have hpos := c.utf8Size_pos
    obtain ⟨n, hn⟩ : ∃ n, c.utf8Size + byteCount a = n + 1 :=
      ⟨c.utf8Size + byteCount a - 1, by omega⟩
    have hrest : n + 1 - c.utf8Size = byteCount a := by omega
    rw [byteCount_cons, hn, List.cons_append, dropBytes?, if_pos (by omega), hrest, ih]

/-- Taking as many bytes as some characters have takes these characters. -/
theorem takeBytes?_append (a b : List Char) : takeBytes? (byteCount a) (a ++ b) = some a := by
  induction a with
  | nil => cases b <;> rfl
  | cons c a ih =>
    have hpos := c.utf8Size_pos
    obtain ⟨n, hn⟩ : ∃ n, c.utf8Size + byteCount a = n + 1 :=
      ⟨c.utf8Size + byteCount a - 1, by omega⟩
    have hrest : n + 1 - c.utf8Size = byteCount a := by omega
    rw [byteCount_cons, hn, List.cons_append, takeBytes?, if_pos (by omega), hrest, ih]
    rfl

end ObservationFeed.Text
