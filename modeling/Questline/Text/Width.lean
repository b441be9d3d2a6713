set_option autoImplicit false

/-!
# Text: widths

The two measures of a text that the game reports: the number of characters,
which aligns columns and cards, and the number of UTF-8 bytes, in which token
positions are counted.
-/

namespace Questline.Text

/-- The text with spaces after it, up to `width` characters. -/
def padEnd (width : Nat) (s : String) : String :=
  .ofList (s.toList ++ List.replicate (width - s.toList.length) ' ')

/-- The text with spaces before it, up to `width` characters. -/
def padStart (width : Nat) (s : String) : String :=
  .ofList (List.replicate (width - s.toList.length) ' ' ++ s.toList)

theorem length_padEnd (width : Nat) (s : String) :
    (padEnd width s).toList.length = max width s.toList.length := by
  simp [padEnd]; omega

/-- The number of UTF-8 bytes of a run of characters. -/
def bytes : List Char → Nat
  | [] => 0
  | c :: r => c.utf8Size + bytes r

theorem bytes_append (a b : List Char) : bytes (a ++ b) = bytes a + bytes b := by
  induction a with
  | nil => simp [bytes]
  | cons c r ih => simp [bytes, ih, Nat.add_assoc]

theorem bytes_pos {cs : List Char} (h : cs ≠ []) : 0 < bytes cs := by
  obtain ⟨c, r, rfl⟩ := List.exists_cons_of_ne_nil h
  have := c.utf8Size_pos
  rw [bytes]
  omega

end Questline.Text
