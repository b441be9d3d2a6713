set_option autoImplicit false

/-!
# Text: blank characters and trimming

The one notion of blank that a command line, a username and a card share: the
twenty-five characters with the Unicode property `White_Space`.  Trimming drops
them from the two ends of a text and leaves the inside alone.
-/

namespace Questline.Text

/-- The character has the Unicode property `White_Space`. -/
def isBlank (c : Char) : Bool :=
  let n := c.toNat
  (9 ≤ n && n ≤ 13) || n == 0x20 || n == 0x85 || n == 0xA0 || n == 0x1680
    || (0x2000 ≤ n && n ≤ 0x200A) || n == 0x2028 || n == 0x2029 || n == 0x202F
    || n == 0x205F || n == 0x3000

theorem isBlank_of_isWhitespace {c : Char} (h : c.isWhitespace = true) : isBlank c = true := by
  simp only [Char.isWhitespace, Bool.or_eq_true, decide_eq_true_eq] at h
  rcases h with ((rfl | rfl) | rfl) | rfl <;> decide

/-- Drops the blanks in front. -/
def trimStart (cs : List Char) : List Char := cs.dropWhile isBlank

/-- Drops the blanks at the end. -/
def trimEnd (cs : List Char) : List Char := (trimStart cs.reverse).reverse

/-- Drops the blanks at both ends. -/
def trim (cs : List Char) : List Char := trimEnd (trimStart cs)

/-- Nothing but blanks; the empty text counts. -/
def isBlankText (cs : List Char) : Bool := cs.all isBlank

theorem trimStart_eq_nil_iff {cs : List Char} : trimStart cs = [] ↔ isBlankText cs = true := by
  induction cs with
  | nil => simp [trimStart, isBlankText]
  | cons c r ih =>
    cases hc : isBlank c <;> simp_all [trimStart, isBlankText]

theorem trim_eq_nil_iff {cs : List Char} : trim cs = [] ↔ isBlankText cs = true := by
  rw [trim, trimEnd, List.reverse_eq_nil_iff, trimStart_eq_nil_iff, ← @trimStart_eq_nil_iff cs]
  constructor
  · intro h
    match hc : trimStart cs with
    | [] => rfl
    | c :: r =>
      exfalso
      have hb : isBlank c = false := by
        have := List.head?_dropWhile_not isBlank cs
        simp only [trimStart] at hc
        rw [hc] at this
        simpa using this
      rw [hc] at h
      simp [isBlankText, hb] at h
  · intro h
    simp [h, isBlankText]

/-- The text without the blanks at its two ends. -/
def trimmed (s : String) : String := .ofList (trim s.toList)

end Questline.Text
