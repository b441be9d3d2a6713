import Questline.Decimal.Digits
set_option autoImplicit false

/-!
# Runs of digits

A reader that takes digits from the front of a text gets back what was written, if no
digit follows it.
-/

namespace Questline.Decimal

/-- The text does not go on with a digit. -/
def Stops (cs : List Char) : Prop := ∀ c r, cs = c :: r → isDigit c = false

theorem stops_cons {c : Char} {r : List Char} (h : isDigit c = false) : Stops (c :: r) := by
  rintro _ _ ⟨⟩
  exact h

theorem isDigit_of_mem_toDigits {c : Char} {n : Nat} (h : c ∈ Nat.toDigits 10 n) :
    isDigit c = true := by
  have hc := Nat.isDigit_of_mem_toDigits (by decide) (by decide) h
  simp only [Char.isDigit, Bool.and_eq_true, decide_eq_true_eq, isDigit, Char.le_def] at hc ⊢
  exact hc

/-- A run of digits is taken as a whole. -/
theorem takeWhile_isDigit_append {ds rest : List Char} (hds : ∀ c ∈ ds, isDigit c = true)
    (hrest : Stops rest) : (ds ++ rest).takeWhile isDigit = ds := by
  rw [List.takeWhile_append_of_pos hds]
  cases rest with
  | nil => simp
  | cons c r => simp [hrest c r rfl]

theorem dropWhile_isDigit_append {ds rest : List Char} (hds : ∀ c ∈ ds, isDigit c = true)
    (hrest : Stops rest) : (ds ++ rest).dropWhile isDigit = rest := by
  rw [List.dropWhile_append_of_pos hds]
  cases rest with
  | nil => rfl
  | cons c r => simp [hrest c r rfl]

/-! ## Numbers with zeros in front -/

theorem isDigit_of_mem_padded {c : Char} {width n : Nat} (h : c ∈ padded width n) :
    isDigit c = true := by
  rcases List.mem_append.1 h with h | h
  · rw [(List.mem_replicate.1 h).2]
    rfl
  · exact isDigit_of_mem_toDigits h

theorem padded_ne_nil (width n : Nat) : padded width n ≠ [] := by
  simp [padded]

theorem exists_padded_eq_cons (width n : Nat) :
    ∃ c r, padded width n = c :: r ∧ isDigit c = true := by
  cases hp : padded width n with
  | nil => exact absurd hp (padded_ne_nil width n)
  | cons c r => exact ⟨c, r, rfl, isDigit_of_mem_padded (hp ▸ List.mem_cons_self)⟩

theorem ofDigitChars_padded (width n : Nat) : Nat.ofDigitChars 10 (padded width n) 0 = n := by
  rw [padded, Nat.ofDigitChars_append, Nat.ofDigitChars_replicate_zero, Nat.mul_zero,
    Nat.ofDigitChars_ten_toDigits]

theorem length_padded {width n : Nat} (hw : 0 < width) (h : n < Nat.pow 10 width) :
    (padded width n).length = width := by
  have := (Nat.length_toDigits_le_iff (b := 10) (by decide) hw).2 h
  simp only [padded, List.length_append, List.length_replicate]
  omega

end Questline.Decimal
