import Questline.Json.Printer
import Questline.Json.Reader
import Questline.Progress.Shop
import Questline.Proofs.Decimal.Digits
set_option autoImplicit false

/-!
# Numbers, written and read again

Whole numbers that fit into 64 bits are read back, and so are the few fractions that
boosts can have.
-/

namespace Questline.Json

open Decimal (Stops isDigit)

/-- The text ends, or goes on as it does after a value. -/
def Ends (cs : List Char) : Prop := ∀ c r, cs = c :: r → c = ',' ∨ c = ']' ∨ c = '}'

theorem ends_nil : Ends [] := nofun

theorem ends_cons {c : Char} (h : c = ',' ∨ c = ']' ∨ c = '}') (r : List Char) : Ends (c :: r) := by
  rintro _ _ ⟨⟩
  exact h

theorem Ends.stops {cs : List Char} (h : Ends cs) : Stops cs := by
  rintro c r rfl
  rcases h c r rfl with rfl | rfl | rfl <;> rfl

/-! ## Digits -/

/-- The value of a digit. -/
def digitValue (c : Char) : Nat := c.toNat - '0'.toNat

theorem digits_append {ds rest : List Char} (hds : ∀ c ∈ ds, isDigit c = true) (hrest : Stops rest) :
    digits (ds ++ rest) = (ds.map digitValue, rest) := by
  rw [digits, Decimal.takeWhile_isDigit_append hds hrest, Decimal.dropWhile_isDigit_append hds hrest]
  rfl

theorem le_ofDigitChars (cs : List Char) (n : Nat) : n ≤ Nat.ofDigitChars 10 cs n := by
  induction cs generalizing n with
  | nil => simp
  | cons c r ih =>
    rw [Nat.ofDigitChars_cons]
    exact Nat.le_trans (by omega) (ih _)

/-- Digits are taken in while what they write stays below the bound. -/
theorem absorb_map_digitValue {cs : List Char} {n : Nat}
    (h : Nat.ofDigitChars 10 cs n < 0x10000000000000000) :
    Written.absorb n (cs.map digitValue) = (Nat.ofDigitChars 10 cs n, []) := by
  induction cs generalizing n with
  | nil => rfl
  | cons c r ih =>
    rw [Nat.ofDigitChars_cons] at h ⊢
    have hle := le_ofDigitChars r (10 * n + (c.toNat - '0'.toNat))
    have hstep : n * 10 + digitValue c = 10 * n + (c.toNat - '0'.toNat) := by
      rw [digitValue, Nat.mul_comm]
    rw [List.map_cons, Written.absorb, hstep, if_pos (Nat.lt_of_le_of_lt hle h), ih h]

/-- A number is written without superfluous zeros. -/
theorem head?_toDigits {n : Nat} (h : 0 < n) : (Nat.toDigits 10 n).head? ≠ some '0' := by
  induction n using Nat.strongRecOn with
  | ind n ih =>
    rw [Nat.toDigits_eq_if (by decide)]
    split
    · have hdigit : ∀ m < 10, 0 < m → m.digitChar ≠ '0' := by decide
      simpa using hdigit n ‹_› h
    · have hrest := ih (n / 10) (by omega) (by omega)
      cases hd : Nat.toDigits 10 (n / 10) with
      | nil => exact absurd hd Nat.toDigits_ne_nil
      | cons c r => rwa [hd] at hrest

/-- Digits with no superfluous zero in front. -/
structure Plain (ds : List Char) : Prop where
  digits : ∀ c ∈ ds, isDigit c = true
  ne_nil : ds ≠ []
  zero : ds.head? = some '0' → ds.length = 1

theorem plain_toDigits (n : Nat) : Plain (Nat.toDigits 10 n) where
  digits _ := Decimal.isDigit_of_mem_toDigits
  ne_nil := Nat.toDigits_ne_nil
  zero h := by
    rcases Nat.eq_zero_or_pos n with rfl | hn
    · rw [Nat.toDigits_zero]
      rfl
    · exact absurd h (head?_toDigits hn)

theorem digitValue_eq_zero_iff {c : Char} (h : isDigit c = true) : digitValue c = 0 ↔ c = '0' := by
  have hc : 48 ≤ c.toNat ∧ c.toNat ≤ 57 := by
    simpa [isDigit, Char.le_def, UInt32.le_iff_toNat_le] using h
  have h0 : '0'.toNat = 48 := rfl
  rw [digitValue, ← Char.toNat_inj]
  omega

theorem Plain.allowed {ds : List Char} (h : Plain ds) :
    ((ds.map digitValue).isEmpty ||
      ((ds.map digitValue).head? == some 0 && (ds.map digitValue).length != 1)) = false := by
  cases ds with
  | nil => exact absurd rfl h.ne_nil
  | cons c r =>
    have hzero := digitValue_eq_zero_iff (h.digits c List.mem_cons_self)
    by_cases hc : c = '0'
    · have hlen := h.zero (by rw [hc]; rfl)
      have hr : r = [] := by simpa using hlen
      simp [hr]
    · simp [hzero, hc]

/-! ## Whole numbers -/

theorem exponent?_of_ends {rest : List Char} (h : Ends rest) :
    exponent? rest = some (none, rest) := by
  cases rest with
  | nil => rfl
  | cons c r => rcases h c r rfl with rfl | rfl | rfl <;> rfl

theorem Plain.append_ne_minus {ds : List Char} (h : Plain ds) (rest r : List Char) :
    ds ++ rest ≠ '-' :: r := by
  cases ds with
  | nil => exact absurd rfl h.ne_nil
  | cons c r' =>
    intro heq
    cases heq
    cases h.digits '-' List.mem_cons_self

/-- The value of the parts of a number, or that it has none. -/
def valueOf (w : Written) : Json :=
  match w.value? with
  | some n => .num n
  | none => .broken

theorem number?_whole {ds rest : List Char} (h : Plain ds) (hrest : Ends rest) :
    number? (ds ++ rest) = some (valueOf ⟨false, ds.map digitValue, [], false, none⟩, rest) := by
  unfold number?
  split
  rename_i negative cs hsign
  split at hsign
  · rename_i r heq
    exact absurd heq (h.append_ne_minus rest r)
  · cases hsign
    rw [digits_append h.digits hrest.stops]
    dsimp only
    rw [h.allowed, if_neg Bool.false_ne_true]
    split
    · rcases hrest _ _ rfl with h | h | h <;> cases h
    · simp only [Option.bind_eq_bind, Option.bind_some, exponent?_of_ends hrest]
      rfl

theorem number?_pointed {ds fs rest : List Char} (h : Plain ds) (hfs : ∀ c ∈ fs, isDigit c = true)
    (hne : fs ≠ []) (hrest : Ends rest) :
    number? (ds ++ '.' :: (fs ++ rest)) =
      some (valueOf ⟨false, ds.map digitValue, fs.map digitValue, true, none⟩, rest) := by
  unfold number?
  split
  rename_i negative cs hsign
  split at hsign
  · rename_i r heq
    exact absurd heq (h.append_ne_minus _ r)
  · cases hsign
    rw [digits_append h.digits (Decimal.stops_cons (by decide))]
    dsimp only
    rw [h.allowed, if_neg Bool.false_ne_true]
    split
    · rename_i r hr
      cases hr
      rw [digits_append hfs hrest.stops]
      cases hds : fs.map digitValue with
      | nil => exact absurd (List.map_eq_nil_iff.1 hds) hne
      | cons v vs =>
        simp only [Option.bind_eq_bind, Option.bind_some, exponent?_of_ends hrest]
        rfl
    · rename_i hdot
      exact absurd rfl (hdot _)

/-- A whole number below `2 ^ 64` is read back. -/
theorem number?_toDigits {n : Nat} (hn : n < 0x10000000000000000) {rest : List Char}
    (hrest : Ends rest) : number? (Nat.toDigits 10 n ++ rest) = some (.num (.int n), rest) := by
  have habsorb : Written.absorb 0 ((Nat.toDigits 10 n).map digitValue) = (n, []) := by
    rw [absorb_map_digitValue (by rwa [Nat.ofDigitChars_ten_toDigits]),
      Nat.ofDigitChars_ten_toDigits]
  rw [number?_whole (plain_toDigits n) hrest, valueOf, Written.value?, Written.significand, habsorb]
  rfl

/-! ## Boosts -/

/-- The values that a boost has in a game. -/
def IsBoost (x : Float) : Prop :=
  x = 0.0 ∨ x = 0.1 ∨ x = 0.2 ∨ x = 0.30000000000000004 ∨ x = 0.4 ∨ x = 0.5

/-- Every purchase leads from one of the values to another. -/
theorem IsBoost.raised {x : Float} (h : IsBoost x) : IsBoost (Upgrade.raisedBoost x) := by
  rcases h with rfl | rfl | rfl | rfl | rfl | rfl
  · exact .inr (.inl (by decide +kernel))
  · exact .inr (.inr (.inl (by decide +kernel)))
  · exact .inr (.inr (.inr (.inl (by decide +kernel))))
  · exact .inr (.inr (.inr (.inr (.inl (by decide +kernel)))))
  · exact .inr (.inr (.inr (.inr (.inr (by decide +kernel)))))
  · exact .inr (.inr (.inr (.inr (.inr (by decide +kernel)))))

theorem plain_zero : Plain ['0'] := Nat.toDigits_zero 10 ▸ plain_toDigits 0

/-- How a boost is written: as a fraction below one, whose value the reader finds. -/
theorem exists_shortest_boost {x : Float} (h : IsBoost x) :
    ∃ fs, Decimal.shortest x = '0' :: '.' :: fs ∧ fs.all isDigit = true ∧ fs ≠ [] ∧
      (⟨false, [0], fs.map digitValue, true, none⟩ : Written).value? = some (.real x) := by
  rcases h with rfl | rfl | rfl | rfl | rfl | rfl
  · exact ⟨['0'], by decide +kernel⟩
  · exact ⟨['1'], by decide +kernel⟩
  · exact ⟨['2'], by decide +kernel⟩
  · exact ⟨"30000000000000004".toList, by decide +kernel⟩
  · exact ⟨['4'], by decide +kernel⟩
  · exact ⟨['5'], by decide +kernel⟩

/-- A boost is read back. -/
theorem number?_boost {x : Float} (h : IsBoost x) {rest : List Char} (hrest : Ends rest) :
    number? (Decimal.shortest x ++ rest) = some (.num (.real x), rest) := by
  obtain ⟨fs, hx, hfs, hne, hvalue⟩ := exists_shortest_boost h
  have hread := number?_pointed plain_zero (List.all_eq_true.1 hfs) hne hrest
  have hzero : ['0'].map digitValue = [0] := rfl
  rw [hzero, valueOf, hvalue] at hread
  rw [hx]
  exact hread

theorem isFinite_boost {x : Float} (h : IsBoost x) : x.isFinite = true := by
  rcases h with rfl | rfl | rfl | rfl | rfl | rfl <;> decide +kernel

end Questline.Json
