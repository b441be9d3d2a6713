set_option autoImplicit false

/-!
# Decimal: whole numbers as digits

Reading whole numbers the way a command argument gives them: an optional sign,
then at least one digit, and a value inside the range that is asked for.
-/

namespace Questline.Decimal

/-- One of the ten digits. -/
def isDigit (c : Char) : Bool := '0' ≤ c && c ≤ '9'

/-- The number that a nonempty run of digits writes. -/
def ofDigits? (cs : List Char) : Option Nat :=
  if !cs.isEmpty && cs.all isDigit then some (Nat.ofDigitChars 10 cs 0) else none

/-- A whole number with an optional plus or minus. -/
def ofSigned? : List Char → Option Int
  | '+' :: r => (ofDigits? r).map Int.ofNat
  | '-' :: r => (ofDigits? r).map fun n => -Int.ofNat n
  | cs => (ofDigits? cs).map Int.ofNat

/-- A number below `2 ^ 32`, with an optional plus. -/
def word32? (s : String) : Option Nat :=
  match s.toList with
  | '+' :: r => (ofDigits? r).filter (· < 0x100000000)
  | cs => (ofDigits? cs).filter (· < 0x100000000)

/-- A number from `-2 ^ 63` to `2 ^ 63 - 1`, with an optional sign. -/
def int64? (s : String) : Option Int :=
  (ofSigned? s.toList).filter fun n => -0x8000000000000000 ≤ n && n < 0x8000000000000000

/-- A number in at least `width` digits, with zeros in front. -/
def padded (width n : Nat) : List Char :=
  let ds := Nat.toDigits 10 n
  List.replicate (width - ds.length) '0' ++ ds

example : ofSigned? "-012".toList = some (-12) ∧ ofSigned? "+".toList = none := by decide
example : padded 3 7 = ['0', '0', '7'] ∧ padded 2 123 = ['1', '2', '3'] := by decide

end Questline.Decimal
