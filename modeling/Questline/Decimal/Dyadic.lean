set_option autoImplicit false

/-!
# Decimal: the exact value of a binary floating-point number

Every finite double is `± m · 2 ^ q` for whole `m` and `q`.  What the game
rounds or prints it rounds and prints from that exact value, in whole numbers.
-/

namespace Questline.Decimal

/-- The number `± mantissa · 2 ^ exponent`. -/
structure Dyadic where
  negative : Bool
  mantissa : Nat
  exponent : Int
  deriving DecidableEq, Repr

namespace Dyadic

/-- The exact value of a finite double, and nothing for an infinite one or for
one that is no number. -/
def ofFloat? (x : Float) : Option Dyadic :=
  let bits := x.toBits.toNat
  let negative := bits >>> 63 == 1
  let field := (bits >>> 52) % 0x800
  let fraction := bits % 0x10000000000000
  if field == 2047 then none
  else if field == 0 then some ⟨negative, fraction, -1074⟩
  else some ⟨negative, fraction + 0x10000000000000, Int.ofNat field - 1075⟩

/-- Numerator of the absolute value. -/
def num (x : Dyadic) : Nat := x.mantissa <<< x.exponent.toNat

/-- Denominator of the absolute value. -/
def den (x : Dyadic) : Nat := 1 <<< (-x.exponent).toNat

end Dyadic

/-- The whole number nearest to `num / den`, a half going up. -/
def roundHalfUp (num den : Nat) : Nat := (2 * num + den) / (2 * den)

/-- The whole number nearest to `num / den`, a half going to the even neighbour. -/
def roundHalfEven (num den : Nat) : Nat :=
  let q := num / den
  let r := num % den
  if 2 * r < den || (2 * r == den && q % 2 == 0) then q else q + 1

/-- The nearest whole number as a word, a half going away from zero; what is
below zero or no number counts as zero, what is too large as the largest word. -/
def nearestWord (x : Float) : UInt64 :=
  match Dyadic.ofFloat? x with
  | some d =>
    if d.negative then 0
    else UInt64.ofNat (min (roundHalfUp d.num d.den) 0xFFFFFFFFFFFFFFFF)
  | none => if x > 0.0 then UInt64.ofNat 0xFFFFFFFFFFFFFFFF else 0

/-- The number in decimal with exactly `places` digits after the point, rounded
from the exact value, a half going to the even neighbour. -/
def fixed (places : Nat) (x : Float) : String :=
  match Dyadic.ofFloat? x with
  | some d =>
    let n := roundHalfEven (d.num * Nat.pow 10 places) d.den
    let ds := Nat.toDigits 10 n
    let ds := List.replicate (places + 1 - ds.length) '0' ++ ds
    let whole := ds.take (ds.length - places)
    let sign := if d.negative then ['-'] else []
    .ofList (sign ++ whole ++ '.' :: ds.drop (ds.length - places))
  | none => if x > 0.0 then "inf" else if x < 0.0 then "-inf" else "NaN"

example : nearestWord 2.5 = 3 ∧ nearestWord 0.4 = 0 ∧ nearestWord (-3.0) = 0 := by decide +kernel
example : fixed 2 0.125 = "0.12" ∧ fixed 2 10.0 = "10.00" := by decide +kernel

end Questline.Decimal
