import Questline.Decimal.Dyadic
set_option autoImplicit false

/-!
# Decimal: the fewest digits that read back

Of all decimals that lie closer to a double than to its neighbours, the one
with the fewest digits is chosen, and of those the nearest.  The search tries
one digit, then two, and so on: on each grid only the two neighbours of the
value can be the first to lie in its interval, and seventeen digits always do.
-/

namespace Questline.Decimal

/-- The number `digits · 10 ^ exponent`. -/
structure Shortest where
  digits : Nat
  exponent : Int
  deriving DecidableEq, Repr

namespace Shortest

/-- `a · 10 ^ j · 2 ^ k` against `b · 2 ^ l`, both sides brought to whole numbers. -/
def scaled (a : Nat) (j : Int) (b : Nat) (l : Int) : Nat × Nat :=
  ((a * Nat.pow 10 j.toNat) <<< (-l).toNat, (b <<< l.toNat) * Nat.pow 10 (-j).toNat)

/-- The exponent of the leading digit of `mantissa · 2 ^ exponent`. -/
def leading (d : Dyadic) : Int :=
  (Nat.toDigits 10 (d.num * Nat.pow 10 400 / d.den)).length - 401

/-- Lies in the interval of numbers that round to `d`: half a step down, a
quarter below a power of two, and half a step up, the ends for even mantissas. -/
def readsBack (d : Dyadic) (c : Nat) (k : Int) : Bool :=
  let m := d.mantissa
  let low := if m == 0x10000000000000 && d.exponent > -1074 then 4 * m - 1 else 4 * m - 2
  let (x, a) := scaled c k low (d.exponent - 2)
  let (_, b) := scaled c k (4 * m + 2) (d.exponent - 2)
  if m % 2 == 0 then a ≤ x && x ≤ b else a < x && x < b

/-- The better of the two decimals of `n` digits around `d`, if either reads back. -/
def onGrid (d : Dyadic) (n : Nat) : Option Shortest :=
  let k := leading d - (Int.ofNat n - 1)
  let (x, v) := scaled 1 k d.mantissa d.exponent
  let c := v / x
  let below := readsBack d c k
  let above := readsBack d (c + 1) k
  let nearerBelow := 2 * (v % x) < x || (2 * (v % x) == x && c % 2 == 0)
  if below && (nearerBelow || !above) then some ⟨c, k⟩
  else if above then some ⟨c + 1, k⟩
  else none

/-- The shortest decimal of a positive `d`. -/
def ofDyadic (d : Dyadic) : Shortest :=
  match (List.range 17).findSome? fun n => onGrid d (n + 1) with
  | some s => s
  | none => ⟨0, 0⟩

end Shortest

/-- How a double is written: all digits in place while the point falls within
sixteen places after the first digit or four before it, with `.0` where there is
no fraction; one digit, the others and an exponent otherwise. -/
def shortest (x : Float) : List Char :=
  match Dyadic.ofFloat? x with
  | none => "null".toList
  | some d =>
    let sign := if d.negative then ['-'] else []
    if d.mantissa == 0 then sign ++ ['0', '.', '0']
    else
      let s := Shortest.ofDyadic d
      let ds := (Nat.toDigits 10 s.digits).reverse.dropWhile (· == '0') |>.reverse
      let zeros := (Nat.toDigits 10 s.digits).length - ds.length
      let point := Int.ofNat (ds.length + zeros) + s.exponent
      let len := Int.ofNat ds.length
      if len ≤ point && point ≤ 16 then
        sign ++ ds ++ List.replicate (point - len).toNat '0' ++ ['.', '0']
      else if 0 < point && point ≤ 16 then
        sign ++ ds.take point.toNat ++ '.' :: ds.drop point.toNat
      else if -5 < point && point ≤ 0 then
        sign ++ ['0', '.'] ++ List.replicate (-point).toNat '0' ++ ds
      else
        let e := point - 1
        let expo := (if e < 0 then ['e', '-'] else ['e']) ++ Nat.toDigits 10 e.natAbs
        match ds with
        | [a] => sign ++ a :: expo
        | a :: r => sign ++ a :: '.' :: r ++ expo
        | [] => sign ++ ['0', '.', '0']

example : shortest 0.3 = "0.3".toList := by decide +kernel
example : shortest (0.1 + 0.2) = "0.30000000000000004".toList := by decide +kernel
example : shortest 5e-324 = "5e-324".toList ∧ shortest 1e16 = "1e16".toList := by decide +kernel

end Questline.Decimal
