import Questline.Json.Basic
set_option autoImplicit false

/-!
# Json: the value of a written number

A number without fraction and exponent is whole while it fits into 64 bits.
Every other number is a double, found in the quick way: as many digits as fit
into a 64-bit word make the significand, the digits after them only shift the
exponent, and one multiplication or division by a power of ten finishes it.
The result can be one step away from the nearest double.
-/

namespace Questline.Json

/-- The parts of a written number. -/
structure Written where
  negative : Bool
  /-- The digits before the point. -/
  whole : List Nat
  /-- The digits after the point; none without a point. -/
  fraction : List Nat
  /-- Whether there is a point. -/
  pointed : Bool
  /-- The sign of the exponent, negative or not, and its digits. -/
  exponent : Option (Bool × List Nat)
  deriving DecidableEq, Repr

namespace Written

/-- Takes digits into `n` while the result stays below `2 ^ 64`; gives the rest. -/
def absorb (n : Nat) : List Nat → Nat × List Nat
  | [] => (n, [])
  | d :: r => if n * 10 + d < 0x10000000000000000 then absorb (n * 10 + d) r else (n, d :: r)

/-- A power of ten as a double. -/
def tenTo (k : Nat) : Float := Float.ofScientific 1 false k

/-- Divides by `10 ^ k`, at most `10 ^ 308` at a time. -/
def divTen (f : Float) (k : Nat) : Float :=
  if k ≤ 308 then f / tenTo k
  else if f == 0.0 then f
  else divTen (f / tenTo 308) (k - 308)
termination_by k

/-- The double `significand · 10 ^ exponent`, unless it is too large. -/
def double? (negative : Bool) (significand : Nat) (exponent : Int) : Option Float :=
  let f := (UInt64.ofNat significand).toFloat
  let value :=
    if exponent ≤ 0 then some (divTen f (-exponent).toNat)
    else if exponent ≤ 308 then some (f * tenTo exponent.toNat)
    else if f == 0.0 then some f
    else none
  (value.filter fun x => !x.isInf).map fun x => if negative then -x else x

/-- The significand and the power of ten that the digits give. -/
def significand (w : Written) : Nat × Int :=
  let (n, dropped) := absorb 0 w.whole
  let (m, rest) := absorb n w.fraction
  (m, Int.ofNat dropped.length - Int.ofNat (w.fraction.length - rest.length))

/-- The value of the number; none if it lies beyond the largest double. -/
def value? (w : Written) : Option Number :=
  let (m, e) := w.significand
  match w.exponent with
  | none =>
    if w.pointed || (absorb 0 w.whole).2 != [] then (double? w.negative m e).map .real
    else if !w.negative then some (.int m)
    else if m == 0 || 0x8000000000000000 < m then some (.real (-(UInt64.ofNat m).toFloat))
    else some (.int (-m))
  | some (down, ds) =>
    let x : Nat := ds.foldl (fun n d => n * 10 + d) 0
    if x < 0x80000000 then
      let total := if down then e - Int.ofNat x else e + Int.ofNat x
      let bounded := max (-0x80000000) (min total 0x7FFFFFFF)
      (double? w.negative m bounded).map .real
    else if m == 0 || down then some (.real (if w.negative then -0.0 else 0.0))
    else none

end Written

end Questline.Json
