import Questline.Decimal.Digits
import Questline.Text.Hex
import Questline.Text.Search
import Questline.Time.Calendar
import Questline.Toml.Basic
set_option autoImplicit false

/-!
# Toml: values in one word

Truth values, numbers, dates and times stand without quotes.  A number has no
superfluous zero in front; an underscore may stand between two digits.  A whole
number fits into 128 bits and any other number does not exceed the largest
double, if it is not infinite by its name.
-/

namespace Questline.Toml

/-! ## Numbers -/

/-- Digits without the underscores between them. -/
def ungrouped? (isDigit : Char → Bool) : List Char → Option (List Char)
  | [] => none
  | [c] => if isDigit c then some [c] else none
  | c :: '_' :: r => if isDigit c then (ungrouped? isDigit r).map (c :: ·) else none
  | c :: r => if isDigit c then (ungrouped? isDigit r).map (c :: ·) else none

/-- The sign in front: whether there is one, whether it is a minus, and the rest. -/
def cutSign : List Char → Bool × Bool × List Char
  | '+' :: r => (true, false, r)
  | '-' :: r => (true, true, r)
  | cs => (false, false, cs)

/-- The number that digits of a base up to sixteen write. -/
def inBase? (base : Nat) (cs : List Char) : Option Nat := do
  let ds ← ungrouped? (fun c => (Text.hexValue? c).any (· < base)) cs
  return ds.foldl (fun n c => n * base + (Text.hexValue? c).getD 0) 0

/-- Digits of a decimal number before its point: no superfluous zero in front. -/
def wholeDigits? (cs : List Char) : Option (List Char) :=
  (ungrouped? Decimal.isDigit cs).filter fun ds => ds.length == 1 || ds.head? != some '0'

/-- The whole number fits into 128 bits, with or without a sign. -/
def isWide (n : Int) : Bool := -Int.ofNat (1 <<< 127) ≤ n && n < Int.ofNat (1 <<< 128)

/-- A whole number: decimal with an optional sign, or in one of three other bases
without one. -/
def wholeNumber? : List Char → Option Int
  | '0' :: 'x' :: r => (inBase? 16 r).map Int.ofNat
  | '0' :: 'o' :: r => (inBase? 8 r).map Int.ofNat
  | '0' :: 'b' :: r => (inBase? 2 r).map Int.ofNat
  | cs => do
    let (_, negative, r) := cutSign cs
    let n := Nat.ofDigitChars 10 (← wholeDigits? r) 0
    return if negative then -Int.ofNat n else Int.ofNat n

/-- The double nearest to `m · 10 ^ e`, if it is finite. -/
def nearest? (m : Nat) (e : Int) : Option Float :=
  let magnitude := Int.ofNat (Nat.toDigits 10 m).length + e
  if m = 0 || magnitude < -400 then some 0.0
  else if magnitude > 400 then none
  else (some (Float.ofScientific m (e < 0) e.natAbs)).filter fun x => !x.isInf

/-- A number with a point, an exponent or both. -/
def decimal? (cs : List Char) : Option Float := do
  let (_, negative, cs) := cutSign cs
  let (mantissa, exponent) := match Text.cutFirst 'e' (cs.map fun c => if c = 'E' then 'e' else c) with
    | some (a, b) => (a, some b)
    | none => (cs, none)
  let (whole, fraction) := match Text.cutFirst '.' mantissa with
    | some (a, b) => (a, some b)
    | none => (mantissa, none)
  let wholes ← wholeDigits? whole
  let fractions ← match fraction with
    | some f => ungrouped? Decimal.isDigit f
    | none => if exponent.isSome then some [] else none
  let shift ← match exponent with
    | some e =>
      let (_, down, e) := cutSign e
      (ungrouped? Decimal.isDigit e).map fun ds =>
        let n := Int.ofNat (Nat.ofDigitChars 10 ds 0)
        if down then -n else n
    | none => some 0
  let x ← nearest? (Nat.ofDigitChars 10 (wholes ++ fractions) 0) (shift - Int.ofNat fractions.length)
  return if negative then -x else x

/-- A number that is not whole, or one of the names of what is no number or infinite. -/
def realNumber? (cs : List Char) : Option Float :=
  let (_, negative, r) := cutSign cs
  if r = "inf".toList then some (if negative then -1.0 / 0.0 else 1.0 / 0.0)
  else if r = "nan".toList then some (0.0 / 0.0)
  else decimal? cs

/-! ## Dates and times -/

/-- The number that two digits write, if the characters begin with them. -/
def pair? : List Char → Option (Nat × List Char)
  | a :: b :: r => (Decimal.ofDigits? [a, b]).map fun n => (n, r)
  | _ => none

/-- What follows a valid date, if the characters begin with one. -/
def afterDate? (cs : List Char) : Option (List Char) := do
  let (century, cs) ← pair? cs
  let (year, cs) ← pair? cs
  match cs with
  | '-' :: cs =>
    let (month, cs) ← pair? cs
    match cs with
    | '-' :: cs =>
      let (day, cs) ← pair? cs
      if (Time.Date.mk (century * 100 + year) month day).isValid then some cs else none
    | _ => none
  | _ => none

/-- What follows a valid time of day, if the characters begin with one.  Seconds may
be missing; a leap second is one. -/
def afterTime? (cs : List Char) : Option (List Char) := do
  let (hour, cs) ← pair? cs
  match cs with
  | ':' :: cs =>
    let (minute, cs) ← pair? cs
    if hour > 23 || minute > 59 then none
    else match cs with
      | ':' :: cs =>
        let (second, cs) ← pair? cs
        if second > 60 then none
        else match cs with
          | '.' :: c :: cs => if Decimal.isDigit c then some (cs.dropWhile Decimal.isDigit) else none
          | cs => some cs
      | cs => some cs
  | _ => none

/-- An offset from universal time. -/
def isOffset : List Char → Bool
  | ['Z'] | ['z'] => true
  | c :: cs =>
    (c = '+' || c = '-') && (match pair? cs with
      | some (hour, ':' :: cs) =>
        match pair? cs with
        | some (minute, []) => hour ≤ 23 && minute ≤ 59
        | _ => false
      | _ => false)
  | [] => false

/-- A date, a time of day, or both with or without an offset. -/
def isTime (cs : List Char) : Bool :=
  match afterDate? cs with
  | some [] => true
  | some (c :: r) =>
    (c = 'T' || c = 't' || c = ' ') && (match afterTime? r with
      | some rest => rest.isEmpty || isOffset rest
      | none => false)
  | none => afterTime? cs == some []

/-! ## Words -/

/-- The value of a word. -/
def scalar? (word : List Char) : Option Toml :=
  if word = "true".toList then some (.bool true)
  else if word = "false".toList then some (.bool false)
  else match wholeNumber? word with
    | some n => if isWide n then some (.int n) else none
    | none =>
      if isTime word then some (.time (.ofList word))
      else (realNumber? word).map .real

/-- A character that a word may have. -/
def isWordChar (c : Char) : Bool :=
  c.isAlphanum || c = '_' || c = '+' || c = '-' || c = '.' || c = ':'

/-- The word that the characters go on with, and what follows it.  A date and a time
of day with one space between them are one word. -/
def word (cs : List Char) : List Char × List Char :=
  let first := cs.takeWhile isWordChar
  let rest := cs.dropWhile isWordChar
  match rest with
  | ' ' :: c :: r =>
    if Decimal.isDigit c && afterDate? first == some [] then
      (first ++ ' ' :: (c :: r).takeWhile isWordChar, (c :: r).dropWhile isWordChar)
    else (first, rest)
  | _ => (first, rest)

example : wholeNumber? "-1_000".toList = some (-1000) ∧ wholeNumber? "0b101".toList = some 5 := by
  decide
example : wholeNumber? "-0x1".toList = none ∧ wholeNumber? "007".toList = none := by decide
example : isTime "2024-02-29T23:59:60.5Z".toList = true ∧ isTime "2023-02-29".toList = false := by
  decide

end Questline.Toml
