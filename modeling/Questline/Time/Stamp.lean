import Questline.Time.Calendar
import Questline.Time.Instant
import Questline.Decimal.Digits
import Questline.Text.Blank
set_option autoImplicit false

/-!
# Time: written instants

An instant is written in the form of RFC 3339, in universal time, with as many
groups of three fraction digits as it needs.  Years outside four digits carry a
sign.  Reading is more lenient: any offset from universal time, letters in
either case, a space in place of the `T`, blanks around the parts, and numbers
with fewer digits.
-/

namespace Questline.Time

/-! ## Writing -/

/-- The fraction of a second, in the fewest groups of three digits. -/
def writeFraction (nanos : Nat) : List Char :=
  if nanos = 0 then []
  else if nanos % 1000000 = 0 then '.' :: Decimal.padded 3 (nanos / 1000000)
  else if nanos % 1000 = 0 then '.' :: Decimal.padded 6 (nanos / 1000)
  else '.' :: Decimal.padded 9 nanos

/-- A year in at least four digits, signed outside `0000` to `9999`. -/
def writeYear (y : Int) : List Char :=
  if 0 ≤ y && y ≤ 9999 then Decimal.padded 4 y.toNat
  else (if y < 0 then '-' else '+') :: Decimal.padded 4 y.natAbs

/-- The characters of a written instant. -/
def Instant.write (t : Instant) : List Char :=
  let d := Date.ofDayNumber (t.seconds / 86400)
  let s := t.secondOfDay.toNat
  let (leap, nanos) := if t.nanos ≥ 1000000000 then (1, t.nanos - 1000000000) else (0, t.nanos)
  writeYear d.year ++ '-' :: Decimal.padded 2 d.month ++ '-' :: Decimal.padded 2 d.day
    ++ 'T' :: Decimal.padded 2 (s / 3600) ++ ':' :: Decimal.padded 2 (s / 60 % 60)
    ++ ':' :: Decimal.padded 2 (s % 60 + leap) ++ writeFraction nanos ++ ['Z']

/-- The instant in the form of RFC 3339. -/
def Instant.stamp (t : Instant) : String := .ofList t.write

/-! ## Reading -/

/-- A reader takes what it wants from the front of the text. -/
abbrev Reading (α : Type) := List Char → Option (α × List Char)

/-- A number of at least one and at most `most` digits; `none` stands for any
number of digits. -/
def readDigits (most : Option Nat) (cs : List Char) : Option (Nat × List Char) :=
  let run := cs.takeWhile Decimal.isDigit
  let run := match most with
    | some n => run.take n
    | none => run
  if run.isEmpty then none else some (Nat.ofDigitChars 10 run 0, cs.drop run.length)

/-- A number of one or two digits after blanks, within bounds. -/
def readPart (low high : Nat) (cs : List Char) : Option (Nat × List Char) := do
  let (n, rest) ← readDigits (some 2) (Text.trimStart cs)
  if low ≤ n && n ≤ high then some (n, rest) else none

/-- A year after blanks: four digits at most, or any number after a sign. -/
def readYear (cs : List Char) : Option (Int × List Char) :=
  match Text.trimStart cs with
  | '-' :: r => (readDigits none r).map fun (n, rest) => (-Int.ofNat n, rest)
  | '+' :: r => (readDigits none r).map fun (n, rest) => (Int.ofNat n, rest)
  | r => (readDigits (some 4) r).map fun (n, rest) => (Int.ofNat n, rest)

/-- The mark `c`, after blanks. -/
def readMark (c : Char) (cs : List Char) : Option (List Char) :=
  match Text.trimStart cs with
  | d :: r => if d = c then some r else none
  | [] => none

/-- The letter between date and time. -/
def readDivider : List Char → Option (List Char)
  | c :: r => if c = 't' || c = 'T' || c = ' ' then some r else none
  | [] => none

/-- A fraction of a second in nanoseconds; digits after the ninth do not count. -/
def readFraction : List Char → Option (Nat × List Char)
  | '.' :: r =>
    match (r.takeWhile Decimal.isDigit).take 9 with
    | [] => none
    | ds => some (Nat.ofDigitChars 10 ds 0 * Nat.pow 10 (9 - ds.length), r.dropWhile Decimal.isDigit)
  | cs => some (0, cs)

/-- The two digits of an offset's hours or minutes. -/
def readPair : List Char → Option (Nat × List Char)
  | a :: b :: r =>
    if Decimal.isDigit a && Decimal.isDigit b then
      some ((a.toNat - '0'.toNat) * 10 + (b.toNat - '0'.toNat), r)
    else none
  | _ => none

/-- Letters of either case spell universal time. -/
def isUtc : List Char → Bool
  | a :: b :: c :: _ => (a = 'u' || a = 'U') && (b = 't' || b = 'T') && (c = 'c' || c = 'C')
  | _ => false

/-- An offset from universal time in seconds, less than a day. -/
def readOffset (cs : List Char) : Option (Int × List Char) :=
  let cs := Text.trimStart cs
  if isUtc cs then some (0, cs.drop 3)
  else
    match cs with
    | [] => none
    | c :: r =>
      if c = 'z' || c = 'Z' then some (0, r)
      else if c = '+' || c = '-' || c = '−' then do
        let (hours, r) ← readPair r
        let (minutes, r) ← readPair (r.dropWhile fun c => c = ':' || Text.isBlank c)
        if minutes < 60 && hours < 24 then
          let s : Int := hours * 3600 + minutes * 60
          some (if c = '+' then s else -s, r)
        else none
      else none

/-- The years that dates are kept for. -/
def yearInRange (y : Int) : Bool := -262143 ≤ y && y ≤ 262142

/-- The instant that a text writes. -/
def Instant.ofStamp? (s : String) : Option Instant := do
  let (year, cs) ← readYear s.toList
  let cs ← readMark '-' cs
  let (month, cs) ← readPart 1 12 cs
  let cs ← readMark '-' cs
  let (day, cs) ← readPart 1 31 cs
  let cs ← readDivider cs
  let (hour, cs) ← readPart 0 23 cs
  let cs ← readMark ':' cs
  let (minute, cs) ← readPart 0 59 cs
  let cs ← readMark ':' cs
  let (second, cs) ← readPart 0 60 cs
  let (nanos, cs) ← readFraction cs
  let (offset, cs) ← readOffset cs
  let date : Date := ⟨year, month, day⟩
  if !Text.isBlankText cs || !yearInRange year || !date.isValid then none
  else
    let (second, nanos) := if second = 60 then (59, nanos + 1000000000) else (second, nanos)
    let seconds : Int := date.dayNumber * 86400 + hour * 3600 + minute * 60 + second - offset
    if yearInRange (Date.ofDayNumber (seconds / 86400)).year then some ⟨seconds, nanos⟩ else none

example : (Instant.ofMillis 1704067200500).stamp = "2024-01-01T00:00:00.500Z" := by decide +kernel
example : Instant.ofStamp? "2024-1-1 05:30:00 +05:30" = some (Instant.ofMillis 1704067200000) := by
  decide +kernel

end Questline.Time
