import Questline.Json.Number
import Questline.Decimal.Digits
import Questline.Text.Hex
set_option autoImplicit false

/-!
# Json: reading

Reading by descent over the characters.  A place that is well formed but has no
value is read as `broken`, together with every object one of whose names is
broken; whoever needs the value then refuses it, and whoever skips it does not
notice.

The descent is bounded by the length of the text, since every step takes at
least one character.
-/

namespace Questline.Json

/-- Drops the blanks that may stand between tokens. -/
def skip : List Char → List Char := List.dropWhile fun c => c = ' ' || c = '\n' || c = '\t' || c = '\r'

/-! ## Strings -/

/-- A character of a string, or half of a surrogate pair given by an escape. -/
inductive Unit where
  | char (c : Char)
  | high (n : Nat)
  | low (n : Nat)

/-- What an escape by four hexadecimal digits stands for. -/
def unitOf (n : Nat) : Unit :=
  if 0xD800 ≤ n && n < 0xDC00 then .high n
  else if 0xDC00 ≤ n && n < 0xE000 then .low n
  else .char (Char.ofNat n)

/-- The character of an escape by one letter. -/
def escaped? (c : Char) : Option Char :=
  if c = '"' || c = '\\' || c = '/' then some c
  else if c = 'b' then some '\x08'
  else if c = 'f' then some '\x0c'
  else if c = 'n' then some '\n'
  else if c = 'r' then some '\r'
  else if c = 't' then some '\t'
  else none

/-- The inside of a string up to its closing quote, and what follows it. -/
def units? : List Char → Option (List Unit × List Char)
  | [] => none
  | '"' :: r => some ([], r)
  | '\\' :: 'u' :: a :: b :: c :: d :: r => do
    let n ← Text.hexNumber? [a, b, c, d]
    let (us, rest) ← units? r
    return (unitOf n :: us, rest)
  | '\\' :: c :: r => do
    let e ← escaped? c
    let (us, rest) ← units? r
    return (.char e :: us, rest)
  | c :: r =>
    if c.toNat < 32 then none
    else do
      let (us, rest) ← units? r
      return (.char c :: us, rest)

/-- The characters of a string; none if half a pair stands alone. -/
def assemble? : List Unit → Option (List Char)
  | [] => some []
  | .char c :: r => (assemble? r).map (c :: ·)
  | .high h :: .low l :: r =>
    (assemble? r).map (Char.ofNat (0x10000 + (h - 0xD800) * 0x400 + (l - 0xDC00)) :: ·)
  | .high _ :: _ => none
  | .low _ :: _ => none

/-- A string after its opening quote: its text, if it has one, and what follows. -/
def string? (cs : List Char) : Option (Option String × List Char) := do
  let (us, rest) ← units? cs
  return ((assemble? us).map String.ofList, rest)

/-! ## Numbers -/

/-- The leading digits and what follows them. -/
def digits (cs : List Char) : List Nat × List Char :=
  ((cs.takeWhile Decimal.isDigit).map fun c => c.toNat - '0'.toNat, cs.dropWhile Decimal.isDigit)

/-- The exponent of a number, if the text goes on with one. -/
def exponent? (cs : List Char) : Option (Option (Bool × List Nat) × List Char) :=
  match cs with
  | c :: r =>
    if c = 'e' || c = 'E' then
      let (down, r) := match r with
        | '+' :: r => (false, r)
        | '-' :: r => (true, r)
        | r => (false, r)
      match digits r with
      | ([], _) => none
      | (ds, rest) => some (some (down, ds), rest)
    else some (none, cs)
  | [] => some (none, [])

/-- A number: an optional minus, digits without a superfluous zero in front, an
optional fraction and an optional exponent. -/
def number? (cs : List Char) : Option (Json × List Char) := do
  let (negative, cs) := match cs with
    | '-' :: r => (true, r)
    | cs => (false, cs)
  let (whole, cs) := digits cs
  if whole.isEmpty || (whole.head? == some 0 && whole.length != 1) then none
  else
    let (pointed, fraction, cs) ← match cs with
      | '.' :: r =>
        match digits r with
        | ([], _) => none
        | (ds, rest) => some (true, ds, rest)
      | cs => some (false, [], cs)
    let (exponent, rest) ← exponent? cs
    let w : Written := ⟨negative, whole, fraction, pointed, exponent⟩
    return (match w.value? with | some n => .num n | none => .broken, rest)

/-! ## Values -/

/-- The text goes on with `word`. -/
def expect? (word : List Char) (j : Json) (cs : List Char) : Option (Json × List Char) :=
  if word.isPrefixOf cs then some (j, cs.drop word.length) else none

/-- An object with these fields, broken if a name is. -/
def objectOf (fields : List (Option String × Json)) : Json :=
  match fields.mapM fun (n, j) => n.map fun n => (n, j) with
  | some fs => .obj fs
  | none => .broken

mutual

/-- The value that the text goes on with, and what follows it. -/
def value? : Nat → List Char → Option (Json × List Char)
  | 0, _ => none
  | fuel + 1, cs =>
    match skip cs with
    | [] => none
    | '"' :: r => do
      let (s, rest) ← string? r
      return (match s with | some s => .str s | none => .broken, rest)
    | '[' :: r =>
      match skip r with
      | ']' :: rest => some (.arr [], rest)
      | r => do
        let (items, rest) ← items? fuel r
        return (.arr items, rest)
    | '{' :: r =>
      match skip r with
      | '}' :: rest => some (.obj [], rest)
      | r => do
        let (fields, rest) ← fields? fuel r
        return (objectOf fields, rest)
    | 'n' :: r => expect? ['u', 'l', 'l'] .null r
    | 't' :: r => expect? ['r', 'u', 'e'] (.bool true) r
    | 'f' :: r => expect? ['a', 'l', 's', 'e'] (.bool false) r
    | cs => number? cs

/-- Items up to the closing bracket. -/
def items? : Nat → List Char → Option (List Json × List Char)
  | 0, _ => none
  | fuel + 1, cs => do
    let (j, r) ← value? fuel cs
    match skip r with
    | ']' :: rest => some ([j], rest)
    | ',' :: r =>
      let (js, rest) ← items? fuel r
      some (j :: js, rest)
    | _ => none

/-- Fields up to the closing brace. -/
def fields? : Nat → List Char → Option (List (Option String × Json) × List Char)
  | 0, _ => none
  | fuel + 1, cs =>
    match skip cs with
    | '"' :: r => do
      let (name, r) ← string? r
      match skip r with
      | ':' :: r =>
        let (j, r) ← value? fuel r
        match skip r with
        | '}' :: rest => some ([(name, j)], rest)
        | ',' :: r =>
          let (fs, rest) ← fields? fuel r
          some ((name, j) :: fs, rest)
        | _ => none
      | _ => none
    | _ => none

end

/-- The value of a whole text. -/
def parse? (s : String) : Option Json :=
  let cs := s.toList
  match value? (2 * cs.length + 2) cs with
  | some (j, rest) => if (skip rest).isEmpty then some j else none
  | none => none

end Questline.Json
