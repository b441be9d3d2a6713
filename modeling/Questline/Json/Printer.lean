import Questline.Json.Basic
import Questline.Decimal.Shortest
set_option autoImplicit false

/-!
# Json: writing

A value is written without any spaces.  Inside a string the quote, the
backslash and the control characters are escaped, everything else stands for
itself.
-/

namespace Questline.Json

/-- The hexadecimal digit of a number below sixteen. -/
def hexDigit (n : Nat) : Char := Nat.digitChar n

/-- A character as it stands inside a string. -/
def escape (c : Char) : List Char :=
  if c = '"' then ['\\', '"']
  else if c = '\\' then ['\\', '\\']
  else if c = '\n' then ['\\', 'n']
  else if c = '\r' then ['\\', 'r']
  else if c = '\t' then ['\\', 't']
  else if c.toNat = 8 then ['\\', 'b']
  else if c.toNat = 12 then ['\\', 'f']
  else if c.toNat < 32 then
    ['\\', 'u', '0', '0', hexDigit (c.toNat / 16), hexDigit (c.toNat % 16)]
  else [c]

/-- A string in quotes. -/
def quoted (s : String) : List Char := '"' :: s.toList.flatMap escape ++ ['"']

/-- A number in decimal. -/
def Number.write : Number → List Char
  | .int n => (if n < 0 then ['-'] else []) ++ Nat.toDigits 10 n.natAbs
  | .real x => Decimal.shortest x

mutual

/-- The text of a value. -/
def write : Json → List Char
  | .null => ['n', 'u', 'l', 'l']
  | .bool true => ['t', 'r', 'u', 'e']
  | .bool false => ['f', 'a', 'l', 's', 'e']
  | .num n => Number.write n
  | .str s => quoted s
  | .arr items => '[' :: writeItems items ++ [']']
  | .obj fields => '{' :: writeFields fields ++ ['}']
  | .broken => ['n', 'u', 'l', 'l']

/-- The items with commas between them. -/
def writeItems : List Json → List Char
  | [] => []
  | [j] => write j
  | j :: k :: r => write j ++ ',' :: writeItems (k :: r)

/-- The fields with commas between them. -/
def writeFields : List (String × Json) → List Char
  | [] => []
  | [(n, j)] => quoted n ++ ':' :: write j
  | (n, j) :: f :: r => quoted n ++ ':' :: write j ++ ',' :: writeFields (f :: r)

end

/-- The text of a value. -/
def print (j : Json) : String := .ofList (write j)

end Questline.Json
