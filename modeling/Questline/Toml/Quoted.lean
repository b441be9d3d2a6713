import Questline.Text.Hex
set_option autoImplicit false

/-!
# Toml: quoted texts

Texts in double quotes know escapes, texts in single quotes are taken as they
stand; three quotes on either side admit more than one line.  A newline right
after three opening quotes does not count, and a backslash at the end of a line
joins it with what comes after the next blanks and newlines.
-/

namespace Questline.Toml

/-- A character that may stand in a text: no control character but the tab. -/
def isPrintable (c : Char) : Bool := c = '\t' || (0x20 ≤ c.toNat && c.toNat ≠ 0x7F)

/-- A space or a tab. -/
def isSpace (c : Char) : Bool := c = ' ' || c = '\t'

/-- The character of an escape by one letter. -/
def letterEscape? (c : Char) : Option Char :=
  if c = '"' || c = '\\' then some c
  else if c = 'b' then some '\x08'
  else if c = 't' then some '\t'
  else if c = 'n' then some '\n'
  else if c = 'f' then some '\x0c'
  else if c = 'r' then some '\r'
  else if c = 'e' then some '\x1b'
  else none

/-- The character that hexadecimal digits number, if there is one. -/
def numbered? (digits : List Char) : Option Char := do
  let n ← Text.hexNumber? digits
  if n < 0xD800 || (0xE000 ≤ n && n < 0x110000) then some (Char.ofNat n) else none

/-- Puts a character in front of what has been read. -/
def prepend (c : Char) (r : Option (List Char × List Char)) : Option (List Char × List Char) :=
  r.map fun (cs, rest) => (c :: cs, rest)

/-! ## One line -/

/-- The inside of a text in double quotes, and what follows the closing one. -/
def basic? : List Char → Option (List Char × List Char)
  | [] => none
  | '"' :: r => some ([], r)
  | '\\' :: 'x' :: a :: b :: r => do prepend (← numbered? [a, b]) (basic? r)
  | '\\' :: 'u' :: a :: b :: c :: d :: r => do prepend (← numbered? [a, b, c, d]) (basic? r)
  | '\\' :: 'U' :: a :: b :: c :: d :: e :: f :: g :: h :: r => do
    prepend (← numbered? [a, b, c, d, e, f, g, h]) (basic? r)
  | '\\' :: c :: r => do prepend (← letterEscape? c) (basic? r)
  | c :: r => if isPrintable c then prepend c (basic? r) else none

/-- The inside of a text in single quotes, and what follows the closing one. -/
def literal? : List Char → Option (List Char × List Char)
  | [] => none
  | '\'' :: r => some ([], r)
  | c :: r => if isPrintable c then prepend c (literal? r) else none

/-! ## Several lines -/

/-- Where a backslash at the end of a line has got to. -/
inductive Joining where
  /-- There is none. -/
  | no
  /-- The newline is still to come. -/
  | beforeNewline
  /-- Blanks and newlines are passed over. -/
  | afterNewline
  deriving DecidableEq, Repr

/-- What follows three opening quotes, without a newline that comes first. -/
def dropNewline : List Char → List Char
  | '\n' :: r => r
  | '\r' :: '\n' :: r => r
  | cs => cs

/-- The inside of a text in three double quotes, and what follows the closing ones.
The text may itself end in one or two quotes. -/
def lines? : Joining → List Char → Option (List Char × List Char)
  | _, [] => none
  | .beforeNewline, '\n' :: r => lines? .afterNewline r
  | .beforeNewline, '\r' :: '\n' :: r => lines? .afterNewline r
  | .beforeNewline, c :: r => if isSpace c then lines? .beforeNewline r else none
  | .afterNewline, '\n' :: r => lines? .afterNewline r
  | .afterNewline, '\r' :: '\n' :: r => lines? .afterNewline r
  | .afterNewline, ' ' :: r => lines? .afterNewline r
  | .afterNewline, '\t' :: r => lines? .afterNewline r
  | _, '"' :: '"' :: '"' :: '"' :: '"' :: r => some (['"', '"'], r)
  | _, '"' :: '"' :: '"' :: '"' :: r => some (['"'], r)
  | _, '"' :: '"' :: '"' :: r => some ([], r)
  | _, '\\' :: '\n' :: r => lines? .afterNewline r
  | _, '\\' :: '\r' :: '\n' :: r => lines? .afterNewline r
  | _, '\\' :: ' ' :: r => lines? .beforeNewline r
  | _, '\\' :: '\t' :: r => lines? .beforeNewline r
  | _, '\\' :: 'x' :: a :: b :: r => do prepend (← numbered? [a, b]) (lines? .no r)
  | _, '\\' :: 'u' :: a :: b :: c :: d :: r => do
    prepend (← numbered? [a, b, c, d]) (lines? .no r)
  | _, '\\' :: 'U' :: a :: b :: c :: d :: e :: f :: g :: h :: r => do
    prepend (← numbered? [a, b, c, d, e, f, g, h]) (lines? .no r)
  | _, '\\' :: c :: r => do prepend (← letterEscape? c) (lines? .no r)
  | _, '\r' :: '\n' :: r => prepend '\r' (prepend '\n' (lines? .no r))
  | _, c :: r => if c = '\n' || isPrintable c then prepend c (lines? .no r) else none

/-- The inside of a text in three single quotes, and what follows the closing ones. -/
def literalLines? : List Char → Option (List Char × List Char)
  | [] => none
  | '\'' :: '\'' :: '\'' :: '\'' :: '\'' :: r => some (['\'', '\''], r)
  | '\'' :: '\'' :: '\'' :: '\'' :: r => some (['\''], r)
  | '\'' :: '\'' :: '\'' :: r => some ([], r)
  | '\r' :: '\n' :: r => prepend '\r' (prepend '\n' (literalLines? r))
  | c :: r => if c = '\n' || isPrintable c then prepend c (literalLines? r) else none

/-! ## Any of them -/

/-- A quoted text on one line, if the characters go on with one. -/
def quoted? : List Char → Option (List Char × List Char)
  | '"' :: r => basic? r
  | '\'' :: r => literal? r
  | _ => none

/-- A quoted text, if the characters go on with one. -/
def anyQuoted? : List Char → Option (List Char × List Char)
  | '"' :: '"' :: '"' :: r => lines? .no (dropNewline r)
  | '\'' :: '\'' :: '\'' :: r => literalLines? (dropNewline r)
  | cs => quoted? cs

end Questline.Toml
