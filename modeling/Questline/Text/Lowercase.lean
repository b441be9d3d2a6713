import Questline.Text.Case
import Questline.Text.Ranges
set_option autoImplicit false

/-!
# Text: lower-casing

The full Unicode rule: every capital becomes its small letter, a dotted capital
I becomes two characters, and a capital sigma becomes the final form exactly
when it ends a word.
-/

namespace Questline.Text

/-- The small letter of a single character, where that is one character. -/
def lowerChar (c : Char) : Char :=
  let n := c.toNat
  match Case.runs.find? fun r => r.first ≤ n && n ≤ r.last && (n - r.first) % r.step == 0 with
  | some r => Char.ofNat (n + r.shift).toNat
  | none => c

/-- The first character that case does not look through is a cased letter. -/
def meetsCased (cs : List Char) : Bool :=
  match cs.dropWhile (inRanges Case.transparent) with
  | c :: _ => inRanges Case.cased c
  | [] => false

/-- Lower-cases `cs`; `before` holds what stands in front of it, last character
first. -/
def lowerFrom (before : List Char) : List Char → List Char
  | [] => []
  | c :: r =>
    let small :=
      if c = 'Σ' then [if meetsCased before && !meetsCased r then 'ς' else 'σ']
      else if c = 'İ' then ['i', '\u0307']
      else [lowerChar c]
    small ++ lowerFrom (c :: before) r

/-- The text in lower case. -/
def lowercase (s : String) : String := .ofList (lowerFrom [] s.toList)

end Questline.Text
