set_option autoImplicit false

/-!
# Text: lines

A text falls into lines at its newlines.  A carriage return just before a
newline belongs to the line ending; a last line without a newline keeps
everything it has, and the empty text has no line at all.
-/

namespace Questline.Text

/-- Drops one carriage return in front. -/
def dropCarriage : List Char → List Char
  | '\r' :: r => r
  | cs => cs

/-- The lines of `cs`, where `run` holds, last character first, what has been
read of the first of them. -/
def linesFrom (run : List Char) : List Char → List (List Char)
  | [] => if run.isEmpty then [] else [run.reverse]
  | c :: r =>
    if c = '\n' then (dropCarriage run).reverse :: linesFrom [] r
    else linesFrom (c :: run) r

/-- The lines of a text. -/
def lines (s : String) : List String := (linesFrom [] s.toList).map String.ofList

/-- The lines written one under the other, with no newline after the last. -/
def unlines (ls : List String) : String := "\n".intercalate ls

example : lines "a\r\nb\n\nc\r" = ["a", "b", "", "c\r"] := by decide
example : lines "" = [] ∧ lines "\n" = [""] := by decide

end Questline.Text
