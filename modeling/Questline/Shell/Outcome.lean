import Questline.Text.Lines
import Questline.Text.Search
set_option autoImplicit false

/-!
# Shell: outcomes

What a command answers: whether it succeeded, the lines it shows, and whether
the screen is to be cleared first.
-/

namespace Questline

/-- Whether a command succeeded. -/
inductive Status where
  | ok
  | error
  deriving DecidableEq, Repr, Inhabited

/-- The answer of a command. -/
structure Outcome where
  status : Status
  lines : List String
  clear : Bool
  deriving DecidableEq, Repr, Inhabited

namespace Outcome

/-- Success with these lines. -/
def success (lines : List String) : Outcome := ⟨.ok, lines, false⟩

/-- Success with one line. -/
def line (s : String) : Outcome := success [s]

/-- Failure with one line that says why. -/
def failure (s : String) : Outcome := ⟨.error, [s], false⟩

/-- Success with nothing to show. -/
def empty : Outcome := success []

/-- An empty screen. -/
def cleared : Outcome := { empty with clear := true }

/-- The command succeeded. -/
def isOk (o : Outcome) : Bool := o.status == .ok

/-- The lines as one text. -/
def text (o : Outcome) : String := Text.unlines o.lines

/-- The line that stands for an output with nothing in it. -/
def noMatches : String := "(no matches)"

/-- Keeps the lines that contain a pattern. -/
def filter (pattern : String) (o : Outcome) : Outcome :=
  match o.lines.filter fun l => Text.occurs pattern.toList l.toList with
  | [] => { o with lines := [noMatches] }
  | kept => { o with lines := kept }

end Outcome

end Questline
