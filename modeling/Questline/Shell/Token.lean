import Questline.Text.Width
set_option autoImplicit false

/-!
# Shell: the tokens of a command line

A line falls into words and pipes.  Blanks of the keyboard separate words; a
word may contain quoted stretches, in which blanks and pipes are ordinary and
whose quotes are not part of its text.  Every token is as long as it can be.  A
quote without a partner ends the line: it and what follows belong to no token.
-/

namespace Questline

/-- What a token is. -/
inductive Token.Kind where
  | word (text : String)
  | pipe
  deriving DecidableEq, Repr

/-- A token and where it stands, from byte `start` up to byte `stop`. -/
structure Token where
  kind : Token.Kind
  start : Nat
  stop : Nat
  deriving DecidableEq, Repr

namespace Token

/-- The text of a word. -/
def word? (t : Token) : Option String :=
  match t.kind with
  | .word s => some s
  | .pipe => none

/-- Stands between words: space, tab, carriage return, newline, form feed. -/
def isSeparator (c : Char) : Bool :=
  c = ' ' || c = '\t' || c = '\r' || c = '\n' || c = '\x0c'

/-- The longest word in front of the text, quotes included, and what follows;
`quoted` while inside quotes. -/
def longestWord (quoted : Bool) : List Char → List Char × List Char
  | [] => ([], [])
  | c :: r =>
    if quoted then
      let (w, rest) := longestWord (c != '"') r
      (c :: w, rest)
    else if c = '"' then
      if r.contains '"' then
        let (w, rest) := longestWord true r
        (c :: w, rest)
      else ([], c :: r)
    else if c = '|' || isSeparator c then ([], c :: r)
    else
      let (w, rest) := longestWord false r
      (c :: w, rest)

theorem longestWord_append (quoted : Bool) (cs : List Char) :
    (longestWord quoted cs).1 ++ (longestWord quoted cs).2 = cs := by
  fun_induction longestWord quoted cs <;> simp_all

theorem longestWord_rest_lt {quoted : Bool} {cs w rest : List Char} {d : Char}
    (h : longestWord quoted cs = (d :: w, rest)) : rest.length < cs.length := by
  have := congrArg List.length (longestWord_append quoted cs)
  rw [h] at this
  simp at this
  omega

/-- The text of a word without its quotes. -/
def unquoted (cs : List Char) : String := .ofList (cs.filter (· != '"'))

/-- The tokens of a text that begins at byte `start`. -/
def scan (start : Nat) (cs : List Char) : List Token :=
  match cs with
  | [] => []
  | c :: r =>
    if isSeparator c then scan (start + c.utf8Size) r
    else if c = '|' then ⟨.pipe, start, start + 1⟩ :: scan (start + 1) r
    else
      match h : longestWord false (c :: r) with
      | ([], _) => []
      | (d :: w, rest) =>
        have := longestWord_rest_lt h
        let stop := start + Text.bytes (d :: w)
        ⟨.word (unquoted (d :: w)), start, stop⟩ :: scan stop rest
termination_by cs.length
decreasing_by
  · simp
  · simp
  · assumption

/-- The tokens of a line. -/
def tokenize (line : String) : List Token := scan 0 line.toList

end Token

end Questline
