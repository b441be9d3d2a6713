import Questline.Text.Blank
import Questline.Text.Width
set_option autoImplicit false

/-!
# Shell: cards

A card is a title and items in a rounded frame.  Lines are wrapped at the last
blank that leaves a reasonable piece before it, and in the middle of a word
where there is none.
-/

namespace Questline.Card

/-- The greatest number of characters in a row. -/
def maxWidth : Nat := 44

/-- The least number of characters in a row. -/
def minWidth : Nat := 18

/-- A break at a space has to leave more than this many characters before it. -/
def minBreak : Nat := 16

/-- The position of the last space. -/
def lastSpace? (cs : List Char) : Option Nat :=
  (cs.reverse.findIdx? (· = ' ')).map fun i => cs.length - 1 - i

/-- Where a row of more than `width` characters is cut. -/
def cut (width : Nat) (cs : List Char) : Nat :=
  match lastSpace? (cs.take width) with
  | some i => if i > minBreak then i else width
  | none => width

/-- Wraps a line that has no blanks at its ends; `fuel` bounds the number of rows. -/
def wrapRows (width : Nat) : Nat → List Char → List (List Char)
  | 0, cs => [cs]
  | fuel + 1, cs =>
    if cs.length > width then
      let n := cut width cs
      Text.trimEnd (cs.take n) :: wrapRows width fuel (Text.trimStart (cs.drop n))
    else [cs]

/-- Wraps a line to rows of at most `width` characters. -/
def wrap (width : Nat) (line : String) : List (List Char) :=
  let cs := Text.trim line.toList
  wrapRows width cs.length cs

/-- A row between its borders. -/
def row (width : Nat) (cs : List Char) : String :=
  .ofList ('│' :: ' ' :: cs ++ List.replicate (width - 4 - cs.length) ' ' ++ [' ', '│'])

/-- The card with a title and items. -/
def render (title : String) (items : List String) : List String :=
  let rows := (title :: items.map ("• " ++ ·)).flatMap (wrap (maxWidth - 4))
  let longest := rows.foldl (fun w r => max w (r.length + 4)) 0
  let width := max minWidth (min maxWidth longest)
  let rule := List.replicate (width - 2) '─'
  .ofList ('╭' :: rule ++ ['╮']) :: rows.map (row width) ++ [.ofList ('╰' :: rule ++ ['╯'])]

/-- The banner of the game. -/
def banner : List String :=
  ["╔══════════════════════╗", "║  SHELLQUEST AWAKENS  ║", "╚══════════════════════╝",
    "⚡ Learn commands. Earn loot. ⚡"]

end Questline.Card
