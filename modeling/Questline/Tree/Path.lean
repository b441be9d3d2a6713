import Questline.Text.Search
set_option autoImplicit false

/-!
# Tree: paths

A path is text with slashes between names.  Empty names and `.` stand for
nothing, `..` for the way back up, which at the root leads nowhere.  A path that
begins with a slash starts at the root, every other at the current directory.
-/

namespace Questline.Path

/-- The pieces between slashes; there is one more than there are slashes. -/
def pieces : List Char → List (List Char)
  | [] => [[]]
  | c :: r =>
    if c = '/' then [] :: pieces r
    else
      match pieces r with
      | [] => [[c]]
      | p :: ps => (c :: p) :: ps

/-- Follows one piece of a path from a place. -/
def follow (place : List String) (piece : List Char) : List String :=
  if piece = [] || piece = ['.'] then place
  else if piece = ['.', '.'] then place.dropLast
  else place ++ [.ofList piece]

/-- The place that a path names, seen from `cwd`. -/
def resolve (cwd : List String) (path : List Char) : List String :=
  (pieces path).foldl follow (if path.head? = some '/' then [] else cwd)

/-- A name that can be given to a new node. -/
def isName (leaf : List Char) : Bool := leaf != [] && leaf != ['.'] && leaf != ['.', '.']

/-- The path of the parent directory and the last name, where that is a name:
slashes at the end do not count. -/
def splitLeaf? (path : List Char) : Option (List Char × String) :=
  let trimmed := (path.reverse.dropWhile (· = '/')).reverse
  let (parent, leaf) := match Text.cutLast '/' trimmed with
    | some (a, b) => (a ++ ['/'], b)
    | none => ([], trimmed)
  if isName leaf then some (parent, .ofList leaf) else none

/-- The absolute path of a place. -/
def render (place : List String) : String := "/" ++ "/".intercalate place

theorem pieces_ne_nil (cs : List Char) : pieces cs ≠ [] := by
  induction cs with
  | nil => simp [pieces]
  | cons c r ih =>
    rw [pieces]
    split
    · simp
    · split <;> simp

example : resolve ["home"] "../a//./b/".toList = ["a", "b"] := by decide +kernel
example : splitLeaf? "a/b//".toList = some ("a/".toList, "b") := by decide +kernel

end Questline.Path
