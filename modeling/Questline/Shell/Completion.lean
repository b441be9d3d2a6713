import Questline.Shell.Command
import Questline.Tree.FileSystem
set_option autoImplicit false

/-!
# Shell: completion

The last token of a line, up to the cursor, is completed: the first against the
command names, a later one against the paths below the current directory.
-/

namespace Questline

/-- What completion can offer. -/
structure Catalog where
  commands : List String
  paths : List String
  deriving DecidableEq, Repr

/-- The answer to an attempt at completion. -/
inductive Completion where
  /-- One candidate: the line with it in place of the last token. -/
  | complete (line : String) (candidates : List String)
  /-- Several candidates. -/
  | suggest (candidates : List String)
  | none
  deriving DecidableEq, Repr

namespace Catalog

/-- All commands and all paths below the current directory. -/
def ofFileSystem (fs : FileSystem) : Catalog := ⟨Command.names, fs.pathsBelowCwd⟩

/-- The characters after the last blank, if there is a blank. -/
def afterLastBlank : List Char → Option (List Char)
  | [] => none
  | c :: r =>
    match afterLastBlank r with
    | some a => some a
    | none => if Text.isBlank c then some r else none

/-- What stands before the token to complete, the token, and what it may become. -/
def candidates (catalog : Catalog) (input : String) : List Char × List Char × List String :=
  let cs := input.toList
  let text := Text.trimStart cs
  let (active, pool) := match afterLastBlank text with
    | none => (text, catalog.commands)
    | some a => (a, catalog.paths)
  (cs.take (cs.length - active.length), active,
    pool.filter fun c => active.isPrefixOf c.toList)

/-- Completes a line. -/
def complete (catalog : Catalog) (input : String) : Completion :=
  match catalog.candidates input with
  | (_, _, []) => .none
  | (before, _, [only]) =>
    .complete (.ofList (Text.trimStart before ++ only.toList)) [only]
  | (_, _, many) => .suggest many

end Catalog

end Questline
