import Questline.Progress.Basic
import Questline.Tree.FileSystem
set_option autoImplicit false

/-!
# Quest: checks

What a quest asks for, as a condition on the commands that were logged and on
the file system.  Paths are meant as a command would take them.
-/

namespace Questline

/-- The condition of a quest. -/
inductive Check where
  /-- A logged command begins with this. -/
  | commandUsed (start : String)
  /-- A logged command contains all of these. -/
  | commandContains (fragments : List String)
  /-- A logged output contains this path. -/
  | pathVisited (path : String)
  | nodeExists (path : String)
  | nodeAbsent (path : String)
  /-- There is a file and its content contains `needle`. -/
  | fileContains (path needle : String)
  | all (checks : List Check)
  deriving Inhabited

namespace Check

mutual

/-- The condition holds. -/
def holds (log : List LogEntry) (fs : FileSystem) : Check → Bool
  | .commandUsed start => log.any fun e => Text.startsWith e.command start
  | .commandContains fragments => log.any fun e => fragments.all (Text.contains e.command)
  | .pathVisited path => log.any fun e => Text.contains e.output path
  | .nodeExists path => (fs.lookup? path).isSome
  | .nodeAbsent path => (fs.lookup? path).isNone
  | .fileContains path needle =>
    match (fs.lookup? path).bind Node.content? with
    | some content => Text.contains content needle
    | none => false
  | .all checks => allHold log fs checks

/-- All conditions hold. -/
def allHold (log : List LogEntry) (fs : FileSystem) : List Check → Bool
  | [] => true
  | c :: r => c.holds log fs && allHold log fs r

end

theorem allHold_iff {log : List LogEntry} {fs : FileSystem} {cs : List Check} :
    allHold log fs cs = true ↔ ∀ c ∈ cs, c.holds log fs = true := by
  induction cs with
  | nil => simp [allHold]
  | cons c r ih => simp [allHold, ih]

end Check

/-- A quest. -/
structure Quest where
  id : String
  zone : Zone
  title : String
  intro : String
  goal : String
  hints : List String
  check : Check
  reward : Reward

/-- The first hint, or the goal where there is none. -/
def Quest.firstHint (q : Quest) : String := q.hints.headD q.goal

end Questline
