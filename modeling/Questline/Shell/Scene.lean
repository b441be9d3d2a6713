import Questline.Account.Desk
import Questline.Shell.Machine
import Questline.Shell.Report
set_option autoImplicit false

/-!
# Shell: executing a line

A line is parsed, its command carried out, and the line with its output entered
into the log, whatever came of it.  A line of blanks does nothing at all.
-/

namespace Questline

open Time (Instant Span)

/-- What the shell remembers during a session. -/
structure Shell where
  machine : Machine
  /-- The time between hints, before upgrades. -/
  hintCooldown : Span
  lastHint : Option Instant
  /-- The number of the next tip. -/
  tip : Nat

namespace Shell

/-- The shell of a new session. -/
def initial (hintCooldown : Span) : Shell := ⟨.initial, hintCooldown, none, 0⟩

/-- The next card of tips. -/
def nextTips (s : Shell) : Outcome × Shell :=
  (Report.tipsFrom s.tip, { s with tip := (s.tip + Report.tipsPerCard) % Report.tips.length })

/-- The time between hints. -/
def cooldown (s : Shell) (p : Progress) : Span :=
  max (s.hintCooldown - Span.ofSeconds (Int.ofNat p.upgrades.hintCooldownReduction.toNat)) 0

/-- How long one has to wait for a hint, if it is too early for one. -/
def wait? (s : Shell) (p : Progress) (now : Instant) : Option Span :=
  match s.lastHint with
  | none => none
  | some last =>
    let ready := last.plus (s.cooldown p)
    if now.before ready then some (ready.since now) else none

/-- The first hint of the next quest, unless it is too early. -/
def hint (s : Shell) (threshold : UInt32) (p : Progress) (now : Instant) : Outcome × Shell :=
  match s.wait? p now with
  | some wait =>
    let seconds := Int.tdiv (wait.millis + 999) 1000
    (.line s!"Hints cooling down. Wait {seconds}s.", s)
  | none =>
    match p.nextQuest? threshold with
    | none => (.line "No hints needed. All quests clear!", s)
    | some (_, quest) => (.line s!"Hint: {quest.firstHint}", { s with lastHint := some now })

end Shell

/-- Everything a command may look at or change. -/
structure Scene (w : Type) where
  fs : FileSystem
  shell : Shell
  desk : Desk w

namespace Scene

variable {w : Type}

/-- The game being played. -/
def progress (s : Scene w) : Progress := s.desk.progress

/-- The scene with another game. -/
def withProgress (s : Scene w) (p : Progress) : Scene w :=
  { s with desk := { s.desk with progress := p } }

/-- Content and target of a redirection: what stands before the last `>`, without
quotes around it, and what stands after it. -/
def splitRedirect? (text : List Char) : Option (List Char × List Char) :=
  (Text.cutLast '>' text).map fun (before, after) =>
    let content := Text.trim before
    let content := if content.head? = some '"' then content.drop 1 else content
    let content := if content.getLast? = some '"' then content.dropLast else content
    (content, Text.trim after)

/-- The answer of an operation on the file system. -/
def fileOutcome {α : Type} (command : String) (shown : α → Outcome) : Except FileError α → Outcome
  | .ok a => shown a
  | .error e => .failure s!"{command}: {e.message}"

/-- Carries out a change of the file system. -/
def change (s : Scene w) (command : String) (shown : FileSystem → Outcome)
    (result : Except FileError FileSystem) : Outcome × Scene w :=
  (fileOutcome command shown result,
    match result with
    | .ok fs => { s with fs := fs }
    | .error _ => s)

/-- Writes the text of a redirection into its target. -/
def echo (s : Scene w) (text : String) : Outcome × Scene w :=
  match splitRedirect? text.toList with
  | none => (.failure "Usage: echo \"text\" > file", s)
  | some (content, target) =>
    if target.isEmpty then (.failure "Missing target file", s)
    else
      let content := String.ofList content
      s.change "echo" (fun _ => .line content) (s.fs.echo content (.ofList target))

/-- Buys an upgrade. -/
def buy (s : Scene w) (id : String) : Outcome × Scene w :=
  match s.progress.purchase id with
  | .ok (u, p) =>
    (.line s!"Purchased {u.name}. Coins left: {p.player.coins}", s.withProgress p)
  | .error e => (.failure e.message, s)

/-- Carries out a command on the simulated machine. -/
def onMachine (s : Scene w) (act : Machine → Outcome × Machine) : Outcome × Scene w :=
  let (o, m) := act s.shell.machine
  (o, { s with shell := { s.shell with machine := m } })

/-- Carries out a command of the shell itself. -/
def onShell (s : Scene w) (act : Shell → Outcome × Shell) : Outcome × Scene w :=
  let (o, sh) := act s.shell
  (o, { s with shell := sh })

/-- Carries out an account command. -/
def onDesk (s : Scene w) (act : Action AccountError (Desk w) (List String)) : Outcome × Scene w :=
  let (r, d) := act s.desk
  (match r with
    | .ok lines => .success lines
    | .error e => .failure e.message,
    { s with desk := d })

variable [Depot w]

/-- Carries out a command; `line` is the whole line it came from. -/
def dispatch (s : Scene w) (threshold : UInt32) (line : String) (now : Instant) :
    Command.Simple → Outcome × Scene w
  | .empty => (.empty, s)
  | .unknown name => (.failure s!"Unknown command: {name}", s)
  | .help => (Report.help s.progress, s)
  | .clear => (.cleared, s)
  | .tutorial => (Report.tutorial threshold s.progress, s)
  | .tips => s.onShell Shell.nextTips
  | .banner => (.success Card.banner, s)
  | .quests => (Report.quests threshold s.progress, s)
  | .stats => (Report.stats s.progress, s)
  | .shop => (Report.shop s.progress, s)
  | .buy none => (.failure "Usage: buy <upgrade-id>", s)
  | .buy (some id) => s.buy id
  | .hint => s.onShell fun sh => sh.hint threshold s.progress now
  | .history => (Report.history line s.progress, s)
  | .pwd => (.line s.fs.pwd, s)
  | .ls path => (fileOutcome "ls" .success (s.fs.ls path), s)
  | .cd path => s.change "cd" (fun fs => .line fs.pwd) (s.fs.cd (path.getD "."))
  | .cat none => (.failure "Usage: cat <file>", s)
  | .cat (some path) => (fileOutcome "cat" (fun c => .success (Text.lines c)) (s.fs.cat path), s)
  | .touch none => (.failure "Missing filename", s)
  | .touch (some path) => s.change "touch" (fun _ => .line s!"Created {path}") (s.fs.touch path)
  | .mkdir none => (.failure "Missing directory name", s)
  | .mkdir (some path) =>
    s.change "mkdir" (fun _ => .line s!"Created directory {path}") (s.fs.mkdir path)
  | .rm none => (.failure "Missing target", s)
  | .rm (some path) => s.change "rm" (fun _ => .line s!"Removed {path}") (s.fs.rm path)
  | .echo text => s.echo text
  | .grep (some pattern) (some path) =>
    (fileOutcome "grep"
      (fun ls => if ls.isEmpty then .line Outcome.noMatches else .success ls)
      (s.fs.grep pattern path), s)
  | .grep _ _ => (.failure "Usage: grep pattern file", s)
  | .env => (s.shell.machine.showEnv, s)
  | .export text => s.onMachine fun m => m.setEnv text
  | .ps => (s.shell.machine.showProcesses, s)
  | .kill pid => s.onMachine fun m => m.kill pid
  | .ping args => (Machine.ping args, s)
  | .curl args => (Machine.curl args, s)
  | .package manager args => s.onMachine fun m => m.package manager args
  | .signup none => (.failure "Usage: signup <username>", s)
  | .signup (some name) => s.onDesk (Desk.signup name now)
  | .login none => (.failure "Usage: login <username>", s)
  | .login (some name) => s.onDesk (Desk.login name now)
  | .logout => s.onDesk (Desk.logout now)
  | .whoami => (.line (Desk.whoami s.progress), s)
  | .sync => s.onDesk Desk.sync

/-- Carries out what a line asks for. -/
def perform (s : Scene w) (threshold : UInt32) (line : String) (now : Instant) :
    Command → Outcome × Scene w
  | .simple c => s.dispatch threshold line now c
  | .pipeline left pattern =>
    let (o, s) := s.dispatch threshold line now left
    (o.filter pattern, s)

/-- Executes a line. -/
def execute (s : Scene w) (threshold : UInt32) (line : String) (now : Instant) :
    Outcome × Scene w :=
  let trimmed := Text.trimmed line
  if trimmed.isEmpty then (.empty, s)
  else
    let (o, s) := s.perform threshold trimmed now (Command.parse trimmed)
    (o, s.withProgress (s.progress.logCommand trimmed o.text now))

end Scene

end Questline
