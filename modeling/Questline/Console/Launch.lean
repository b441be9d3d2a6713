import Questline.Console.Basic
import Questline.Console.Options
import Questline.Text.Grapheme
import Questline.Text.Lines
set_option autoImplicit false

/-!
# Console: a run from start to end

A run reads its options and its configuration, greets the player, answers the
lines it is given one by one, and keeps the game when the lines end or the player
quits.  A wrong command line ends it with status 2, and a configuration or a save
that cannot be read with status 1.
-/

namespace Questline

/-- Where a run takes place. -/
structure Environment where
  /-- The home directory of the player. -/
  home : List String
  /-- The directory from which relative paths are seen. -/
  cwd : List String
  deriving DecidableEq, Repr

namespace Environment

/-- The directory of saves if none is configured. -/
def usualDataDir (env : Environment) : List String := env.home ++ [".local", "share", "shellquest"]

/-- The configuration file if none is named. -/
def usualConfigFile (env : Environment) : List String :=
  env.home ++ [".config", "shellquest", "config.toml"]

/-- The place that a path names. -/
def place (env : Environment) (path : String) : List String := Path.resolve env.cwd path.toList

/-- The directory of saves. -/
def dataDir (env : Environment) (c : Config) : List String :=
  (c.dataDir.map env.place).getD env.usualDataDir

/-- The configuration file that is read. -/
def configFile (env : Environment) (o : Options) : List String :=
  (o.config.map env.place).getD env.usualConfigFile

/-- The configuration that options and a disk give.  A file that is named has to be
there, the usual one need not. -/
def config? (env : Environment) (disk : Node) (o : Options) : Option Config :=
  let fromFile := match Disk.find (env.configFile o) disk with
    | .node (.file text) => Config.ofText? text
    | .node (.dir _) => none
    | _ => if o.config.isNone then some .initial else none
  fromFile.map o.refine

/-- The surroundings that a configuration gives a console. -/
def station (env : Environment) (host : Host) (c : Config) : Station where
  host := host
  shelf := .folder ⟨env.dataDir c⟩
  cloud := c.remoteDir.map fun path => ⟨env.place path⟩
  online := !c.offline

end Environment

/-- What a run shows and how it ends. -/
structure Ending where
  output : String
  status : Nat
  deriving DecidableEq, Repr

namespace Launch

/-- The version of the game. -/
def version : String := "0.3.0"

/-- What is shown when the version is asked for. -/
def versionText : String := s!"shellquest {version}\n"

/-- What is shown when help is asked for. -/
def usageText : String := Text.unlines [
  "Learn the command line in a simulated shell",
  "",
  "Usage: shellquest [OPTIONS]",
  "",
  "Options:",
  "  -c, --config <CONFIG>          Configuration file (defaults to the platform config dir)",
  "      --data-dir <DATA_DIR>      Directory for the local save and history",
  "      --remote-dir <REMOTE_DIR>  Directory shared between devices as the cloud backend",
  "      --offline                  Start with the cloud unreachable",
  "  -h, --help                     Print help",
  "  -V, --version                  Print version",
  ""]

/-- What every game begins with. -/
def banner : String := Text.unlines [
  s!"ShellQuest v{version}",
  "Type `help` to begin, /help for meta commands, /quit to exit.",
  "",
  ""]

/-- Shown when the lines have ended. -/
def endOfInput : String := "^D"

/-- Answers lines until they end or the player quits; gives the texts to show.  A
backspace in a line takes away what stands before it. -/
def converse (moment : Moment) (c : Console) : List String → List String × Console
  | [] => ([endOfInput], c)
  | line :: rest =>
    let (shown, c) := c.feed (Text.backspaced line) moment
    if c.hasQuit then (shown.toList, c)
    else
      let (more, c) := converse moment c rest
      (shown.toList ++ more, c)

/-- Texts, each followed by a newline. -/
def printed (texts : List String) : String := String.join (texts.map (· ++ "\n"))

/-- Plays from the opening of the save to the end of the lines. -/
def play (station : Station) (lines : List String) : Ending × Host :=
  let moment : Moment := ⟨0, 0⟩
  match Console.enter station with
  | (.error _, after) => (⟨banner, 1⟩, after.host)
  | (.ok c, _) =>
    let (greeting, c) := c.greet moment
    let (shown, c) := converse moment c lines
    (⟨banner ++ printed (greeting ++ shown), 0⟩, c.close.host)

/-- A whole run. -/
def run (env : Environment) (host : Host) (args : List String) (input : String) : Ending × Host :=
  match Options.read args with
  | .version => (⟨versionText, 0⟩, host)
  | .help => (⟨usageText, 0⟩, host)
  | .misuse => (⟨"", 2⟩, host)
  | .play o =>
    match env.config? host.disk o with
    | some c => play (env.station host c) (Text.lines input)
    | none => (⟨"", 1⟩, host)

theorem run_of_misuse (env : Environment) (host : Host) (args : List String) (input : String)
    (h : Options.read args = .misuse) : run env host args input = (⟨"", 2⟩, host) := by
  simp [run, h]

end Launch

end Questline
