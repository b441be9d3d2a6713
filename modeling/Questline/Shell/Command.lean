import Questline.Shell.Token
import Questline.Text.Blank
set_option autoImplicit false

/-!
# Shell: commands

What a line asks for.  The first word names the command, the other words are
its arguments, and words beyond those a command takes do not count.  One pipe
into `grep` is understood; every other use of pipes is an unknown command.
-/

namespace Questline

/-- The simulated package managers. -/
inductive Manager where
  | apt
  | pacman
  deriving DecidableEq, Repr

/-- The name a package manager is called by. -/
def Manager.name : Manager → String
  | .apt => "apt"
  | .pacman => "pacman"

/-- A command without a pipe. -/
inductive Command.Simple where
  | empty
  | help
  | clear
  | tutorial
  | tips
  | banner
  | quests
  | stats
  | shop
  | buy (id : Option String)
  | hint
  | pwd
  | ls (path : Option String)
  | cd (path : Option String)
  | cat (path : Option String)
  | touch (path : Option String)
  | mkdir (path : Option String)
  | rm (path : Option String)
  /-- The text after the command word as it was typed. -/
  | echo (text : String)
  | grep (pattern path : Option String)
  | env
  | export (text : String)
  | ps
  | kill (pid : Option String)
  | history
  | ping (args : List String)
  | curl (args : List String)
  | package (manager : Manager) (args : List String)
  | signup (name : Option String)
  | login (name : Option String)
  | logout
  | whoami
  | sync
  | unknown (text : String)
  deriving DecidableEq, Repr

/-- What a line asks for: a command, or a command and the pattern its output is
filtered by. -/
inductive Command where
  | simple (command : Command.Simple)
  | pipeline (left : Command.Simple) (pattern : String)
  deriving DecidableEq, Repr

namespace Command

/-- The command names that help and completion offer. -/
def names : List String :=
  ["help", "tutorial", "tips", "banner", "clear", "quests", "stats", "shop", "buy", "hint", "pwd",
    "ls", "cd", "cat", "touch", "mkdir", "rm", "echo", "grep", "env", "export", "ps", "kill",
    "history", "ping", "curl", "apt", "pacman", "signup", "login", "logout", "whoami", "sync"]

/-- What is left of a text after its first `n` bytes. -/
def afterBytes (n : Nat) : List Char → List Char
  | [] => []
  | c :: r => if n = 0 then c :: r else afterBytes (n - c.utf8Size) r

/-- The first `n` bytes of a text. -/
def firstBytes (n : Nat) : List Char → List Char
  | [] => []
  | c :: r => if n = 0 then [] else c :: firstBytes (n - c.utf8Size) r

/-- The command of tokens without a pipe; `source` is the text their positions
count in. -/
def parseSimple (source : List Char) (tokens : List Token) : Simple :=
  match tokens with
  | [] => .empty
  | first :: rest =>
    match first.kind with
    | .pipe => .unknown (.ofList (Text.trim source))
    | .word name =>
      let args := rest.filterMap Token.word?
      match name with
      | "help" => .help
      | "clear" => .clear
      | "tutorial" => .tutorial
      | "tips" => .tips
      | "banner" => .banner
      | "quests" => .quests
      | "stats" => .stats
      | "shop" => .shop
      | "buy" => .buy args[0]?
      | "hint" => .hint
      | "pwd" => .pwd
      | "ls" => .ls args[0]?
      | "cd" => .cd args[0]?
      | "cat" => .cat args[0]?
      | "touch" => .touch args[0]?
      | "mkdir" => .mkdir args[0]?
      | "rm" => .rm args[0]?
      | "echo" => .echo (.ofList (Text.trim (afterBytes first.stop source)))
      | "grep" => .grep args[0]? args[1]?
      | "env" => .env
      | "export" => .export (" ".intercalate args)
      | "ps" => .ps
      | "kill" => .kill args[0]?
      | "history" => .history
      | "ping" => .ping args
      | "curl" => .curl args
      | "apt" => .package .apt args
      | "pacman" => .package .pacman args
      | "signup" => .signup args[0]?
      | "login" => .login args[0]?
      | "logout" => .logout
      | "whoami" => .whoami
      | "sync" => .sync
      | other => .unknown other

/-- What a line asks for. -/
def parse (line : String) : Command :=
  let cs := Text.trim line.toList
  let tokens := Token.scan 0 cs
  match tokens.span fun t => t.kind != .pipe with
  | (left, []) => .simple (parseSimple cs left)
  | (left, pipe :: right) =>
    match right with
    | ⟨.word "grep", _, _⟩ :: pattern =>
      if pattern.all fun t => t.kind != .pipe then
        .pipeline (parseSimple (firstBytes pipe.start cs) left)
          (" ".intercalate (pattern.filterMap Token.word?))
      else .simple (.unknown (.ofList cs))
    | _ => .simple (.unknown (.ofList cs))

end Command

end Questline
