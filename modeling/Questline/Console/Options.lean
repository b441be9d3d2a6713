import Questline.Console.Config
import Questline.Text.Search
set_option autoImplicit false

/-!
# Console: the command line

A console is started with options: a configuration text, two directories, and
whether it starts out of reach of the cloud.  Options are taken from the left; the
first that is wrong, or that asks for the version or for help, decides.  An option
may be given once, and one with a value has a value that is not empty.
-/

namespace Questline

/-- The options a console is started with. -/
structure Options where
  config : Option String
  dataDir : Option String
  remoteDir : Option String
  offline : Bool
  deriving DecidableEq, Repr

/-- What a command line asks for. -/
inductive Invocation where
  | play (options : Options)
  | version
  | help
  /-- The command line is wrong. -/
  | misuse
  deriving DecidableEq, Repr

namespace Options

/-- No option given. -/
def none : Options := ⟨.none, .none, .none, false⟩

/-- An option with a value. -/
inductive Valued where
  | config
  | dataDir
  | remoteDir
  deriving DecidableEq, Repr

/-- What an argument that begins with a dash is. -/
inductive Switch where
  /-- An option with the value attached to it. -/
  | attached (option : Valued) (value : String)
  /-- An option whose value is the next argument. -/
  | awaiting (option : Valued)
  | offline
  | version
  | help
  | unknown
  deriving DecidableEq, Repr

/-- The option of a long name. -/
def valuedOf? (name : List Char) : Option Valued :=
  if name = "config".toList then some .config
  else if name = "data-dir".toList then some .dataDir
  else if name = "remote-dir".toList then some .remoteDir
  else .none

/-- The switch of a long name without an attached value. -/
def longSwitch (name : List Char) : Switch :=
  if name = "offline".toList then .offline
  else if name = "version".toList then .version
  else if name = "help".toList then .help
  else match valuedOf? name with
    | some o => .awaiting o
    | .none => .unknown

/-- The switch that an argument gives, if it is one.  A long name may have its value
after an equals sign, a letter right behind it. -/
def switch? : List Char → Option Switch
  | '-' :: '-' :: [] => .none
  | '-' :: '-' :: r =>
    match Text.cutFirst '=' r with
    | some (name, value) =>
      match valuedOf? name with
      | some o => some (.attached o (.ofList value))
      | .none => some .unknown
    | .none => some (longSwitch r)
  | ['-', 'c'] => some (.awaiting .config)
  | '-' :: 'c' :: '=' :: value => some (.attached .config (.ofList value))
  | '-' :: 'c' :: value => some (.attached .config (.ofList value))
  | '-' :: 'V' :: _ => some .version
  | '-' :: 'h' :: _ => some .help
  | '-' :: _ :: _ => some .unknown
  | _ => .none

/-- The value of an option so far. -/
def get (o : Options) : Valued → Option String
  | .config => o.config
  | .dataDir => o.dataDir
  | .remoteDir => o.remoteDir

/-- Takes an option with its value. -/
def put? (o : Options) (option : Valued) (value : String) : Option Options :=
  if value.isEmpty || (o.get option).isSome then .none
  else match option with
    | .config => some { o with config := some value }
    | .dataDir => some { o with dataDir := some value }
    | .remoteDir => some { o with remoteDir := some value }

/-- What the rest of a command line asks for. -/
def readFrom (o : Options) : List String → Invocation
  | [] => .play o
  | ["--"] => .play o
  | arg :: rest =>
    match switch? arg.toList with
    | some .offline => if o.offline then .misuse else readFrom { o with offline := true } rest
    | some .version => .version
    | some .help => .help
    | some (.attached option value) =>
      match o.put? option value with
      | some o => readFrom o rest
      | .none => .misuse
    | some (.awaiting option) =>
      match rest with
      | [] => .misuse
      | value :: rest =>
        if (switch? value.toList).isSome || value = "--" then .misuse
        else match o.put? option value with
          | some o => readFrom o rest
          | .none => .misuse
    | some .unknown | .none => .misuse

/-- What a command line asks for. -/
def read (args : List String) : Invocation := none.readFrom args

/-- The configuration that options and a configuration text give together: the
options count first, and either can keep the cloud out of reach. -/
def refine (o : Options) (c : Config) : Config where
  dataDir := o.dataDir.or c.dataDir
  remoteDir := o.remoteDir.or c.remoteDir
  offline := c.offline || o.offline
  historySize := c.historySize

theorem read_nil : read [] = .play none := rfl

theorem refine_none (c : Config) : none.refine c = c := by
  cases c
  simp [refine, none]

example : read ["--data-dir=a", "-cb", "--offline"] = .play ⟨some "b", some "a", .none, true⟩ := by
  decide
example : read ["--offline", "--offline"] = .misuse ∧ read ["--data-dir", "--offline"] = .misuse := by
  decide

end Options

end Questline
