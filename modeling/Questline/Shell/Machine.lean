import Questline.Keyed
import Questline.Decimal.Digits
import Questline.Decimal.Dyadic
import Questline.Shell.Command
import Questline.Shell.Outcome
import Questline.Text.Search
set_option autoImplicit false

/-!
# Shell: the simulated machine

The environment, the processes, the network and the packages that a player can
try commands on.  Nothing of it is real, and the same input always gives the
same output.
-/

namespace Questline

/-- A simulated process. -/
structure Process where
  pid : Int
  name : String
  sleeping : Bool
  deriving DecidableEq, Repr

/-- The simulated machine. -/
structure Machine where
  env : Keyed String
  processes : List Process
  /-- Installed packages in the order of their installation. -/
  packages : List String
  deriving DecidableEq

namespace Machine

/-- The machine of a new session. -/
def initial : Machine where
  env := Keyed.ofList
    [("PATH", "/usr/local/bin:/usr/bin"), ("HOME", "/home/adventurer"), ("SHELL", "/bin/bash")]
  processes :=
    [⟨101, "scheduler", false⟩, ⟨202, "log-watcher", true⟩, ⟨303, "telemetry", false⟩]
  packages := ["core-utils"]

instance : Inhabited Machine := ⟨initial⟩

/-- Lists the environment. -/
def showEnv (m : Machine) : Outcome := .success (m.env.entries.map fun (k, v) => s!"{k}={v}")

/-- Sets a variable: everything after the first `=` is its value. -/
def setEnv (m : Machine) (text : String) : Outcome × Machine :=
  match Text.cutFirst '=' text.toList with
  | none => (.failure "Usage: export KEY=value", m)
  | some (k, v) =>
    let key := String.ofList (Text.trim k)
    let value := String.ofList (Text.trim v)
    if key.isEmpty || value.isEmpty then (.failure "Both key and value are required.", m)
    else
      let verb := if (m.env.get? key).isSome then "updated" else "added"
      (.line s!"Export {verb}: {key}={value}", { m with env := m.env.insert key value })

/-- Lists the processes. -/
def showProcesses (m : Machine) : Outcome :=
  .success ("PID   STATUS    NAME" :: m.processes.map fun p =>
    Text.padEnd 5 (toString p.pid) ++ " "
      ++ Text.padEnd 9 (if p.sleeping then "sleeping" else "running") ++ " " ++ p.name)

/-- Ends a process. -/
def kill (m : Machine) (pid : Option String) : Outcome × Machine :=
  match pid with
  | none => (.failure "Usage: kill <pid>", m)
  | some arg =>
    match Decimal.int64? arg with
    | none => (.failure "PID must be a number.", m)
    | some n =>
      match m.processes.find? fun p => p.pid == n with
      | none => (.failure s!"Process {n} not found.", m)
      | some p =>
        (.line s!"Process {p.name} ({n}) terminated safely.",
          { m with processes := m.processes.eraseP fun p => p.pid == n })

/-- How many packets are sent when nothing else is asked for. -/
def pingDefault : Nat := 4

/-- How many packets are sent at most. -/
def pingMost : Nat := 100

/-- The number of packets and the arguments without the option that gives it. -/
def pingCount (args : List String) : Nat × List String :=
  match args.span (· != "-c") with
  | (before, _ :: raw :: after) =>
    let n := match Decimal.word32? raw with
      | some n => if n = 0 then pingDefault else n
      | none => pingDefault
    (min n pingMost, before ++ after)
  | _ => (pingDefault, args)

/-- A number drawn from the bytes of a host name. -/
def hostSeed (host : String) : UInt64 :=
  host.toUTF8.foldl (fun acc b => acc * 31 + b.toUInt64) 17

/-- Sends packets to a host; the times are made up from its name. -/
def ping (args : List String) : Outcome :=
  let (count, rest) := pingCount args
  let host := rest.headD "localhost"
  let seed := hostSeed host
  let samples := (List.range count).map fun i =>
    let jitter := (seed + UInt64.ofNat ((i + 1) * 7919)) % 1000
    let time := Decimal.fixed 2 (10.0 + jitter.toFloat / 100.0)
    s!"64 bytes from {host}: icmp_seq={i + 1} time={time} ms"
  .success ("PING simulation" :: samples
    ++ [s!"{count} packets transmitted, {count} received, 0% packet loss"])

/-- Fetches an address. -/
def curl (args : List String) : Outcome :=
  let url := (args.find? fun a => Text.startsWith a "http").getD "https://example.quest"
  if args.contains "-I" then
    .success ["HTTP/1.1 200 OK", "Content-Type: text/html; charset=utf-8",
      "X-ShellQuest: simulated", s!"Request-URL: {url}"]
  else
    .success [s!"Simulated response from {url}",
      "\x7b \"status\": \"ok\", \"message\": \"hello from ShellQuest\" \x7d"]

/-- Installs a package. -/
def package (m : Machine) (manager : Manager) (args : List String) : Outcome × Machine :=
  match args with
  | action :: pkg :: _ =>
    if action = "install" || action = "-S" then
      let known := m.packages.contains pkg
      let packages := if known then m.packages else m.packages ++ [pkg]
      let verb := if known then "reinstalled" else "installed"
      (.success [s!"{manager.name} {verb} {pkg}", "Packages: " ++ ", ".intercalate packages],
        { m with packages := packages })
    else (.failure s!"Usage: {manager.name} install <pkg>", m)
  | _ => (.failure s!"Usage: {manager.name} install <pkg>", m)

end Machine

end Questline
