import Questline.Console.Launch
import Std.Time.DateTime.Timestamp
set_option autoImplicit false

/-!
# The program

Plays the game on the real disk.  Before each line the files that hold saves are
read into a tree, the console answers on that tree, and what it changed there is
written back; the clock and the waits of the courier are real.
-/

namespace Questline

namespace Program

/-- The file at a path of the real disk, if there is one; what is there but cannot be
read counts as a directory. -/
def nodeAt (place : List String) : IO (Option Node) := do
  try return some (.file (← IO.FS.readFile (Path.render place)))
  catch
    | .noFileOrDirectory .. => return none
    | _ => return some (.dir [])

/-- A disk with what is really at these places. -/
def load (disk : Node) (places : List (List String)) : IO Node :=
  places.foldlM (fun disk place => do
    match ← nodeAt place with
    | some n => return Disk.mount n place disk
    | none => return disk) disk

/-- Makes one change on the real disk.  A file is written beside the old one first. -/
def apply (place : List String) (content : Option String) : IO Unit := do
  let path := Path.render place
  match content with
  | some text =>
    IO.FS.createDirAll (Path.render place.dropLast)
    IO.FS.writeFile (path ++ ".tmp") text
    IO.FS.rename (path ++ ".tmp") path
  | none => IO.FS.removeFile path

/-- Writes back what has changed; a change that fails is reported and left. -/
def store (before after : Node) : IO Unit := do
  for (place, content) in Disk.changes before after do
    try apply place content catch e => IO.eprintln s!"Error: {e}"

/-- The time on the clock. -/
def clock : IO Time.Instant := do
  return .ofNanos (← Std.Time.Timestamp.now).toNanosecondsSinceUnixEpoch.val

/-- A number that nobody can guess. -/
def seed : IO Nat := do
  return (← IO.getRandomBytes 16).foldl (fun n b => n * 256 + b.toNat) 0

/-- What is said of saves that are not what they should be. -/
def wording : Wording
  | _, .text text => if (Json.parse? text).isSome then "unexpected data" else "invalid JSON"
  | _, .data _ => "unexpected data"

/-- The files of the device. -/
def deviceFiles (s : Station) : List (List String) :=
  match s.shelf with
  | .folder f => [f.filePlace Saves.stateKey, f.filePlace Saves.accountsKey]
  | .memory _ => []

/-- The saves in the cloud of the profiles that the cloud lists and of one more. -/
def saveFiles (s : Station) (id : Option String) : List (List String) :=
  let ids := match (Remote.profiles : Action StoreError Station _) s with
    | (.ok known, _) => known.entries.map (·.2.id)
    | (.error _, _) => []
  (s.cloud.map fun f => (ids ++ id.toList).map fun i => f.filePlace (Remote.saveKey i)).getD []

/-- The surroundings with a fresh view of the real disk and of the clock. -/
def refresh (s : Station) (id : Option String) : IO Station := do
  let listed := (s.cloud.map fun f => f.filePlace Remote.profilesKey).toList
  let disk ← load (.dir []) (deviceFiles s ++ listed)
  let s := { s with host := { s.host with disk := disk, clock := ← clock } }
  return { s with host.disk := ← load disk (saveFiles s id) }

/-- Lets the console do something on the real disk. -/
def onDisk {α : Type} (c : Console) (act : Console → α × Console) : IO (α × Console) := do
  let station ← refresh c.station (c.session.progress.account.bind Account.profileId?)
  let (result, after) := act (c.withStation station)
  store station.host.disk after.host.disk
  return (result, after)

/-- Answers lines until they end or the player quits. -/
partial def converse (input : IO.FS.Stream) (turn : Nat) (c : Console) : IO Console := do
  if ← input.isTty then
    IO.print "quest> "
    (← IO.getStdout).flush
  match Text.lines (← input.getLine) with
  | [] =>
    IO.println Launch.endOfInput
    return c
  | line :: _ =>
    let moment : Moment := ⟨← IO.monoMsNow, turn⟩
    let (shown, c) ← onDisk c fun c => (c.elapse moment.millis).feed (Text.backspaced line) moment
    if let some text := shown then IO.println text
    if c.hasQuit then return c else converse input (turn + 1) c

/-- Plays with a configuration; tells the status to end with. -/
def play (env : Environment) (config : Config) : IO UInt32 := do
  IO.print Launch.banner
  let station ← refresh (env.station ⟨.dir [], ← clock, ← seed, wording⟩ config) none
  let (result, after) := Console.enter station
  store station.host.disk after.host.disk
  match result with
  | .error e =>
    IO.eprintln s!"Error: {e.context}: {e.cause.message}"
    return 1
  | .ok c =>
    let opened : Moment := ⟨← IO.monoMsNow, 0⟩
    let (lines, c) ← onDisk c fun c => c.greet opened
    for line in lines do IO.println line
    let c ← converse (← IO.getStdin) 1 c
    let (_, _) ← onDisk c fun c => ((), c.withStation c.close)
    return 0

/-- The place that an absolute path names. -/
def absolute (path : String) : List String := Path.resolve [] path.toList

end Program

end Questline

open Questline in
/-- Runs the program; the status is 2 for a wrong command line and 1 for a
configuration or a save that cannot be read. -/
def main (args : List String) : IO UInt32 := do
  match Options.read args with
  | .version =>
    IO.print Launch.versionText
    return 0
  | .help =>
    IO.print Launch.usageText
    return 0
  | .misuse =>
    IO.eprint Launch.usageText
    return 2
  | .play o =>
    let home := Program.absolute ((← IO.getEnv "HOME").getD "/")
    let env : Environment := ⟨home, Program.absolute ((← IO.getEnv "PWD").getD "/")⟩
    match env.config? (← Program.load (.dir []) [env.configFile o]) o with
    | some config => Program.play env config
    | none =>
      IO.eprintln s!"Error: Failed to load config from {Path.render (env.configFile o)}"
      return 1
