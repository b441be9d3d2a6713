import Questline.Session.Basic
import Questline.Store.Station
set_option autoImplicit false

/-!
# Console: lines in, texts out

A console plays a session with one player.  A line that begins with a slash
speaks to the console itself: it quits, shows its help, or cuts and restores the
connection to the cloud.  Every other line that is not blank is a turn of the
game, whose lines are shown as one text.
-/

namespace Questline

/-- What a line that begins with a slash asks of the console. -/
inductive ConsoleRequest where
  | quit
  | help
  | goOffline
  | goOnline
  | unknown (word : String)
  deriving DecidableEq, Repr

/-- The request that a word makes. -/
def ConsoleRequest.ofWord (word : String) : ConsoleRequest :=
  if word ∈ ["/quit", "/q", "/exit"] then .quit
  else if word ∈ ["/help", "/h", "/?"] then .help
  else if word = "/offline" then .goOffline
  else if word = "/online" then .goOnline
  else .unknown word

/-- What a line is to a console. -/
inductive ConsoleLine where
  | request (r : ConsoleRequest)
  | blank
  /-- A turn of the game: the line without the blanks at its ends. -/
  | turn (line : String)
  deriving DecidableEq, Repr

/-- Reads a line.  A request is made by the first word alone. -/
def ConsoleLine.ofText (line : String) : ConsoleLine :=
  match Text.trim line.toList with
  | [] => .blank
  | '/' :: r => .request (.ofWord (.ofList ('/' :: r.takeWhile (!Text.isBlank ·))))
  | cs => .turn (.ofList cs)

/-- A console at which someone plays. -/
structure Console where
  session : Session Station
  /-- The player has asked to leave. -/
  hasQuit : Bool

namespace Console

/-- Clears the screen and moves the cursor to its corner. -/
def clearScreen : String := "\x1b[2J\x1b[H"

/-- The help of the console. -/
def helpText : String := Text.unlines [
  "ShellQuest: learn the command line one quest at a time.",
  "",
  "Game commands:",
  "  help, tutorial, quests, hint    Find out what to do next",
  "  tips, banner                    Pointers and a splash screen",
  "  stats, shop, buy <upgrade-id>   Progress and upgrades",
  "  signup, login, logout, whoami   Accounts",
  "  sync                            Push progress to the cloud",
  "",
  "Meta commands:",
  "  /help, /h, /?     Show this help",
  "  /quit, /q         Save and exit",
  "  /offline          Simulate losing the cloud connection",
  "  /online           Reconnect and retry a pending sync"]

/-- Opens a console.  It uses the cloud for both services if there is one. -/
def enter (station : Station) : Except OpenError Console × Station :=
  let services : Services := ⟨station.cloud.isSome, station.cloud.isSome⟩
  let (result, station) := Session.enter .initial services station.host.clock station
  (result.map fun s => ⟨s, false⟩, station)

/-- A console whose saves are only in memory. -/
def inMemory (host : Host) : Except OpenError Console × Station :=
  enter ⟨host, .memory .empty, none, true⟩

/-- The surroundings. -/
def station (c : Console) : Station := c.session.depot

/-- What the console shares with the others on its host. -/
def host (c : Console) : Host := c.station.host

/-- The console with other surroundings. -/
def withStation (c : Console) (s : Station) : Console := { c with session := c.session.withDepot s }

/-- The console after others have changed what they share. -/
def onHost (c : Console) (h : Host) : Console := c.withStation { c.station with host := h }

/-- The console with the cloud in reach or out of reach. -/
def setOnline (c : Console) (online : Bool) : Console :=
  c.withStation { c.station with online := online }

/-- The console after a wait: what the courier had to send until then is sent. -/
def elapse (c : Console) (millis : Nat) : Console := { c with session := c.session.elapse millis }

/-- What is shown when the player comes back. -/
def greet (c : Console) (moment : Moment) : List String × Console :=
  let (lines, s) := c.session.resume c.host.clock moment
  (lines, { c with session := s })

/-- What a turn shows, if it shows anything. -/
def display (t : Turn) : Option String :=
  let text := (if t.outcome.clear then clearScreen else "") ++ Text.unlines t.lines
  if text.isEmpty then none else some text

/-- Plays a turn. -/
def play (c : Console) (line : String) (moment : Moment) : Option String × Console :=
  let (t, s) := c.session.execute line c.host.clock moment
  (display t, { c with session := s })

/-- Restores the connection to the cloud and sends what the cloud lacks. -/
def reconnect (c : Console) : String × Console :=
  let c := c.setOnline true
  let (result, s) := Session.retryPending c.session
  let message := match result with
    | .ok true => "Reconnected. Pending progress synced."
    | .ok false => "Reconnected."
    | .error e => s!"Reconnected, but sync is still pending: {e.message}"
  (message, { c with session := s })

/-- Does what a request asks. -/
def obey (c : Console) : ConsoleRequest → Option String × Console
  | .quit => (none, { c with hasQuit := true })
  | .help => (some helpText, c)
  | .unknown word => (some s!"Unknown meta command: {word}", c)
  | .goOffline =>
    if c.station.cloud.isNone then (some "No cloud configured.", c)
    else (some "Cloud connection dropped.", c.setOnline false)
  | .goOnline =>
    if c.station.cloud.isNone then (some "No cloud configured.", c)
    else
      let (message, c) := c.reconnect
      (some message, c)

/-- Answers a line. -/
def feed (c : Console) (line : String) (moment : Moment) : Option String × Console :=
  match ConsoleLine.ofText line with
  | .request r => c.obey r
  | .blank => (none, c)
  | .turn text => c.play text moment

/-- What the text before the cursor may be completed to, and from which byte on. -/
def candidates (c : Console) (input : String) : Nat × List String :=
  let (before, _, offers) := (Catalog.ofFileSystem c.session.scene.fs).candidates input
  (Text.bytes before, offers)

/-- Ends the session. -/
def close (c : Console) : Station := c.session.close

theorem feed_of_blank (c : Console) (line : String) (moment : Moment)
    (h : Text.isBlankText line.toList = true) : c.feed line moment = (none, c) := by
  simp [feed, ConsoleLine.ofText, Text.trim_eq_nil_iff.2 h]

end Console

end Questline
