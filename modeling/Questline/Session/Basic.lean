import Questline.Progress.Return
import Questline.Shell.Completion
import Questline.Shell.Scene
import Questline.Sync.Courier
set_option autoImplicit false

/-!
# Session: one player at one device

A session opens the game that is kept on the device.  Every line that is not
blank is a turn: the line is executed, quests are judged, and the game is
stamped, kept on the device and, for an account in the cloud, handed to the
courier.  Resuming settles with the cloud first and then counts the time away.

A session does not watch its words.  Where a build that does would stop, it goes
on, so that every run of the one is the beginning of a run of the other.
-/

namespace Questline

open Time (Instant Span)

/-- The settings of a session. -/
structure Settings where
  /-- Quests needed in a zone to open the next. -/
  threshold : UInt32
  /-- Quiet time before a push, in milliseconds. -/
  debounce : Nat
  coinsPerHour : UInt32
  /-- Time between hints before upgrades, in milliseconds. -/
  hintCooldown : Nat
  deriving DecidableEq, Repr

/-- The settings the game is played with. -/
def Settings.initial : Settings := ⟨6, 2500, 10, 20000⟩

/-- The time between hints; one that is too long to count with is the usual one. -/
def Settings.hintSpan (c : Settings) : Span :=
  if c.hintCooldown < 0x8000000000000000 then Span.ofMillis (Int.ofNat c.hintCooldown) else Span.ofSeconds 20

/-- Which services of the cloud a session uses. -/
structure Services where
  identity : Bool
  saves : Bool
  deriving DecidableEq, Repr

/-- A session that is open. -/
structure Session (w : Type) where
  settings : Settings
  scene : Scene w
  courier : Courier
  /-- What the player is to be told when the session is resumed. -/
  notices : List String

/-- Why a session could not be opened. -/
inductive OpenError where
  /-- A corrupt save could not be removed. -/
  | clearing (e : StoreError)
  /-- The save could not be read. -/
  | loading (e : StoreError)
  deriving DecidableEq, Repr

namespace OpenError

/-- What was being done. -/
def context : OpenError → String
  | .clearing _ => "clearing corrupt save"
  | .loading _ => "loading saved progress"

/-- What went wrong. -/
def cause : OpenError → StoreError
  | .clearing e => e
  | .loading e => e

end OpenError

/-- What a turn shows. -/
structure Turn where
  outcome : Outcome
  evaluation : Evaluation

namespace Turn

/-- The output and what quests and zones add to it. -/
def lines (t : Turn) : List String := t.outcome.lines ++ t.evaluation.lines

end Turn

namespace Session

variable {w : Type}

/-- Told once after a corrupt save was discarded. -/
def corruptNotice : String := "Saved progress was corrupt and has been reset."

/-- A session with a game. -/
def start (settings : Settings) (services : Services) (depot : w) (p : Progress) : Session w where
  settings := settings
  scene := ⟨.starter, .initial settings.hintSpan, ⟨p, ⟨depot, services.saves, false⟩, services.identity⟩⟩
  courier := .idle settings.debounce
  notices := []

/-- The game being played. -/
def progress (s : Session w) : Progress := s.scene.progress

/-- The link to the cloud. -/
def link (s : Session w) : Link w := s.scene.desk.link

/-- The surroundings. -/
def depot (s : Session w) : w := s.link.depot

/-- The session with another game. -/
def withProgress (s : Session w) (p : Progress) : Session w :=
  { s with scene := s.scene.withProgress p }

/-- The session with another link. -/
def withLink (s : Session w) (l : Link w) : Session w :=
  { s with scene := { s.scene with desk := { s.scene.desk with link := l } } }

/-- The session in other surroundings. -/
def withDepot (s : Session w) (d : w) : Session w := s.withLink { s.link with depot := d }

/-- The cloud lacks something that is on the device. -/
def pendingSync (s : Session w) : Bool := s.link.pending

/-- Carries out an action on the link. -/
def onLink {ε α : Type} (s : Session w) (act : Action ε (Link w) α) : Except ε α × Session w :=
  let (r, l) := act s.link
  (r, s.withLink l)

/-- The notices, which are told only once. -/
def takeNotices (s : Session w) : List String × Session w := (s.notices, { s with notices := [] })

/-- Completes a line. -/
def complete (s : Session w) (input : String) : Completion :=
  (Catalog.ofFileSystem s.scene.fs).complete input

/-- Hands the game of a cloud account to the courier, if saves are kept in the
cloud at all; `moment` is the courier's time. -/
def scheduleAutosave (s : Session w) (moment : Moment) : Session w :=
  match s.progress.account.bind Account.profileId? with
  | some id =>
    if s.link.configured then
      { s.withLink { s.link with pending := true } with
        courier := s.courier.hand moment id (.ofProgress s.progress) }
    else s
  | none => s

variable [Depot w]

/-- Opens a session.  A corrupt save is discarded and the game begins anew. -/
def enter (settings : Settings) (services : Services) (now : Instant) (depot : w) :
    Except OpenError (Session w) × w :=
  match (Saves.load : Action StoreError w _) depot with
  | (.ok (some p), d) => (.ok (start settings services d p), d)
  | (.ok none, d) => (.ok (start settings services d (.fresh now)), d)
  | (.error (.corrupt _ _), d) =>
    match (Saves.clear : Action StoreError w _) d with
    | (.ok (), d) =>
      (.ok { start settings services d (.fresh now) with notices := [corruptNotice] }, d)
    | (.error e, d) => (.error (.clearing e), d)
  | (.error e, d) => (.error (.loading e), d)

/-- Keeps the game on the device; a failure does not stop the game. -/
def persist (s : Session w) : Session w :=
  (s.onLink (Link.onDepot (Saves.save s.progress))).2

/-- What follows every change: it is stamped, kept and handed to the courier. -/
def settle (s : Session w) (now : Instant) (moment : Moment) : Session w :=
  ((s.withProgress (s.progress.touch now)).persist).scheduleAutosave moment

/-- Executes a line. -/
def execute (s : Session w) (line : String) (now : Instant) (moment : Moment) :
    Turn × Session w :=
  let (o, scene) := s.scene.execute s.settings.threshold line now
  let s := { s with scene := scene }
  if Text.isBlankText line.toList then (⟨o, .none⟩, s)
  else
    let (evaluation, p) := s.progress.evaluate s.settings.threshold s.scene.fs now
    (⟨o, evaluation⟩, (s.withProgress p).settle now moment)

/-- Fetches the save of the cloud and goes on with the later one; tells whether
it was the cloud's. -/
def adopt (profileId : String) : Action SyncError (Session w) Bool := fun s =>
  match s.onLink (Link.reconcile profileId (some (.ofProgress s.progress))) with
  | (.error e, s) => (.error e, s)
  | (.ok (some ⟨record, .cloud⟩), s) =>
    match s.onLink (Link.onDepot (Saves.ofRecord record)) with
    | (.ok p, s) => (.ok true, s.withProgress { p with account := s.progress.account })
    | (.error e, s) => (.error (.store e), s)
  | (.ok _, s) => (.ok false, s)

/-- Settles with the cloud; tells what to say about it. -/
def settleWithCloud (s : Session w) : Option String × Session w :=
  match s.progress.account.bind Account.profileId? with
  | none => (none, s)
  | some id =>
    match adopt id s with
    | (.ok true, s) => (some "Loaded newer progress from the cloud.", s)
    | (.ok false, s) => (none, s)
    | (.error e, s) => (some s!"Cloud sync pending: {e.message}", s)

/-- Comes back to the game; tells what to show. -/
def resume (s : Session w) (now : Instant) (moment : Moment) : List String × Session w :=
  let (notices, s) := s.takeNotices
  let (cloudLine, s) := s.settleWithCloud
  let (report, p) := s.progress.accrueOffline now s.settings.coinsPerHour
  let p := p.updateStreak now
  let lines := notices ++ (report.map AwayReport.message).toList
    ++ s!"Daily streak: {p.streak.days} day(s)" :: cloudLine.toList
  (lines, (s.withProgress p).settle now moment)

/-- Sends the game to the cloud if the cloud lacks something; tells whether it
did. -/
def retryPending : Action SyncError (Session w) Bool := fun s =>
  match s.progress.account.bind Account.profileId? with
  | none => (.ok false, s)
  | some id => s.onLink (Link.retry id (.ofProgress s.progress))

/-- Sends what waits for the courier if it is due. -/
def elapse (s : Session w) (time : Nat) : Session w :=
  let (parcel, courier) := s.courier.takeDue time
  { s with courier := courier }.withLink (Parcel.sendAny parcel s.link)

/-- Leaves without keeping the game: what waits for the courier is still sent. -/
def drop (s : Session w) : w := (Parcel.sendAny s.courier.waiting s.link).depot

/-- Ends the session: the game is kept and what waits is sent. -/
def close (s : Session w) : w := s.persist.drop

end Session

end Questline
