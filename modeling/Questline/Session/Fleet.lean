import Questline.Session.Basic
import Questline.Store.Memory
set_option autoImplicit false

/-!
# Session: devices that share a cloud

Any number of devices, each with its own store and at most one open session, and
one cloud.  Steps are taken one at a time and by one device each.  The couriers'
time only moves while everyone sleeps; what is due then is sent in the order in
which it falls due.
-/

namespace Questline

open Time (Instant)

/-- A device: its store and the session that is open on it. -/
structure Device where
  store : Memory
  session : Option (Session Pair)

/-- Devices that share a cloud. -/
structure Fleet where
  cloud : Cloud
  devices : List (String × Device)
  moment : Moment
  /-- What the clock on the wall shows. -/
  clock : Instant
  /-- The words of the JSON reader that all devices use. -/
  wording : Wording

namespace Fleet

/-- No devices yet, and an empty cloud. -/
def initial (clock : Instant) (wording : Wording) : Fleet := ⟨.empty, [], ⟨0, 0⟩, clock, wording⟩

/-- A device; one that was never used has an empty store. -/
def device (f : Fleet) (name : String) : Device :=
  (Entries.get? name f.devices).getD ⟨.empty, none⟩

/-- The fleet with another state of a device. -/
def withDevice (f : Fleet) (name : String) (d : Device) : Fleet :=
  { f with devices := Entries.insert name d f.devices }

/-- The surroundings of a session on a device. -/
def surroundings (f : Fleet) (name : String) : Pair :=
  ⟨(f.device name).store, f.cloud, f.clock, f.wording⟩

/-- The session that is open on a device, in its surroundings. -/
def session? (f : Fleet) (name : String) : Option (Session Pair) :=
  (f.device name).session.map fun s => s.withDepot (f.surroundings name)

/-- Takes over what a session did to its surroundings. -/
def absorb (f : Fleet) (name : String) (p : Pair) (session : Option (Session Pair)) : Fleet :=
  { f with cloud := p.cloud }.withDevice name ⟨p.device, session⟩

/-- What a device does in a step. -/
inductive Step where
  /-- Opens a session, on another tree than the usual one if one is given. -/
  | enter (settings : Settings) (services : Services) (tree : Option Node) (now : Instant)
  | run (line : String) (now : Instant)
  | resume (now : Instant)
  | retry
  | notices
  | close
  | drop

/-- What a step shows. -/
inductive Answer where
  | entered (settings : Settings)
  | refused (e : OpenError)
  | turn (t : Turn)
  | lines (ls : List String)
  | retried (r : Except SyncError Bool)
  | closed
  | nothing
  /-- The step needs an open session. -/
  | notOpen

/-- A step of an open session that leaves it open. -/
def stepSession (s : Session Pair) (moment : Moment) : Step → Answer × Session Pair
  | .run line now =>
    let (t, s) := s.execute line now moment
    (.turn t, s)
  | .resume now =>
    let (ls, s) := s.resume now moment
    (.lines ls, s)
  | .retry =>
    let (r, s) := Session.retryPending s
    (.retried r, s)
  | .notices =>
    let (ls, s) := s.takeNotices
    (.lines ls, s)
  | _ => (.nothing, s)

/-- Opens a session on a device.  A session that was open is left behind; what it
still had to send arrives after the new one has been opened. -/
def enter (f : Fleet) (name : String) (settings : Settings) (services : Services)
    (tree : Option Node) (now : Instant) : Answer × Fleet :=
  let (result, p) := Session.enter settings services now (f.surroundings name)
  let p := match (f.device name).session with
    | some old => (old.withDepot p).drop
    | none => p
  match result with
  | .ok s =>
    let s := match tree with
      | some t => { s with scene := { s.scene with fs := .ofTree t } }
      | none => s
    (.entered settings, f.absorb name p (some s))
  | .error e => (.refused e, f.absorb name p none)

/-- What a step of a device does by itself. -/
def act (f : Fleet) (name : String) (st : Step) : Answer × Fleet :=
  match st with
  | .enter settings services tree now => f.enter name settings services tree now
  | .close =>
    match f.session? name with
    | some s => (.closed, f.absorb name s.close none)
    | none => (.nothing, f)
  | .drop =>
    match f.session? name with
    | some s => (.nothing, f.absorb name s.drop none)
    | none => (.nothing, f)
  | st =>
    match f.session? name with
    | some s =>
      let (a, s) := stepSession s f.moment st
      (a, f.absorb name s.depot (some s))
    | none => (.notOpen, f)

/-- The devices on which something is due, in the order in which it is sent. -/
def dueDevices (f : Fleet) : List String :=
  let waiting := f.devices.filterMap fun (name, d) => do
    let parcel ← (← d.session).courier.waiting
    if parcel.due ≤ f.moment.millis then some (name, parcel) else none
  (waiting.mergeSort fun a b => a.2.notAfter b.2).map (·.1)

/-- Sends what is due on a device. -/
def elapse (f : Fleet) (name : String) : Fleet :=
  match f.session? name with
  | some s =>
    let s := s.elapse f.moment.millis
    f.absorb name s.depot (some s)
  | none => f

/-- Sends everything that is due. -/
def deliver (f : Fleet) : Fleet := f.dueDevices.foldl elapse f

/-- One step of a device, after which everything is sent that is due. -/
def step (f : Fleet) (name : String) (st : Step) : Answer × Fleet :=
  let (a, f) := { f with moment := { f.moment with turn := f.moment.turn + 1 } }.act name st
  (a, f.deliver)

/-- Lets time pass. -/
def sleep (f : Fleet) (millis : Nat) : Fleet :=
  { f with moment := { f.moment with millis := f.moment.millis + millis } }.deliver

/-- The cloud goes on or off. -/
def setOnline (f : Fleet) (online : Bool) : Fleet :=
  { f with cloud := { f.cloud with online := online } }

/-- The fleet with another store on a device. -/
def withStore (f : Fleet) (name : String) (m : Memory) : Fleet :=
  f.withDevice name { f.device name with store := m }

/-- The fleet with another store in the cloud. -/
def withCloudStore (f : Fleet) (m : Memory) : Fleet :=
  { f with cloud := { f.cloud with store := m } }

end Fleet

end Questline
