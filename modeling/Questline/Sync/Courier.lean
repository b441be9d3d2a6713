import Questline.Sync.Link
set_option autoImplicit false

/-!
# Sync: quiet pushes

A burst of changes becomes one push: each change replaces the record that waits
and starts its time anew, and only a record that has waited for the whole window
is sent.  Ending the courier sends what waits at once.  Where a change comes at the
very moment at which the window has passed, the record counts as sent here; which of
the two is seen first is not settled by the program.
-/

namespace Questline

/-- A moment for couriers: a time in milliseconds, and the number of the step in
which it is met, which tells moments of the same millisecond apart. -/
structure Moment where
  millis : Nat
  turn : Nat
  deriving DecidableEq, Repr

/-- A record that waits to be sent. -/
structure Parcel where
  profileId : String
  record : SaveRecord
  /-- The time, in milliseconds, at which it is sent. -/
  due : Nat
  /-- When it was handed over. -/
  handed : Moment

/-- A courier with the record that waits, if there is one. -/
structure Courier where
  /-- How long a record has to wait, in milliseconds. -/
  window : Nat
  waiting : Option Parcel

namespace Courier

/-- A courier with nothing to send. -/
def idle (window : Nat) : Courier := ⟨window, none⟩

/-- Hands over a record at a time. -/
def hand (c : Courier) (moment : Moment) (profileId : String) (r : SaveRecord) : Courier :=
  { c with waiting := some ⟨profileId, r, moment.millis + c.window, moment⟩ }

/-- The record that is due at a time, and the courier without it. -/
def takeDue (c : Courier) (time : Nat) : Option Parcel × Courier :=
  match c.waiting with
  | some p => if p.due ≤ time then (some p, { c with waiting := none }) else (none, c)
  | none => (none, c)

end Courier

namespace Parcel

/-- `a` is sent no later than `b`: by the time it is due, then by the time it was
handed over. -/
def notAfter (a b : Parcel) : Bool :=
  a.due < b.due || (a.due == b.due && a.handed.turn ≤ b.handed.turn)

variable {w : Type} [Depot w]

/-- Sends a parcel; a failure only shows in what the link remembers. -/
def send (p : Parcel) (l : Link w) : Link w := (Link.push p.profileId p.record l).2

/-- Sends a parcel if there is one. -/
def sendAny (p : Option Parcel) (l : Link w) : Link w :=
  match p with
  | some p => p.send l
  | none => l

end Parcel

/-! ## A link with a courier -/

/-- A link and the courier that is on duty, if one is. -/
structure Post (w : Type) where
  link : Link w
  courier : Option Courier
  /-- The window of every courier that takes up duty. -/
  window : Nat
  moment : Moment

namespace Post

variable {w : Type}

/-- Hands a record to the courier; from now on the cloud is known to lack it. -/
def schedule (p : Post w) (profileId : String) (r : SaveRecord) : Post w :=
  let courier := p.courier.getD (.idle p.window)
  { p with
    link := { p.link with pending := true }
    courier := some (courier.hand p.moment profileId r) }

variable [Depot w]

/-- Ends the courier's duty: what waits is sent. -/
def dismiss (p : Post w) : Post w :=
  { p with link := Parcel.sendAny (p.courier.bind Courier.waiting) p.link, courier := none }

/-- Sends what is due. -/
def deliver (p : Post w) : Post w :=
  match p.courier with
  | some c =>
    let (parcel, c) := c.takeDue p.moment.millis
    { p with link := Parcel.sendAny parcel p.link, courier := some c }
  | none => p

/-- Lets time pass. -/
def sleep (p : Post w) (millis : Nat) : Post w :=
  { p with moment := { p.moment with millis := p.moment.millis + millis } }.deliver

end Post

end Questline
