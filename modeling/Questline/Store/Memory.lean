import Questline.Keyed
import Questline.Store.Basic
set_option autoImplicit false

/-!
# Store: in memory

A store that is a plain map.  It can be told to fail on some of the three
operations; an operation that fails changes nothing.
-/

namespace Questline

/-- A store in memory. -/
structure Memory where
  entries : Keyed String
  failsRead : Bool
  failsWrite : Bool
  failsRemove : Bool
  deriving DecidableEq, Inhabited

namespace Memory

/-- The store with nothing in it, which does not fail. -/
def empty : Memory := ⟨.empty, false, false, false⟩

/-- The text under a key. -/
def get (m : Memory) (key : String) : Except Fault (Option String) :=
  if m.failsRead then .error .injected else .ok (m.entries.get? key)

/-- Puts a text under a key. -/
def set (m : Memory) (key text : String) : Except Fault Unit × Memory :=
  if m.failsWrite then (.error .injected, m)
  else (.ok (), { m with entries := m.entries.insert key text })

/-- Takes away what is under a key. -/
def remove (m : Memory) (key : String) : Except Fault Unit × Memory :=
  if m.failsRemove then (.error .injected, m)
  else (.ok (), { m with entries := m.entries.erase key })

end Memory

/-- The cloud: a store, whether it can be reached, and how many profiles have
been created, from which the next one gets its name. -/
structure Cloud where
  store : Memory
  online : Bool
  created : Nat
  naming : Nat → String

namespace Cloud

/-- A cloud with nothing in it, whose profiles are numbered from one. -/
def empty : Cloud := ⟨.empty, true, 0, fun n => s!"profile-{n + 1}"⟩

end Cloud

/-- The surroundings of a session whose stores are in memory. -/
structure Pair where
  device : Memory
  cloud : Cloud
  clock : Time.Instant
  wording : Wording

namespace Pair

/-- The store on one side. -/
def side (p : Pair) : Side → Memory
  | .device => p.device
  | .cloud => p.cloud.store

/-- The surroundings with another store on one side. -/
def withSide (p : Pair) (m : Memory) : Side → Pair
  | .device => { p with device := m }
  | .cloud => { p with cloud := { p.cloud with store := m } }

instance : Depot Pair where
  read s key p := (p.side s).get key
  write s key text p :=
    let (r, m) := (p.side s).set key text
    (r, p.withSide m s)
  remove s key p :=
    let (r, m) := (p.side s).remove key
    (r, p.withSide m s)
  online p := p.cloud.online
  clock p := p.clock
  nextId p := p.cloud.naming p.cloud.created
  spendId p := { p with cloud := { p.cloud with created := p.cloud.created + 1 } }
  wording p := p.wording

end Pair

end Questline
