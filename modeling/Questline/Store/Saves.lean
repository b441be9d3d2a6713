import Questline.Sync.Record
set_option autoImplicit false

/-!
# Store: the saves on a device

A device keeps two texts: the game that is being played, and the snapshots of
accounts, by their keys.  Snapshots are taken as they stand, a game is repaired
when it is loaded.
-/

namespace Questline.Saves

open Time (Instant)

/-- The key of the game that is being played. -/
def stateKey : String := "shellquest-state-v1"

/-- The key of the snapshots. -/
def accountsKey : String := "shellquest-accounts-v1"

/-- The text of the snapshots. -/
def cacheText (cache : Keyed Progress) : String :=
  Json.print (.obj (cache.entries.map fun e => (e.1, e.2.toJson .text)))

/-- The snapshots that a text gives. -/
def cacheOfText? (clock : Instant) (text : String) : Option (Keyed Progress) :=
  (Json.parse? text).bind (Json.map? (Progress.ofJson? clock 1))

variable {w : Type} [Depot w]

/-- The game that is kept, if there is one. -/
def load : Action StoreError w (Option Progress) := do
  match ← Depot.load .device stateKey with
  | none => return none
  | some text =>
    match Progress.ofText? (← Depot.now) text with
    | some p => return some p
    | none => Depot.refuse stateKey (.text text)

/-- Keeps a game. -/
def save (p : Progress) : Action StoreError w Unit := Depot.save .device stateKey p.toText

/-- Forgets the game that is kept. -/
def clear : Action StoreError w Unit := Depot.clear .device stateKey

/-- The game that is kept, as a record. -/
def loadRecord : Action StoreError w (Option SaveRecord) := do
  return (← load).map SaveRecord.ofProgress

/-- The game of a record. -/
def ofRecord (r : SaveRecord) : Action StoreError w Progress := do
  match r.progress? (← Depot.now) with
  | some p => return p
  | none => Depot.refuse stateKey (.data r.payload)

/-- Keeps the game of a record. -/
def writeRecord (r : SaveRecord) : Action StoreError w Unit := do
  save (← ofRecord r)

/-- All snapshots. -/
def cache : Action StoreError w (Keyed Progress) := do
  match ← Depot.load .device accountsKey with
  | none => return .empty
  | some text =>
    match cacheOfText? (← Depot.now) text with
    | some c => return c
    | none => Depot.refuse accountsKey (.text text)

/-- The snapshot of an account. -/
def cached (key : String) : Action StoreError w (Option Progress) := do
  return (← cache).get? key

/-- Keeps a snapshot of an account. -/
def keep (key : String) (p : Progress) : Action StoreError w Unit := do
  let c ← cache
  Depot.save .device accountsKey (cacheText (c.insert key p))

end Questline.Saves
