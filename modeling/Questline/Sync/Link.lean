import Questline.Sync.Remote
set_option autoImplicit false

/-!
# Sync: the link between a device and the cloud

A device pushes its save to the cloud, or fetches the one that is there and
keeps the later of the two on both sides.  It remembers whether the cloud is
known to lack something: a failed push or fetch says so, a push that arrives
takes it back.
-/

namespace Questline

/-- A device with its way to the cloud. -/
structure Link (w : Type) where
  depot : w
  /-- There is a cloud to keep saves in. -/
  configured : Bool
  /-- The cloud is known to lack something. -/
  pending : Bool

namespace Link

variable {w : Type}

/-- An action on the surroundings, as one on the link. -/
def onDepot {ε α : Type} (act : Action ε w α) : Action ε (Link w) α := fun l =>
  let (r, d) := act l.depot
  (r, { l with depot := d })

/-- Remembers whether the cloud lacks something. -/
def setPending {ε : Type} (b : Bool) : Action ε (Link w) Unit := modify fun l => { l with pending := b }

/-- Refuses to go on without a cloud. -/
def needCloud : Action SyncError (Link w) Unit := do
  if (← get).configured then return () else throw .unavailable

variable [Depot w]

/-- Sends a record to the cloud. -/
def push (profileId : String) (r : SaveRecord) : Action SyncError (Link w) Unit := do
  needCloud
  try
    onDepot (Remote.upsert profileId r)
    setPending false
  catch e =>
    setPending true
    throw e

/-- Fetches the record of the cloud, keeps the later one on the device, and sends
it to the cloud if it was the device's. -/
def reconcile (profileId : String) (own : Option SaveRecord) :
    Action SyncError (Link w) (Option Merged) := do
  needCloud
  let fetched ←
    try onDepot (Remote.fetch profileId)
    catch e =>
      setPending true
      throw e
  match mergeSaves own fetched with
  | none => return none
  | some merged =>
    onDepot (ExceptT.adapt .store (Saves.writeRecord merged.record))
    if merged.source = .device then push profileId merged.record
    return some merged

/-- Sends a record if the cloud lacks something; tells whether it did. -/
def retry (profileId : String) (r : SaveRecord) : Action SyncError (Link w) Bool := do
  if (← get).pending then
    push profileId r
    return true
  else return false

end Link

end Questline
