import Questline.Store.Saves
import Questline.Account.Codec
set_option autoImplicit false

/-!
# Sync: the cloud

The cloud keeps one map of profiles, by user name, and one save record for each
profile.  Nothing in it can be read or changed while it cannot be reached.
-/

namespace Questline

/-- Why the cloud did not do what was asked. -/
inductive SyncError where
  /-- No cloud is configured. -/
  | unavailable
  /-- The cloud could not be reached. -/
  | failed (reason : String)
  | store (e : StoreError)
  deriving DecidableEq, Repr

/-- The words in which an error is told. -/
def SyncError.message : SyncError → String
  | .unavailable => "cloud sync is not configured"
  | .failed reason => s!"cloud sync failed: {reason}"
  | .store e => e.message

/-- Why an account command was refused. -/
inductive AccountError where
  | invalidUsername
  | usernameTaken (name : String)
  | profileNotFound (name : String)
  | notSignedIn
  | syncUnavailable
  | syncFailed (reason : String)
  | store (e : StoreError)
  deriving DecidableEq, Repr

namespace AccountError

/-- The words in which an error is told. -/
def message : AccountError → String
  | .invalidUsername =>
    "Invalid username. Use 3-16 lowercase letters, digits or underscores, "
      ++ "starting with a letter."
  | .usernameTaken name => s!"Username {name} is taken"
  | .profileNotFound name => s!"No profile named {name}"
  | .notSignedIn => "Not signed in"
  | .syncUnavailable => "Cloud sync is not configured"
  | .syncFailed reason => s!"Sync failed: {reason}"
  | .store e => e.message

/-- An error of the cloud, seen from an account command. -/
def ofSync : SyncError → AccountError
  | .unavailable => .syncUnavailable
  | .failed reason => .syncFailed reason
  | .store e => .store e

end AccountError

namespace Remote

/-- The key of the map of profiles. -/
def profilesKey : String := "remote-profiles"

/-- The key of the save of a profile. -/
def saveKey (profileId : String) : String := "remote-save-" ++ profileId

/-- The text of the map of profiles. -/
def profilesText (profiles : Keyed Profile) : String :=
  Json.print (.obj (profiles.entries.map fun e => (e.1, e.2.toJson)))

variable {w : Type} [Depot w]

/-- Refuses to go on while the cloud cannot be reached. -/
def reach : Action SyncError w Unit := do
  if Depot.online (← get) then return ()
  else throw (.failed "remote offline")

/-- The map of profiles. -/
def profiles : Action StoreError w (Keyed Profile) := do
  match ← Depot.load .cloud profilesKey with
  | none => return .empty
  | some text =>
    match (Json.parse? text).bind (Json.map? Profile.ofJson?) with
    | some ps => return ps
    | none => Depot.refuse profilesKey (.text text)

/-- Creates a profile for a name that has none. -/
def createProfile (name : String) : Action AccountError w Profile := do
  ExceptT.adapt .ofSync reach
  let username := Username.normalize name
  let known ← ExceptT.adapt .store profiles
  if (known.get? username).isSome then throw (.usernameTaken username)
  let profile : Profile := ⟨Depot.nextId (← get), username⟩
  ExceptT.adapt .store (Depot.save .cloud profilesKey (profilesText (known.insert username profile)))
  modify Depot.spendId
  return profile

/-- The profile of a name. -/
def fetchProfile (name : String) : Action AccountError w (Option Profile) := do
  ExceptT.adapt .ofSync reach
  let known ← ExceptT.adapt .store profiles
  return known.get? (Username.normalize name)

/-- The save of a profile. -/
def fetch (profileId : String) : Action SyncError w (Option SaveRecord) := do
  reach
  match ← ExceptT.adapt .store (Depot.load .cloud (saveKey profileId)) with
  | none => return none
  | some text =>
    match SaveRecord.ofText? text with
    | some r => return some r
    | none => ExceptT.adapt .store (Depot.refuse (saveKey profileId) (.text text))

/-- Puts a save in place of the one a profile has. -/
def upsert (profileId : String) (r : SaveRecord) : Action SyncError w Unit := do
  reach
  ExceptT.adapt .store (Depot.save .cloud (saveKey profileId) r.toText)

end Remote

end Questline
