import Questline.Sync.Link
set_option autoImplicit false

/-!
# Account: signing up, in and out

With an identity service every account is a profile in the cloud, whose saves go
through the link; without one it is a name on this device.  Whoever leaves an
account leaves a snapshot of it behind.
-/

namespace Questline

open Time (Instant)

/-- The game being played, with the link to the cloud. -/
structure Desk (w : Type) where
  progress : Progress
  link : Link w
  /-- There is an identity service in the cloud. -/
  identity : Bool

namespace Desk

variable {w : Type}

/-- An action on the surroundings, as one at the desk. -/
def onDepot {ε α : Type} (act : Action ε w α) : Action ε (Desk w) α := fun d =>
  let (r, l) := Link.onDepot act d.link
  (r, { d with link := l })

/-- What an action on the link results in, at the desk, where its failure is no
failure. -/
def attempt {ε α : Type} (act : Action SyncError (Link w) α) :
    Action ε (Desk w) (Except SyncError α) := fun d =>
  let (r, l) := act d.link
  (.ok r, { d with link := l })

/-- Goes on with another game. -/
def play {ε : Type} (p : Progress) : Action ε (Desk w) Unit := modify fun d => { d with progress := p }

/-- What is said when the cloud lacks something. -/
def pendingLine (e : SyncError) : String :=
  s!"Cloud sync pending: {(AccountError.ofSync e).message}. "
    ++ "Progress is kept locally and will sync later."

/-- Who is signed in, as it is shown. -/
def whoami (p : Progress) : String :=
  match p.account with
  | some a => a.display
  | none => "guest (not signed in)"

variable [Depot w]

/-- Keeps a snapshot of the game under its account, if it has one. -/
def stash : Action AccountError (Desk w) Unit := do
  let p := (← get).progress
  match p.account with
  | some a => onDepot (ExceptT.adapt .store (Saves.keep a.cacheKey p))
  | none => return ()

/-- The account that signing up creates. -/
def newAccount (name : String) : Action AccountError (Desk w) Account := do
  if (← get).identity then
    let profile ← onDepot (Remote.createProfile name)
    return .cloud profile.username profile.id
  else
    let account := Account.local name
    let known ← onDepot (ExceptT.adapt .store (Saves.cached account.cacheKey))
    if known.isSome then throw (.usernameTaken name)
    return account

/-- Starts a new account.  A guest's game goes on in it; a player who is signed in
is stashed and starts afresh. -/
def signup (raw : String) (now : Instant) : Action AccountError (Desk w) (List String) := do
  let some name := Username.valid? raw | throw .invalidUsername
  let account ← newAccount name
  if (← get).progress.account.isSome then
    stash
    play (.fresh now)
  play ({ (← get).progress with account := some account }.touch now)
  let p := (← get).progress
  onDepot (ExceptT.adapt .store (Saves.keep account.cacheKey p))
  match account with
  | .local username =>
    return [s!"Local profile created for {username}. Progress is saved on this device."]
  | .cloud username id =>
    let created := s!"Cloud profile created for {username}."
    match ← attempt (Link.push id (.ofProgress p)) with
    | .ok () => return [created, "Progress synced."]
    | .error e => return [created, pendingLine e]

/-- Signs in on this device alone. -/
def loginLocal (name : String) : Action AccountError (Desk w) (List String) := do
  let account := Account.local name
  match ← onDepot (ExceptT.adapt .store (Saves.cached account.cacheKey)) with
  | none => throw (.profileNotFound name)
  | some snapshot =>
    stash
    play { snapshot with account := some account }
    return [s!"Signed in as {name} (local)."]

/-- Signs in to a profile of the cloud, and keeps the later of the save there and
the snapshot here; without a snapshot a guest brings the game along, and another
player starts afresh. -/
def loginCloud (name : String) (now : Instant) : Action AccountError (Desk w) (List String) := do
  let some profile ← onDepot (Remote.fetchProfile name) | throw (.profileNotFound name)
  let account := Account.cloud profile.username profile.id
  let guest := (← get).progress.account.isNone
  stash
  match ← onDepot (ExceptT.adapt .store (Saves.cached account.cacheKey)) with
  | some snapshot => play snapshot
  | none => if guest then pure () else play (.fresh now)
  play { (← get).progress with account := some account }
  let own := SaveRecord.ofProgress (← get).progress
  let line ← (do
    match ← attempt (Link.reconcile profile.id (some own)) with
    | .ok (some ⟨record, .cloud⟩) =>
      let p ← onDepot (ExceptT.adapt .store (Saves.ofRecord record))
      play { p with account := some account }
      return "Loaded newer progress from the cloud."
    | .ok _ => return "Progress synced."
    | .error e => return pendingLine e)
  let p := (← get).progress
  onDepot (ExceptT.adapt .store (Saves.keep account.cacheKey p))
  return [s!"Signed in as {account.username} (cloud).", line]

/-- Signs in to an account there is. -/
def login (raw : String) (now : Instant) : Action AccountError (Desk w) (List String) := do
  let some name := Username.valid? raw | throw .invalidUsername
  let d ← get
  if (d.progress.account.map Account.username) = some name then
    return [s!"Already signed in as {name}."]
  else if d.identity then loginCloud name now
  else loginLocal name

/-- Stashes the account and goes on as a new guest. -/
def logout (now : Instant) : Action AccountError (Desk w) (List String) := do
  match (← get).progress.account with
  | none => throw .notSignedIn
  | some account =>
    stash
    play (.fresh now)
    return [s!"Signed out of {account.username}. Playing as guest."]

/-- Sends the game of a cloud account to the cloud. -/
def sync : Action AccountError (Desk w) (List String) := do
  let d ← get
  match d.progress.account with
  | none => throw .notSignedIn
  | some (.local _) => return ["Local profile; nothing to sync."]
  | some (.cloud _ id) =>
    if d.link.configured then
      match ← attempt (Link.push id (.ofProgress d.progress)) with
      | .ok () => return ["All changes synced"]
      | .error e => return [pendingLine e]
    else throw .syncUnavailable

end Desk

end Questline
