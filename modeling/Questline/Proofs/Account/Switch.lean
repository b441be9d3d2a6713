import Questline.Account.Desk
import Questline.Proofs.Account.Username
import Questline.Proofs.Sync.Link
set_option autoImplicit false

/-!
# Switching accounts

A signup, and a login to the cloud, are cut where the game has been switched and its
snapshot is still to be kept: `enterNew` and `enterCloud` are what comes before.  For
every part it is stated what the game is after it, and that the game is the old one
if it fails.
-/

namespace Questline

open Time (Instant)
open Questline.Action

variable {w : Type} [Depot w]

/-- A new profile bears the name it was created for. -/
theorem Remote.username_of_createProfile (name : String) (d : w) (profile : Profile) (d' : w)
    (h : (createProfile name : Action AccountError w _) d = (.ok profile, d')) :
    profile.username = Username.normalize name := by
  unfold createProfile at h
  obtain ⟨-, _, -, h⟩ := exists_of_bind_eq_ok h
  obtain ⟨known, _, -, h⟩ := exists_of_bind_eq_ok h
  dsimp only at h
  split at h
  · cases h
  · obtain ⟨-, _, -, h⟩ := exists_of_bind_eq_ok h
    obtain ⟨_, _, -, h⟩ := exists_of_bind_eq_ok h
    obtain ⟨-, _, -, h⟩ := exists_of_bind_eq_ok h
    obtain ⟨-, _, -, h⟩ := exists_of_bind_eq_ok h
    cases h
    rfl

namespace Desk

/-! ## The two parts of a switch -/

/-- A signup up to the switch to the game of the new account. -/
def enterNew (raw : String) (now : Instant) : Action AccountError (Desk w) Account := do
  let some name := Username.valid? raw | throw .invalidUsername
  let account ← newAccount name
  if (← get).progress.account.isSome then
    stash
    play (.fresh now)
  play ({ (← get).progress with account := some account }.touch now)
  return account

/-- The snapshot that closes a switch to another account. -/
def keepSnapshot (account : Account) (p : Progress) : Action AccountError (Desk w) Unit :=
  onDepot (ExceptT.adapt .store (Saves.keep account.cacheKey p))

/-- What a signup does once the snapshot is kept: a game in the cloud is pushed. -/
def welcome (account : Account) (p : Progress) : Action AccountError (Desk w) (List String) := do
  match account with
  | .local username =>
    return [s!"Local profile created for {username}. Progress is saved on this device."]
  | .cloud username id =>
    let created := s!"Cloud profile created for {username}."
    match ← attempt (Link.push id (.ofProgress p)) with
    | .ok () => return [created, "Progress synced."]
    | .error e => return [created, pendingLine e]

theorem signup_eq (raw : String) (now : Instant) :
    (signup raw now : Action AccountError (Desk w) _) = (do
      let account ← enterNew raw now
      let p := (← get).progress
      keepSnapshot account p
      welcome account p) := by
  unfold signup enterNew keepSnapshot
  cases Username.valid? raw with
  | none => rfl
  | some name =>
    simp only [bind_assoc]
    congr 1
    funext account
    congr 1
    funext d
    split <;> simp only [bind_assoc, pure_bind] <;> rfl

/-- A login to the cloud up to the game that the device brings: its snapshot of the
account, or the guest's game, or a new one. -/
def arrive (name : String) (now : Instant) : Action AccountError (Desk w) Profile := do
  let some profile ← onDepot (Remote.fetchProfile name) | throw (.profileNotFound name)
  let account := Account.cloud profile.username profile.id
  let guest := (← get).progress.account.isNone
  stash
  match ← onDepot (ExceptT.adapt .store (Saves.cached account.cacheKey)) with
  | some snapshot => play snapshot
  | none => if guest then pure () else play (.fresh now)
  play { (← get).progress with account := some account }
  return profile

/-- What follows in a login to the cloud: the later game is gone on with.  Tells what
is said about it. -/
def meetCloud (profile : Profile) : Action AccountError (Desk w) String := do
  let own := SaveRecord.ofProgress (← get).progress
  match ← attempt (Link.reconcile profile.id (some own)) with
  | .ok (some ⟨record, .cloud⟩) =>
    let p ← onDepot (ExceptT.adapt .store (Saves.ofRecord record))
    play { p with account := some (.cloud profile.username profile.id) }
    return "Loaded newer progress from the cloud."
  | .ok _ => return "Progress synced."
  | .error e => return pendingLine e

/-- A login to the cloud up to the switch to the game that is gone on with. -/
def enterCloud (name : String) (now : Instant) :
    Action AccountError (Desk w) (Account × String) := do
  let profile ← arrive name now
  let line ← meetCloud profile
  return (.cloud profile.username profile.id, line)

/-- A login up to the snapshot that closes it, for the account it is kept under.  A login
on this device and a login of who is signed in already are not closed by one. -/
def enterKnown (raw : String) (now : Instant) : Action AccountError (Desk w) (Option Account) := do
  let some name := Username.valid? raw | throw .invalidUsername
  let d ← get
  if (d.progress.account.map Account.username) = some name then return none
  else if d.identity then return some (← enterCloud name now).1
  else
    let _ ← loginLocal name
    return none

theorem loginCloud_eq (name : String) (now : Instant) :
    (loginCloud name now : Action AccountError (Desk w) _) = (do
      let (account, line) ← enterCloud name now
      let p := (← get).progress
      keepSnapshot account p
      return [s!"Signed in as {account.username} (cloud).", line]) := by
  unfold loginCloud enterCloud arrive meetCloud keepSnapshot
  simp only [bind_assoc]
  congr 1
  funext profile
  cases profile with
  | none => rfl
  | some profile =>
    simp only [bind_assoc, pure_bind]
    congr 1
    funext d
    congr 1
    funext _
    congr 1
    funext snapshot
    -- What is left are two matches of the same kind that may go by different names.
    cases snapshot with
    | some s => simp only [bind_assoc, pure_bind] <;> rfl
    | none =>
      dsimp only
      split
      · simp only [bind_assoc, pure_bind] <;> rfl
      · simp only [bind_assoc, pure_bind] <;> rfl

/-! ## Answers that need no store -/

section

variable {raw name : String} {d : Desk w}

theorem signup_of_invalid (hraw : Username.valid? raw = none) (now : Instant) (d : Desk w) :
    signup raw now d = (.error .invalidUsername, d) := by
  unfold signup
  simp only [hraw]
  rfl

theorem login_of_invalid (hraw : Username.valid? raw = none) (now : Instant) (d : Desk w) :
    login raw now d = (.error .invalidUsername, d) := by
  unfold login
  simp only [hraw]
  rfl

/-- Who is signed in stays. -/
theorem login_of_signedIn (hraw : Username.valid? raw = some name)
    (hin : d.progress.account.map Account.username = some name) (now : Instant) :
    login raw now d = (.ok [s!"Already signed in as {name}."], d) := by
  unfold login
  simp only [hraw]
  rw [bind_eq_of_ok (get_apply d), if_pos hin]
  rfl

/-- A guest cannot log out. -/
theorem logout_of_guest (hguest : d.progress.account = none) (now : Instant) :
    logout now d = (.error .notSignedIn, d) := by
  rw [logout, bind_eq_of_ok (get_apply d), hguest]
  rfl

end

/-! ## What leaves the game alone -/

section

variable {ε α : Type} {p : Progress}

omit [Depot w] in
theorem onDepot_apply (act : Action ε w α) (d : Desk w) :
    onDepot act d = ((act d.link.depot).1,
      { d with link := { d.link with depot := (act d.link.depot).2 } }) := rfl

omit [Depot w] in
/-- Whatever happens in the surroundings, the game stays. -/
theorem meets_onDepot (act : Action ε w α) :
    Meets (fun d : Desk w => d.progress = p) (onDepot act) (fun _ d => d.progress = p)
      (fun d => d.progress = p) := by
  apply meets_of_apply
  intro d hd
  rw [onDepot_apply]
  cases (act d.link.depot).1 <;> exact hd

omit [Depot w] in
/-- What an action on the surroundings answers, with the game staying. -/
theorem meets_onDepot_answer {act : Action ε w α} {Q : α → Prop}
    (h : ∀ s a t, act s = (.ok a, t) → Q a) :
    Meets (fun d : Desk w => d.progress = p) (onDepot act) (fun a d => Q a ∧ d.progress = p)
      (fun d => d.progress = p) := by
  apply meets_of_apply
  intro d hd
  rw [onDepot_apply]
  rcases hact : act d.link.depot with ⟨_ | a, t⟩
  · exact hd
  · exact ⟨h _ a t hact, hd⟩

omit [Depot w] in
theorem meets_play {P : Desk w → Prop} {E : Desk w → Prop} (q : Progress) :
    Meets P (play q : Action ε (Desk w) Unit) (fun _ d => d.progress = q) E :=
  meets_modify fun _ _ => rfl

omit [Depot w] in
/-- A failure that is no failure. -/
theorem attempt_apply (act : Action SyncError (Link w) α) (d : Desk w) :
    (attempt act : Action ε (Desk w) _) d =
      (.ok (act d.link).1, { d with link := (act d.link).2 }) := rfl

theorem meets_stash :
    Meets (fun d : Desk w => d.progress = p) stash (fun _ d => d.progress = p)
      (fun d => d.progress = p) := by
  apply meets_get_bind
  intro d hd
  dsimp only
  split
  · exact (meets_onDepot _).of_eq hd
  · exact meets_pure fun s hs => hs ▸ hd

theorem meets_newAccount {name : String} (hname : Username.isValid name.toList = true) :
    Meets (fun d : Desk w => d.progress = p) (newAccount name)
      (fun account d => account.username = name ∧ d.progress = p) (fun d => d.progress = p) := by
  apply meets_get_bind
  intro d hd
  split
  · have hprofile := Remote.username_of_createProfile (w := w) name
    rw [Username.normalize_eq_self hname] at hprofile
    refine meets_bind ((meets_onDepot_answer hprofile).of_eq hd)
      fun profile => ?_
    exact meets_pure fun _ h => h
  · refine meets_bind ((meets_onDepot _).of_eq hd) fun known => ?_
    split
    · exact meets_bind (meets_throw (Q := fun _ d => d.progress = p) fun _ h => h)
        fun _ => meets_pure fun _ h => ⟨rfl, h⟩
    · exact meets_pure fun _ h => ⟨rfl, h⟩

/-! ## The parts -/

/-- The game with which a signup goes on, for a player with game `p`. -/
def signedUp (p : Progress) (account : Account) (now : Instant) : Progress :=
  { (if p.account.isSome then Progress.fresh now else p) with account := some account }.touch now

/-- Who is signed in begins anew. -/
theorem signedUp_of_isSome (h : p.account.isSome) (account : Account) (now : Instant) :
    signedUp p account now = { Progress.fresh now with account := some account } := by
  unfold signedUp
  rw [if_pos h]
  rfl

/-- Until the switch every failure leaves the game as it was; the switch itself cannot
fail. -/
theorem meets_enterNew (raw : String) (now : Instant) :
    Meets (fun d : Desk w => d.progress = p) (enterNew raw now)
      (fun account d => Username.valid? raw = some account.username ∧
        d.progress = signedUp p account now)
      (fun d => d.progress = p) := by
  unfold enterNew
  cases hv : Username.valid? raw with
  | none => exact meets_throw fun _ h => h
  | some name =>
    refine meets_bind (meets_newAccount (Username.isValid_of_valid? hv)) fun account =>
      meets_get_bind fun d ⟨hname, hd⟩ => ?_
    have hswitch : ∀ q : Progress,
        signedUp p account now = { q with account := some account }.touch now →
        Meets (fun d => d.progress = q)
          (do play ({ (← get).progress with account := some account }.touch now)
              return account : Action AccountError (Desk w) Account)
          (fun account d => some name = some account.username ∧ d.progress = signedUp p account now)
          (fun d => d.progress = p) := by
      intro q hq
      refine meets_get_bind fun d hd => meets_bind (meets_play _) fun _ => meets_pure fun s hs => ?_
      exact ⟨congrArg some hname.symm, by rw [hs, hd, hq]⟩
    split
    · rename_i hsome
      refine meets_bind (meets_stash.of_eq hd) fun _ => ?_
      refine meets_bind (meets_play _) fun _ => hswitch (.fresh now) ?_
      rw [signedUp, if_pos (hd ▸ hsome)]
    · rename_i hnone
      refine (hswitch p ?_).of_eq hd
      rw [signedUp, if_neg (hd ▸ hnone)]

theorem meets_arrive (name : String) (now : Instant) :
    Meets (fun d : Desk w => d.progress = p) (arrive name now)
      (fun profile d => d.progress.account = some (.cloud profile.username profile.id))
      (fun d => d.progress = p) := by
  unfold arrive
  refine meets_bind (meets_onDepot _) fun profile => ?_
  cases profile with
  | none => exact meets_throw fun _ h => h
  | some profile =>
    apply meets_get_bind
    intro d hd
    refine meets_bind (meets_stash.of_eq hd) fun _ => meets_bind (meets_onDepot _) fun snapshot => ?_
    have hswitch : ∀ P : Desk w → Prop, Meets P
        (do play { (← get).progress with account := some (.cloud profile.username profile.id) }
            return profile : Action AccountError (Desk w) Profile)
        (fun profile d => d.progress.account = some (.cloud profile.username profile.id))
        (fun d => d.progress = p) := by
      intro P
      refine meets_get_bind fun d _ => meets_bind (meets_play _) fun _ => meets_pure fun s hs => ?_
      rw [hs]
    cases snapshot with
    | some snapshot => exact meets_bind (meets_play _) fun _ => hswitch _
    | none =>
      dsimp only
      split
      · exact hswitch _
      · exact meets_bind (meets_play _) fun _ => hswitch _

/-- Meeting the cloud never fails: a failed call only shows in what is said, and the
record that won has been read once already. -/
theorem meets_meetCloud (profile : Profile) :
    Meets (fun d : Desk w => d.progress.account = some (.cloud profile.username profile.id))
      (meetCloud profile)
      (fun _ d => d.progress.account = some (.cloud profile.username profile.id))
      (fun _ => False) := by
  apply meets_get_bind
  intro d hd
  apply meets_of_apply
  intro s hs
  subst hs
  rw [bind_apply, attempt_apply]
  rcases h : Link.reconcile profile.id (some (.ofProgress s.progress)) s.link with ⟨_ | m, l⟩
  · exact hd
  rcases m with _ | ⟨record, _ | _⟩
  · exact hd
  · exact hd
  · have hread := Link.isSome_progress?_of_reconcile h (Depot.clock l.depot)
    dsimp only
    rw [bind_apply, onDepot_apply, adapt_apply, Saves.ofRecord_apply]
    rcases hr : record.progress? (Depot.clock l.depot) with _ | q
    · rw [hr] at hread
      cases hread
    · rfl

theorem meets_enterCloud (name : String) (now : Instant) :
    Meets (fun d : Desk w => d.progress = p) (enterCloud name now)
      (fun entered d => d.progress.account = some entered.1) (fun d => d.progress = p) := by
  refine meets_bind (meets_arrive name now) fun profile => ?_
  refine meets_bind ((meets_meetCloud profile).mono (fun _ h => h) (fun _ _ h => h)
    fun _ h => h.elim) fun line => ?_
  exact meets_pure fun _ h => h

/-- A login on this device alone reads and stashes before it switches. -/
theorem meets_loginLocal (name : String) :
    Meets (fun d : Desk w => d.progress = p) (loginLocal name) (fun _ _ => True)
      (fun d => d.progress = p) := by
  refine meets_bind (meets_onDepot _) fun snapshot => ?_
  cases snapshot with
  | none => exact meets_throw fun _ h => h
  | some snapshot =>
    refine meets_bind meets_stash fun _ => meets_bind (meets_play _) fun _ => ?_
    exact meets_pure fun _ _ => trivial

/-- A login on this device goes on with the snapshot as it was read. -/
theorem exists_of_loginLocal_eq_ok {d d' : Desk w} {name : String} {lines : List String}
    (h : loginLocal name d = (.ok lines, d')) : ∃ snapshot depot,
      (Saves.cached (Account.local name).cacheKey : Action StoreError w _) d.link.depot =
        (.ok (some snapshot), depot) ∧
      d'.progress = { snapshot with account := some (.local name) } := by
  obtain ⟨found, d₁, hfound, h⟩ := exists_of_bind_eq_ok h
  rw [onDepot_apply, adapt_apply] at hfound
  rcases hcached : (Saves.cached (Account.local name).cacheKey : Action StoreError w _) d.link.depot
    with ⟨_ | _, depot⟩ <;> rw [hcached] at hfound <;> cases hfound
  cases found with
  | none => cases h
  | some snapshot =>
    obtain ⟨_, d₂, -, h⟩ := exists_of_bind_eq_ok h
    obtain ⟨_, d₃, hplay, h⟩ := exists_of_bind_eq_ok h
    cases hplay
    cases h
    exact ⟨snapshot, depot, rfl, rfl⟩

/-- Without an identity service, whoever is not signed in yet is asked for on this device. -/
theorem login_eq_loginLocal {d : Desk w} {raw name : String} (hraw : Username.valid? raw = some name)
    (hname : d.progress.account.map Account.username ≠ some name) (hd : d.identity = false)
    (now : Instant) : login raw now d = loginLocal name d := by
  unfold login
  simp only [hraw]
  rw [bind_eq_of_ok (get_apply d), if_neg hname, hd]
  rfl

/-- A logout stashes before it switches. -/
theorem meets_logout (now : Instant) :
    Meets (fun d : Desk w => d.progress = p) (logout now) (fun _ d => d.progress = .fresh now)
      (fun d => d.progress = p) := by
  apply meets_get_bind
  intro d hd
  have hstart : ∀ s : Desk w, s = d → s.progress = p := fun s hs => hs ▸ hd
  cases d.progress.account with
  | none => exact meets_throw hstart
  | some account =>
    refine meets_bind (meets_stash.of_eq hd) fun _ => ?_
    exact meets_bind (meets_play _) fun _ => meets_pure fun _ h => h

/-- Once the snapshot is kept, nothing fails and the game stays. -/
theorem meets_welcome (account : Account) (q : Progress) :
    Meets (fun d : Desk w => d.progress = p) (welcome account q) (fun _ d => d.progress = p)
      (fun _ => False) := by
  cases account with
  | «local» username => exact meets_pure fun _ h => h
  | cloud username id =>
    apply meets_of_apply
    intro d hd
    dsimp only [welcome]
    rw [bind_apply, attempt_apply]
    rcases (Link.push id (.ofProgress q)) d.link with ⟨_ | _, l⟩ <;> exact hd

/-- A signup switches once the account has been created. -/
theorem meets_signup (raw : String) (now : Instant) :
    Meets (fun d : Desk w => d.progress = p) (signup raw now)
      (fun _ d => ∃ account, Username.valid? raw = some account.username ∧
        d.progress = signedUp p account now)
      (fun _ => True) := by
  rw [signup_eq]
  refine meets_bind ((meets_enterNew raw now).mono (fun _ h => h) (fun _ _ h => h)
    fun _ _ => trivial) fun account => meets_get_bind fun d ⟨hname, hd⟩ => ?_
  refine meets_bind (((meets_onDepot _).of_eq hd).mono (fun _ h => h) (fun _ _ h => h)
    fun _ _ => trivial) fun _ => ?_
  exact (meets_welcome account d.progress).mono (fun _ h => h) (fun _ _ h => ⟨account, hname, h⟩)
    fun _ h => h.elim

end

end Desk

end Questline
