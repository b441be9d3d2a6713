import Questline.Proofs.Account.Restored
set_option autoImplicit false

/-!
# The account a login ends in

With an identity service a login goes to the profile of the name in the cloud, and without
one to the name on this device.  Only a player who bears the name already is not looked at
again: the save may come from a time when the device was set up the other way.
-/

namespace Questline

open Time (Instant)
open Questline.Action

namespace Desk

/-- The account is the one that the name stands for under the service in force: the cloud
account of the profile that the service has for the name, or without a service the account
of that name on this device. -/
def Home (d : Desk Pair) (name : String) (account : Option Account) : Prop :=
  if d.identity then
    ∃ profile username, d.link.depot.cloud.profile? name = some profile ∧
      account = some (.cloud username profile.id)
  else account = some (.local name)

variable {d d' : Desk Pair} {raw name : String} {now : Instant} {lines : List String}

/-- Whoever arrives from the cloud has asked it for the profile. -/
theorem meets_arrive_profile (hname : Username.normalize name = name) (now : Instant)
    (d : Desk Pair) :
    Meets (· = d) (arrive name now)
      (fun profile _ => d.link.depot.cloud.profile? name = some profile) (fun _ => True) := by
  -- What follows the answer of the cloud does not change what that answer was.
  have hrest : ∀ {α : Type} {R : Prop} (x : Action AccountError (Desk Pair) α),
      Meets (fun _ => R) x (fun _ _ => R) (fun _ => True) :=
    fun _ => ⟨fun hR _ => hR, fun _ _ => trivial⟩
  have hask : Meets (· = d) (onDepot (Remote.fetchProfile name))
      (fun found _ => ∀ profile, found = some profile →
        d.link.depot.cloud.profile? name = some profile) (fun _ => True) := by
    apply meets_of_apply
    rintro d rfl
    rw [onDepot_apply]
    rcases hpair : (Remote.fetchProfile name : Action AccountError Pair _) d.link.depot
      with ⟨_ | found, p'⟩
    · trivial
    · rintro profile rfl
      rw [← hname]
      exact (Remote.of_fetchProfile_eq_ok hpair).2.2.2
  unfold arrive
  refine meets_bind hask fun found => ?_
  cases found with
  | none => exact meets_throw fun _ _ => trivial
  | some profile =>
    refine Meets.of_imp (P := fun _ => d.link.depot.cloud.profile? name = some profile) ?_
      fun _ hfound => hfound profile rfl
    refine meets_bind (hrest get) fun _ => meets_bind (hrest stash) fun _ =>
      meets_bind (hrest _) fun snapshot => ?_
    have hlast : Meets (fun _ : Desk Pair => d.link.depot.cloud.profile? name = some profile)
        (do play { (← get).progress with account := some (.cloud profile.username profile.id) }
            return profile : Action AccountError (Desk Pair) Profile)
        (fun profile _ => d.link.depot.cloud.profile? name = some profile) (fun _ => True) :=
      meets_bind (hrest get) fun _ => meets_bind (hrest _) fun _ => meets_pure fun _ h => h
    cases snapshot with
    | some snapshot => exact meets_bind (hrest _) fun _ => hlast
    | none =>
      dsimp only
      split
      · exact hlast
      · exact meets_bind (hrest _) fun _ => hlast

/-- A login to the cloud ends in the account of the profile. -/
theorem exists_profile_of_loginCloud_eq_ok (hname : Username.normalize name = name)
    (h : loginCloud name now d = (.ok lines, d')) :
    ∃ profile, d.link.depot.cloud.profile? name = some profile ∧
      d'.progress.account = some (.cloud profile.username profile.id) := by
  obtain ⟨profile, d₁, line, d₂, harrive, hmeet, -, hprogress, -⟩ := exists_parts_of_loginCloud h
  have hswitch := (meets_arrive name now).ok rfl harrive
  have hstays := (meets_meetCloud profile).ok hswitch hmeet
  rw [← hprogress] at hstays
  exact ⟨profile, (meets_arrive_profile hname now d).ok rfl harrive, hstays⟩

/-- A login that switches ends at home, in either service. -/
theorem home_of_login_of_not_isNamed (hv : Username.valid? raw = some name)
    (hname : ¬ d.IsNamed name) (h : login raw now d = (.ok lines, d')) :
    d.Home name d'.progress.account := by
  unfold Home
  cases hd : d.identity with
  | true =>
    rw [login_of_not_isNamed hv hd hname] at h
    have hnormal := Username.normalize_eq_self (Username.isValid_of_valid? hv)
    obtain ⟨profile, hprofile, haccount⟩ := exists_profile_of_loginCloud_eq_ok hnormal h
    exact ⟨profile, profile.username, hprofile, haccount⟩
  | false =>
    rw [login_eq_loginLocal hv hname hd] at h
    obtain ⟨snapshot, _, -, hprogress⟩ := exists_of_loginLocal_eq_ok h
    rw [hprogress]
    rfl

/-- A login that succeeds ends in the account that the name stands for under the service in
force, except for a player who bears the name already: that one stays where the save is,
at home or not. -/
theorem home_login_iff (h : login raw now d = (.ok lines, d')) :
    ∃ name, Username.valid? raw = some name ∧
      (d.Home name d'.progress.account ↔ (d.IsNamed name → d.Home name d.progress.account)) := by
  cases hv : Username.valid? raw with
  | none =>
    rw [login_of_invalid hv] at h
    cases h
  | some name =>
    refine ⟨name, rfl, ?_⟩
    by_cases hname : d.IsNamed name
    · rw [login_of_isNamed hv hname] at h
      cases h
      exact ⟨fun hhome _ => hhome, fun hhome => hhome hname⟩
    · have hhome := home_of_login_of_not_isNamed hv hname h
      exact ⟨fun _ hin => absurd hin hname, fun _ => hhome⟩

/-- A save of the local account of a name, opened with a service that has a profile for the
name: the login says that the player is signed in, and the account stays local. -/
theorem not_home_login_of_local_save :
    ∃ (d d' : Desk Pair) (profile : Profile) (lines : List String),
      d.identity = true ∧ d.link.depot.cloud.profile? "hero" = some profile ∧
        login "hero" ⟨5, 0⟩ d = (.ok lines, d') ∧
        d'.progress.account = some (.local "hero") ∧ ¬ d.Home "hero" d'.progress.account := by
  let profile : Profile := ⟨"profile-1", "hero"⟩
  let known : Keyed Profile := Keyed.empty.insert "hero" profile
  let entries : Keyed String := Keyed.empty.insert Remote.profilesKey (Remote.profilesText known)
  let cloud : Cloud := ⟨⟨entries, false, false, false⟩, true, 1, fun _ => ""⟩
  let depot : Pair := ⟨.empty, cloud, ⟨0, 0⟩, .silent⟩
  let game : Progress := { Progress.fresh ⟨1, 0⟩ with account := some (.local "hero") }
  let d : Desk Pair := ⟨game, ⟨depot, true, false⟩, true⟩
  have hvalid : Username.isValid "hero".toList = true := by decide
  have hname : Username.valid? "hero" = some "hero" := Username.valid?_eq_some_self hvalid
  have hin : d.IsNamed "hero" := rfl
  have hprofile : d.link.depot.cloud.profile? "hero" = some profile := by
    have hlists : depot.cloud.Lists known := .inr (Keyed.get?_insert_self ..)
    have hfetch := Remote.fetchProfile_pair rfl rfl hlists "hero"
    rw [Username.normalize_eq_self hvalid, Keyed.get?_insert_self] at hfetch
    have hlisted := (Remote.of_fetchProfile_eq_ok hfetch).2.2.2
    rwa [Username.normalize_eq_self hvalid] at hlisted
  have hlogin : login "hero" ⟨5, 0⟩ d = (.ok ["Already signed in as hero."], d) :=
    login_of_isNamed hname hin
  refine ⟨d, d, profile, _, rfl, hprofile, hlogin, rfl, fun hhome => ?_⟩
  obtain ⟨name, hv, hiff⟩ := home_login_iff hlogin
  obtain rfl : "hero" = name := Option.some.inj (hname.symm.trans hv)
  obtain ⟨_, _, -, haccount⟩ := hiff.1 hhome hin
  cases haccount

end Desk

end Questline
