import Questline.Proofs.Account.Arrival
import Questline.Proofs.Account.Custody
import Questline.Proofs.Account.Local
set_option autoImplicit false

/-!
# The game that a login restores

`Desk.restored` reads off the device and the cloud, before anything is done, which game a login
goes on with.  On this device alone it is the snapshot of the account.  In the cloud it is the
game that the player comes with, or the save of the profile if that is later.
-/

namespace Questline

open Time (Instant)
open Questline.Action

/-- The profile that the cloud lists for a name. -/
def Cloud.profile? (c : Cloud) (name : String) : Option Profile := do
  let text ← c.store.entries.get? Remote.profilesKey
  let profiles ← (Json.parse? text).bind (Json.map? Profile.ofJson?)
  profiles.get? name

/-- A profile that is found is one that the cloud lists, and the cloud can be reached and read. -/
theorem Remote.of_fetchProfile_eq_ok {name : String} {profile : Profile} {p p' : Pair}
    (h : (fetchProfile name : Action AccountError Pair _) p = (.ok (some profile), p')) :
    p' = p ∧ p.cloud.online = true ∧ p.cloud.store.failsRead = false ∧
      p.cloud.profile? (Username.normalize name) = some profile := by
  rw [fetchProfile, bind_apply, adapt_reach_pair] at h
  by_cases honline : p.cloud.online = true
  · rw [if_pos honline] at h
    dsimp only at h
    rw [bind_apply, adapt_apply, profiles_apply] at h
    by_cases hreads : p.cloud.store.failsRead = true
    · rw [if_pos hreads] at h
      cases h
    rw [if_neg hreads] at h
    rcases htext : p.cloud.store.entries.get? profilesKey with _ | text
    · rw [htext] at h
      cases h
    rcases hprofiles : (Json.parse? text).bind (Json.map? Profile.ofJson?) with _ | ps
    · simp only [htext, hprofiles] at h
      cases h
    simp only [htext, hprofiles] at h
    obtain ⟨hget, hp⟩ := Prod.mk.inj h
    refine ⟨hp.symm, honline, by simpa using hreads, ?_⟩
    simp only [Cloud.profile?, htext, Option.bind_eq_bind, Option.bind_some, hprofiles]
    exact Except.ok.inj hget
  · rw [if_neg honline] at h
    cases h

/-- A cloud that can be reached and read answers with the save whose game it has. -/
theorem Cloud.Keeps.cases_game? {T : UInt32 → Prop} {K : Place → Progress → Prop}
    (hK : Place.Lasting T K) {p : Pair} (h : p.cloud.Keeps K) (honline : p.cloud.online = true)
    (hreads : p.cloud.store.failsRead = false) (clock : Instant) (id : String) :
    ((Remote.fetch id : Action SyncError Pair _) p = (.ok none, p) ∧
        p.cloud.game? clock id = none) ∨
      ∃ q, q.Storable ∧
        (Remote.fetch id : Action SyncError Pair _) p = (.ok (some (.ofProgress q)), p) ∧
        p.cloud.game? clock id = some q.repair := by
  have hfetch := Remote.fetch_pair id p
  rw [if_neg (by simp [honline]), if_neg (by simp [hreads])] at hfetch
  rcases htext : p.cloud.store.entries.get? (Remote.saveKey id) with _ | text
  · rw [htext] at hfetch
    refine .inl ⟨hfetch, ?_⟩
    rw [Cloud.game?, htext]
    rfl
  · obtain ⟨q, hq, rfl⟩ := h id text htext
    have hstorable := hK.storable hq
    simp only [htext, SaveRecord.ofText?_toText hstorable] at hfetch
    exact .inr ⟨q, hstorable, hfetch, Cloud.game?_of_get? hstorable htext clock⟩

/-- The game of the save that the cloud has for a profile, if it can be asked for it and the save
is later than this game. -/
def Link.later? (l : Link Pair) (id : String) (p : Progress) : Option Progress :=
  if l.configured then
    (l.depot.cloud.game? l.depot.clock id).filter fun saved => p.updatedAt.before saved.updatedAt
  else none

/-- The own record that wins is not one of the cloud. -/
theorem Link.ne_cloud_of_mergeSaves {l l' : Link Pair} {id : String} {own record : SaveRecord}
    {fetched : Option SaveRecord} {p : Pair} {r : Except SyncError (Option Merged)}
    (hf : (Remote.fetch id : Action SyncError Pair _) l.depot = (.ok fetched, p))
    (hm : mergeSaves (some own) fetched = some ⟨own, .device⟩)
    (h : reconcile id (some own) l = (r, l')) : r ≠ .ok (some ⟨record, .cloud⟩) := by
  rintro rfl
  obtain ⟨fetched', p', -, hf', hm', -⟩ := exists_of_reconcile_eq_some h
  rw [hf] at hf'
  cases hf'
  rw [hm] at hm'
  cases hm'

namespace Desk

/-- The game that a login under this name goes on with. -/
def restored (d : Desk Pair) (name : String) (now : Instant) : Progress :=
  if d.identity then
    match d.link.depot.cloud.profile? name with
    | some profile =>
      let own := d.carried (.cloud profile.username profile.id) now
      (d.link.later? profile.id own).getD own
    | none => d.progress
  else (d.snapshots.get? (Account.local name).cacheKey).getD d.progress

variable {d d' : Desk Pair} {name : String} {profile : Profile} {now : Instant}
  {c : Keyed Progress} {lines : List String}

/-! ## On this device -/

/-- A login on this device restores the snapshot of the account. -/
theorem progress_loginLocal (hc : d.link.depot.device.Caches c)
    (hdevice : d.link.depot.device.Reliable) (hlogin : loginLocal name d = (.ok lines, d')) :
    ∃ snapshot, c.get? (Account.local name).cacheKey = some snapshot ∧
      d'.progress = { snapshot with account := some (.local name) } := by
  obtain ⟨snapshot, _, hcached, hgame⟩ := exists_of_loginLocal_eq_ok hlogin
  rw [Saves.cached_of_caches hc, hdevice.reads] at hcached
  obtain ⟨hget, -⟩ := Prod.mk.inj hcached
  exact ⟨snapshot, Except.ok.inj hget, hgame⟩

/-! ## In the cloud -/

/-- Nobody arrives without a profile. -/
theorem exists_of_arrive_eq (harrive : arrive name now d = (.ok profile, d')) :
    ∃ found p, (Remote.fetchProfile name : Action AccountError Pair _) d.link.depot =
      (.ok (some found), p) := by
  obtain ⟨found, d₁, hfound, hrest⟩ := exists_of_bind_eq_ok harrive
  rw [onDepot_apply] at hfound
  cases found with
  | none => cases hrest
  | some found => exact ⟨found, _, Prod.ext (Prod.mk.inj hfound).1 rfl⟩

/-- Where the cloud is met, its save is gone on with if it is later. -/
theorem progress_meetCloud {T : UInt32 → Prop} {K : Place → Progress → Prop}
    (hK : Place.Lasting T K) (profile : Profile) (hcloud : d.link.depot.cloud.Keeps K)
    (honline : d.link.depot.cloud.online = true)
    (hreads : d.link.depot.cloud.store.failsRead = false)
    (hwrites : d.link.depot.device.failsWrite = false)
    (haccount : d.progress.account = some (.cloud profile.username profile.id)) :
    (meetCloud profile d).2.progress =
      { (d.link.later? profile.id d.progress).getD d.progress with
        account := some (.cloud profile.username profile.id) } := by
  rcases hr : Link.reconcile profile.id (some (.ofProgress d.progress)) d.link with ⟨r, l⟩
  have hstays (hlater : d.link.later? profile.id d.progress = none)
      (hown : ∀ record, r ≠ .ok (some ⟨record, .cloud⟩)) :
      (meetCloud profile d).2.progress =
        { (d.link.later? profile.id d.progress).getD d.progress with
          account := some (.cloud profile.username profile.id) } := by
    rw [meetCloud_of_not_cloud hr hown, hlater, Option.getD_none,
      Progress.withAccount_eq_self haccount]
  by_cases hconfigured : d.link.configured = true
  · have hlater : d.link.later? profile.id d.progress =
        (d.link.depot.cloud.game? d.link.depot.clock profile.id).filter
          fun saved => d.progress.updatedAt.before saved.updatedAt := if_pos hconfigured
    rcases hcloud.cases_game? hK honline hreads d.link.depot.clock profile.id with
      ⟨hfetch, hgame⟩ | ⟨q, hq, hfetch, hgame⟩
    · exact hstays (by rw [hlater, hgame]; rfl)
        fun _ => Link.ne_cloud_of_mergeSaves hfetch rfl hr
    rw [hgame, Option.filter_some, Progress.updatedAt_repair] at hlater
    cases hbefore : d.progress.updatedAt.before q.updatedAt with
    | true =>
      have hkeep := Saves.writeRecord_pair (.ofProgress q) d.link.depot
      rw [SaveRecord.progress?_ofProgress hq] at hkeep
      simp only [hwrites, if_false, Bool.false_eq_true] at hkeep
      have hmeet := meetCloud_of_cloud (Link.reconcile_of_cloud hconfigured hfetch
        (mergeSaves_of_before hbefore) rfl hkeep) (SaveRecord.progress?_ofProgress hq _)
      rw [hmeet, hlater, hbefore, if_pos rfl, Option.getD_some]
    | false =>
      rw [hbefore, if_neg Bool.false_ne_true] at hlater
      exact hstays hlater fun _ =>
        Link.ne_cloud_of_mergeSaves hfetch (mergeSaves_of_not_before hbefore) hr
  · refine hstays (if_neg hconfigured) fun record => ?_
    rw [Link.reconcile_apply, if_neg hconfigured] at hr
    cases hr
    nofun

/-- Who is signed in under the name already plays on. -/
theorem login_eq_of_isNamed {raw : String} (hnamed : d.IsNamed (Username.normalize raw))
    (hlogin : login raw now d = (.ok lines, d')) : d' = d := by
  cases hv : Username.valid? raw with
  | none =>
    rw [login_of_invalid hv] at hlogin
    cases hlogin
  | some name =>
    rw [Username.normalize_of_valid? hv] at hnamed
    rw [login_of_isNamed hv hnamed] at hlogin
    cases hlogin
    rfl

/-- Neither the device nor the account decides which game is later. -/
theorem withAccount_later? (d : Desk Pair) (m : Memory) (id : String) (own : Progress)
    (account : Option Account) :
    { ((d.withDevice m).link.later? id { own with account := account }).getD
        { own with account := account } with account := account } =
      { (d.link.later? id own).getD own with account := account } := by
  have hlater : (d.withDevice m).link.later? id { own with account := account } =
      d.link.later? id own := rfl
  rw [hlater]
  cases d.link.later? id own <;> rfl

variable {T : UInt32 → Prop} {K : Place → Progress → Prop} {New : String → Prop}
  {I : Pair → Prop} {b : Bool} {raw : String}

section

variable (hK : Place.Lasting T K) (hI : Pair.Custody New K I)
  (hdevice : ∀ {p}, I p → p.device.Reliable)
include hK hI hdevice

/-- A login to the cloud goes on with the game that is restored. -/
theorem progress_loginCloud (hd : d.Upholds K I b) (hidentity : d.identity = true)
    (hname : Username.normalize name = name) (hlogin : loginCloud name now d = (.ok lines, d')) :
    ∃ account, d'.progress = { d.restored name now with account := some account } := by
  obtain ⟨profile, d₁, line, d₂, harrive, hmeet, -, hprogress, -⟩ :=
    exists_parts_of_loginCloud hlogin
  -- who arrives, and with which game
  obtain ⟨found, p, hfound⟩ := exists_of_arrive_eq harrive
  obtain ⟨rfl, honline, hreads, hlisted⟩ := Remote.of_fetchProfile_eq_ok hfound
  have hcloud : d.link.depot.cloud.Keeps K := hI.cloud hd.depot
  obtain ⟨c, hc, -⟩ := (hI.device hd.depot).snapshots
  obtain ⟨m, hworks, -, harrived⟩ :=
    exists_arrive_eq_ok hc (hdevice hd.depot) (hK.storable hd.game) hfound now
  rw [harrived] at harrive
  obtain ⟨hprofile, rfl⟩ := Prod.mk.inj harrive
  obtain rfl := Except.ok.inj hprofile
  -- what becomes of it in the cloud
  have hmet := progress_meetCloud hK found (d := { d.withDevice m with
    progress := { d.carried (.cloud found.username found.id) now with
      account := some (.cloud found.username found.id) } })
    hcloud honline hreads hworks.writes rfl
  rw [hmeet] at hmet
  refine ⟨.cloud found.username found.id, hprogress.trans (hmet.trans ?_)⟩
  rw [hname] at hlisted
  rw [restored, if_pos hidentity, hlisted]
  dsimp only
  exact withAccount_later? d m found.id (d.carried (.cloud found.username found.id) now) _

/-- A login of who is not signed in under the name goes on with the game that is restored. -/
theorem progress_login (hd : d.Upholds K I b) (hnamed : ¬ d.IsNamed (Username.normalize raw))
    (hlogin : login raw now d = (.ok lines, d')) :
    ∃ account, d'.progress =
      { d.restored (Username.normalize raw) now with account := some account } := by
  cases hv : Username.valid? raw with
  | none =>
    rw [login_of_invalid hv] at hlogin
    cases hlogin
  | some name =>
    have hname : Username.normalize raw = name := Username.normalize_of_valid? hv
    rw [hname] at hnamed ⊢
    cases hidentity : d.identity with
    | true =>
      rw [login_of_not_isNamed hv hidentity hnamed] at hlogin
      refine progress_loginCloud hK hI hdevice hd hidentity ?_ hlogin
      exact Username.normalize_eq_self (Username.isValid_of_valid? hv)
    | false =>
      obtain ⟨c, hc, -⟩ := (hI.device hd.depot).snapshots
      rw [login_eq_loginLocal hv hnamed hidentity] at hlogin
      obtain ⟨snapshot, hsnapshot, hprogress⟩ :=
        progress_loginLocal hc (hdevice hd.depot) hlogin
      refine ⟨.local name, hprogress.trans ?_⟩
      rw [restored, hidentity, if_neg Bool.false_ne_true, snapshots, hc.snapshots_eq, hsnapshot,
        Option.getD_some]

end

end Desk

end Questline
