import Questline.Proofs.Account.Custody
set_option autoImplicit false

/-!
# Account commands that are refused

An account command is refused before it changes anything.  Up to there it only looks: at the
name, at the profiles of the cloud, at the snapshots.  Once something has been changed nothing
fails any more, if the device can be relied on: its snapshots can be read and kept, and what the
cloud lacks is only told.
-/

namespace Questline

open Time (Instant)
open Questline.Action

/-! ## The cloud -/

/-- A profile that is refused leaves the surroundings as they were. -/
theorem Remote.refuses_createProfile (name : String) (p : Pair) :
    Meets (· = p) (createProfile name : Action AccountError Pair _) (fun _ _ => True) (· = p) := by
  refine meets_bind (meets_adapt meets_reach) fun _ => ?_
  refine meets_bind (meets_adapt meets_profiles) fun known => ?_
  have hcreate : Meets (· = p)
      (do
        let profile : Profile := ⟨Depot.nextId (← get), Username.normalize name⟩
        let text := profilesText (known.insert (Username.normalize name) profile)
        ExceptT.adapt .store (Depot.save .cloud profilesKey text)
        modify Depot.spendId
        return profile : Action AccountError Pair Profile)
      (fun _ _ => True) (· = p) := by
    refine meets_get_bind fun s hs => ?_
    subst hs
    have hsave : ∀ text, Meets (· = s)
        (Depot.save .cloud profilesKey text : Action StoreError Pair Unit)
        (fun _ _ => True) (· = s) := by
      intro text
      apply meets_of_apply
      rintro p rfl
      rw [Depot.save_pair]
      by_cases hw : (p.side .cloud).failsWrite = true
      · rw [if_pos hw]
      · rw [if_neg hw]
        trivial
    refine meets_bind (meets_adapt (hsave _)) fun _ => ?_
    exact meets_bind (meets_modify (R := fun _ _ => True) fun _ _ => trivial) fun _ =>
      meets_pure fun _ _ => trivial
  dsimp only
  split
  · exact meets_bind (meets_throw (Q := fun _ => (· = p)) fun _ h => h) fun _ => hcreate
  · exact hcreate

namespace Desk

variable {T : UInt32 → Prop} {K : Place → Progress → Prop} {New : String → Prop}
  {I : Pair → Prop} {b : Bool} {now : Instant} {d : Desk Pair}

/-- What is refused in the surroundings leaves the desk as it was. -/
theorem refuses_onDepot {ε α : Type} {act : Action ε Pair α} {R : α → Pair → Prop}
    (h : Meets (· = d.link.depot) act R (· = d.link.depot)) :
    Meets (· = d) (onDepot act)
      (fun a s => ∃ p, R a p ∧ s = { d with link := { d.link with depot := p } }) (· = d) := by
  apply meets_of_apply
  rintro s rfl
  rw [onDepot_apply]
  rcases hact : act s.link.depot with ⟨e | a, p⟩
  · have hp := h.error rfl hact
    subst hp
    rfl
  · exact ⟨p, h.ok rfl hact, rfl⟩

/-! ## What cannot fail -/

section

variable (hK : Place.Lasting T K) (hI : Pair.Custody New K I)
  (hdevice : ∀ {p}, I p → p.device.Reliable)
include hI hdevice

/-- A device that can be relied on keeps every snapshot. -/
theorem sure_keepSnapshot (account : Account) (q : Progress) :
    Meets (Upholds K I b) (keepSnapshot account q) (fun _ _ => True) (fun _ => False) := by
  apply meets_of_apply
  intro d hd
  obtain ⟨c, hc, -⟩ := (hI.device hd.depot).snapshots
  have hreliable := hdevice hd.depot
  rw [keepSnapshot, onDepot_apply, adapt_apply, Saves.keep_of_caches hc]
  simp [hreliable.reads, hreliable.writes]

/-- And reads them, which changes nothing. -/
theorem sure_cached (key : String) (hd : d.Upholds K I b) :
    Meets (· = d)
      (onDepot (ExceptT.adapt .store (Saves.cached key)) : Action AccountError (Desk Pair) _)
      (fun _ s => s = d) (fun _ => False) := by
  apply meets_of_apply
  rintro s rfl
  obtain ⟨c, hc, -⟩ := (hI.device hd.depot).snapshots
  rw [onDepot_apply, adapt_apply, Saves.cached_of_caches hc, (hdevice hd.depot).reads]
  rfl

/-- The account is refused before anything is changed. -/
theorem refuses_newAccount (name : String) (hd : d.Upholds K I b) :
    Meets (· = d) (newAccount name) (fun _ => Upholds K I b) (· = d) := by
  have hrefuses : Meets (· = d) (newAccount name) (fun _ _ => True) (· = d) := by
    refine meets_get_bind fun s hs => ?_
    subst hs
    split
    · refine meets_bind (refuses_onDepot (Remote.refuses_createProfile name _)) fun _ => ?_
      exact meets_pure fun _ _ => trivial
    · refine meets_bind (sure_cached hI hdevice _ hd).unfailing fun known => ?_
      split
      · exact meets_bind (meets_throw (Q := fun _ _ => True) fun _ h => h) fun _ =>
          meets_pure fun _ _ => trivial
      · exact meets_pure fun _ _ => trivial
  have hupholds := (upholds_newAccount (b := b) hI name).of_eq hd
  exact (hupholds.and hrefuses).mono (fun _ h => h) (fun _ _ h => h.1.2) fun _ h => h.2

include hK

theorem sure_stash :
    Meets (Upholds K I b) stash (fun _ => Upholds K I b) (fun _ => False) := by
  refine meets_get_bind fun d hd => ?_
  dsimp only
  split
  · rename_i account haccount
    have hkeep := (sure_keepSnapshot (b := b) hI hdevice account d.progress).and
      (upholds_keepSnapshot hK hI hd.game haccount)
    exact (hkeep.mono (fun _ h => h) (fun _ _ h => h.2) fun _ h => h.1).of_eq hd
  · exact meets_pure fun s hs => hs ▸ hd

/-! ## Signing up -/

theorem refuses_enterNew (raw : String) (hnow : now.Valid) (hd : d.Upholds K I b) :
    Meets (· = d) (enterNew raw now) (fun _ => Upholds K I b) (· = d) := by
  unfold enterNew
  cases Username.valid? raw with
  | none => exact meets_throw fun _ h => h
  | some name =>
    refine meets_bind (refuses_newAccount hI hdevice name hd) fun account => ?_
    refine meets_get_bind fun s hs => ?_
    have hswitch : Meets (Upholds K I b)
        (do play ({ (← get).progress with account := some account }.touch now)
            return account : Action AccountError (Desk Pair) Account)
        (fun _ => Upholds K I b) (· = d) := by
      refine meets_get_bind fun s hs => ?_
      have hgame := hK.touch (hK.withAccount (some account) hs.game) hnow
      exact meets_bind ((upholds_play hgame).of_eq hs) fun _ => meets_pure fun _ h => h
    split
    · have hstash := (sure_stash (b := b) hK hI hdevice).of_eq hs
      refine meets_bind hstash.unfailing fun _ => ?_
      exact meets_bind (upholds_play (hK.fresh hnow)) fun _ => hswitch
    · exact hswitch.of_eq hs

theorem refuses_signup (raw : String) (hnow : now.Valid) (hd : d.Upholds K I b) :
    Meets (· = d) (signup raw now) (fun _ _ => True) (· = d) := by
  rw [signup_eq]
  refine meets_bind (refuses_enterNew hK hI hdevice raw hnow hd) fun account => ?_
  refine meets_get_bind fun s hs => ?_
  have hkeep := (sure_keepSnapshot (b := b) hI hdevice account s.progress).of_eq hs
  have hwelcome : Meets (fun _ => True) (welcome account s.progress : Action _ (Desk Pair) _)
      (fun _ _ => True) (fun _ => False) :=
    meets_of_eq fun s' _ => ((meets_welcome account s.progress).of_eq rfl).mono (fun _ h => h)
      (fun _ _ _ => trivial) fun _ h => h
  exact meets_bind hkeep.unfailing fun _ => hwelcome.unfailing

/-! ## Logging in and out -/

/-- Who arrives is signed in to the profile; where there is none, nothing has been changed. -/
theorem refuses_arrive (name : String) (hnow : now.Valid) (hd : d.Upholds K I b) :
    Meets (· = d) (arrive name now)
      (fun profile s => s.progress.account = some (.cloud profile.username profile.id) ∧
        Upholds K I b s) (· = d) := by
  have hrefuses : Meets (· = d) (arrive name now) (fun _ _ => True) (· = d) := by
    unfold arrive
    refine meets_bind (refuses_onDepot (Remote.meets_fetchProfile name)) fun profile => ?_
    have hlooks : ∀ s : Desk Pair,
        (∃ p, p = d.link.depot ∧ s = { d with link := { d.link with depot := p } }) → s = d := by
      rintro _ ⟨_, rfl, rfl⟩
      rfl
    cases profile with
    | none => exact meets_throw hlooks
    | some profile =>
      refine meets_get_bind fun s hs => ?_
      obtain rfl := hlooks s hs
      refine meets_bind ((sure_stash hK hI hdevice).of_eq hd).unfailing fun _ => ?_
      have hcached : Meets (Upholds K I b)
          (onDepot (ExceptT.adapt .store
            (Saves.cached (Account.cloud profile.username profile.id).cacheKey)) :
            Action AccountError (Desk Pair) _) (fun _ _ => True) (fun _ => False) :=
        meets_of_eq fun _ h => (sure_cached hI hdevice _ h).mono (fun _ h => h)
          (fun _ _ _ => trivial) fun _ h => h
      have hplay : ∀ q, Meets (fun _ : Desk Pair => True) (play q : Action AccountError _ Unit)
          (fun _ _ => True) (· = s) := fun q => meets_modify fun _ _ => trivial
      have hswitch : Meets (fun _ => True)
          (do play { (← get).progress with account := some (.cloud profile.username profile.id) }
              return profile : Action AccountError (Desk Pair) Profile) (fun _ _ => True) (· = s) :=
        meets_get_bind fun _ _ => meets_bind ((hplay _).of_eq trivial) fun _ =>
          meets_pure fun _ _ => trivial
      refine meets_bind hcached.unfailing fun snapshot => ?_
      cases snapshot with
      | some snapshot => exact meets_bind (hplay snapshot) fun _ => hswitch
      | none =>
        dsimp only
        split
        · exact hswitch
        · exact meets_bind (hplay _) fun _ => hswitch
  have hupholds := (upholds_arrive (b := b) hK hI name hnow).of_eq hd
  exact (hupholds.and hrefuses).mono (fun _ h => h) (fun _ _ h => h.1) fun _ h => h.2

theorem refuses_loginCloud (name : String) (hnow : now.Valid) (hd : d.Upholds K I b) :
    Meets (· = d) (loginCloud name now) (fun _ _ => True) (· = d) := by
  rw [loginCloud_eq]
  have hmeet : ∀ profile : Profile,
      Meets (fun s => s.progress.account = some (.cloud profile.username profile.id) ∧
        Upholds K I b s) (meetCloud profile) (fun _ => Upholds K I b) (fun _ => False) := by
    intro profile
    have hsure := (meets_meetCloud (w := Pair) profile).of_imp
      fun s (hs : s.progress.account = _ ∧ Upholds K I b s) => hs.1
    exact (hsure.and (upholds_meetCloud hK hI profile)).mono (fun _ h => h) (fun _ _ h => h.2.2)
      fun _ h => h.1
  have henter : Meets (· = d) (enterCloud name now) (fun _ => Upholds K I b) (· = d) :=
    meets_bind (refuses_arrive hK hI hdevice name hnow hd) fun profile =>
      meets_bind (hmeet profile).unfailing fun _ => meets_pure fun _ h => h
  refine meets_bind henter fun entered => meets_get_bind fun s hs => ?_
  have hkeep := (sure_keepSnapshot (b := b) hI hdevice entered.1 s.progress).of_eq hs
  exact meets_bind hkeep.unfailing fun _ => meets_pure fun _ _ => trivial

theorem refuses_loginLocal (name : String) (hd : d.Upholds K I b) :
    Meets (· = d) (loginLocal name) (fun _ _ => True) (· = d) := by
  refine meets_bind (sure_cached hI hdevice _ hd).unfailing fun snapshot => ?_
  cases snapshot with
  | none => exact meets_throw fun _ h => h
  | some snapshot =>
    refine meets_bind ((sure_stash hK hI hdevice).of_eq hd).unfailing fun _ => ?_
    exact meets_bind (meets_play _) fun _ => meets_pure fun _ _ => trivial

theorem refuses_login (raw : String) (hnow : now.Valid) (hd : d.Upholds K I b) :
    Meets (· = d) (login raw now) (fun _ _ => True) (· = d) := by
  unfold login
  cases Username.valid? raw with
  | none => exact meets_throw fun _ h => h
  | some name =>
    refine meets_get_bind fun s hs => ?_
    subst hs
    split
    · exact meets_pure fun _ _ => trivial
    · split
      · exact refuses_loginCloud hK hI hdevice name hnow hd
      · exact refuses_loginLocal hK hI hdevice name hd

/-- Whoever is signed in can log out of a device that can be relied on. -/
theorem sure_logout (now : Instant) (hd : d.Upholds K I b) (hin : d.progress.account.isSome) :
    Meets (· = d) (logout now) (fun _ _ => True) (fun _ => False) := by
  refine meets_get_bind fun s hs => ?_
  subst hs
  cases ha : s.progress.account with
  | none =>
    rw [ha] at hin
    cases hin
  | some account =>
    refine meets_bind ((sure_stash hK hI hdevice).of_eq hd) fun _ => ?_
    exact meets_bind (meets_play _) fun _ => meets_pure fun _ _ => trivial

theorem refuses_logout (hd : d.Upholds K I b) :
    Meets (· = d) (logout now) (fun _ _ => True) (· = d) := by
  cases ha : d.progress.account with
  | none =>
    apply meets_of_apply
    rintro s rfl
    rw [logout_of_guest ha]
  | some account => exact (sure_logout hK hI hdevice now hd (by rw [ha]; rfl)).unfailing

end

/-! ## Synchronizing -/

/-- What the cloud does not do is told; only who is signed in nowhere, or has no cloud, is
refused. -/
theorem refuses_sync (d : Desk Pair) : Meets (· = d) sync (fun _ _ => True) (· = d) := by
  refine meets_get_bind fun s hs => ?_
  subst hs
  rcases s.progress.account with _ | _ | ⟨username, id⟩
  · exact meets_throw fun _ h => h
  · exact meets_pure fun _ _ => trivial
  · dsimp only
    split
    · apply meets_of_apply
      rintro s rfl
      rw [bind_apply, attempt_apply]
      rcases Link.push id (.ofProgress s.progress) s.link with ⟨_ | _, l⟩ <;> trivial
    · exact meets_throw fun _ h => h

end Desk

end Questline
