import Questline.Proofs.Account.Switch
import Questline.Proofs.Sync.Custody
set_option autoImplicit false

/-!
# Account commands and games of a kind

Every account command leaves a game of the kind on the desk and keeps to the condition on the
stores, whether it succeeds or fails.  What makes the difference between the places is whose
game it is: a snapshot is kept, and a save is pushed, only while the account they are for is
signed in, so each part says who is signed in after it.
-/

namespace Questline

open Time (Instant)
open Questline.Action

/-- The profile of the account, if it has one, has a new name. -/
def Account.IsNew (New : String → Prop) (a : Account) : Prop :=
  ∀ id, a.profileId? = some id → New id

/-- The game is of the kind, the condition on the stores holds, and there is a cloud or not. -/
structure Desk.Upholds (K : Place → Progress → Prop) (I : Pair → Prop) (configured : Bool)
    (d : Desk Pair) : Prop where
  game : K .device d.progress
  depot : I d.link.depot
  configured : d.link.configured = configured

namespace Desk

variable {T : UInt32 → Prop} {K : Place → Progress → Prop} {New : String → Prop}
  {I : Pair → Prop} {b : Bool} {now : Instant}

/-! ## The parts -/

/-- What happens in the surroundings leaves the game alone. -/
theorem upholds_onDepot {ε α : Type} {act : Action ε Pair α} {R : α → Prop}
    (h : Meets I act (fun a d => R a ∧ I d) I) :
    Meets (Upholds K I b) (onDepot act) (fun a d => R a ∧ Upholds K I b d) (Upholds K I b) := by
  apply meets_of_apply
  intro d hd
  rw [onDepot_apply]
  rcases hact : act d.link.depot with ⟨e | a, d'⟩
  · exact ⟨hd.game, h.error hd.depot hact, hd.configured⟩
  · have ha := h.ok hd.depot hact
    exact ⟨ha.1, hd.game, ha.2, hd.configured⟩

theorem upholds_play {ε : Type} {p : Progress} (hp : K .device p) {E : Desk Pair → Prop} :
    Meets (Upholds K I b) (play p : Action ε (Desk Pair) Unit) (fun _ => Upholds K I b) E :=
  meets_modify fun _ hd => ⟨hp, hd.depot, hd.configured⟩

section

variable (hK : Place.Lasting T K) (hI : Pair.Custody New K I)

section

include hI

/-- A new account in the cloud is that of a profile with a new name. -/
theorem upholds_newAccount (name : String) :
    Meets (Upholds K I b) (newAccount name)
      (fun account d => account.IsNew New ∧ Upholds K I b d) (Upholds K I b) := by
  apply meets_get_bind
  intro d hd
  split
  · refine meets_bind ((upholds_onDepot (hI.createProfile name)).of_eq hd)
      fun profile => meets_pure fun s hs => ⟨?_, hs.2⟩
    exact fun id hid => Option.some.inj hid ▸ hs.1
  · have hcached := meets_adapt (g := AccountError.store) (hI.cached (Account.local name).cacheKey)
    refine meets_bind (((upholds_onDepot hcached).of_eq hd).mono (fun _ h => h)
      (fun _ _ h => h.2) fun _ h => h) fun known => ?_
    have hnew : ∀ s : Desk Pair, Upholds K I b s →
        (Account.local name).IsNew New ∧ Upholds K I b s := fun s hs => ⟨nofun, hs⟩
    split
    · exact meets_bind (meets_throw (Q := fun _ => Upholds K I b) fun _ h => h)
        fun _ => meets_pure hnew
    · exact meets_pure hnew

end

include hK hI

/-- The snapshot of a game is kept for the account it has. -/
theorem upholds_keepSnapshot {account : Account} {p : Progress} (hp : K .device p)
    (haccount : p.account = some account) :
    Meets (Upholds K I b) (keepSnapshot account p) (fun _ => Upholds K I b) (Upholds K I b) := by
  have hkeep := meets_adapt (g := AccountError.store)
    (hI.keep (hK.storable hp) (hK.snapshot hp haccount))
  have hanswer : Meets (Upholds K I b) (keepSnapshot account p)
      (fun _ d => True ∧ Upholds K I b d) (Upholds K I b) :=
    upholds_onDepot (hkeep.mono (fun _ h => h) (fun _ _ h => ⟨trivial, h⟩) fun _ h => h)
  exact hanswer.mono (fun _ h => h) (fun _ _ h => h.2) fun _ h => h

/-- A snapshot that is read can be played. -/
theorem upholds_cached (account : Account) :
    Meets (Upholds K I b)
      (onDepot (ExceptT.adapt .store (Saves.cached account.cacheKey)) :
        Action AccountError (Desk Pair) _)
      (fun snapshot d => (∀ q, snapshot = some q → K .device q) ∧ Upholds K I b d)
      (Upholds K I b) := by
  have hcached := meets_adapt (g := AccountError.store) (hI.cached account.cacheKey)
  refine (upholds_onDepot hcached).mono (fun _ h => h) (fun snapshot d h => ?_) fun _ h => h
  exact ⟨fun q hq => hK.restore (h.1 q hq), h.2⟩

theorem upholds_stash :
    Meets (Upholds K I b) stash (fun _ => Upholds K I b) (Upholds K I b) := by
  apply meets_get_bind
  intro d hd
  dsimp only
  split
  · rename_i account haccount
    exact (upholds_keepSnapshot hK hI hd.game haccount).of_eq hd
  · exact meets_pure fun s hs => hs ▸ hd

/-! ## Signing up -/

/-- After the switch the new account is signed in. -/
theorem upholds_enterNew (raw : String) (hnow : now.Valid) :
    Meets (Upholds K I b) (enterNew raw now)
      (fun account d => account.IsNew New ∧ d.progress.account = some account ∧ Upholds K I b d)
      (Upholds K I b) := by
  unfold enterNew
  cases Username.valid? raw with
  | none => exact meets_throw fun _ h => h
  | some name =>
    refine meets_bind (upholds_newAccount hI name) fun account => ?_
    refine meets_get_bind fun d ⟨hnew, hd⟩ => ?_
    have hswitch : Meets (Upholds K I b)
        (do play ({ (← get).progress with account := some account }.touch now)
            return account : Action AccountError (Desk Pair) Account)
        (fun account d => account.IsNew New ∧ d.progress.account = some account ∧ Upholds K I b d)
        (Upholds K I b) := by
      refine meets_get_bind fun d hd => ?_
      have hgame := hK.touch (hK.withAccount (some account) hd.game) hnow
      refine meets_bind (Q := fun _ d => d.progress.account = some account ∧ Upholds K I b d)
        (meets_modify fun s hs => ?_) fun _ => meets_pure fun s hs => ⟨hnew, hs⟩
      rw [hs]
      exact ⟨rfl, hgame, hd.depot, hd.configured⟩
    split
    · refine meets_bind ((upholds_stash hK hI).of_eq hd) fun _ => ?_
      exact meets_bind (upholds_play (hK.fresh hnow)) fun _ => hswitch
    · exact hswitch.of_eq hd

/-- The new game is pushed to its new profile. -/
theorem upholds_welcome {account : Account} {p : Progress} (hnew : account.IsNew New)
    (hp : K .device p) (haccount : p.account = some account) :
    Meets (Upholds K I b) (welcome account p) (fun _ => Upholds K I b) (Upholds K I b) := by
  cases account with
  | «local» username => exact meets_pure fun _ h => h
  | cloud username id =>
    have hsave : K (.cloud id) p := hK.save hp (by rw [haccount]; rfl)
    apply meets_of_apply
    intro d hd
    have hpush : I (Link.push id (.ofProgress p) d.link).2.depot :=
      Link.keeps_push hd.depot (hI.put_new hd.depot (hnew id rfl) hsave)
    have hconfigured : (Link.push id (.ofProgress p) d.link).2.configured = b :=
      (Link.configured_push ..).trans hd.configured
    dsimp only [welcome]
    rw [bind_apply, attempt_apply]
    rcases hr : Link.push id (.ofProgress p) d.link with ⟨e | _, l⟩
    · rw [hr] at hpush hconfigured
      exact ⟨hd.game, hpush, hconfigured⟩
    · rw [hr] at hpush hconfigured
      exact ⟨hd.game, hpush, hconfigured⟩

theorem upholds_signup (raw : String) (hnow : now.Valid) :
    Meets (Upholds K I b) (signup raw now) (fun _ => Upholds K I b) (Upholds K I b) := by
  rw [signup_eq]
  refine meets_bind (upholds_enterNew hK hI raw hnow) fun account => ?_
  refine meets_get_bind fun d ⟨hnew, haccount, hd⟩ => ?_
  have hkeep := (upholds_keepSnapshot hK hI hd.game haccount).of_eq hd
  exact meets_bind hkeep fun _ => upholds_welcome hK hI hnew hd.game haccount

/-! ## Logging in and out -/

/-- Whoever arrives is signed in to the profile. -/
theorem upholds_arrive (name : String) (hnow : now.Valid) :
    Meets (Upholds K I b) (arrive name now)
      (fun profile d => d.progress.account = some (.cloud profile.username profile.id) ∧
        Upholds K I b d) (Upholds K I b) := by
  unfold arrive
  have hfetch : Meets I (Remote.fetchProfile name : Action AccountError Pair _)
      (fun _ d => True ∧ I d) I :=
    (Remote.meets_fetchProfile name).mono (fun _ h => h) (fun _ _ h => ⟨trivial, h⟩) fun _ h => h
  refine meets_bind (upholds_onDepot hfetch) fun profile => ?_
  cases profile with
  | none => exact meets_throw fun _ h => h.2
  | some profile =>
    refine meets_get_bind fun d hd => ?_
    refine meets_bind ((upholds_stash hK hI).of_eq hd.2) fun _ => ?_
    refine meets_bind (upholds_cached hK hI (.cloud profile.username profile.id)) fun snapshot => ?_
    have hswitch : Meets (Upholds K I b)
        (do play { (← get).progress with account := some (.cloud profile.username profile.id) }
            return profile : Action AccountError (Desk Pair) Profile)
        (fun profile d => d.progress.account = some (.cloud profile.username profile.id) ∧
          Upholds K I b d) (Upholds K I b) := by
      refine meets_get_bind fun d hd => ?_
      refine meets_bind (Q := fun _ d => d.progress.account =
        some (.cloud profile.username profile.id) ∧ Upholds K I b d) (meets_modify fun s hs => ?_)
        fun _ => meets_pure fun s hs => hs
      rw [hs]
      exact ⟨rfl, hK.withAccount _ hd.game, hd.depot, hd.configured⟩
    cases snapshot with
    | some snapshot =>
      refine meets_of_and fun hsnapshot => ?_
      exact meets_bind (upholds_play (hsnapshot snapshot rfl)) fun _ => hswitch
    | none =>
      dsimp only
      split
      · exact hswitch.of_imp fun _ h => h.2
      · exact meets_bind ((upholds_play (hK.fresh hnow)).of_imp fun _ h => h.2) fun _ => hswitch

/-- The later game is gone on with for the same account. -/
theorem upholds_meetCloud (profile : Profile) :
    Meets (fun d => d.progress.account = some (.cloud profile.username profile.id) ∧
        Upholds K I b d) (meetCloud profile)
      (fun _ d => d.progress.account = some (.cloud profile.username profile.id) ∧
        Upholds K I b d) (Upholds K I b) := by
  refine meets_get_bind fun d ⟨haccount, hd⟩ => ?_
  apply meets_of_apply
  intro s hs
  subst hs
  have hsave : K (.cloud profile.id) s.progress := hK.save hd.game (by rw [haccount]; rfl)
  have hreconcile := hI.reconcile hK hd.depot hsave
  have hconfigured := (Link.configured_reconcile profile.id (some (.ofProgress s.progress))
    s.link).trans hd.configured
  rw [bind_apply, attempt_apply]
  rcases hr : Link.reconcile profile.id (some (.ofProgress s.progress)) s.link with ⟨e | m, l⟩
  · rw [hr] at hreconcile hconfigured
    exact ⟨haccount, hd.game, hreconcile, hconfigured⟩
  rw [hr] at hreconcile hconfigured
  rcases m with _ | ⟨record, _ | _⟩
  · exact ⟨haccount, hd.game, hreconcile, hconfigured⟩
  · exact ⟨haccount, hd.game, hreconcile, hconfigured⟩
  · obtain ⟨q, hq, hrecord⟩ := hI.exists_of_reconcile hK hd.depot hsave hr
    have hread : ∀ clock, record.progress? clock = some q.repair := by
      intro clock
      rw [show record = .ofProgress q from hrecord, SaveRecord.progress?_ofProgress (hK.storable hq)]
    have hgame := hK.withAccount (some (.cloud profile.username profile.id))
      (hK.repair (hK.restore hq))
    dsimp only
    rw [bind_apply, onDepot_apply, adapt_apply, Saves.ofRecord_apply, hread]
    exact ⟨rfl, hgame, hreconcile, hconfigured⟩

theorem upholds_loginCloud (name : String) (hnow : now.Valid) :
    Meets (Upholds K I b) (loginCloud name now) (fun _ => Upholds K I b) (Upholds K I b) := by
  rw [loginCloud_eq]
  have henter : Meets (Upholds K I b) (enterCloud name now)
      (fun entered d => d.progress.account = some entered.1 ∧ Upholds K I b d)
      (Upholds K I b) :=
    meets_bind (upholds_arrive hK hI name hnow) fun profile =>
      meets_bind (upholds_meetCloud hK hI profile) fun _ => meets_pure fun _ h => h
  refine meets_bind henter fun entered => meets_get_bind fun d ⟨haccount, hd⟩ => ?_
  have hkeep := (upholds_keepSnapshot hK hI hd.game haccount).of_eq hd
  exact meets_bind hkeep fun _ => meets_pure fun _ h => h

theorem upholds_loginLocal (name : String) :
    Meets (Upholds K I b) (loginLocal name) (fun _ => Upholds K I b) (Upholds K I b) := by
  refine meets_bind (upholds_cached hK hI (.local name)) fun snapshot => ?_
  cases snapshot with
  | none => exact meets_throw fun _ h => h.2
  | some snapshot =>
    refine meets_of_and fun hsnapshot => meets_bind (upholds_stash hK hI) fun _ => ?_
    exact meets_bind (upholds_play (hK.withAccount _ (hsnapshot snapshot rfl))) fun _ =>
      meets_pure fun _ h => h

theorem upholds_login (raw : String) (hnow : now.Valid) :
    Meets (Upholds K I b) (login raw now) (fun _ => Upholds K I b) (Upholds K I b) := by
  unfold login
  cases Username.valid? raw with
  | none => exact meets_throw fun _ h => h
  | some name =>
    refine meets_get_bind fun d hd => ?_
    split
    · exact meets_pure fun s hs => hs ▸ hd
    · split
      · exact (upholds_loginCloud hK hI name hnow).of_eq hd
      · exact (upholds_loginLocal hK hI name).of_eq hd

theorem upholds_logout (hnow : now.Valid) :
    Meets (Upholds K I b) (logout now) (fun _ => Upholds K I b) (Upholds K I b) := by
  refine meets_get_bind fun d hd => ?_
  cases d.progress.account with
  | none => exact meets_throw fun s hs => hs ▸ hd
  | some account =>
    refine meets_bind ((upholds_stash hK hI).of_eq hd) fun _ => ?_
    exact meets_bind (upholds_play (hK.fresh hnow)) fun _ => meets_pure fun _ h => h

end

/-! ## Synchronizing -/

/-- Synchronizing pushes the game to its profile, if it has one. -/
theorem snd_sync (d : Desk Pair) :
    (sync d).2 = match d.progress.account.bind Account.profileId? with
      | some id => { d with link := (Link.push id (.ofProgress d.progress) d.link).2 }
      | none => d := by
  rw [sync, bind_eq_of_ok (get_apply d)]
  rcases d.progress.account with _ | _ | ⟨username, id⟩
  · rfl
  · rfl
  · dsimp only [Option.bind_some, Account.profileId?]
    by_cases hc : d.link.configured = true
    · rw [if_pos hc, bind_apply, attempt_apply]
      rcases Link.push id (.ofProgress d.progress) d.link with ⟨_ | _, l⟩ <;> rfl
    · rw [if_neg hc, Link.push_apply, if_neg hc]
      rfl

/-- Where every profile can be given any save, synchronizing keeps to the condition as well. -/
theorem Upholds.sync {d : Desk Pair} (h : d.Upholds K I b) (hK : Place.Lasting T K)
    (hI : Pair.Custody New K I) (hnew : ∀ id, New id) : (sync d).2.Upholds K I b := by
  rw [snd_sync]
  split
  · rename_i id hid
    refine ⟨h.game, ?_, (Link.configured_push ..).trans h.configured⟩
    exact Link.keeps_push h.depot (hI.put_new h.depot (hnew id) (hK.save h.game hid))
  · exact h

end Desk

end Questline
