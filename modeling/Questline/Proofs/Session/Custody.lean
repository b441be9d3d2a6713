import Questline.Proofs.Account.Custody
import Questline.Proofs.Session.Turn
import Questline.Proofs.Sync.Sending
set_option autoImplicit false

/-!
# Sessions and games of a kind

Every step of a session leaves a game of the kind to be played, keeps to the condition on the
stores, and lets only saves of the right kind wait for the courier: a record waits for the
profile that was signed in when it was handed over, whoever is signed in when it is sent.
-/

namespace Questline

open Time (Instant)
open Questline.Action

variable {T : UInt32 → Prop} {K : Place → Progress → Prop} {New : String → Prop}
  {I : Pair → Prop} {b : Bool} {now : Instant}

/-! ## Lines -/

namespace Scene

variable {s : Scene Pair}

section

variable (hK : Place.Lasting T K) (hI : Pair.Custody New K I)
include hK

theorem upholds_buy (h : s.desk.Upholds K I b) (upgrade : String) :
    (s.buy upgrade).2.desk.Upholds K I b := by
  unfold buy
  split
  · rename_i u p hp
    exact ⟨hK.purchase h.game hp, h.depot, h.configured⟩
  · exact h

include hI

/-- Every command keeps to the condition, the one to synchronize if every profile can be given
any save. -/
theorem upholds_dispatch (h : s.desk.Upholds K I b) (hnow : now.Valid) (threshold : UInt32)
    (line : String) {c : Command.Simple} (hsync : c = .sync → ∀ id, New id) :
    (s.dispatch threshold line now c).2.desk.Upholds K I b := by
  rw [desk_dispatch]
  split
  · exact upholds_buy hK h _
  · exact (Desk.upholds_signup hK hI _ hnow).snd h
  · exact (Desk.upholds_login hK hI _ hnow).snd h
  · exact (Desk.upholds_logout hK hI hnow).snd h
  · exact h.sync hK hI (hsync rfl)
  · exact h

/-- Whatever the command sends, it leaves a game of the kind. -/
theorem kind_dispatch (h : s.desk.Upholds K I b) (hnow : now.Valid) (threshold : UInt32)
    (line : String) (c : Command.Simple) :
    K .device (s.dispatch threshold line now c).2.progress := by
  by_cases hc : c = .sync
  · have hgame : (Desk.sync s.desk).2.progress = s.desk.progress := by
      rw [Desk.snd_sync]
      split <;> rfl
    rw [hc, progress, dispatch_sync, desk_onDesk, hgame]
    exact h.game
  · exact (upholds_dispatch hK hI h hnow threshold line fun heq => absurd heq hc).game

theorem kind_execute (h : s.desk.Upholds K I b) (hnow : now.Valid) (threshold : UInt32)
    (line : String) : K .device (s.execute threshold line now).2.progress := by
  cases hline : (Text.trimmed line).isEmpty with
  | true =>
    rw [execute_of_isEmpty s threshold now hline]
    exact h.game
  | false =>
    obtain ⟨o, after, hexecute, -, hafter⟩ := s.exists_execute threshold now hline
    have hgame := kind_dispatch hK hI h hnow threshold (Text.trimmed line)
      (Command.parse (Text.trimmed line)).first
    rw [← hafter] at hgame
    rw [hexecute]
    dsimp only
    rw [progress_withProgress]
    exact hK.logCommand (Text.trimmed line) o.text hgame hnow

theorem upholds_execute (h : s.desk.Upholds K I b) (hnow : now.Valid) (threshold : UInt32)
    {line : String}
    (hsync : (Command.parse (Text.trimmed line)).first = .sync → ∀ id, New id) :
    (s.execute threshold line now).2.desk.Upholds K I b := by
  cases hline : (Text.trimmed line).isEmpty with
  | true =>
    rw [execute_of_isEmpty s threshold now hline]
    exact h
  | false =>
    obtain ⟨o, after, hexecute, -, hafter⟩ := s.exists_execute threshold now hline
    have hdesk := upholds_dispatch hK hI h hnow threshold (Text.trimmed line) hsync
    rw [← hafter] at hdesk
    rw [hexecute]
    exact ⟨hK.logCommand (Text.trimmed line) o.text hdesk.game hnow, hdesk.depot, hdesk.configured⟩

end

end Scene

/-! ## Sessions -/

/-- What is played and what waits for the courier is of the kind, and the quests are judged at
one of the thresholds. -/
structure Session.Contains (T : UInt32 → Prop) (K : Place → Progress → Prop) (s : Session Pair) :
    Prop where
  game : K .device s.progress
  waiting : ∀ p, s.courier.waiting = some p →
    ∃ q, K (.cloud p.profileId) q ∧ p.record = .ofProgress q
  threshold : T s.settings.threshold

/-- What a session carries is of the kind, the condition on the stores holds, and there is a
cloud or not. -/
structure Session.Upholds (T : UInt32 → Prop) (K : Place → Progress → Prop) (I : Pair → Prop)
    (configured : Bool) (s : Session Pair) : Prop extends s.Contains T K where
  depot : I s.depot
  configured : s.link.configured = configured

namespace Session

variable {s : Session Pair} {moment : Moment} {id : String}

/-- The profile of the account that is signed in, if it is one of the cloud. -/
def profileId? (s : Session Pair) : Option String := s.progress.account.bind Account.profileId?

theorem Contains.withLink (h : s.Contains T K) (l : Link Pair) : (s.withLink l).Contains T K :=
  ⟨h.game, h.waiting, h.threshold⟩

theorem Contains.withProgress (h : s.Contains T K) {p : Progress} (hp : K .device p) :
    (s.withProgress p).Contains T K :=
  ⟨hp, h.waiting, h.threshold⟩

theorem Upholds.withLink (h : s.Upholds T K I b) {l : Link Pair} (hl : I l.depot)
    (hb : l.configured = b) : (s.withLink l).Upholds T K I b :=
  ⟨h.toContains.withLink l, hl, hb⟩

/-! ### Settling and turns -/

/-- What is handed to the courier is the save of the profile that is signed in. -/
theorem contains_settle (hK : Place.Lasting T K) (h : s.Contains T K) (hnow : now.Valid) :
    (s.settle now moment).Contains T K := by
  have hgame : K .device (s.progress.touch now) := hK.touch h.game hnow
  refine ⟨?_, ?_, ?_⟩
  · rw [progress_settle]
    exact hgame
  · unfold settle scheduleAutosave
    split
    · rename_i id hid
      split
      · intro p hp
        cases hp
        exact ⟨_, hK.save hgame hid, rfl⟩
      · exact h.waiting
    · exact h.waiting
  · unfold settle scheduleAutosave
    split
    · split
      · exact h.threshold
      · exact h.threshold
    · exact h.threshold

theorem upholds_settle (hK : Place.Lasting T K) (hI : Pair.Custody New K I)
    (h : s.Upholds T K I b) (hnow : now.Valid) : (s.settle now moment).Upholds T K I b := by
  refine ⟨contains_settle hK h.toContains hnow, ?_, (configured_settle ..).trans h.configured⟩
  rw [depot_settle]
  exact (hI.save (hK.touch h.game hnow)).snd h.depot

-- What the line leaves is named before anything is compared with it.

/-- A turn leaves what is of the kind, whatever its command sends. -/
theorem contains_execute (hK : Place.Lasting T K) (hI : Pair.Custody New K I)
    (h : s.Upholds T K I b) (hnow : now.Valid) (line : String) :
    (s.execute line now moment).2.Contains T K := by
  have hgame := Scene.kind_execute (s := s.scene) hK hI ⟨h.game, h.depot, h.configured⟩ hnow
    s.settings.threshold line
  cases hb : Text.isBlankText line.toList with
  | true =>
    rw [execute_snd_of_blank s now moment hb]
    generalize (s.scene.execute s.settings.threshold line now).2 = scene at hgame ⊢
    exact ⟨hgame, h.waiting, h.threshold⟩
  | false =>
    rw [execute_snd s now moment hb]
    generalize (s.scene.execute s.settings.threshold line now).2 = scene at hgame ⊢
    have hp := hK.evaluate scene.fs hgame h.threshold hnow
    generalize (scene.progress.evaluate s.settings.threshold scene.fs now).2 = p at hp ⊢
    exact contains_settle hK ⟨hp, h.waiting, h.threshold⟩ hnow

/-- A line that is not blank ends with settling what it leaves. -/
theorem exists_settle_of_execute (hK : Place.Lasting T K) (hI : Pair.Custody New K I)
    (h : s.Upholds T K I b) (hnow : now.Valid) {line : String}
    (hsync : (Command.parse (Text.trimmed line)).first = .sync → ∀ id, New id)
    (hblank : Text.isBlankText line.toList = false) (moment : Moment) :
    ∃ s' : Session Pair, (s.execute line now moment).2 = s'.settle now moment ∧
      s'.Upholds T K I b := by
  have hdesk := Scene.upholds_execute (s := s.scene) hK hI ⟨h.game, h.depot, h.configured⟩ hnow
    s.settings.threshold hsync
  rw [execute_snd s now moment hblank]
  generalize (s.scene.execute s.settings.threshold line now).2 = scene at hdesk ⊢
  have hp := hK.evaluate scene.fs (p := scene.progress) hdesk.game h.threshold hnow
  generalize (scene.progress.evaluate s.settings.threshold scene.fs now).2 = p at hp ⊢
  exact ⟨_, rfl, ⟨hp, h.waiting, h.threshold⟩, hdesk.depot, hdesk.configured⟩

/-- A turn keeps to the condition on the stores, unless it synchronizes where not every profile
can be given any save. -/
theorem upholds_execute (hK : Place.Lasting T K) (hI : Pair.Custody New K I)
    (h : s.Upholds T K I b) (hnow : now.Valid) {line : String}
    (hsync : (Command.parse (Text.trimmed line)).first = .sync → ∀ id, New id) :
    (s.execute line now moment).2.Upholds T K I b := by
  cases hb : Text.isBlankText line.toList with
  | true =>
    have hdesk := Scene.upholds_execute (s := s.scene) hK hI ⟨h.game, h.depot, h.configured⟩ hnow
      s.settings.threshold hsync
    rw [execute_snd_of_blank s now moment hb]
    generalize (s.scene.execute s.settings.threshold line now).2 = scene at hdesk ⊢
    exact ⟨⟨hdesk.game, h.waiting, h.threshold⟩, hdesk.depot, hdesk.configured⟩
  | false =>
    obtain ⟨s', hs', hupholds⟩ := exists_settle_of_execute hK hI h hnow hsync hb moment
    rw [hs']
    exact upholds_settle hK hI hupholds hnow

/-! ### Coming back -/

/-- Going on with the later save of the profile that is signed in. -/
theorem upholds_adopt (hK : Place.Lasting T K) (hI : Pair.Custody New K I)
    (h : s.Upholds T K I b) (hid : s.profileId? = some id) :
    (adopt id s).2.Upholds T K I b := by
  have hsave : K (.cloud id) s.progress := hK.save h.game hid
  have hreconcile := hI.reconcile (l := s.link) hK h.depot hsave
  have hconfigured := (Link.configured_reconcile id (some (.ofProgress s.progress)) s.link).trans
    h.configured
  unfold adopt onLink
  rcases hr : Link.reconcile id (some (.ofProgress s.progress)) s.link with ⟨e | m, l⟩
  · rw [hr] at hreconcile hconfigured
    exact h.withLink hreconcile hconfigured
  rw [hr] at hreconcile hconfigured
  rcases m with _ | ⟨record, _ | _⟩
  · exact h.withLink hreconcile hconfigured
  · exact h.withLink hreconcile hconfigured
  · obtain ⟨q, hq, hrecord⟩ := hI.exists_of_reconcile (l := s.link) hK h.depot hsave hr
    have hread : ∀ clock, record.progress? clock = some q.repair := by
      intro clock
      rw [show record = .ofProgress q from hrecord, SaveRecord.progress?_ofProgress (hK.storable hq)]
    have hrepair := hK.repair (hK.restore hq)
    generalize q.repair = p at hread hrepair
    dsimp only
    rw [Link.onDepot_apply, Saves.ofRecord_apply, hread]
    exact ⟨(h.toContains.withLink l).withProgress (hK.withAccount _ hrepair), hreconcile, hconfigured⟩

theorem upholds_settleWithCloud (hK : Place.Lasting T K) (hI : Pair.Custody New K I)
    (h : s.Upholds T K I b) : s.settleWithCloud.2.Upholds T K I b := by
  unfold settleWithCloud
  split
  · exact h
  · rename_i id hid
    have hadopt := upholds_adopt hK hI h hid
    rcases hr : adopt id s with ⟨_ | _ | _, s'⟩ <;> rw [hr] at hadopt <;> exact hadopt

/-- Coming back ends with settling what is left then. -/
theorem exists_settle_of_resume (hK : Place.Lasting T K) (hI : Pair.Custody New K I)
    (h : s.Upholds T K I b) (hnow : now.Valid) (moment : Moment) :
    ∃ s' : Session Pair, (s.resume now moment).2 = s'.settle now moment ∧
      s'.Upholds T K I b := by
  have hcloud := upholds_settleWithCloud (s := s.takeNotices.2) hK hI
    ⟨⟨h.game, h.waiting, h.threshold⟩, h.depot, h.configured⟩
  rw [resume_eq_welcome]
  generalize s.takeNotices.2.settleWithCloud = settled at hcloud ⊢
  have haway := hK.accrueOffline settled.2.settings.coinsPerHour hcloud.game hnow
  exact ⟨_, welcome_snd .., hcloud.toContains.withProgress (hK.updateStreak haway hnow),
    hcloud.depot, hcloud.configured⟩

theorem upholds_resume (hK : Place.Lasting T K) (hI : Pair.Custody New K I)
    (h : s.Upholds T K I b) (hnow : now.Valid) : (s.resume now moment).2.Upholds T K I b := by
  obtain ⟨s', hs', hupholds⟩ := exists_settle_of_resume hK hI h hnow moment
  rw [hs']
  exact upholds_settle hK hI hupholds hnow

/-- Where the device can be written to, settling puts the game there. -/
theorem depot_settle_of_reliable (h : s.depot.device.Reliable) (now : Instant) (moment : Moment) :
    (s.settle now moment).depot =
      s.depot.put .device Saves.stateKey (s.progress.touch now).toText := by
  rw [depot_settle, Saves.save_of_reliable h]

/-! ### Sending what is still to be sent -/

/-- A retry changes nothing, or sends the game to its profile. -/
theorem retryPending_snd (s : Session Pair) :
    (retryPending s).2 = s ∨ ∃ id, s.profileId? = some id ∧
      (retryPending s).2 = s.withLink (Link.push id (.ofProgress s.progress) s.link).2 := by
  unfold retryPending profileId?
  split
  · exact .inl rfl
  · rename_i id hid
    have hlink : (s.onLink (Link.retry id (.ofProgress s.progress))).2 =
        s.withLink (Link.retry id (.ofProgress s.progress) s.link).2 := rfl
    rw [hlink, Link.retry_snd]
    split
    · exact .inr ⟨id, hid, rfl⟩
    · exact .inl rfl

/-- Without a profile there is nothing to send. -/
theorem retryPending_of_none (h : s.profileId? = none) : (retryPending s).2 = s := by
  rcases retryPending_snd s with hsame | ⟨id, hid, -⟩
  · exact hsame
  · cases hid.symm.trans h

/-- Without a profile coming back counts the time away and the day. -/
theorem resume_snd_of_none (h : s.profileId? = none) (now : Instant) (moment : Moment) :
    (s.resume now moment).2 = (({ s with notices := [] } : Session Pair).withProgress
      ((s.progress.accrueOffline now s.settings.coinsPerHour).2.updateStreak now)).settle
        now moment := by
  rw [resume_eq_resumeAlone h, resumeAlone, welcome_snd]
  rfl

/-- The session with nothing that waits. -/
def idled (s : Session Pair) : Session Pair :=
  { s with courier := { s.courier with waiting := none } }

/-- While time passes nothing is sent, or what has waited is. -/
theorem elapse_eq (s : Session Pair) (time : Nat) :
    s.elapse time = s ∨ ∃ p, s.courier.waiting = some p ∧
      s.elapse time = s.idled.withLink (Link.push p.profileId p.record s.link).2 := by
  unfold elapse Courier.takeDue
  cases hw : s.courier.waiting with
  | none => exact .inl rfl
  | some p =>
    dsimp only
    split
    · exact .inr ⟨p, rfl, rfl⟩
    · exact .inl rfl

/-- Where nothing waits, nothing is sent. -/
theorem elapse_of_idle (h : s.courier.waiting = none) (time : Nat) : s.elapse time = s := by
  rcases elapse_eq s time with hsame | ⟨parcel, hparcel, -⟩
  · exact hsame
  · cases hparcel.symm.trans h

theorem drop_of_idle (h : s.courier.waiting = none) : s.drop = s.depot := by
  unfold drop
  rw [h]
  rfl

/-- Closing keeps the game. -/
theorem close_of_idle (h : s.courier.waiting = none) (hstore : s.depot.device.Reliable) :
    s.close = s.depot.put .device Saves.stateKey s.progress.toText := by
  have hsave := Saves.save_of_reliable hstore s.progress
  exact (drop_of_idle (s := s.persist) h).trans (congrArg Prod.snd hsave)

theorem contains_retryPending (h : s.Contains T K) : (retryPending s).2.Contains T K := by
  rcases retryPending_snd s with hsame | ⟨id, -, hpush⟩
  · rw [hsame]
    exact h
  · rw [hpush]
    exact h.withLink _

theorem contains_elapse (h : s.Contains T K) (time : Nat) : (s.elapse time).Contains T K :=
  ⟨h.game, fun p hp => h.waiting p (Courier.waiting_of_takeDue_snd hp), h.threshold⟩

section

variable (hI : Pair.Custody New K I) (hnew : ∀ id, New id)
include hI hnew

/-- Where every profile can be given any save, a push keeps to the condition. -/
theorem Upholds.push (h : s.Upholds T K I b) {q : Progress} (hq : K (.cloud id) q) :
    (s.withLink (Link.push id (.ofProgress q) s.link).2).Upholds T K I b := by
  refine h.withLink ?_ ((Link.configured_push ..).trans h.configured)
  exact Link.keeps_push (l := s.link) h.depot (hI.put_new h.depot (hnew id) hq)

theorem Upholds.retryPending (hK : Place.Lasting T K) (h : s.Upholds T K I b) :
    (retryPending s).2.Upholds T K I b := by
  rcases retryPending_snd s with hsame | ⟨id, hid, hpush⟩
  · rw [hsame]
    exact h
  · rw [hpush]
    exact h.push hI hnew (hK.save h.game hid)

theorem Upholds.elapse (h : s.Upholds T K I b) (time : Nat) :
    (s.elapse time).Upholds T K I b := by
  rcases s.elapse_eq time with hsame | ⟨p, hw, hpush⟩
  · rw [hsame]
    exact h
  · obtain ⟨q, hq, hrecord⟩ := h.waiting p hw
    have hidled : s.idled.Upholds T K I b :=
      ⟨⟨h.game, nofun, h.threshold⟩, h.depot, h.configured⟩
    rw [hpush, hrecord]
    exact hidled.push hI hnew hq

theorem Upholds.drop (h : s.Upholds T K I b) : I s.drop := by
  unfold Session.drop
  cases hw : s.courier.waiting with
  | none => exact h.depot
  | some p =>
    obtain ⟨q, hq, hrecord⟩ := h.waiting p hw
    have hpush := (h.push hI hnew hq).depot
    change I (Link.push p.profileId p.record s.link).2.depot
    rw [hrecord]
    exact hpush

/-- The game is kept before what waits is sent. -/
theorem Upholds.close (h : s.Upholds T K I b) : I s.close := by
  have hpersist : s.persist.Upholds T K I b :=
    ⟨⟨h.game, h.waiting, h.threshold⟩, (hI.save h.game).snd h.depot, h.configured⟩
  exact hpersist.drop hI hnew

end

/-! ### Opening -/

/-- A device that keeps games of the kind has no corrupt save. -/
theorem load_of_keeps (hK : Place.Lasting T K) {p : Pair} (h : p.device.Keeps K) :
    ∃ r, (Saves.load : Action StoreError Pair _) p = (r, p) ∧
      (∀ key reason, r ≠ .error (.corrupt key reason)) ∧ ∀ q, r = .ok (some q) → K .device q := by
  rw [Saves.load_pair]
  by_cases hr : p.device.failsRead = true
  · rw [if_pos hr]
    refine ⟨_, rfl, fun key reason => ?_, fun q => ?_⟩ <;> intro heq <;> cases heq
  · rw [if_neg hr]
    cases ht : p.device.entries.get? Saves.stateKey with
    | none =>
      refine ⟨_, rfl, fun key reason => ?_, fun q => ?_⟩ <;> intro heq <;> cases heq
    | some text =>
      obtain ⟨q, hq, rfl⟩ := h.game text ht
      simp only [Progress.ofText?_toText (hK.storable hq)]
      refine ⟨_, rfl, fun key reason heq => ?_, fun q' heq => ?_⟩
      · cases heq
      · exact Option.some.inj (Except.ok.inj heq) ▸ hK.repair hq

/-- Opening a session changes nothing around it. -/
theorem enter_of_keeps (hK : Place.Lasting T K) {p : Pair} (h : p.device.Keeps K)
    (hnow : now.Valid) (settings : Settings) (services : Services) :
    (enter settings services now p).2 = p ∧ ∀ s, (enter settings services now p).1 = .ok s →
      ∃ q, K .device q ∧ s = start settings services p q := by
  obtain ⟨r, hload, hsound, hgame⟩ := load_of_keeps hK h
  unfold enter
  rw [hload]
  rcases r with (⟨key, reason⟩ | ⟨key, fault⟩) | _ | q
  · exact absurd rfl (hsound key reason)
  · refine ⟨rfl, fun s hs => ?_⟩
    cases hs
  · exact ⟨rfl, fun s hs => ⟨_, hK.fresh hnow, (Except.ok.inj hs).symm⟩⟩
  · exact ⟨rfl, fun s hs => ⟨q, hgame q rfl, (Except.ok.inj hs).symm⟩⟩

theorem contains_start {q : Progress} (hq : K .device q) {settings : Settings}
    (ht : T settings.threshold) (services : Services) (p : Pair) :
    (start settings services p q).Contains T K := by
  refine ⟨hq, fun parcel hparcel => ?_, ht⟩
  cases hparcel

end Session

end Questline
