import Questline.Proofs.Progress.Sound
import Questline.Proofs.Session.Turn
import Questline.Proofs.Store.Memory
import Questline.Proofs.Sync.Link
import Questline.Proofs.Sync.Record
set_option autoImplicit false

/-!
# Coming back without the cloud

Settling with the cloud can fail at each of its calls: the cloud may be out of reach or its text
unreadable, the winner may be no game or find no place on the device, and the push of a game that
has won and been kept may still be refused.  Wherever it stops, the game goes on as if the cloud
had not been asked, the cloud holds what it held, and the device remembers that it owes the cloud
a save.
-/

namespace Questline

open Time (Instant)
open Questline.Action

variable {w : Type} [Depot w]

/-! ## Stores that may fail -/

/-- What the two stores hold.  A text that can be read is the one that is held, a write on one
side leaves the other alone, and one that fails stores nothing; which calls fail, and when, is
left open. -/
structure Depot.Holding (held : Side → String → w → Option String) : Prop where
  read : ∀ {side key d text}, Depot.read side key d = .ok text → held side key d = text
  beside : ∀ {side other} (key text kept d), other ≠ side →
    held other kept (Depot.write side key text d).2 = held other kept d
  failed : ∀ {side key text d fault}, (Depot.write side key text d).1 = .error fault →
    ∀ other kept, held other kept (Depot.write side key text d).2 = held other kept d

/-- Stores in memory hold their entries. -/
theorem Pair.holding : Depot.Holding fun side key (p : Pair) => (p.side side).entries.get? key where
  read {side key p text} h := by
    change (p.side side).get key = .ok text at h
    unfold Memory.get at h
    split at h
    · cases h
    · exact Except.ok.inj h
  beside {side other} key text kept p h := by
    change ((p.withSide ((p.side side).set key text).2 side).side other).entries.get? kept = _
    cases side <;> cases other <;> first | rfl | exact absurd rfl h
  failed {side key text p fault} h other kept := by
    change ((p.side side).set key text).1 = .error fault at h
    change ((p.withSide ((p.side side).set key text).2 side).side other).entries.get? kept = _
    rw [Memory.set] at h ⊢
    split at h
    · rename_i hfails
      rw [if_pos hfails, withSide_side]
    · cases h

/-! ## What a failure leaves in the cloud -/

namespace Depot.Holding

variable {held : Side → String → w → Option String} (h : Depot.Holding held)
include h

/-- What is kept on the device leaves the cloud alone. -/
theorem cloud_save (key text : String) (d : w) (kept : String) :
    held .cloud kept ((Depot.save .device key text : Action StoreError w Unit) d).2 =
      held .cloud kept d := by
  have hbeside := h.beside key text kept d (show Side.cloud ≠ .device by decide)
  rw [save_apply]
  rcases hwrite : Depot.write Side.device key text d with ⟨fault | _, d'⟩ <;>
    rw [hwrite] at hbeside <;> exact hbeside

theorem cloud_writeRecord (r : SaveRecord) (d : w) (kept : String) :
    held .cloud kept ((Saves.writeRecord r : Action StoreError w Unit) d).2 =
      held .cloud kept d := by
  rw [Saves.writeRecord, bind_apply, Saves.ofRecord_apply]
  cases r.progress? (Depot.clock d) with
  | none => rfl
  | some p => exact h.cloud_save Saves.stateKey p.toText d kept

/-- A save that the cloud refuses takes nothing from it. -/
theorem cloud_upsert {id : String} {r : SaveRecord} {d d' : w} {e : SyncError}
    (hfails : (Remote.upsert id r : Action SyncError w Unit) d = (.error e, d')) (kept : String) :
    held .cloud kept d' = held .cloud kept d := by
  rw [Remote.upsert_apply] at hfails
  split at hfails
  · rcases hwrite : Depot.write Side.cloud (Remote.saveKey id) r.toText d with ⟨fault | _, after⟩ <;>
      rw [hwrite] at hfails <;> cases hfails
    have hfailed := h.failed (congrArg Prod.fst hwrite) .cloud kept
    rw [hwrite] at hfailed
    exact hfailed
  · cases hfails
    rfl

theorem cloud_push {id : String} {r : SaveRecord} {l l' : Link w} {e : SyncError}
    (hfails : Link.push id r l = (.error e, l')) (kept : String) :
    held .cloud kept l'.depot = held .cloud kept l.depot := by
  rw [Link.push_apply] at hfails
  split at hfails
  · rcases hupsert : (Remote.upsert id r : Action SyncError w Unit) l.depot with ⟨_ | _, d⟩ <;>
      rw [hupsert] at hfails <;> cases hfails
    exact h.cloud_upsert hupsert kept
  · cases hfails
    rfl

/-- Wherever a reconciliation fails, the cloud holds what it held. -/
theorem cloud_reconcile {id : String} {own : Option SaveRecord} {l l' : Link w} {e : SyncError}
    (hfails : Link.reconcile id own l = (.error e, l')) (kept : String) :
    held .cloud kept l'.depot = held .cloud kept l.depot := by
  rw [Link.reconcile_apply] at hfails
  split at hfails
  · have hfetch := Remote.snd_fetch id l.depot
    rcases hfetched : (Remote.fetch id : Action SyncError w _) l.depot with ⟨_ | fetched, d⟩ <;>
      rw [hfetched] at hfetch hfails <;> cases hfetch
    · cases hfails
      rfl
    dsimp only at hfails
    split at hfails
    · cases hfails
    · rename_i m _
      have hwrite := h.cloud_writeRecord m.record l.depot kept
      rcases hwritten : (Saves.writeRecord m.record : Action StoreError w _) l.depot with ⟨_ | _, d⟩ <;>
        rw [hwritten] at hwrite hfails
      · cases hfails
        exact hwrite
      dsimp only at hfails
      split at hfails
      · rcases hpush : Link.push id m.record { l with depot := d } with ⟨_ | _, after⟩ <;>
          rw [hpush] at hfails <;> cases hfails
        exact (h.cloud_push hpush kept).trans hwrite
      · cases hfails
  · cases hfails
    rfl

end Depot.Holding

/-! ## Coming back -/

namespace Session

variable {s s' : Session w} {id : String} {e : SyncError}

/-- What fails in settling with the cloud is the reconciliation: once a record of the cloud has
been kept, it is known to be a game. -/
theorem adopt_eq_error_iff : adopt id s = (.error e, s') ↔
    ∃ l, Link.reconcile id (some (.ofProgress s.progress)) s.link = (.error e, l) ∧
      s' = s.withLink l := by
  unfold adopt onLink
  rcases hrec : Link.reconcile id (some (.ofProgress s.progress)) s.link with ⟨e' | m, l⟩
  · constructor
    · intro h
      cases h
      exact ⟨l, rfl, rfl⟩
    · rintro ⟨_, h, rfl⟩
      cases h
      rfl
  · constructor
    · intro h
      rcases m with _ | ⟨record, _ | _⟩
      · cases h
      · cases h
      · have hgame := Link.isSome_progress?_of_reconcile hrec (Depot.clock (s.withLink l).link.depot)
        dsimp only at h
        rw [Link.onDepot_apply, Saves.ofRecord_apply] at h
        obtain ⟨p, hp⟩ := Option.isSome_iff_exists.1 hgame
        dsimp only at hp
        rw [hp] at h
        cases h
    · rintro ⟨_, h, -⟩
      cases h

/-- With an account of the cloud, the game is owed to the cloud until it has been sent. -/
theorem pending_settle (s : Session w) (id : String)
    (hid : s.progress.account.bind Account.profileId? = some id)
    (hconfigured : s.link.configured = true) (now : Instant) (moment : Moment) :
    (s.settle now moment).pendingSync = true := by
  unfold settle scheduleAutosave
  rw [show (s.withProgress (s.progress.touch now)).persist.progress.account.bind
    Account.profileId? = some id from hid]
  dsimp only
  rw [if_pos (show (s.withProgress (s.progress.touch now)).persist.link.configured = true from
    hconfigured)]
  rfl

/-- A failure to settle with the cloud costs nothing: the game is the one that is played without
the cloud, whatever the cloud holds it goes on holding, and where there is a cloud the game is
owed to it. -/
theorem resume_of_adopt_eq_error {held : Side → String → w → Option String}
    (hheld : Depot.Holding held) {username : String}
    (haccount : s.progress.account = some (.cloud username id))
    (hfails : (adopt id s).1 = .error e) (now : Instant) (moment : Moment) :
    (s.resume now moment).2.progress = (s.resumeAlone now moment).2.progress ∧
      (∀ key, held .cloud key (s.resume now moment).2.depot = held .cloud key s.depot) ∧
      (s.link.configured = true → (s.resume now moment).2.pendingSync = true) := by
  obtain ⟨l, hreconcile, -⟩ := adopt_eq_error_iff.1 (Prod.ext hfails rfl :
    adopt id s = (.error e, (adopt id s).2))
  -- The notices have been taken by then, which the cloud does not see.
  have hadopt : adopt id s.takeNotices.2 = (.error e, s.takeNotices.2.withLink l) :=
    adopt_eq_error_iff.2 ⟨l, hreconcile, rfl⟩
  have hsettled : s.takeNotices.2.settleWithCloud =
      (some s!"Cloud sync pending: {e.message}", s.takeNotices.2.withLink l) := by
    unfold settleWithCloud
    rw [show s.takeNotices.2.progress.account.bind Account.profileId? = some id by
      rw [show s.takeNotices.2.progress = s.progress from rfl, haccount]
      rfl]
    dsimp only
    rw [hadopt]
  have hconfigured := Link.configured_reconcile id (some (.ofProgress s.progress)) s.link
  rw [hreconcile] at hconfigured
  rw [resume_eq_welcome, hsettled]
  refine ⟨?_, fun key => ?_, fun hc => ?_⟩
  · rw [resumeAlone, progress_welcome, progress_welcome]
    rfl
  · rw [welcome, depot_settle]
    exact (hheld.cloud_save Saves.stateKey _ l.depot key).trans (hheld.cloud_reconcile hreconcile key)
  · rw [welcome]
    refine pending_settle _ id ?_ ?_ now moment
    · rw [progress_withProgress]
      exact congrArg (Option.bind · Account.profileId?)
        ((Progress.account_accrueOffline ..).trans haccount)
    · exact hconfigured.trans hc

/-- A later game that the cloud refuses has been kept on the device by then. -/
theorem adopt_of_refused {s : Session Pair} {r : SaveRecord} (hgame : s.progress.Sound)
    (hconfigured : s.link.configured = true) (hstore : s.depot.device.Reliable)
    (honline : s.depot.cloud.online = true) (hreads : s.depot.cloud.store.failsRead = false)
    (hrefuses : s.depot.cloud.store.failsWrite = true)
    (htext : s.depot.cloud.store.entries.get? (Remote.saveKey id) = some r.toText)
    (hrecord : SaveRecord.ofText? r.toText = some r)
    (hlater : s.progress.updatedAt.before r.updatedAt = false) :
    adopt id s = (.error (.store (.io (Remote.saveKey id) .injected)),
      s.withLink ⟨s.depot.put .device Saves.stateKey s.progress.toText, true, true⟩) := by
  have hfetch : (Remote.fetch id : Action SyncError Pair _) s.depot = (.ok (some r), s.depot) := by
    rw [Remote.fetch_pair, honline, hreads, htext]
    dsimp only
    rw [hrecord]
    rfl
  have hwrite : (Saves.writeRecord (.ofProgress s.progress) : Action StoreError Pair Unit) s.depot =
      (.ok (), s.depot.put .device Saves.stateKey s.progress.toText) := by
    rw [Saves.writeRecord_pair, SaveRecord.progress?_ofProgress hgame.toStorable,
      hgame.repair_eq_self, hstore.writes]
    rfl
  have hmerge : mergeSaves (some (.ofProgress s.progress)) (some r) =
      some ⟨.ofProgress s.progress, .device⟩ := mergeSaves_of_not_before hlater
  have hcloud : (s.depot.put .device Saves.stateKey s.progress.toText).cloud = s.depot.cloud := rfl
  refine adopt_eq_error_iff.2 ⟨_, ?_, rfl⟩
  rw [Link.reconcile_of_device hconfigured hfetch hmerge rfl hwrite,
    Link.push_apply, Remote.upsert_pair]
  dsimp only
  rw [hcloud, honline, hrefuses, hconfigured]
  rfl

/-- The cloud has an older save and refuses the later one, which by then has been kept on the
device: the game goes on, the older save stays and the later one is owed. -/
theorem pendingSync_resume_of_refused :
    ∃ (s : Session Pair) (older : SaveRecord),
      s.progress.account = some (.cloud "hero" "profile-1") ∧
      s.depot.cloud.store.entries.get? (Remote.saveKey "profile-1") = some older.toText ∧
      s.link.configured = true ∧
      (adopt "profile-1" s).1 = .error (.store (.io (Remote.saveKey "profile-1") .injected)) ∧
      (adopt "profile-1" s).2.depot.device.entries.get? Saves.stateKey = some s.progress.toText ∧
      (s.resume ⟨2, 0⟩ ⟨2000, 0⟩).2.progress = (s.resumeAlone ⟨2, 0⟩ ⟨2000, 0⟩).2.progress ∧
      (s.resume ⟨2, 0⟩ ⟨2000, 0⟩).2.depot.cloud.store.entries.get? (Remote.saveKey "profile-1") =
        some older.toText ∧
      (s.resume ⟨2, 0⟩ ⟨2000, 0⟩).2.pendingSync = true := by
  obtain ⟨older, holder, hrecord⟩ : ∃ r : SaveRecord, r.updatedAt = ⟨0, 0⟩ ∧
      SaveRecord.ofText? r.toText = some r :=
    ⟨.ofProgress (.fresh ⟨0, 0⟩), rfl, SaveRecord.ofText?_toText (.fresh (by decide))⟩
  have hnow : (⟨1, 0⟩ : Instant).Valid := by decide
  obtain ⟨q, hq, haccount, htime⟩ : ∃ q : Progress, q.InPlay ∧
      q.account = some (.cloud "hero" "profile-1") ∧ q.updatedAt = ⟨1, 0⟩ :=
    ⟨_, (Progress.InPlay.fresh hnow).withAccount _, rfl, rfl⟩
  let refusing : Memory :=
    ⟨Keyed.empty.insert (Remote.saveKey "profile-1") older.toText, false, true, false⟩
  let s : Session Pair :=
    start .initial ⟨true, true⟩ ⟨.empty, { Cloud.empty with store := refusing }, ⟨1, 0⟩, .silent⟩ q
  have htext : s.depot.cloud.store.entries.get? (Remote.saveKey "profile-1") = some older.toText :=
    Keyed.get?_insert_self ..
  have hadopt := adopt_of_refused (s := s) hq.toSound rfl ⟨rfl, rfl⟩ rfl rfl rfl htext hrecord
    (by rw [show s.progress.updatedAt = _ from htime, holder]; decide)
  obtain ⟨hgame, hcloud, hpending⟩ := resume_of_adopt_eq_error (s := s) Pair.holding haccount
    (congrArg Prod.fst hadopt) ⟨2, 0⟩ ⟨2000, 0⟩
  refine ⟨s, older, haccount, htext, rfl, congrArg Prod.fst hadopt, ?_, hgame,
    (hcloud _).trans htext, hpending rfl⟩
  rw [hadopt]
  exact s.depot.get?_put_self .device _ _

end Session

end Questline
