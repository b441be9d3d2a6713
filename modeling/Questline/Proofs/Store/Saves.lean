import Questline.Proofs.Action
import Questline.Proofs.Progress.Reading
import Questline.Sync.Remote
set_option autoImplicit false

/-!
# Saves on a device and in the cloud, run

What each operation on the kept texts answers and leaves behind, in terms of the
two stores alone.
-/

namespace Questline

open Time (Instant)

variable {w : Type} [Depot w]

namespace Depot

theorem load_apply (side : Side) (key : String) (d : w) :
    (load side key : Action StoreError w _) d = match read side key d with
      | .ok text => (.ok text, d)
      | .error f => (.error (.io key f), d) := by
  rw [load, Action.bind_apply]
  simp only [Action.get_apply]
  cases read side key d <;> rfl

theorem refuse_apply {α : Type} (key : String) (what : Refused) (d : w) :
    (refuse key what : Action StoreError w α) d = (.error (refusal key what d), d) := rfl

theorem meets_refuse {α : Type} {P E : w → Prop} {Q : α → w → Prop} (h : ∀ d, P d → E d)
    (key : String) (what : Refused) :
    Action.Meets P (refuse key what : Action StoreError w α) Q E := by
  apply Action.meets_of_apply
  intro d hd
  rw [refuse_apply]
  exact h d hd

theorem save_apply (side : Side) (key text : String) (d : w) :
    (save side key text : Action StoreError w _) d = match write side key text d with
      | (.ok (), d') => (.ok (), d')
      | (.error f, d') => (.error (.io key f), d') := by
  rw [save, Action.bind_apply]
  simp only [Action.get_apply]
  rcases write side key text d with ⟨_ | _, d'⟩ <;> rfl

theorem clear_apply (side : Side) (key : String) (d : w) :
    (clear side key : Action StoreError w _) d = match remove side key d with
      | (.ok (), d') => (.ok (), d')
      | (.error f, d') => (.error (.io key f), d') := by
  rw [clear, Action.bind_apply]
  simp only [Action.get_apply]
  rcases remove side key d with ⟨_ | _, d'⟩ <;> rfl

end Depot

namespace Saves

/-- Whether a text holds snapshots does not depend on the clock. -/
theorem isSome_cacheOfText? (clock clock' : Instant) (text : String) :
    (cacheOfText? clock text).isSome = (cacheOfText? clock' text).isSome := by
  unfold cacheOfText?
  cases Json.parse? text with
  | none => rw [Option.bind_none, Option.bind_none]
  | some j => exact Json.isSome_map? (Progress.isSome_ofJson? clock clock' 1) j

theorem cache_apply (d : w) :
    (cache : Action StoreError w _) d = match Depot.read .device accountsKey d with
      | .error f => (.error (.io accountsKey f), d)
      | .ok none => (.ok .empty, d)
      | .ok (some text) => match cacheOfText? (Depot.clock d) text with
        | some c => (.ok c, d)
        | none => (.error (Depot.refusal accountsKey (.text text) d), d) := by
  rw [cache, Action.bind_apply, Depot.load_apply]
  rcases Depot.read .device accountsKey d with f | _ | text
  · rfl
  · rfl
  · dsimp only
    rw [Depot.now, Action.bind_apply, Action.bind_apply, Action.get_apply]
    simp only [Action.pure_apply]
    cases cacheOfText? (Depot.clock d) text <;> rfl

theorem cached_apply (key : String) (d : w) :
    (cached key : Action StoreError w _) d = match (cache : Action StoreError w _) d with
      | (.ok c, d') => (.ok (c.get? key), d')
      | (.error e, d') => (.error e, d') := by
  rw [cached, Action.bind_apply]
  rcases (cache : Action StoreError w _) d with ⟨_ | c, d'⟩ <;> rfl

theorem ofRecord_apply (r : SaveRecord) (d : w) :
    (ofRecord r : Action StoreError w _) d = match r.progress? (Depot.clock d) with
      | some p => (.ok p, d)
      | none => (.error (Depot.refusal stateKey (.data r.payload) d), d) := by
  rw [ofRecord, Depot.now, Action.bind_apply, Action.bind_apply]
  simp only [Action.get_apply, Action.pure_apply]
  cases r.progress? (Depot.clock d) <;> rfl

/-- A record that could be kept holds a game, whatever the clock shows. -/
theorem isSome_progress?_of_writeRecord {r : SaveRecord} {d d' : w}
    (h : (writeRecord r : Action StoreError w _) d = (.ok (), d')) (clock : Instant) :
    (r.progress? clock).isSome := by
  rw [writeRecord] at h
  obtain ⟨p, t, hp, -⟩ := Action.exists_of_bind_eq_ok h
  rw [ofRecord_apply] at hp
  rw [SaveRecord.isSome_progress? clock (Depot.clock d)]
  cases hr : r.progress? (Depot.clock d) with
  | some p => rfl
  | none => rw [hr] at hp; cases hp

end Saves

namespace Remote

theorem reach_apply (d : w) : (reach : Action SyncError w Unit) d =
    if Depot.online d then (.ok (), d) else (.error (.failed "remote offline"), d) := by
  rw [reach, Action.bind_apply, Action.get_apply]
  dsimp only
  split <;> rfl

theorem fetch_apply (id : String) (d : w) : (fetch id : Action SyncError w _) d =
    if Depot.online d then
      match Depot.read .cloud (saveKey id) d with
      | .error f => (.error (.store (.io (saveKey id) f)), d)
      | .ok none => (.ok none, d)
      | .ok (some text) => match SaveRecord.ofText? text with
        | some r => (.ok (some r), d)
        | none => (.error (.store (Depot.refusal (saveKey id) (.text text) d)), d)
    else (.error (.failed "remote offline"), d) := by
  rw [fetch, Action.bind_apply, reach_apply]
  cases Depot.online d with
  | false => rfl
  | true =>
    simp only [if_true]
    rw [Action.bind_apply, Action.adapt_apply, Depot.load_apply]
    rcases Depot.read .cloud (saveKey id) d with f | _ | text
    · rfl
    · rfl
    · dsimp only
      cases SaveRecord.ofText? text <;> rfl

/-- Fetching changes nothing, whether it fails or not. -/
theorem snd_fetch (id : String) (d : w) : ((fetch id : Action SyncError w _) d).2 = d := by
  rw [fetch_apply]
  split
  · split
    · rfl
    · rfl
    · split <;> rfl
  · rfl

theorem upsert_apply (id : String) (r : SaveRecord) (d : w) :
    (upsert id r : Action SyncError w Unit) d =
      if Depot.online d then
        match Depot.write .cloud (saveKey id) r.toText d with
        | (.ok (), d') => (.ok (), d')
        | (.error f, d') => (.error (.store (.io (saveKey id) f)), d')
      else (.error (.failed "remote offline"), d) := by
  rw [upsert, Action.bind_apply, reach_apply]
  cases Depot.online d with
  | false => rfl
  | true =>
    simp only [if_true]
    rw [Action.adapt_apply, Depot.save_apply]
    rcases Depot.write .cloud (saveKey id) r.toText d with ⟨_ | _, d'⟩ <;> rfl

end Remote

end Questline
