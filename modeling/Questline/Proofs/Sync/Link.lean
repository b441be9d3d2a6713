import Questline.Proofs.Store.Saves
import Questline.Sync.Link
set_option autoImplicit false

/-!
# The link to the cloud, run

What pushing, fetching and reconciling answer and leave behind, in terms of the
cloud and of the saves on the device alone.
-/

namespace Questline

open Questline.Action

variable {w : Type} [Depot w]

namespace Link

omit [Depot w] in
@[simp] theorem onDepot_apply {ε α : Type} (act : Action ε w α) (l : Link w) :
    onDepot act l = ((act l.depot).1, { l with depot := (act l.depot).2 }) := rfl

omit [Depot w] in
theorem needCloud_apply (l : Link w) :
    needCloud l = if l.configured then (.ok (), l) else (.error .unavailable, l) := by
  rw [needCloud, bind_apply, get_apply]
  cases h : l.configured <;> simp [h]

/-- A push notes whether it arrived. -/
theorem push_apply (id : String) (r : SaveRecord) (l : Link w) :
    push id r l = if l.configured then
        match (Remote.upsert id r : Action SyncError w Unit) l.depot with
        | (.ok (), d) => (.ok (), { l with depot := d, pending := false })
        | (.error e, d) => (.error e, { l with depot := d, pending := true })
      else (.error .unavailable, l) := by
  obtain ⟨depot, configured, pending⟩ := l
  rw [push, bind_apply, needCloud_apply]
  cases configured with
  | false => rfl
  | true =>
    simp only [if_true]
    rw [tryCatch_apply, bind_apply, onDepot_apply]
    rcases (Remote.upsert id r : Action SyncError w Unit) depot with ⟨_ | _, d⟩ <;> rfl

/-- A retry is a push, if the cloud lacks something. -/
theorem retry_snd (id : String) (r : SaveRecord) (l : Link w) :
    (retry id r l).2 = if l.pending then (push id r l).2 else l := by
  rw [retry, bind_eq_of_ok (get_apply l)]
  by_cases hp : l.pending = true
  · rw [if_pos hp, if_pos hp, bind_apply]
    rcases push id r l with ⟨_ | _, l'⟩ <;> rfl
  · rw [if_neg hp, if_neg hp]
    rfl

/-- A reconciliation fetches, keeps the later record on the device, and pushes it if
it was the device's. -/
theorem reconcile_apply (id : String) (own : Option SaveRecord) (l : Link w) :
    reconcile id own l = if l.configured then
        match (Remote.fetch id : Action SyncError w _) l.depot with
        | (.error e, d) => (.error e, { l with depot := d, pending := true })
        | (.ok fetched, d) =>
          match mergeSaves own fetched with
          | none => (.ok none, { l with depot := d })
          | some m =>
            match (Saves.writeRecord m.record : Action StoreError w _) d with
            | (.error e, d') => (.error (.store e), { l with depot := d' })
            | (.ok (), d') =>
              if m.source = .device then
                match push id m.record { l with depot := d' } with
                | (.ok (), l') => (.ok (some m), l')
                | (.error e, l') => (.error e, l')
              else (.ok (some m), { l with depot := d' })
      else (.error .unavailable, l) := by
  obtain ⟨depot, configured, pending⟩ := l
  rw [reconcile, bind_apply, needCloud_apply]
  cases configured with
  | false => rfl
  | true =>
    simp only [if_true]
    rw [bind_apply, tryCatch_apply, onDepot_apply]
    rcases (Remote.fetch id : Action SyncError w _) depot with ⟨_ | fetched, d⟩
    · rfl
    dsimp only
    cases mergeSaves own fetched with
    | none => rfl
    | some m =>
      dsimp only
      rw [bind_apply, onDepot_apply, adapt_apply]
      rcases (Saves.writeRecord m.record : Action StoreError w _) d with ⟨_ | _, d'⟩
      · rfl
      by_cases hs : m.source = .device
      · simp only [hs, if_true, bind_apply]
        rcases push id m.record ⟨d', true, pending⟩ with ⟨_ | _, l'⟩ <;> rfl
      · simp only [hs, if_false]
        rfl

/-- Whether there is a cloud does not change by a push. -/
theorem configured_push (id : String) (r : SaveRecord) (l : Link w) :
    (push id r l).2.configured = l.configured := by
  rw [push_apply]
  by_cases hc : l.configured = true
  · rw [if_pos hc]
    rcases (Remote.upsert id r : Action SyncError w Unit) l.depot with ⟨_ | _, d⟩ <;> rfl
  · rw [if_neg hc]

/-- Whether there is a cloud does not change by a reconciliation. -/
theorem configured_reconcile (id : String) (own : Option SaveRecord) (l : Link w) :
    (reconcile id own l).2.configured = l.configured := by
  rw [reconcile_apply]
  by_cases hc : l.configured = true
  · rw [if_pos hc]
    rcases (Remote.fetch id : Action SyncError w _) l.depot with ⟨e | fetched, d⟩
    · rfl
    dsimp only
    rcases mergeSaves own fetched with _ | m
    · rfl
    dsimp only
    rcases (Saves.writeRecord m.record : Action StoreError w Unit) d with ⟨e | u, d'⟩
    · rfl
    dsimp only
    by_cases hs : m.source = .device
    · have hpush := configured_push id m.record { l with depot := d' }
      rw [if_pos hs]
      rcases hpushed : push id m.record { l with depot := d' } with ⟨e | _, l'⟩ <;>
        rw [hpushed] at hpush <;> exact hpush
    · rw [if_neg hs]
  · rw [if_neg hc]

section

variable {id : String} {own fetched : Option SaveRecord} {l : Link w} {d d' : w} {m : Merged}

/-- A winner that the device cannot keep is not settled on. -/
theorem reconcile_of_writeRecord_eq_error {e : StoreError} (hl : l.configured = true)
    (hf : (Remote.fetch id : Action SyncError w _) l.depot = (.ok fetched, d))
    (hm : mergeSaves own fetched = some m)
    (hw : (Saves.writeRecord m.record : Action StoreError w _) d = (.error e, d')) :
    reconcile id own l = (.error (.store e), { l with depot := d' }) := by
  rw [reconcile_apply, if_pos hl]
  simp only [hf, hm, hw]

/-- A record of the cloud that has won and been kept is settled on. -/
theorem reconcile_of_cloud (hl : l.configured = true)
    (hf : (Remote.fetch id : Action SyncError w _) l.depot = (.ok fetched, d))
    (hm : mergeSaves own fetched = some m) (hs : m.source = .cloud)
    (hw : (Saves.writeRecord m.record : Action StoreError w _) d = (.ok (), d')) :
    reconcile id own l = (.ok (some m), { l with depot := d' }) := by
  rw [reconcile_apply, if_pos hl]
  simp only [hf, hm, hw, hs, reduceCtorEq, if_false]

/-- A record of the device that has won and been kept is pushed. -/
theorem reconcile_of_device (hl : l.configured = true)
    (hf : (Remote.fetch id : Action SyncError w _) l.depot = (.ok fetched, d))
    (hm : mergeSaves own fetched = some m) (hs : m.source = .device)
    (hw : (Saves.writeRecord m.record : Action StoreError w _) d = (.ok (), d')) :
    reconcile id own l = match push id m.record { l with depot := d' } with
      | (.ok (), l') => (.ok (some m), l')
      | (.error e, l') => (.error e, l') := by
  rw [reconcile_apply, if_pos hl]
  simp only [hf, hm, hw, hs, if_true]
  rfl

end

/-- A reconciliation that settles on a record has fetched what is in the cloud, taken
the winner and kept it on the device; the cloud has it too, from before or by a push. -/
theorem exists_of_reconcile_eq_some {id : String} {own : Option SaveRecord} {l l' : Link w}
    {m : Merged} (h : reconcile id own l = (.ok (some m), l')) :
    ∃ fetched d d', (Remote.fetch id : Action SyncError w _) l.depot = (.ok fetched, d) ∧
      mergeSaves own fetched = some m ∧
      (Saves.writeRecord m.record : Action StoreError w _) d = (.ok (), d') ∧
      if m.source = .device then push id m.record { l with depot := d' } = (.ok (), l')
      else l' = { l with depot := d' } := by
  obtain ⟨depot, configured, pending⟩ := l
  rw [reconcile_apply] at h
  cases configured with
  | false => cases h
  | true =>
    rcases hf : (Remote.fetch id : Action SyncError w _) depot with ⟨_ | fetched, d⟩
    · simp only [hf] at h
      cases h
    simp only [hf, if_true] at h
    rcases hm : mergeSaves own fetched with _ | m'
    · simp only [hm] at h
      cases h
    simp only [hm] at h
    rcases hw : (Saves.writeRecord m'.record : Action StoreError w _) d with ⟨_ | _, d'⟩
    · simp only [hw] at h
      cases h
    simp only [hw] at h
    refine ⟨fetched, d, d', rfl, ?_⟩
    by_cases hs : m'.source = .device
    · rw [if_pos hs] at h
      rcases hp : push id m'.record ⟨d', true, pending⟩ with ⟨_ | _, l''⟩
      · simp only [hp] at h
        cases h
      simp only [hp] at h
      cases h
      exact ⟨hm, hw, by rw [if_pos hs, hp]⟩
    · rw [if_neg hs] at h
      cases h
      exact ⟨hm, hw, by rw [if_neg hs]⟩

/-- A reconciliation that finds no record on either side changes nothing. -/
theorem exists_of_reconcile_eq_none {id : String} {own : Option SaveRecord} {l l' : Link w}
    (h : reconcile id own l = (.ok none, l')) :
    ∃ fetched d, (Remote.fetch id : Action SyncError w _) l.depot = (.ok fetched, d) ∧
      mergeSaves own fetched = none ∧ l' = { l with depot := d } := by
  obtain ⟨depot, configured, pending⟩ := l
  rw [reconcile_apply] at h
  cases configured with
  | false => cases h
  | true =>
    rcases hf : (Remote.fetch id : Action SyncError w _) depot with ⟨_ | fetched, d⟩
    · simp only [hf] at h
      cases h
    simp only [hf, if_true] at h
    rcases hm : mergeSaves own fetched with _ | m
    · simp only [hm] at h
      cases h
      exact ⟨fetched, d, rfl, hm, rfl⟩
    simp only [hm] at h
    rcases hw : (Saves.writeRecord m.record : Action StoreError w _) d with ⟨_ | _, d'⟩
    · simp only [hw] at h
      cases h
    simp only [hw] at h
    by_cases hs : m.source = .device
    · rw [if_pos hs] at h
      rcases hp : push id m.record ⟨d', true, pending⟩ with ⟨_ | _, l''⟩
      · simp only [hp] at h
        cases h
      · simp only [hp] at h
        cases h
    · rw [if_neg hs] at h
      cases h

/-- What a reconciliation settles on was kept on the device, so it holds a game. -/
theorem isSome_progress?_of_reconcile {id : String} {own : Option SaveRecord} {l l' : Link w}
    {m : Merged} (h : reconcile id own l = (.ok (some m), l')) (clock : Time.Instant) :
    (m.record.progress? clock).isSome := by
  obtain ⟨-, d, d', -, -, hw, -⟩ := exists_of_reconcile_eq_some h
  exact Saves.isSome_progress?_of_writeRecord hw clock

end Link

end Questline
