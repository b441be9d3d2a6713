import Questline.Proofs.Store.Saves
import Questline.Store.Memory
import Questline.Sync.Remote
set_option autoImplicit false

/-!
# Stores in memory, run

With both stores in memory an action on a store either fails, and changes nothing, or
puts one text under one key.  The same is said here of the actions that are built on
it: of the saves on the device, and of what the cloud is asked for.
-/

namespace Questline

open Time (Instant)

namespace Pair

/-- The surroundings with a text under a key of one side. -/
def put (p : Pair) (s : Side) (key text : String) : Pair :=
  p.withSide { p.side s with entries := (p.side s).entries.insert key text } s

@[simp] theorem withSide_side (p : Pair) (s : Side) : p.withSide (p.side s) s = p := by
  cases s <;> rfl

@[simp] theorem cloud_put_device (p : Pair) (key text : String) :
    (p.put .device key text).cloud = p.cloud := rfl

theorem get?_put_self (p : Pair) (s : Side) (key text : String) :
    ((p.put s key text).side s).entries.get? key = some text := by
  cases s <;> exact Keyed.get?_insert_self ..

theorem get?_put_of_ne (p : Pair) (s : Side) {key other : String} (h : other ≠ key) (text : String) :
    ((p.put s key text).side s).entries.get? other = (p.side s).entries.get? other := by
  cases s <;> exact Keyed.get?_insert_of_ne _ h _

end Pair

/-! ## The two stores -/

theorem Depot.load_pair (s : Side) (key : String) (p : Pair) :
    (load s key : Action StoreError Pair _) p =
      if (p.side s).failsRead then (.error (.io key .injected), p)
      else (.ok ((p.side s).entries.get? key), p) := by
  rw [load_apply, show Depot.read s key p = (p.side s).get key from rfl, Memory.get]
  by_cases h : (p.side s).failsRead = true <;> simp [h]

theorem Depot.save_pair (s : Side) (key text : String) (p : Pair) :
    (save s key text : Action StoreError Pair _) p =
      if (p.side s).failsWrite then (.error (.io key .injected), p)
      else (.ok (), p.put s key text) := by
  have hwrite : Depot.write s key text p =
      if (p.side s).failsWrite then (.error .injected, p) else (.ok (), p.put s key text) := by
    change (((p.side s).set key text).1, p.withSide ((p.side s).set key text).2 s) = _
    rw [Memory.set]
    split
    · rw [Pair.withSide_side]
    · rfl
  rw [save_apply, hwrite]
  by_cases h : (p.side s).failsWrite = true <;> simp [h]

theorem Depot.clear_pair (s : Side) (key : String) (p : Pair) :
    (clear s key : Action StoreError Pair Unit) p =
      if (p.side s).failsRemove then (.error (.io key .injected), p)
      else (.ok (), p.withSide { p.side s with entries := (p.side s).entries.erase key } s) := by
  have hremove : Depot.remove s key p = if (p.side s).failsRemove then (.error .injected, p)
      else (.ok (), p.withSide { p.side s with entries := (p.side s).entries.erase key } s) := by
    change (((p.side s).remove key).1, p.withSide ((p.side s).remove key).2 s) = _
    rw [Memory.remove]
    split
    · rw [Pair.withSide_side]
    · rfl
  rw [clear_apply, hremove]
  by_cases h : (p.side s).failsRemove = true <;> simp [h]

/-! ## The cloud -/

namespace Remote

theorem reach_pair (p : Pair) : (reach : Action SyncError Pair Unit) p =
    if p.cloud.online then (.ok (), p) else (.error (.failed "remote offline"), p) := reach_apply p

/-- What is fetched is what the text under the profile's key says. -/
theorem fetch_pair (id : String) (p : Pair) :
    (fetch id : Action SyncError Pair _) p =
      if p.cloud.online = false then (.error (.failed "remote offline"), p)
      else if p.cloud.store.failsRead then (.error (.store (.io (saveKey id) .injected)), p)
      else match p.cloud.store.entries.get? (saveKey id) with
        | none => (.ok none, p)
        | some text => match SaveRecord.ofText? text with
          | some r => (.ok (some r), p)
          | none => (.error (.store (Depot.refusal (saveKey id) (.text text) p)), p) := by
  rw [fetch_apply, show Depot.online p = p.cloud.online from rfl,
    show Depot.read .cloud (saveKey id) p = p.cloud.store.get (saveKey id) from rfl, Memory.get]
  by_cases hon : p.cloud.online = true
  · simp only [hon, if_true, Bool.true_eq_false, if_false]
    by_cases hread : p.cloud.store.failsRead = true
    · simp only [hread, if_true]
    · simp only [hread, Bool.false_eq_true, if_false]
      cases p.cloud.store.entries.get? (saveKey id) <;> rfl
  · simp [hon]

theorem upsert_pair (id : String) (r : SaveRecord) (p : Pair) :
    (upsert id r : Action SyncError Pair Unit) p =
      if p.cloud.online = false then (.error (.failed "remote offline"), p)
      else if p.cloud.store.failsWrite then (.error (.store (.io (saveKey id) .injected)), p)
      else (.ok (), p.put .cloud (saveKey id) r.toText) := by
  rw [upsert, Action.bind_apply, reach_pair]
  by_cases hon : p.cloud.online = true
  · simp only [hon, if_true, Bool.true_eq_false, if_false]
    rw [Action.adapt_apply, Depot.save_pair]
    by_cases hwrite : p.cloud.store.failsWrite = true <;> simp [Pair.side, hwrite]
  · simp [hon]

theorem saveKey_injective {a b : String} (h : saveKey a = saveKey b) : a = b := by
  have := congrArg String.toList h
  exact String.toList_injective (by simpa [saveKey] using this)

/-- The map of profiles is not the save of any profile. -/
theorem saveKey_ne_profilesKey (id : String) : saveKey id ≠ profilesKey := by
  intro h
  have := congrArg (fun s : String => s.toList[7]?) h
  simp [saveKey, profilesKey] at this

end Remote

/-! ## The saves on the device -/

/-- The store can be read and written. -/
structure Memory.Reliable (m : Memory) : Prop where
  reads : m.failsRead = false
  writes : m.failsWrite = false

theorem Memory.Reliable.put {p : Pair} (h : p.device.Reliable) (key text : String) :
    (p.put .device key text).device.Reliable := ⟨h.reads, h.writes⟩

namespace Saves

theorem save_of_reliable {p : Pair} (h : p.device.Reliable) (q : Progress) :
    (save q : Action StoreError Pair Unit) p = (.ok (), p.put .device stateKey q.toText) := by
  have hwrites : (p.side .device).failsWrite = false := h.writes
  rw [save, Depot.save_pair, hwrites]
  rfl

theorem writeRecord_pair (r : SaveRecord) (p : Pair) :
    (writeRecord r : Action StoreError Pair Unit) p = match r.progress? p.clock with
      | none => (.error (Depot.refusal stateKey (.data r.payload) p), p)
      | some q =>
        if p.device.failsWrite then (.error (.io stateKey .injected), p)
        else (.ok (), p.put .device stateKey q.toText) := by
  rw [writeRecord, Action.bind_apply, ofRecord_apply, show Depot.clock p = p.clock from rfl]
  cases r.progress? p.clock with
  | none => rfl
  | some q => exact Depot.save_pair .device stateKey q.toText p

/-- What is kept on the device leaves the cloud alone. -/
theorem cloud_writeRecord (r : SaveRecord) (p : Pair) :
    ((writeRecord r : Action StoreError Pair Unit) p).2.cloud = p.cloud := by
  rw [writeRecord_pair]
  cases r.progress? p.clock with
  | none => rfl
  | some q =>
    dsimp only
    split <;> rfl

theorem load_pair (p : Pair) :
    (load : Action StoreError Pair _) p =
      if p.device.failsRead then (.error (.io stateKey .injected), p)
      else match p.device.entries.get? stateKey with
        | none => (.ok none, p)
        | some text => match Progress.ofText? p.clock text with
          | some q => (.ok (some q), p)
          | none => (.error (Depot.refusal stateKey (.text text) p), p) := by
  rw [load, Action.bind_apply, Depot.load_pair]
  by_cases hread : p.device.failsRead = true
  · simp [Pair.side, hread]
  · simp only [Pair.side, hread, if_false, Bool.false_eq_true]
    cases p.device.entries.get? stateKey with
    | none => rfl
    | some text =>
      dsimp only
      rw [Depot.now, Action.bind_apply, Action.bind_apply, Action.get_apply]
      simp only [Action.pure_apply]
      change (match Progress.ofText? p.clock text with
        | some q => (pure (some q) : Action StoreError Pair (Option Progress))
        | none => Depot.refuse stateKey (.text text)) p = _
      cases Progress.ofText? p.clock text <;> rfl

theorem cache_pair (p : Pair) :
    (cache : Action StoreError Pair _) p =
      if p.device.failsRead then (.error (.io accountsKey .injected), p)
      else match p.device.entries.get? accountsKey with
        | none => (.ok .empty, p)
        | some text => match cacheOfText? p.clock text with
          | some c => (.ok c, p)
          | none => (.error (Depot.refusal accountsKey (.text text) p), p) := by
  rw [cache_apply, show Depot.read .device accountsKey p = p.device.get accountsKey from rfl,
    show Depot.clock p = p.clock from rfl, Memory.get]
  by_cases hread : p.device.failsRead = true
  · simp only [hread, if_true]
  · simp only [hread, if_false, Bool.false_eq_true]
    cases p.device.entries.get? accountsKey <;> rfl

theorem cache_snd (p : Pair) : ((cache : Action StoreError Pair _) p).2 = p := by
  rw [cache_pair]
  split
  · rfl
  · split
    · rfl
    · split <;> rfl

theorem keep_pair (key : String) (q : Progress) (p : Pair) :
    (keep key q : Action StoreError Pair Unit) p = match (cache : Action StoreError Pair _) p with
      | (.ok c, p') =>
        if p'.device.failsWrite then (.error (.io accountsKey .injected), p')
        else (.ok (), p'.put .device accountsKey (cacheText (c.insert key q)))
      | (.error e, p') => (.error e, p') := by
  rw [keep, Action.bind_apply]
  rcases (cache : Action StoreError Pair _) p with ⟨_ | c, p'⟩
  · rfl
  · exact Depot.save_pair .device accountsKey _ p'

end Saves

end Questline
