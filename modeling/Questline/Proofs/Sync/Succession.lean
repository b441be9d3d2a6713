import Questline.Proofs.Sync.Keeping
import Questline.Proofs.Sync.Link
set_option autoImplicit false

/-!
# Saves that follow each other in the cloud

A save in the cloud may only give way to one that is not older.  `Cloud.Ascends` says so
of two states of the cloud, and `Pair.Follows` adds what it takes to keep it so: that all
texts on the device and in the cloud are those of games.  Everything that is asked of the
two stores keeps to it, except for a push, which does not look at what it replaces:
`Link.Lowers` is the case in which it does not.
-/

namespace Questline

open Time (Instant)
open Questline.Action

/-! ## The time of a save -/

namespace Cloud

variable {c c' c'' : Cloud} {id : String} {q : Progress}

/-- The time of the save that the cloud has for a profile. -/
def stamp? (c : Cloud) (id : String) : Option Instant :=
  ((c.store.entries.get? (Remote.saveKey id)).bind SaveRecord.ofText?).map SaveRecord.updatedAt

/-- The save of a profile has given way to no older one. -/
def Ascends (id : String) (c c' : Cloud) : Prop :=
  ∀ t, c.stamp? id = some t → ∃ t', c'.stamp? id = some t' ∧ t'.before t = false

/-- The saves in the cloud are those of games. -/
def HoldsSaves (c : Cloud) : Prop :=
  ∀ id text, c.store.entries.get? (Remote.saveKey id) = some text →
    ∃ q : Progress, q.Storable ∧ text = (SaveRecord.ofProgress q).toText

/-- The name belongs to a profile that has been created, so no later profile gets it. -/
def Issued (c : Cloud) (id : String) : Prop := ∀ n, c.created ≤ n → c.naming n ≠ id

theorem stamp?_of_get? (hq : q.Storable)
    (h : c.store.entries.get? (Remote.saveKey id) = some (SaveRecord.ofProgress q).toText) :
    c.stamp? id = some q.updatedAt := by
  rw [stamp?, h, Option.bind_some, SaveRecord.ofText?_toText hq]
  rfl

theorem Ascends.of_stamp?_eq (h : c'.stamp? id = c.stamp? id) : Ascends id c c' := by
  intro t ht
  exact ⟨t, h.trans ht, t.before_irrefl⟩

theorem Ascends.refl (id : String) (c : Cloud) : Ascends id c c := .of_stamp?_eq rfl

theorem holdsSaves_empty : empty.HoldsSaves := keeps_empty Place.Stored

/-- From a cloud without saves every other one ascends. -/
theorem ascends_empty (id : String) (c : Cloud) : Ascends id .empty c := by
  intro t ht
  cases ht

theorem Ascends.trans (h : Ascends id c c') (h' : Ascends id c' c'') : Ascends id c c'' := by
  intro t ht
  obtain ⟨t', ht', hle⟩ := h t ht
  obtain ⟨t'', ht'', hle'⟩ := h' t' ht'
  exact ⟨t'', ht'', Instant.not_before_trans hle hle'⟩

end Cloud

/-! ## Keeping to it -/

/-- The texts on a device are those of games. -/
structure Memory.HoldsGames (m : Memory) : Prop where
  game : ∀ text, m.entries.get? Saves.stateKey = some text →
    ∃ q : Progress, q.Storable ∧ text = q.toText
  snapshots : ∃ c, m.Caches c

/-- The stores hold games, and the save of a profile that has been created has not given
way to an older one since. -/
structure Pair.Follows (id : String) (since : Cloud) (p : Pair) : Prop where
  device : p.device.HoldsGames
  cloud : p.cloud.HoldsSaves
  issued : p.cloud.Issued id
  ascends : since.Ascends id p.cloud

namespace Memory

theorem keeps_stored_iff {m : Memory} : m.Keeps Place.Stored ↔ m.HoldsGames := by
  refine ⟨fun h => ⟨h.game, ?_⟩, fun h => ⟨h.game, ?_⟩⟩
  · obtain ⟨c, hc, -⟩ := h.snapshots
    exact ⟨c, hc⟩
  · obtain ⟨c, hc⟩ := h.snapshots
    exact ⟨c, hc, hc.storable⟩

/-- There are no texts on a device that was never used. -/
theorem holdsGames_empty : empty.HoldsGames := keeps_stored_iff.1 (keeps_empty _)

/-- Another game is kept. -/
theorem HoldsGames.put_state {p : Pair} (h : p.device.HoldsGames) {q : Progress} (hq : q.Storable) :
    (p.put .device Saves.stateKey q.toText).device.HoldsGames :=
  keeps_stored_iff.1 ((keeps_stored_iff.2 h).put_state hq)

end Memory

/-! ### Putting into the cloud -/

section

variable {p : Pair} {id id' : String} {q : Progress}

theorem Cloud.stamp?_eq_of_text?_eq {c c' : Cloud} (h : c'.text? id = c.text? id) :
    c'.stamp? id = c.stamp? id :=
  congrArg (fun text => (text.bind SaveRecord.ofText?).map SaveRecord.updatedAt) h

/-- Something else than a save is put into the cloud. -/
theorem Cloud.HoldsSaves.put_other (h : p.cloud.HoldsSaves) {key : String}
    (hkey : ∀ i, Remote.saveKey i ≠ key) (text : String) :
    (p.put .cloud key text).cloud.HoldsSaves :=
  Cloud.Keeps.put_other (K := Place.Stored) h hkey text

/-- The save of a game is put into the cloud. -/
theorem Cloud.HoldsSaves.put_save (h : p.cloud.HoldsSaves) (id : String) (hq : q.Storable) :
    (p.put .cloud (Remote.saveKey id) (SaveRecord.ofProgress q).toText).cloud.HoldsSaves :=
  Cloud.Keeps.put_save (K := Place.Stored) h hq

/-- The save that is put into the cloud is not older than the one it replaces, or is that of
another profile. -/
theorem Pair.ascends_put_save (p : Pair) (hq : q.Storable)
    (hle : id' = id → ∀ t, p.cloud.stamp? id = some t → q.updatedAt.before t = false) :
    p.cloud.Ascends id
      (p.put .cloud (Remote.saveKey id') (SaveRecord.ofProgress q).toText).cloud := by
  by_cases hid : id' = id
  · subst hid
    intro t ht
    exact ⟨q.updatedAt, Cloud.stamp?_of_get? hq (p.text?_put_save_self id' _), hle rfl t ht⟩
  · refine .of_stamp?_eq (Cloud.stamp?_eq_of_text?_eq ?_)
    exact p.text?_put_save_of_ne (fun heq => hid heq.symm) _

end

namespace Pair.Follows

variable {id : String} {since : Cloud} {p : Pair}

/-- What is put on the device leaves the cloud alone. -/
theorem put_device (h : Follows id since p) {key text : String}
    (hm : (p.put .device key text).device.HoldsGames) :
    Follows id since (p.put .device key text) :=
  ⟨hm, h.cloud, h.issued, h.ascends⟩

/-- What is put into the cloud under another key than that of a save. -/
theorem put_other (h : Follows id since p) {key text : String}
    (hkey : ∀ i, Remote.saveKey i ≠ key) : Follows id since (p.put .cloud key text) := by
  have hstamp := Cloud.stamp?_eq_of_text?_eq (p.text?_put_other hkey text id)
  exact ⟨h.device, h.cloud.put_other hkey text, h.issued, h.ascends.trans (.of_stamp?_eq hstamp)⟩

/-- A save of a profile is put into the cloud. -/
theorem put_save (h : Follows id since p) {id' : String} {q : Progress} (hq : q.Storable)
    {since' : Cloud} (hasc : since'.Ascends id
      (p.put .cloud (Remote.saveKey id') (SaveRecord.ofProgress q).toText).cloud) :
    Follows id since' (p.put .cloud (Remote.saveKey id') (SaveRecord.ofProgress q).toText) :=
  ⟨h.device, h.cloud.put_save id' hq, h.issued, hasc⟩

end Pair.Follows

/-! ## What the stores can be relied on for -/

/-- The condition on the stores survives all that a game asks of them: texts of games on the
device, new profiles, and saves in the cloud that are not older than those they replace.  A
profile of a `New` name can be given any save. -/
structure Pair.Steady (New : String → Prop) (I : Pair → Prop) : Prop where
  device : ∀ {p}, I p → p.device.HoldsGames
  cloud : ∀ {p}, I p → p.cloud.HoldsSaves
  put_device : ∀ {p} {key text : String}, I p → (p.put .device key text).device.HoldsGames →
    I (p.put .device key text)
  put_profiles : ∀ {p} (text : String), I p → I (p.put .cloud Remote.profilesKey text)
  new : ∀ {p}, I p → New (p.cloud.naming p.cloud.created)
  spend : ∀ {p}, I p → I { p with cloud := { p.cloud with created := p.cloud.created + 1 } }
  put_new : ∀ {p} {id : String} {q : Progress}, I p → New id → q.Storable →
    I (p.put .cloud (Remote.saveKey id) (SaveRecord.ofProgress q).toText)
  put_later : ∀ {p} {id : String} {q : Progress}, I p → q.Storable →
    (∀ t, p.cloud.stamp? id = some t → q.updatedAt.before t = false) →
    I (p.put .cloud (Remote.saveKey id) (SaveRecord.ofProgress q).toText)

/-- The succession of a profile's saves can be relied on; every other profile counts as new. -/
theorem Pair.Follows.steady (id : String) (since : Cloud) :
    Pair.Steady (· ≠ id) (Pair.Follows id since) where
  device h := h.device
  cloud h := h.cloud
  put_device h hm := h.put_device hm
  put_profiles _ h := h.put_other Remote.saveKey_ne_profilesKey
  new h := h.issued _ (Nat.le_refl _)
  spend h := ⟨h.device, h.cloud, fun n hn => h.issued n (Nat.le_of_succ_le hn), h.ascends⟩
  put_new h hne hq :=
    h.put_save hq (h.ascends.trans (Pair.ascends_put_save _ hq fun heq => absurd heq hne))
  put_later h hq hle := by
    refine h.put_save hq (h.ascends.trans (Pair.ascends_put_save _ hq fun heq t ht => hle t ?_))
    rw [heq]
    exact ht

/-- The stores hold games, whatever saves follow each other in the cloud. -/
structure Pair.Holds (p : Pair) : Prop where
  device : p.device.HoldsGames
  cloud : p.cloud.HoldsSaves

/-- That the stores hold games can be relied on, whatever profile a save is put for. -/
theorem Pair.Holds.steady : Pair.Steady (fun _ => True) Pair.Holds where
  device h := h.device
  cloud h := h.cloud
  put_device h hm := ⟨hm, h.cloud⟩
  put_profiles text h := ⟨h.device, h.cloud.put_other Remote.saveKey_ne_profilesKey text⟩
  new _ := trivial
  spend h := ⟨h.device, h.cloud⟩
  put_new h _ hq := ⟨h.device, h.cloud.put_save _ hq⟩
  put_later h hq _ := ⟨h.device, h.cloud.put_save _ hq⟩

/-- No store fails, and the cloud can be reached. -/
structure Pair.Works (p : Pair) : Prop where
  reads : p.device.failsRead = false
  writes : p.device.failsWrite = false
  online : p.cloud.online = true
  cloudReads : p.cloud.store.failsRead = false
  cloudWrites : p.cloud.store.failsWrite = false

theorem Pair.Works.put {p : Pair} (h : p.Works) (s : Side) (key text : String) :
    (p.put s key text).Works := by
  cases s <;> exact ⟨h.reads, h.writes, h.online, h.cloudReads, h.cloudWrites⟩

/-- Nothing that a game asks of the stores makes them fail. -/
theorem Pair.Steady.works {New : String → Prop} {I : Pair → Prop} (hI : Pair.Steady New I) :
    Pair.Steady New fun p => I p ∧ p.Works where
  device h := hI.device h.1
  cloud h := hI.cloud h.1
  put_device h hm := ⟨hI.put_device h.1 hm, h.2.put ..⟩
  put_profiles text h := ⟨hI.put_profiles text h.1, h.2.put ..⟩
  new h := hI.new h.1
  spend h := ⟨hI.spend h.1, h.2.reads, h.2.writes, h.2.online, h.2.cloudReads, h.2.cloudWrites⟩
  put_new h hnew hq := ⟨hI.put_new h.1 hnew hq, h.2.put ..⟩
  put_later h hq hle := ⟨hI.put_later h.1 hq hle, h.2.put ..⟩

/-! ## Asking the cloud -/

namespace Remote

section

variable {w : Type} [Depot w] {P : w → Prop}

theorem meets_reach : Meets P (reach : Action SyncError w Unit) (fun _ => P) P := by
  apply meets_get_bind
  intro d hd
  split
  · exact meets_pure fun s hs => hs ▸ hd
  · exact meets_throw fun s hs => hs ▸ hd

theorem meets_profiles : Meets P (profiles : Action StoreError w _) (fun _ => P) P := by
  have hload : Meets P (Depot.load .cloud profilesKey : Action StoreError w _) (fun _ => P) P := by
    apply meets_of_apply
    intro d hd
    rw [Depot.load_apply]
    cases Depot.read .cloud profilesKey d <;> exact hd
  refine meets_bind hload fun text => ?_
  cases text with
  | none => exact meets_pure fun _ h => h
  | some text =>
    dsimp only
    split
    · exact meets_pure fun _ h => h
    · exact Depot.meets_refuse (fun _ h => h) ..

/-- Looking for a profile changes nothing. -/
theorem meets_fetchProfile (name : String) :
    Meets P (fetchProfile name : Action AccountError w _) (fun _ => P) P :=
  meets_bind (meets_adapt meets_reach) fun _ => meets_bind (meets_adapt meets_profiles) fun _ =>
    meets_pure fun _ h => h

end

end Remote

/-! ## Pushing -/

namespace Link

variable {l : Link Pair} {id id' : String} {since : Cloud} {q : Progress}

/-- What is pushed arrives in the cloud. -/
structure Lands (l : Link Pair) : Prop where
  configured : l.configured = true
  online : l.depot.cloud.online = true
  writes : l.depot.cloud.store.failsWrite = false

/-- Pushing the record takes a later save of the profile away. -/
structure Lowers (l : Link Pair) (id : String) (r : SaveRecord) : Prop where
  lands : l.Lands
  later : ∃ t, l.depot.cloud.stamp? id = some t ∧ r.updatedAt.before t = true

theorem push_of_lands (h : l.Lands) (id' : String) (r : SaveRecord) :
    push id' r l = (.ok (), { l with
      depot := l.depot.put .cloud (Remote.saveKey id') r.toText, pending := false }) := by
  rw [push_apply, if_pos h.configured, Remote.upsert_pair]
  simp [h.online, h.writes]

theorem depot_push_of_lands (h : l.Lands) (id' : String) (r : SaveRecord) :
    (push id' r l).2.depot = l.depot.put .cloud (Remote.saveKey id') r.toText := by
  rw [push_of_lands h]

theorem depot_push_of_not_lands (h : ¬ l.Lands) (id' : String) (r : SaveRecord) :
    (push id' r l).2.depot = l.depot := by
  rw [push_apply]
  by_cases hc : l.configured = true
  · rw [if_pos hc, Remote.upsert_pair]
    cases ho : l.depot.cloud.online with
    | false => simp
    | true =>
      cases hw : l.depot.cloud.store.failsWrite with
      | false => exact absurd ⟨hc, ho, hw⟩ h
      | true => simp
  · rw [if_neg hc]

theorem pending_push_of_lands (h : l.Lands) (id : String) (r : SaveRecord) :
    (push id r l).2.pending = false := by
  rw [push_of_lands h]

/-- A push to a cloud that does not arrive leaves a mark. -/
theorem pending_push_of_not_lands (h : ¬ l.Lands) (hl : l.configured = true) (id : String)
    (r : SaveRecord) : (push id r l).2.pending = true := by
  rw [push_apply, if_pos hl, Remote.upsert_pair]
  cases ho : l.depot.cloud.online with
  | false => simp
  | true =>
    cases hw : l.depot.cloud.store.failsWrite with
    | false => exact absurd ⟨hl, ho, hw⟩ h
    | true => simp

/-- A push that succeeds has arrived. -/
theorem lands_of_push {r : SaveRecord} {l' : Link Pair} (h : push id r l = (.ok (), l')) :
    l.Lands := by
  rw [push_apply] at h
  by_cases hc : l.configured = true
  · rw [if_pos hc, Remote.upsert_pair] at h
    cases ho : l.depot.cloud.online with
    | false =>
      simp only [ho, if_true] at h
      cases h
    | true =>
      cases hw : l.depot.cloud.store.failsWrite with
      | false => exact ⟨hc, ho, hw⟩
      | true =>
        simp only [ho, hw, Bool.true_eq_false, if_false, if_true] at h
        cases h
  · rw [if_neg hc] at h
    cases h

theorem text?_push_self (h : l.Lands) (id : String) (r : SaveRecord) :
    (push id r l).2.depot.cloud.text? id = some r.toText := by
  rw [depot_push_of_lands h]
  exact l.depot.text?_put_save_self id r.toText

theorem text?_push_of_ne (h : id' ≠ id) (r : SaveRecord) :
    (push id r l).2.depot.cloud.text? id' = l.depot.cloud.text? id' := by
  by_cases hl : l.Lands
  · rw [depot_push_of_lands hl]
    exact l.depot.text?_put_save_of_ne h r.toText
  · rw [depot_push_of_not_lands hl]

/-- A push leaves the way to the cloud as it was. -/
theorem Lands.push (h : l.Lands) (id : String) (r : SaveRecord) : (push id r l).2.Lands := by
  refine ⟨(configured_push ..).trans h.configured, ?_, ?_⟩
  · rw [depot_push_of_lands h]
    exact h.online
  · rw [depot_push_of_lands h]
    exact h.writes

/-- Whatever the stores can be relied on for holds after a push if it does of what is put. -/
theorem keeps_push {I : Pair → Prop} {r : SaveRecord} (h : I l.depot)
    (hput : I (l.depot.put .cloud (Remote.saveKey id) r.toText)) : I (push id r l).2.depot := by
  by_cases hl : l.Lands
  · rw [depot_push_of_lands hl]
    exact hput
  · rw [depot_push_of_not_lands hl]
    exact h

/-- A push keeps to the succession unless it takes a later save away. -/
theorem follows_push (h : l.depot.Follows id since) (hq : q.Storable)
    (hlow : ¬ (id' = id ∧ l.Lowers id (.ofProgress q))) :
    (push id' (.ofProgress q) l).2.depot.Follows id since := by
  by_cases hl : l.Lands
  · rw [depot_push_of_lands hl]
    refine h.put_save hq (h.ascends.trans (l.depot.ascends_put_save hq fun hid t ht => ?_))
    cases hb : q.updatedAt.before t with
    | false => rfl
    | true => exact absurd ⟨hid, hl, t, ht, hb⟩ hlow
  · rw [depot_push_of_not_lands hl]
    exact h

/-- A push that takes a later save away does not keep to the succession. -/
theorem not_ascends_push (hq : q.Storable) (hlow : l.Lowers id (.ofProgress q)) :
    ¬ l.depot.cloud.Ascends id (push id (.ofProgress q) l).2.depot.cloud := by
  intro hasc
  obtain ⟨t, ht, hb⟩ := hlow.later
  obtain ⟨t', ht', hle⟩ := hasc t ht
  rw [depot_push_of_lands hlow.lands] at ht'
  have hself := l.depot.get?_put_self .cloud (Remote.saveKey id) (SaveRecord.ofProgress q).toText
  cases (Cloud.stamp?_of_get? hq hself).symm.trans ht'
  rw [show q.updatedAt.before t = true from hb] at hle
  cases hle

end Link

end Questline
