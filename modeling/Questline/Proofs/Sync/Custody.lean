import Questline.Proofs.Sync.Succession
set_option autoImplicit false

/-!
# What the stores can be asked for

`Pair.Custody` says that a condition on the two stores includes that they keep games of a kind
and survives all that a game asks of them.  Then every operation on the saves and every
reconciliation keeps to the condition, and all that is read is of its kind.
-/

namespace Questline

open Time (Instant)
open Questline.Action

variable {T : UInt32 → Prop} {K : Place → Progress → Prop}

/-- The condition on the stores includes that they keep games of the kind, and survives all that
a game asks of them.  A profile of a `New` name can be given any save of the kind, every other
one only a save that is not older than the one it has. -/
structure Pair.Custody (New : String → Prop) (K : Place → Progress → Prop) (I : Pair → Prop) :
    Prop where
  device : ∀ {p}, I p → p.device.Keeps K
  cloud : ∀ {p}, I p → p.cloud.Keeps K
  put_device : ∀ {p} {key text : String}, I p → (p.put .device key text).device.Keeps K →
    I (p.put .device key text)
  put_profiles : ∀ {p} (text : String), I p → I (p.put .cloud Remote.profilesKey text)
  new : ∀ {p}, I p → New (p.cloud.naming p.cloud.created)
  spend : ∀ {p}, I p → I { p with cloud := { p.cloud with created := p.cloud.created + 1 } }
  put_new : ∀ {p} {id : String} {q : Progress}, I p → New id → K (.cloud id) q →
    I (p.put .cloud (Remote.saveKey id) (SaveRecord.ofProgress q).toText)
  put_later : ∀ {p} {id : String} {q : Progress}, I p → K (.cloud id) q →
    (∀ t, p.cloud.stamp? id = some t → q.updatedAt.before t = false) →
    I (p.put .cloud (Remote.saveKey id) (SaveRecord.ofProgress q).toText)

/-- That the stores keep games of a kind survives whatever save of the kind is put. -/
theorem Pair.custody_keeps (K : Place → Progress → Prop) :
    Pair.Custody (fun _ => True) K (Pair.Keeps K) where
  device h := h.device
  cloud h := h.cloud
  put_device h hm := ⟨hm, h.cloud⟩
  put_profiles text h := ⟨h.device, h.cloud.put_other Remote.saveKey_ne_profilesKey text⟩
  new _ := trivial
  spend h := ⟨h.device, h.cloud⟩
  put_new h _ hq := ⟨h.device, h.cloud.put_save hq⟩
  put_later h hq _ := ⟨h.device, h.cloud.put_save hq⟩

/-- That the device can be relied on survives it all. -/
theorem Pair.Custody.reliable {New : String → Prop} {I : Pair → Prop}
    (hI : Pair.Custody New K I) : Pair.Custody New K fun p => I p ∧ p.device.Reliable where
  device h := hI.device h.1
  cloud h := hI.cloud h.1
  put_device h hm := ⟨hI.put_device h.1 hm, h.2.reads, h.2.writes⟩
  put_profiles text h := ⟨hI.put_profiles text h.1, h.2⟩
  new h := hI.new h.1
  spend h := ⟨hI.spend h.1, h.2⟩
  put_new h hnew hq := ⟨hI.put_new h.1 hnew hq, h.2⟩
  put_later h hq hle := ⟨hI.put_later h.1 hq hle, h.2⟩

/-- That the stores hold games is to keep games that a save can hold. -/
theorem Pair.Steady.custody {New : String → Prop} {I : Pair → Prop} (hI : Pair.Steady New I) :
    Pair.Custody New Place.Stored I where
  device h := Memory.keeps_stored_iff.2 (hI.device h)
  cloud h := hI.cloud h
  put_device h hm := hI.put_device h (Memory.keeps_stored_iff.1 hm)
  put_profiles := hI.put_profiles
  new := hI.new
  spend := hI.spend
  put_new := hI.put_new
  put_later := hI.put_later

/-! ## What is asked of the stores -/

namespace Pair.Custody

variable {New : String → Prop} {I : Pair → Prop} {q : Progress} (hI : Pair.Custody New K I)
include hI

theorem save (hq : K .device q) :
    Meets I (Saves.save q : Action StoreError Pair Unit) (fun _ => I) I := by
  apply meets_of_apply
  intro p hp
  rw [Saves.save, Depot.save_pair]
  by_cases hw : (p.side .device).failsWrite = true
  · rw [if_pos hw]
    exact hp
  · rw [if_neg hw]
    exact hI.put_device hp ((hI.device hp).put_state hq)

theorem cached (key : String) :
    Meets I (Saves.cached key : Action StoreError Pair _)
      (fun snapshot p => (∀ q, snapshot = some q → K (.snapshot key) q) ∧ I p) I := by
  apply meets_of_apply
  intro p hp
  obtain ⟨c, hc, hkind⟩ := (hI.device hp).snapshots
  rw [Saves.cached_of_caches hc]
  by_cases hr : p.device.failsRead = true
  · rw [if_pos hr]
    exact hp
  · rw [if_neg hr]
    exact ⟨fun q hq => hkind _ (Entries.mem_of_get?_eq_some hq), hp⟩

theorem keep (hstorable : q.Storable) {key : String} (hq : K (.snapshot key) q) :
    Meets I (Saves.keep key q : Action StoreError Pair Unit) (fun _ => I) I := by
  apply meets_of_apply
  intro p hp
  obtain ⟨c, hc, hkind⟩ := (hI.device hp).snapshots
  rw [Saves.keep_of_caches hc]
  by_cases hf : (p.device.failsRead || p.device.failsWrite) = true
  · rw [if_pos hf]
    exact hp
  · rw [if_neg hf]
    exact hI.put_device hp ((hI.device hp).put_snapshots hc hkind hstorable hq)

-- The record is left open: of a game's record the course of reading would be unfolded.

theorem writeRecord {r : SaveRecord} (hr : ∀ clock, r.progress? clock = some q)
    (hq : K .device q) :
    Meets I (Saves.writeRecord r : Action StoreError Pair Unit) (fun _ => I) I := by
  apply meets_of_apply
  intro p hp
  rw [Saves.writeRecord_pair, hr]
  dsimp only
  by_cases hw : p.device.failsWrite = true
  · rw [if_pos hw]
    exact hp
  · rw [if_neg hw]
    exact hI.put_device hp ((hI.device hp).put_state hq)

/-- A new profile has a new name. -/
theorem createProfile (name : String) :
    Meets I (Remote.createProfile name : Action AccountError Pair _)
      (fun profile p => New profile.id ∧ I p) I := by
  refine meets_bind (meets_adapt Remote.meets_reach) fun _ => ?_
  refine meets_bind (meets_adapt Remote.meets_profiles) fun known => ?_
  have hcreate : Meets I
      (do
        let profile : Profile := ⟨Depot.nextId (← get), Username.normalize name⟩
        let text := Remote.profilesText (known.insert (Username.normalize name) profile)
        ExceptT.adapt .store (Depot.save .cloud Remote.profilesKey text)
        modify Depot.spendId
        return profile : Action AccountError Pair Profile)
      (fun profile p => New profile.id ∧ I p) I := by
    apply meets_get_bind
    intro p hp
    have hnew : New (p.cloud.naming p.cloud.created) := hI.new hp
    have hsave : ∀ text, Meets (· = p)
        (Depot.save .cloud Remote.profilesKey text : Action StoreError Pair Unit)
        (fun _ => I) I := by
      intro text
      apply meets_of_apply
      intro s hs
      rw [hs, Depot.save_pair]
      by_cases hw : (p.side .cloud).failsWrite = true
      · rw [if_pos hw]
        exact hp
      · rw [if_neg hw]
        exact hI.put_profiles text hp
    refine meets_bind (meets_adapt (hsave _)) fun _ => ?_
    refine meets_bind (meets_modify fun s hs => ?_) fun _ => meets_pure fun s hs => ⟨hnew, hs⟩
    exact hI.spend hs
  dsimp only
  split
  · exact meets_bind (meets_throw (Q := fun _ => I) fun _ h => h) fun _ => hcreate
  · exact hcreate

end Pair.Custody

/-! ## Reconciling -/

/-- What the cloud answers is its save of the profile, if it has one. -/
theorem Cloud.Keeps.cases_of_fetch (hK : Place.Lasting T K) {p p' : Pair} {id : String}
    {r : Except SyncError (Option SaveRecord)} (h : p.cloud.Keeps K)
    (hf : (Remote.fetch id : Action SyncError Pair _) p = (r, p')) :
    p' = p ∧ ∀ fetched, r = .ok fetched →
      (fetched = none ∧ p.cloud.stamp? id = none) ∨
        ∃ q, K (.cloud id) q ∧ fetched = some (.ofProgress q) ∧
          p.cloud.stamp? id = some q.updatedAt := by
  rw [Remote.fetch_pair] at hf
  by_cases ho : p.cloud.online = false
  · rw [if_pos ho] at hf
    cases hf
    exact ⟨rfl, nofun⟩
  · rw [if_neg ho] at hf
    by_cases hr : p.cloud.store.failsRead = true
    · rw [if_pos hr] at hf
      cases hf
      exact ⟨rfl, nofun⟩
    · rw [if_neg hr] at hf
      cases ht : p.cloud.store.entries.get? (Remote.saveKey id) with
      | none =>
        rw [ht] at hf
        cases hf
        refine ⟨rfl, fun fetched hfetched => .inl ?_⟩
        cases hfetched
        exact ⟨rfl, by rw [Cloud.stamp?, ht]; rfl⟩
      | some text =>
        obtain ⟨q, hq, rfl⟩ := h id text ht
        have hstamp := Cloud.stamp?_of_get? (hK.storable hq) ht
        rw [ht] at hf
        simp only [SaveRecord.ofText?_toText (hK.storable hq)] at hf
        obtain ⟨rfl, rfl⟩ := Prod.mk.inj hf
        refine ⟨rfl, fun fetched hfetched => .inr ⟨q, hq, ?_, hstamp⟩⟩
        exact (Except.ok.inj hfetched).symm

namespace Link

variable {l l' : Link Pair} {id : String} {p : Progress} {New : String → Prop} {I : Pair → Prop}

/-- What wins against the save of the cloud is of the kind, and is not older. -/
theorem exists_kind_of_mergeSaves {fetched : Option SaveRecord} {m : Merged} {c : Cloud}
    (hp : K (.cloud id) p)
    (hfetched : (fetched = none ∧ c.stamp? id = none) ∨
      ∃ q, K (.cloud id) q ∧ fetched = some (.ofProgress q) ∧ c.stamp? id = some q.updatedAt)
    (hm : mergeSaves (some (.ofProgress p)) fetched = some m) :
    ∃ q, K (.cloud id) q ∧ m.record = .ofProgress q ∧
      ∀ t, c.stamp? id = some t → q.updatedAt.before t = false := by
  rcases hfetched with ⟨rfl, hstamp⟩ | ⟨q, hq, rfl, hstamp⟩
  · cases hm
    refine ⟨p, hp, rfl, fun t ht => ?_⟩
    rw [hstamp] at ht
    cases ht
  · rcases mergeSaves_eq_some hm with ⟨hown, -, hle⟩ | ⟨hcloud, -, -⟩
    · refine ⟨p, hp, (Option.some.inj hown).symm, fun t ht => ?_⟩
      have hpq := hle _ rfl
      rw [← Option.some.inj hown] at hpq
      rw [hstamp] at ht
      rw [← Option.some.inj ht]
      exact hpq
    · refine ⟨q, hq, (Option.some.inj hcloud).symm, fun t ht => ?_⟩
      rw [hstamp] at ht
      rw [← Option.some.inj ht]
      exact q.updatedAt.before_irrefl

end Link

namespace Pair.Custody

variable {New : String → Prop} {I : Pair → Prop} {l l' : Link Pair} {id : String} {p : Progress}

/-- A reconciliation keeps to the condition on the stores. -/
theorem reconcile (hI : Pair.Custody New K I) (hK : Place.Lasting T K) (h : I l.depot)
    (hp : K (.cloud id) p) : I (Link.reconcile id (some (.ofProgress p)) l).2.depot := by
  rw [Link.reconcile_apply]
  by_cases hc : l.configured = true
  · rw [if_pos hc]
    rcases hf : (Remote.fetch id : Action SyncError Pair _) l.depot with ⟨e | fetched, d⟩
    · obtain ⟨rfl, -⟩ := (hI.cloud h).cases_of_fetch hK hf
      exact h
    obtain ⟨rfl, hfetched⟩ := (hI.cloud h).cases_of_fetch hK hf
    dsimp only
    rcases hm : mergeSaves (some (.ofProgress p)) fetched with _ | m
    · exact h
    obtain ⟨q, hq, hrecord, hle⟩ := Link.exists_kind_of_mergeSaves hp (hfetched _ rfl) hm
    have hread : ∀ clock, m.record.progress? clock = some q.repair := by
      intro clock
      rw [hrecord, SaveRecord.progress?_ofProgress (hK.storable hq)]
    have hkept : Meets I (Saves.writeRecord m.record : Action StoreError Pair Unit) (fun _ => I) I :=
      hI.writeRecord hread (hK.repair (hK.restore hq))
    have hcloud := Saves.cloud_writeRecord m.record l.depot
    dsimp only
    rcases hw : (Saves.writeRecord m.record : Action StoreError Pair Unit) l.depot with ⟨e | u, d⟩
    · exact hkept.error h hw
    rw [hw] at hcloud
    have hd := hkept.ok h hw
    dsimp only
    by_cases hs : m.source = .device
    · have hpush : I (Link.push id m.record { l with depot := d }).2.depot := by
        rw [hrecord]
        refine Link.keeps_push (l := { l with depot := d }) hd ?_
        refine hI.put_later hd hq fun t ht => hle t ?_
        rw [show d.cloud = l.depot.cloud from hcloud] at ht
        exact ht
      rw [if_pos hs]
      rcases hpushed : Link.push id m.record { l with depot := d } with ⟨e | _, l'⟩
      · rw [hpushed] at hpush
        exact hpush
      · rw [hpushed] at hpush
        exact hpush
    · rw [if_neg hs]
      exact hd
  · rw [if_neg hc]
    exact h

/-- A reconciliation settles on a game of the kind. -/
theorem exists_of_reconcile (hI : Pair.Custody New K I) (hK : Place.Lasting T K) (h : I l.depot)
    (hp : K (.cloud id) p) {m : Merged}
    (hm : Link.reconcile id (some (.ofProgress p)) l = (.ok (some m), l')) :
    ∃ q, K (.cloud id) q ∧ m.record = .ofProgress q := by
  obtain ⟨fetched, d, d', hf, hmerge, -, -⟩ := Link.exists_of_reconcile_eq_some hm
  obtain ⟨rfl, hfetched⟩ := (hI.cloud h).cases_of_fetch hK hf
  obtain ⟨q, hq, hrecord, -⟩ := Link.exists_kind_of_mergeSaves hp (hfetched _ rfl) hmerge
  exact ⟨q, hq, hrecord⟩

end Pair.Custody

end Questline
