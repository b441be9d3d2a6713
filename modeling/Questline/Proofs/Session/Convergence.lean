import Questline.Proofs.Progress.Sound
import Questline.Proofs.Session.Interleaving
set_option autoImplicit false

/-!
# Devices that reconcile until they agree

Devices reconcile the saves they keep with the cloud, one after the other and in any order.  A
pass makes the device and the cloud agree on the later of their two saves, so two rounds bring
the latest of all saves to every device.

What a pass does to the texts in the stores is said in terms of the games they are the saves of:
`Fleet.Keeps` names the save of each device and that of the cloud, and a pass changes both into
`Progress.later` of the two.
-/

namespace Questline

open Time (Instant)
open Questline.Action

/-! ## The later save -/

namespace Progress

variable {q m : Progress} {own top : Option Progress}

/-- The later of two saves, if there is one; the first wins a tie. -/
def later : Option Progress → Option Progress → Option Progress
  | none, q => q
  | some p, none => some p
  | some p, some q => if p.updatedAt.before q.updatedAt then some q else some p

/-- What wins is the record of the later save. -/
theorem mergeSaves_map (own top : Option Progress) :
    (mergeSaves (own.map .ofProgress) (top.map .ofProgress)).map Merged.record =
      (later own top).map .ofProgress := by
  rcases own with _ | p <;> rcases top with _ | q
  · rfl
  · rfl
  · rfl
  · simp only [Option.map_some, mergeSaves, later, SaveRecord.ofProgress]
    split <;> rfl

theorem later_eq_or (own top : Option Progress) : later own top = own ∨ later own top = top := by
  rcases own with _ | p <;> rcases top with _ | q
  · exact .inl rfl
  · exact .inr rfl
  · exact .inl rfl
  · rw [later]
    split
    · exact .inr rfl
    · exact .inl rfl

theorem sound_later (hown : ∀ p, own = some p → p.Sound) (htop : ∀ p, top = some p → p.Sound) :
    ∀ p, later own top = some p → p.Sound := by
  intro p hp
  rcases later_eq_or own top with heq | heq
  · exact hown p (heq.symm.trans hp)
  · exact htop p (heq.symm.trans hp)

/-- Only if there is none there is no later one. -/
theorem eq_none_of_later (h : later own top = none) : own = none ∧ top = none := by
  rcases own with _ | p <;> rcases top with _ | q
  · exact ⟨rfl, rfl⟩
  · cases h
  · cases h
  · rw [later] at h
    split at h <;> cases h

/-- The later save is not before the second one. -/
theorem exists_later (own : Option Progress) (q : Progress) :
    ∃ w, later own (some q) = some w ∧ w.updatedAt.before q.updatedAt = false := by
  cases own with
  | none => exact ⟨q, rfl, q.updatedAt.before_irrefl⟩
  | some p =>
    rw [later]
    cases hb : p.updatedAt.before q.updatedAt with
    | true => exact ⟨q, rfl, q.updatedAt.before_irrefl⟩
    | false => exact ⟨p, rfl, hb⟩

/-- The save is the other one or an earlier one. -/
def UpTo (m q : Progress) : Prop := q = m ∨ q.updatedAt.before m.updatedAt = true

theorem UpTo.not_before (h : UpTo m q) : m.updatedAt.before q.updatedAt = false := by
  rcases h with rfl | hb
  · exact q.updatedAt.before_irrefl
  · cases hb' : m.updatedAt.before q.updatedAt with
    | false => rfl
    | true => exact (Instant.before_trans hb hb').symm.trans q.updatedAt.before_irrefl

theorem later_eq_left (h : ∀ q, top = some q → UpTo m q) : later (some m) top = some m := by
  cases top with
  | none => rfl
  | some q => rw [later, (h q rfl).not_before, if_neg Bool.false_ne_true]

theorem later_eq_right (h : ∀ p, own = some p → UpTo m p) : later own (some m) = some m := by
  cases own with
  | none => rfl
  | some p =>
    rcases h p rfl with rfl | hb
    · rw [later, p.updatedAt.before_irrefl, if_neg Bool.false_ne_true]
    · rw [later, hb, if_pos rfl]

/-- Among saves of different times one is the latest. -/
theorem exists_latest {l : List Progress} (hne : l ≠ [])
    (hsame : ∀ p ∈ l, ∀ q ∈ l, p.updatedAt = q.updatedAt → p = q) :
    ∃ m ∈ l, ∀ q ∈ l, UpTo m q := by
  induction l with
  | nil => exact absurd rfl hne
  | cons p l ih =>
    by_cases hl : l = []
    · subst hl
      exact ⟨p, List.mem_cons_self, fun q hq => .inl (List.mem_singleton.1 hq)⟩
    obtain ⟨m, hm, hlatest⟩ := ih hl fun q hq r hr =>
      hsame q (List.mem_cons_of_mem _ hq) r (List.mem_cons_of_mem _ hr)
    have hmem := List.mem_cons_of_mem p hm
    by_cases heq : p.updatedAt = m.updatedAt
    · obtain rfl := hsame p List.mem_cons_self m hmem heq
      exact ⟨p, hmem, fun q hq => (List.mem_cons.1 hq).elim .inl (hlatest q)⟩
    rcases Instant.before_or_before_of_ne heq with hb | hb
    · exact ⟨m, hmem, fun q hq => (List.mem_cons.1 hq).elim (fun h => .inr (h ▸ hb)) (hlatest q)⟩
    · refine ⟨p, List.mem_cons_self, fun q hq => (List.mem_cons.1 hq).elim .inl fun hq => ?_⟩
      rcases hlatest q hq with rfl | hb'
      · exact .inr hb
      · exact .inr (Instant.before_trans hb' hb)

end Progress

/-! ## One pass -/

/-- The save that is kept on a device that can be read, as a record. -/
theorem Saves.loadRecord_of_text {p : Pair} {own : Option Progress}
    (htext : p.device.entries.get? stateKey = own.map Progress.toText)
    (hsound : ∀ q, own = some q → q.Sound) :
    (loadRecord : Action StoreError Pair _) p =
      if p.device.failsRead then (.error (.io stateKey .injected), p)
      else (.ok (own.map .ofProgress), p) := by
  rw [loadRecord, bind_apply, load_pair]
  cases hr : p.device.failsRead with
  | true => rfl
  | false =>
    simp only [Bool.false_eq_true, if_false, htext]
    cases own with
    | none => rfl
    | some q =>
      have hq := hsound q rfl
      simp only [Option.map_some, Progress.ofText?_toText hq.toStorable, hq.repair_eq_self]
      rfl

/-- What the cloud answers if it answers. -/
theorem Remote.fetch_of_text {p p' : Pair} {id : String} {top : Option Progress}
    {fetched : Option SaveRecord}
    (htext : p.cloud.text? id = top.map fun q => (SaveRecord.ofProgress q).toText)
    (hsound : ∀ q, top = some q → q.Sound)
    (h : (fetch id : Action SyncError Pair _) p = (.ok fetched, p')) :
    fetched = top.map .ofProgress ∧ p = p' := by
  rw [fetch_pair] at h
  split at h
  · cases h
  · split at h
    · cases h
    · rw [show p.cloud.store.entries.get? (saveKey id) = _ from htext] at h
      cases top with
      | none =>
        cases h
        exact ⟨rfl, rfl⟩
      | some q =>
        simp only [Option.map_some, SaveRecord.ofText?_toText (hsound q rfl).toStorable] at h
        obtain ⟨hfetched, rfl⟩ := Prod.mk.inj h
        exact ⟨(Except.ok.inj hfetched).symm, rfl⟩

namespace Link

/-- A device reconciles the save that it keeps. -/
def settle {w : Type} [Depot w] (id : String) : Action SyncError (Link w) (Option Merged) := do
  let own ← onDepot (ExceptT.adapt .store Saves.loadRecord)
  reconcile id own

/-- The device keeps the one save and the cloud has the other for the profile; both are in
order. -/
structure Stores (p : Pair) (id : String) (own top : Option Progress) : Prop where
  ownText : p.device.entries.get? Saves.stateKey = own.map Progress.toText
  topText : p.cloud.text? id = top.map fun q => (SaveRecord.ofProgress q).toText
  ownSound : ∀ q, own = some q → q.Sound
  topSound : ∀ q, top = some q → q.Sound

/-- What a pass leaves: both sides have this save, and else nothing has changed. -/
structure Agrees (p : Pair) (id : String) (w : Option Progress) (p' : Pair) : Prop where
  reads : p.device.failsRead = false
  own : p'.device.entries.get? Saves.stateKey = w.map Progress.toText
  top : p'.cloud.text? id = w.map fun q => (SaveRecord.ofProgress q).toText
  readsAfter : p'.device.failsRead = p.device.failsRead
  works : p.Works → p'.Works

variable {p : Pair} {id : String} {own top : Option Progress} {pending : Bool} {m : Option Merged}
  {l : Link Pair}

/-- The save is kept on the device, where the cloud has it. -/
theorem agrees_put_device (hr : p.device.failsRead = false) {w : Progress}
    (htext : p.cloud.text? id = some (SaveRecord.ofProgress w).toText) :
    Agrees p id (some w) (p.put .device Saves.stateKey w.toText) :=
  ⟨hr, p.get?_put_self .device Saves.stateKey w.toText, htext, rfl, fun h => h.put ..⟩

/-- The save is kept on the device and put into the cloud. -/
theorem agrees_put_both (hr : p.device.failsRead = false) (w : Progress) :
    Agrees p id (some w) ((p.put .device Saves.stateKey w.toText).put .cloud (Remote.saveKey id)
      (SaveRecord.ofProgress w).toText) :=
  ⟨hr, p.get?_put_self .device Saves.stateKey w.toText, Pair.text?_put_save_self _ id _, rfl,
    fun h => (h.put ..).put ..⟩

/-- A reconciliation that succeeds leaves the later save on both sides, and answers its
record. -/
theorem agrees_of_reconcile (h : Stores p id own top) (hr : p.device.failsRead = false)
    (hreconcile : reconcile id (own.map .ofProgress) ⟨p, true, pending⟩ = (.ok m, l)) :
    m.map Merged.record = (Progress.later own top).map .ofProgress ∧
      Agrees p id (Progress.later own top) l.depot := by
  have hmerge := Progress.mergeSaves_map own top
  cases m with
  | none =>
    obtain ⟨fetched, d, hf, hm, rfl⟩ := exists_of_reconcile_eq_none hreconcile
    obtain ⟨rfl, rfl⟩ := Remote.fetch_of_text h.topText h.topSound hf
    rw [hm, Option.map_none] at hmerge
    have hlater : Progress.later own top = none := Option.map_eq_none_iff.1 hmerge.symm
    obtain ⟨rfl, rfl⟩ := Progress.eq_none_of_later hlater
    exact ⟨rfl, hr, h.ownText, h.topText, rfl, fun hp => hp⟩
  | some m =>
    obtain ⟨fetched, d, d', hf, hm, hw, hend⟩ := exists_of_reconcile_eq_some hreconcile
    obtain ⟨rfl, rfl⟩ := Remote.fetch_of_text h.topText h.topSound hf
    rw [hm, Option.map_some] at hmerge
    obtain ⟨w, hlater, hrecord⟩ := Option.map_eq_some_iff.1 hmerge.symm
    have hsound := Progress.sound_later h.ownSound h.topSound w hlater
    have hread : ∀ clock, m.record.progress? clock = some w := by
      intro clock
      rw [← hrecord, SaveRecord.progress?_ofProgress hsound.toStorable, hsound.repair_eq_self]
    rw [Saves.writeRecord_pair, hread] at hw
    dsimp only at hw
    split at hw
    · cases hw
    cases hw
    rw [hlater]
    refine ⟨by rw [Option.map_some, Option.map_some, hrecord], ?_⟩
    by_cases hs : m.source = .device
    · rw [if_pos hs, ← hrecord] at hend
      have hdepot := depot_push_of_lands (lands_of_push hend) id (.ofProgress w)
      rw [hend] at hdepot
      dsimp only at hdepot
      rw [hdepot]
      exact agrees_put_both hr w
    · rw [if_neg hs] at hend
      rw [hend]
      refine agrees_put_device hr ?_
      rcases mergeSaves_eq_some hm with ⟨-, hsource, -⟩ | ⟨hcloud, -, -⟩
      · exact absurd hsource hs
      · -- The record that wins is the one that the cloud has.
        refine h.topText.trans ?_
        rw [← Function.comp_def, ← Option.map_map, hcloud, ← hrecord]
        rfl

/-- A pass that succeeds is a reconciliation of the save that the device keeps. -/
theorem agrees_of_settle (h : Stores p id own top)
    (hsettle : settle id ⟨p, true, pending⟩ = (.ok m, l)) :
    m.map Merged.record = (Progress.later own top).map .ofProgress ∧
      Agrees p id (Progress.later own top) l.depot := by
  obtain ⟨record, l₁, hload, hreconcile⟩ := exists_of_bind_eq_ok hsettle
  rw [onDepot_apply, adapt_apply, Saves.loadRecord_of_text h.ownText h.ownSound] at hload
  cases hr : p.device.failsRead with
  | true =>
    simp only [hr, if_true] at hload
    cases hload
  | false =>
    simp only [hr, Bool.false_eq_true, if_false] at hload
    cases hload
    exact agrees_of_reconcile h hr hreconcile

/-- Where no store fails, a pass succeeds. -/
theorem exists_settle (h : Stores p id own top) (hworks : p.Works) (pending : Bool) :
    ∃ m l, settle id ⟨p, true, pending⟩ = (.ok m, l) := by
  have hload : (onDepot (ExceptT.adapt .store Saves.loadRecord) : Action SyncError (Link Pair) _)
      ⟨p, true, pending⟩ = (.ok (own.map .ofProgress), ⟨p, true, pending⟩) := by
    rw [onDepot_apply, adapt_apply, Saves.loadRecord_of_text h.ownText h.ownSound, hworks.reads]
    rfl
  have hfetch : (Remote.fetch id : Action SyncError Pair _) p = (.ok (top.map .ofProgress), p) := by
    rw [Remote.fetch_pair, hworks.online, hworks.cloudReads]
    simp only [Bool.true_eq_false, Bool.false_eq_true, if_false]
    rw [show p.cloud.store.entries.get? (Remote.saveKey id) = _ from h.topText]
    cases top with
    | none => rfl
    | some q => simp only [Option.map_some, SaveRecord.ofText?_toText (h.topSound q rfl).toStorable]
  rw [settle, bind_eq_of_ok hload, reconcile_apply, if_pos rfl, hfetch]
  dsimp only
  have hmerge := Progress.mergeSaves_map own top
  rcases hm : mergeSaves (own.map .ofProgress) (top.map .ofProgress) with _ | m
  · exact ⟨_, _, rfl⟩
  rw [hm, Option.map_some] at hmerge
  obtain ⟨w, hlater, hrecord⟩ := Option.map_eq_some_iff.1 hmerge.symm
  have hstorable := (Progress.sound_later h.ownSound h.topSound w hlater).toStorable
  have hread : ∀ clock, m.record.progress? clock = some w.repair := by
    intro clock
    rw [← hrecord, SaveRecord.progress?_ofProgress hstorable]
  dsimp only
  rw [Saves.writeRecord_pair, hread, hworks.writes]
  dsimp only
  rw [if_neg Bool.false_ne_true]
  dsimp only
  have hlands : Lands ⟨p.put .device Saves.stateKey w.repair.toText, true, pending⟩ :=
    ⟨rfl, hworks.online, hworks.cloudWrites⟩
  rw [push_of_lands hlands]
  split <;> exact ⟨_, _, rfl⟩

end Link

/-! ## Any number of passes -/

namespace Fleet

variable {f f' : Fleet} {names ns : List String} {id name : String}
  {own : String → Option Progress} {top : Option Progress} {m : Option Merged}

/-- A device has reconciled its save, and settled on this. -/
def Reconciles (f : Fleet) (id name : String) (m : Option Merged) (f' : Fleet) : Prop :=
  ∃ pending l, Link.settle id ⟨f.surroundings name, true, pending⟩ = (.ok m, l) ∧
    f' = f.absorb name l.depot (f.device name).session

/-- Devices have reconciled their saves, one after the other. -/
inductive Passes (id : String) : Fleet → List String → Fleet → Prop
  | nil (f : Fleet) : Passes id f [] f
  | cons {f f' f'' : Fleet} {name : String} {ns : List String} {m : Option Merged} :
      f.Reconciles id name m f' → Passes id f' ns f'' → Passes id f (name :: ns) f''

/-- These devices keep these saves, and the cloud has this one; all are in order. -/
structure Keeps (f : Fleet) (names : List String) (id : String) (own : String → Option Progress)
    (top : Option Progress) : Prop where
  ownText : ∀ name ∈ names,
    (f.device name).store.entries.get? Saves.stateKey = (own name).map Progress.toText
  topText : f.cloud.text? id = top.map fun q => (SaveRecord.ofProgress q).toText
  ownSound : ∀ name ∈ names, ∀ q, own name = some q → q.Sound
  topSound : ∀ q, top = some q → q.Sound

theorem Keeps.stores (h : f.Keeps names id own top) (hname : name ∈ names) :
    Link.Stores (f.surroundings name) id (own name) top :=
  ⟨h.ownText name hname, h.topText, h.ownSound name hname, h.topSound⟩

/-- The saves after a pass. -/
def passed (own : String → Option Progress) (top : Option Progress) (name : String) :
    String → Option Progress := fun n =>
  if n = name then Progress.later (own name) top else own n

theorem passed_self (own : String → Option Progress) (top : Option Progress) (name : String) :
    passed own top name name = Progress.later (own name) top := if_pos rfl

theorem passed_of_ne (own : String → Option Progress) (top : Option Progress) {name n : String}
    (h : n ≠ name) : passed own top name n = own n := if_neg h

/-- A pass makes both sides keep the later save, and leaves the other devices alone. -/
theorem Keeps.reconciles (h : f.Keeps names id own top) (hname : name ∈ names)
    (hr : f.Reconciles id name m f') :
    m.map Merged.record = (Progress.later (own name) top).map .ofProgress ∧
      f'.Keeps names id (passed own top name) (Progress.later (own name) top) ∧
      (f'.device name).store.failsRead = false ∧
      ∀ n, (f'.device n).store.failsRead = (f.device n).store.failsRead := by
  obtain ⟨pending, l, hsettle, rfl⟩ := hr
  obtain ⟨hrecord, hagrees⟩ := Link.agrees_of_settle (h.stores hname) hsettle
  have hsound := Progress.sound_later (h.ownSound name hname) h.topSound
  have hself := f.device_absorb_self name l.depot (f.device name).session
  have hother : ∀ n, n ≠ name →
      (f.absorb name l.depot (f.device name).session).device n = f.device n := fun n hn =>
    f.device_absorb_of_ne hn l.depot (f.device name).session
  refine ⟨hrecord, ⟨fun n hn => ?_, hagrees.top, fun n hn q hq => ?_, hsound⟩, ?_, fun n => ?_⟩
  · by_cases heq : n = name
    · rw [heq, hself, passed_self]
      exact hagrees.own
    · rw [hother n heq, passed_of_ne own top heq]
      exact h.ownText n hn
  · by_cases heq : n = name
    · rw [heq, passed_self] at hq
      exact hsound q hq
    · rw [passed_of_ne own top heq] at hq
      exact h.ownSound n hn q hq
  · rw [hself]
    exact hagrees.readsAfter.trans hagrees.reads
  · by_cases heq : n = name
    · rw [heq, hself]
      exact hagrees.readsAfter
    · rw [hother n heq]

/-- A save that one of the devices keeps, or the cloud. -/
def Present (names : List String) (own : String → Option Progress) (top : Option Progress)
    (q : Progress) : Prop :=
  top = some q ∨ ∃ name ∈ names, own name = some q

theorem present_of_passed (hname : name ∈ names) {q : Progress}
    (h : Present names (passed own top name) (Progress.later (own name) top) q) :
    Present names own top q := by
  have hlater : Progress.later (own name) top = some q → Present names own top q := by
    intro hq
    rcases Progress.later_eq_or (own name) top with heq | heq
    · exact .inr ⟨name, hname, heq.symm.trans hq⟩
    · exact .inl (heq.symm.trans hq)
  rcases h with htop | ⟨n, hn, hown⟩
  · exact hlater htop
  · by_cases heq : n = name
    · rw [heq, passed_self] at hown
      exact hlater hown
    · rw [passed_of_ne own top heq] at hown
      exact .inr ⟨n, hn, hown⟩

/-- What becomes of the latest of all saves: the cloud gets it by the first pass of a device that
has it, and each device by the first pass after that. -/
theorem Passes.brings {q : Progress} (hp : Passes id f ns f') (h : f.Keeps names id own top)
    (hns : ∀ n ∈ ns, n ∈ names) (hlatest : ∀ r, Present names own top r → Progress.UpTo q r) :
    ∃ own' top', f'.Keeps names id own' top' ∧
      (∀ r, Present names own' top' r → Present names own top r) ∧
      (∀ n, (f'.device n).store.failsRead = (f.device n).store.failsRead) ∧
      (∀ n ∈ ns, (f'.device n).store.failsRead = false) ∧
      (∀ n ∈ names, own n = some q → own' n = some q) ∧
      (top = some q ∨ (∃ n ∈ ns, own n = some q) → top' = some q) ∧
      (top = some q → ∀ n ∈ ns, own' n = some q) := by
  induction hp generalizing own top with
  | nil f =>
    exact ⟨own, top, h, fun _ hr => hr, fun _ => rfl, nofun, fun _ _ hn => hn,
      fun hq => hq.elim (fun h => h) fun ⟨n, hn, _⟩ => absurd hn List.not_mem_nil, fun _ => nofun⟩
  | @cons f f₁ f'' name ns m hr hp ih =>
    have hname := hns name List.mem_cons_self
    obtain ⟨-, hkeeps, hreads, hsame⟩ := h.reconciles hname hr
    have hpresent : ∀ r, Present names (passed own top name) (Progress.later (own name) top) r →
        Present names own top r := fun r hr => present_of_passed hname hr
    have hown : ∀ n ∈ names, own n = some q → passed own top name n = some q := by
      intro n hn hq
      by_cases heq : n = name
      · subst heq
        rw [passed_self, hq]
        exact Progress.later_eq_left fun r hr => hlatest r (.inl hr)
      · rw [passed_of_ne own top heq, hq]
    have htop : top = some q → Progress.later (own name) top = some q := by
      intro hq
      rw [hq]
      exact Progress.later_eq_right fun r hr => hlatest r (.inr ⟨name, hname, hr⟩)
    obtain ⟨own', top', hkeeps', hpresent', hsame', hreads', hown', htop', hall'⟩ :=
      ih hkeeps (fun n hn => hns n (List.mem_cons_of_mem _ hn)) fun r hr =>
        hlatest r (hpresent r hr)
    refine ⟨own', top', hkeeps', fun r hr => hpresent r (hpresent' r hr),
      fun n => (hsame' n).trans (hsame n), fun n hn => ?_, fun n hn hq => hown' n hn (hown n hn hq),
      fun hq => htop' ?_, fun hq n hn => ?_⟩
    · rcases List.mem_cons.1 hn with rfl | hn
      · exact (hsame' n).trans hreads
      · exact hreads' n hn
    · rcases hq with hq | ⟨n, hn, hq⟩
      · exact .inl (htop hq)
      · rcases List.mem_cons.1 hn with rfl | hn
        · refine .inl ?_
          rw [← passed_self own top n]
          exact hown n hname hq
        · exact .inr ⟨n, hn, hown n (hns n (List.mem_cons_of_mem _ hn)) hq⟩
    · rcases List.mem_cons.1 hn with rfl | hn
      · refine hown' n hname ?_
        rw [passed_self]
        exact htop hq
      · exact hall' (htop hq) n hn

/-- What a device that keeps a save and can be read has in store. -/
theorem Keeps.loadRecord (h : f.Keeps names id own top) (hname : name ∈ names)
    (hreads : (f.device name).store.failsRead = false) :
    ((Saves.loadRecord : Action StoreError Pair _) (f.surroundings name)).1 =
      .ok ((own name).map .ofProgress) := by
  have hpair : (f.surroundings name).device.failsRead = false := hreads
  rw [Saves.loadRecord_of_text (h.ownText name hname) (h.ownSound name hname), hpair]
  rfl

theorem Keeps.record? (h : f.Keeps names id own top) :
    f.cloud.record? id = top.map .ofProgress := by
  have htext := h.topText
  cases top with
  | none => rw [Cloud.record?, htext, Option.map_none, Option.map_none, Option.bind_none]
  | some q => exact Cloud.record?_of_text? (h.topSound q rfl).toStorable htext

/-- Whatever passes there have been, the stores keep saves. -/
theorem Passes.keeps (hp : Passes id f ns f') (h : f.Keeps names id own top)
    (hns : ∀ n ∈ ns, n ∈ names) : ∃ own' top', f'.Keeps names id own' top' := by
  induction hp generalizing own top with
  | nil f => exact ⟨own, top, h⟩
  | cons hr hp ih =>
    have hkeeps := (h.reconciles (hns _ List.mem_cons_self) hr).2.1
    exact ih hkeeps fun n hn => hns n (List.mem_cons_of_mem _ hn)

/-- A pass makes device, cloud and answer agree, on a save that is not before the cloud's. -/
theorem Keeps.agree (h : f.Keeps names id own top) (hname : name ∈ names)
    (hr : f.Reconciles id name m f') :
    ((Saves.loadRecord : Action StoreError Pair _) (f'.surroundings name)).1 =
        .ok (m.map Merged.record) ∧
      f'.cloud.record? id = m.map Merged.record ∧ f.cloud.Ascends id f'.cloud := by
  obtain ⟨hrecord, hkeeps, hreads, -⟩ := h.reconciles hname hr
  have hload := hkeeps.loadRecord hname hreads
  rw [passed_self, ← hrecord] at hload
  refine ⟨hload, hkeeps.record?.trans hrecord.symm, fun t ht => ?_⟩
  have hbefore : f.cloud.stamp? id = (f.cloud.record? id).map SaveRecord.updatedAt := rfl
  have hafter : f'.cloud.stamp? id = (f'.cloud.record? id).map SaveRecord.updatedAt := rfl
  rw [hbefore, h.record?] at ht
  cases top with
  | none => cases ht
  | some q =>
    cases ht
    obtain ⟨w, hw, hle⟩ := Progress.exists_later (own name) q
    refine ⟨w.updatedAt, ?_, hle⟩
    rw [hafter, hkeeps.record?, hw]
    rfl

/-- Nothing fails around a device if nothing failed around the one that was there last. -/
theorem works_absorb {p : Pair} (hp : p.Works) {n : String} {session : Option (Session Pair)}
    (hother : n ≠ name →
      (f.device n).store.failsRead = false ∧ (f.device n).store.failsWrite = false) :
    ((f.absorb name p session).surroundings n).Works := by
  rw [surroundings]
  by_cases heq : n = name
  · subst heq
    rw [device_absorb_self]
    exact ⟨hp.reads, hp.writes, hp.online, hp.cloudReads, hp.cloudWrites⟩
  · rw [device_absorb_of_ne f heq]
    exact ⟨(hother heq).1, (hother heq).2, hp.online, hp.cloudReads, hp.cloudWrites⟩

/-- Where no store fails, every device can make a pass, and no store fails after it. -/
theorem Keeps.exists_reconciles (h : f.Keeps names id own top) (hname : name ∈ names)
    (hworks : ∀ n ∈ names, (f.surroundings n).Works) :
    ∃ m f', f.Reconciles id name m f' ∧ ∀ n ∈ names, (f'.surroundings n).Works := by
  obtain ⟨m, l, hsettle⟩ := Link.exists_settle (h.stores hname) (hworks name hname) false
  have hafter := (Link.agrees_of_settle (h.stores hname) hsettle).2.works (hworks name hname)
  refine ⟨m, _, ⟨false, l, hsettle, rfl⟩, fun n hn => ?_⟩
  exact works_absorb hafter fun _ => ⟨(hworks n hn).reads, (hworks n hn).writes⟩

/-- Where no store fails, the devices can make passes in any order. -/
theorem Keeps.exists_passes (h : f.Keeps names id own top) (ns : List String)
    (hns : ∀ n ∈ ns, n ∈ names) (hworks : ∀ n ∈ names, (f.surroundings n).Works) :
    ∃ f', Passes id f ns f' ∧ ∀ n ∈ names, (f'.surroundings n).Works := by
  induction ns generalizing f own top with
  | nil => exact ⟨f, .nil f, hworks⟩
  | cons name ns ih =>
    have hname := hns name List.mem_cons_self
    obtain ⟨m, f₁, hr, hworks₁⟩ := h.exists_reconciles hname hworks
    have hkeeps := (h.reconciles hname hr).2.1
    obtain ⟨f', hp, hworks'⟩ := ih hkeeps (fun n hn => hns n (List.mem_cons_of_mem _ hn)) hworks₁
    exact ⟨f', .cons hr hp, hworks'⟩

/-- Devices that keep saves of different times, and reconcile them with the cloud in any order:
each pass makes both sides agree, and no pass brings an older save to the cloud.  Once every
device has made a pass, the cloud has the latest of all saves, and once each has made one more,
every device has it too. -/
theorem converges (h : f.Keeps names id own top)
    (hdistinct : ∀ p q, Present names own top p → Present names own top q →
      p.updatedAt = q.updatedAt → p = q)
    (hsome : ∃ q, Present names own top q) :
    (∀ ns g name m g', (∀ n ∈ ns, n ∈ names) → name ∈ names → Passes id f ns g →
      g.Reconciles id name m g' →
        ((Saves.loadRecord : Action StoreError Pair _) (g'.surroundings name)).1 =
            .ok (m.map Merged.record) ∧
          g'.cloud.record? id = m.map Merged.record ∧ g.cloud.Ascends id g'.cloud) ∧
      ∃ q, Present names own top q ∧
        (∀ r, Present names own top r → r = q ∨ r.updatedAt.before q.updatedAt = true) ∧
        ∀ ns g, (∀ n, n ∈ ns ↔ n ∈ names) → Passes id f ns g →
          g.cloud.record? id = some (.ofProgress q) ∧
            ∀ ns' g', (∀ n, n ∈ ns' ↔ n ∈ names) → Passes id g ns' g' →
              g'.cloud.record? id = some (.ofProgress q) ∧
                ∀ name ∈ names,
                  ((Saves.loadRecord : Action StoreError Pair _) (g'.surroundings name)).1 =
                    .ok (some (.ofProgress q)) := by
  refine ⟨fun ns g name m g' hns hname hp hr => ?_, ?_⟩
  · obtain ⟨own', top', hkeeps⟩ := hp.keeps h hns
    exact hkeeps.agree hname hr
  let saves := top.toList ++ names.filterMap own
  have hsaves : ∀ q, q ∈ saves ↔ Present names own top q := by
    intro q
    simp only [saves, List.mem_append, Option.mem_toList, List.mem_filterMap]
    rfl
  obtain ⟨first, hfirst⟩ := hsome
  obtain ⟨q, hq, hlatest⟩ := Progress.exists_latest
    (List.ne_nil_of_mem ((hsaves first).2 hfirst))
    fun p hp q hq => hdistinct p q ((hsaves p).1 hp) ((hsaves q).1 hq)
  have hlatest' : ∀ r, Present names own top r → Progress.UpTo q r := fun r hr =>
    hlatest r ((hsaves r).2 hr)
  have hpresent := (hsaves q).1 hq
  refine ⟨q, hpresent, hlatest', fun ns g hns hp => ?_⟩
  obtain ⟨own', top', hkeeps, hfewer, -, -, -, htop, -⟩ := hp.brings h (fun n => (hns n).1) hlatest'
  have hbrought : top = some q ∨ ∃ n, n ∈ ns ∧ own n = some q :=
    hpresent.imp_right fun ⟨n, hn, hown⟩ => ⟨n, (hns n).2 hn, hown⟩
  obtain rfl : top' = some q := htop hbrought
  refine ⟨hkeeps.record?, fun ns' g' hns' hp' => ?_⟩
  obtain ⟨own'', top'', hkeeps', -, -, hreads, -, htop', hall⟩ :=
    hp'.brings hkeeps (fun n => (hns' n).1) fun r hr => hlatest' r (hfewer r hr)
  obtain rfl : top'' = some q := htop' (.inl rfl)
  refine ⟨hkeeps'.record?, fun name hname => ?_⟩
  have hin := (hns' name).2 hname
  rw [hkeeps'.loadRecord hname (hreads name hin), hall rfl name hin]
  rfl

/-! ### Two devices -/

/-- A store with one text. -/
def storeOf (key text : String) : Memory :=
  { Memory.empty with entries := Keyed.empty.insert key text }

theorem get?_storeOf (key text : String) : (storeOf key text).entries.get? key = some text :=
  Keyed.get?_insert_self ..

/-- Two devices can keep any two saves while the cloud has none. -/
theorem exists_keeps {p q : Progress} (hp : p.Sound) (hq : q.Sound) :
    ∃ (f : Fleet) (own : String → Option Progress),
      f.Keeps ["a", "b"] "profile-1" own none ∧ own "a" = some p ∧ own "b" = some q ∧
      (∀ r, Present ["a", "b"] own none r → r = p ∨ r = q) ∧
      ∀ n ∈ ["a", "b"], (f.surroundings n).Works := by
  let own : String → Option Progress := fun n => if n = "a" then some p else some q
  have hown : ∀ n r, own n = some r → r = p ∨ r = q := by
    intro n r hr
    by_cases ha : n = "a"
    · rw [show own n = some p from if_pos ha] at hr
      exact .inl (Option.some.inj hr).symm
    · rw [show own n = some q from if_neg ha] at hr
      exact .inr (Option.some.inj hr).symm
  let f : Fleet := ⟨.empty, [("a", ⟨storeOf Saves.stateKey p.toText, none⟩),
    ("b", ⟨storeOf Saves.stateKey q.toText, none⟩)], ⟨0, 0⟩, ⟨0, 0⟩, .silent⟩
  have hnone : f.cloud.text? "profile-1" = none := Keyed.get?_empty (Remote.saveKey "profile-1")
  refine ⟨f, own, ⟨fun n hn => ?_, hnone, fun n _ r hr => ?_, fun _ hr => nomatch hr⟩,
    if_pos rfl, if_neg (by decide), fun r hr => ?_, fun n hn => ?_⟩
  · rcases List.mem_cons.1 hn with rfl | hn
    · exact get?_storeOf ..
    · rw [List.mem_singleton.1 hn]
      exact get?_storeOf ..
  · rcases hown n r hr with rfl | rfl
    · exact hp
    · exact hq
  · rcases hr with hr | ⟨n, -, hr⟩
    · cases hr
    · exact hown n r hr
  · rcases List.mem_cons.1 hn with rfl | hn
    · exact ⟨rfl, rfl, rfl, rfl, rfl⟩
    · rw [List.mem_singleton.1 hn]
      exact ⟨rfl, rfl, rfl, rfl, rfl⟩

/-- Two devices with a save each, and a cloud with none: after two rounds both have the later
save. -/
theorem exists_passes_converges :
    ∃ (f g g' : Fleet) (own : String → Option Progress) (p q : Progress),
      f.Keeps ["a", "b"] "profile-1" own none ∧ own "a" = some p ∧ own "b" = some q ∧
      p.updatedAt.before q.updatedAt = true ∧ Passes "profile-1" f ["a", "b"] g ∧
      Passes "profile-1" g ["a", "b"] g' ∧ ∀ name ∈ ["a", "b"],
        ((Saves.loadRecord : Action StoreError Pair _) (g'.surroundings name)).1 =
          .ok (some (.ofProgress q)) := by
  obtain ⟨p, hp, hearly⟩ : ∃ p : Progress, p.Sound ∧ p.updatedAt = ⟨1, 0⟩ :=
    ⟨Progress.fresh ⟨1, 0⟩, (Progress.InPlay.fresh (by decide)).toSound, rfl⟩
  obtain ⟨q, hq, hlate⟩ : ∃ q : Progress, q.Sound ∧ q.updatedAt = ⟨2, 0⟩ :=
    ⟨Progress.fresh ⟨2, 0⟩, (Progress.InPlay.fresh (by decide)).toSound, rfl⟩
  have hbefore : p.updatedAt.before q.updatedAt = true := by
    rw [hearly, hlate]
    decide
  have hne : p.updatedAt ≠ q.updatedAt := by
    rw [hearly, hlate]
    decide
  obtain ⟨f, own, hkeeps, ha, hb, hpresent, hworks⟩ := exists_keeps hp hq
  have hdistinct : ∀ r r', Present ["a", "b"] own none r → Present ["a", "b"] own none r' →
      r.updatedAt = r'.updatedAt → r = r' := by
    intro r r' hr hr' heq
    rcases hpresent r hr with rfl | rfl <;> rcases hpresent r' hr' with rfl | rfl
    · rfl
    · exact absurd heq hne
    · exact absurd heq.symm hne
    · rfl
  have hsome : Present ["a", "b"] own none q :=
    .inr ⟨"b", List.mem_cons_of_mem _ List.mem_cons_self, hb⟩
  obtain ⟨g, hg, hworks'⟩ := hkeeps.exists_passes ["a", "b"] (fun _ hn => hn) hworks
  obtain ⟨own', top', hkeeps'⟩ := hg.keeps hkeeps fun _ hn => hn
  obtain ⟨g', hg', -⟩ := hkeeps'.exists_passes ["a", "b"] (fun _ hn => hn) hworks'
  obtain ⟨-, m, hm, hlatest, hrounds⟩ := converges hkeeps hdistinct ⟨q, hsome⟩
  obtain rfl : m = q := by
    rcases hpresent m hm with rfl | rfl
    · rcases hlatest q hsome with rfl | hafter
      · rfl
      · exact absurd ((Instant.before_trans hbefore hafter).symm.trans m.updatedAt.before_irrefl)
          (by decide)
    · rfl
  obtain ⟨-, hsecond⟩ := hrounds _ g (fun _ => Iff.rfl) hg
  obtain ⟨-, hall⟩ := hsecond _ g' (fun _ => Iff.rfl) hg'
  exact ⟨f, g, g', own, p, m, hkeeps, ha, hb, hbefore, hg, hg', hall⟩

end Fleet

end Questline
