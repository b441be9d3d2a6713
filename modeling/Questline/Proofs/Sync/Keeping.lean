import Questline.Proofs.Progress.Lasting
import Questline.Proofs.Store.Snapshots
import Questline.Proofs.Sync.Cloud
set_option autoImplicit false

/-!
# Stores that keep games of a kind

All texts on a device and in the cloud are those of games, each of the kind that belongs to the
place where it is kept.  This stays so when a text of the kind is put in place of another.
-/

namespace Questline

variable {K : Place → Progress → Prop}

/-- The texts on a device are those of games of the kind. -/
structure Memory.Keeps (K : Place → Progress → Prop) (m : Memory) : Prop where
  game : ∀ text, m.entries.get? Saves.stateKey = some text → ∃ q, K .device q ∧ text = q.toText
  snapshots : ∃ c, m.Caches c ∧ ∀ e ∈ c.entries, K (.snapshot e.1) e.2

/-- The saves in the cloud are those of games of the kind. -/
def Cloud.Keeps (K : Place → Progress → Prop) (c : Cloud) : Prop :=
  ∀ id text, c.text? id = some text →
    ∃ q, K (.cloud id) q ∧ text = (SaveRecord.ofProgress q).toText

namespace Memory

/-- There are no texts on a device that was never used. -/
theorem keeps_empty (K : Place → Progress → Prop) : empty.Keeps K where
  game text h := by
    rw [show empty.entries.get? Saves.stateKey = none from Keyed.get?_empty _] at h
    cases h
  snapshots := by
    refine ⟨.empty, ⟨fun e he => ?_, .inr ⟨Keyed.get?_empty _, rfl⟩⟩, fun e he => ?_⟩ <;>
      exact absurd he List.not_mem_nil

/-- Another game is kept. -/
theorem Keeps.put_state {p : Pair} (h : p.device.Keeps K) {q : Progress} (hq : K .device q) :
    (p.put .device Saves.stateKey q.toText).device.Keeps K := by
  obtain ⟨c, hc, hkind⟩ := h.snapshots
  refine ⟨fun text htext => ⟨q, hq, ?_⟩, c, hc.put_state _, hkind⟩
  have hself := Pair.get?_put_self p .device Saves.stateKey q.toText
  exact (Option.some.inj (hself.symm.trans htext)).symm

/-- Another snapshot is kept. -/
theorem Keeps.put_snapshots {p : Pair} (h : p.device.Keeps K) {c : Keyed Progress}
    (hc : p.device.Caches c) (hkind : ∀ e ∈ c.entries, K (.snapshot e.1) e.2) {q : Progress}
    (hstorable : q.Storable) {key : String} (hq : K (.snapshot key) q) :
    (p.put .device Saves.accountsKey (Saves.cacheText (c.insert key q))).device.Keeps K := by
  refine ⟨fun text htext => h.game text ?_, c.insert key q, hc.insert hstorable key, fun e he => ?_⟩
  · have hne : Saves.stateKey ≠ Saves.accountsKey := by decide
    have hother := p.get?_put_of_ne .device hne (Saves.cacheText (c.insert key q))
    exact hother.symm.trans htext
  · rcases Entries.mem_insert he with rfl | he
    · exact hq
    · exact hkind e he

end Memory

/-! ## Putting into the cloud -/

namespace Pair

variable {id id' : String}

theorem text?_put_other (p : Pair) {key : String} (hkey : ∀ i, Remote.saveKey i ≠ key)
    (text : String) (id : String) :
    (p.put .cloud key text).cloud.text? id = p.cloud.text? id :=
  p.get?_put_of_ne .cloud (hkey id) text

theorem text?_put_save_self (p : Pair) (id text : String) :
    (p.put .cloud (Remote.saveKey id) text).cloud.text? id = some text :=
  p.get?_put_self .cloud (Remote.saveKey id) text

theorem text?_put_save_of_ne (p : Pair) (h : id' ≠ id) (text : String) :
    (p.put .cloud (Remote.saveKey id) text).cloud.text? id' = p.cloud.text? id' :=
  p.get?_put_of_ne .cloud (fun heq => h (Remote.saveKey_injective heq)) text

end Pair

namespace Cloud

theorem keeps_empty (K : Place → Progress → Prop) : empty.Keeps K := by
  intro id text h
  rw [show empty.text? id = none from Keyed.get?_empty _] at h
  cases h

variable {p : Pair}

/-- Something else than a save is put into the cloud. -/
theorem Keeps.put_other (h : p.cloud.Keeps K) {key : String} (hkey : ∀ i, Remote.saveKey i ≠ key)
    (text : String) : (p.put .cloud key text).cloud.Keeps K := fun id text' ht =>
  h id text' ((p.text?_put_other hkey text id).symm.trans ht)

/-- The save of a game is put into the cloud. -/
theorem Keeps.put_save (h : p.cloud.Keeps K) {id : String} {q : Progress} (hq : K (.cloud id) q) :
    (p.put .cloud (Remote.saveKey id) (SaveRecord.ofProgress q).toText).cloud.Keeps K := by
  intro i text htext
  by_cases hi : i = id
  · subst hi
    have hself := p.text?_put_save_self i (SaveRecord.ofProgress q).toText
    exact ⟨q, hq, (Option.some.inj (hself.symm.trans htext)).symm⟩
  · exact h i text ((p.text?_put_save_of_ne hi _).symm.trans htext)

end Cloud

/-- The two stores keep games of the kind. -/
structure Pair.Keeps (K : Place → Progress → Prop) (p : Pair) : Prop where
  device : p.device.Keeps K
  cloud : p.cloud.Keeps K

end Questline
