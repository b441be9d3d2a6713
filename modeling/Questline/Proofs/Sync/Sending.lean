import Questline.Proofs.Sync.Succession
import Questline.Sync.Courier
set_option autoImplicit false

/-!
# Records that are sent without a look at the cloud

A push, by whomever, and what a courier delivers: `Link.Leaves` says of what is left behind
that it keeps to the succession of a profile's saves unless the record that was sent takes
a later save away, and that it does not if it does.
-/

namespace Questline

open Time (Instant)

namespace Link

variable {id : String} {l : Link Pair} {sent : Option (String × SaveRecord)} {p p' : Pair}

theorem Lowers.of_cloud_eq {l' : Link Pair} {r : SaveRecord} (h : l.Lowers id r)
    (hc : l'.depot.cloud = l.depot.cloud) (hl : l'.configured = l.configured) : l'.Lowers id r := by
  have honline := h.lands.online
  have hwrites := h.lands.writes
  have hlater := h.later
  rw [← hc] at honline hwrites hlater
  exact ⟨⟨hl.trans h.lands.configured, honline, hwrites⟩, hlater⟩

/-- What was sent takes a later save of the profile away. -/
def Overtakes (l : Link Pair) (id : String) (sent : Option (String × SaveRecord)) : Prop :=
  ∃ r, sent = some (id, r) ∧ l.Lowers id r

/-- From the link's surroundings come these, with a record sent on the way: unless that one
has overtaken a later save, they keep to the succession. -/
structure Leaves (id : String) (l : Link Pair) (sent : Option (String × SaveRecord)) (p : Pair) :
    Prop where
  holds : ∀ {since}, l.depot.Follows id since → p.Follows id .empty
  follows : ∀ {since}, l.depot.Follows id since → ¬ l.Overtakes id sent → p.Follows id since
  lowers : l.Overtakes id sent → ¬ l.depot.cloud.Ascends id p.cloud

/-- What was sent decides whether the succession is kept to. -/
theorem Leaves.ascends_iff (h : l.Leaves id sent p) {since : Cloud} (hl : l.depot.Follows id since) :
    l.depot.cloud.Ascends id p.cloud ↔ ¬ l.Overtakes id sent := by
  constructor
  · exact fun hasc hover => h.lowers hover hasc
  · intro hnot
    have hnow : l.depot.Follows id l.depot.cloud := ⟨hl.device, hl.cloud, hl.issued, .refl _ _⟩
    exact (h.follows hnow hnot).ascends

/-- Nothing was sent. -/
theorem leaves_none (h : ∀ since, l.depot.Follows id since → p.Follows id since) :
    l.Leaves id none p where
  holds hl := h _ ⟨hl.device, hl.cloud, hl.issued, Cloud.ascends_empty _ _⟩
  follows hl _ := h _ hl
  lowers := by
    rintro ⟨r, hr, -⟩
    cases hr

/-- What happens on the device afterwards does not matter. -/
theorem Leaves.then (h : l.Leaves id sent p)
    (hf : ∀ since, p.Follows id since → p'.Follows id since) (hc : p'.cloud = p.cloud) :
    l.Leaves id sent p' where
  holds hl := hf _ (h.holds hl)
  follows hl hnot := hf _ (h.follows hl hnot)
  lowers hover := by
    rw [hc]
    exact h.lowers hover

/-- Only the cloud and the way to it matter for what is sent. -/
theorem Leaves.of_cloud_eq {l' : Link Pair} (h : l'.Leaves id sent p)
    (hf : ∀ since, l.depot.Follows id since → l'.depot.Follows id since)
    (hc : l'.depot.cloud = l.depot.cloud) (hl : l'.configured = l.configured) :
    l.Leaves id sent p := by
  have hover : l.Overtakes id sent ↔ l'.Overtakes id sent :=
    exists_congr fun r => and_congr_right fun _ =>
      ⟨fun h => h.of_cloud_eq hc hl, fun h => h.of_cloud_eq hc.symm hl.symm⟩
  refine ⟨fun hl => h.holds (hf _ hl), fun hl hnot => ?_, fun ho => ?_⟩
  · exact h.follows (hf _ hl) fun ho => hnot (hover.2 ho)
  · rw [← hc]
    exact h.lowers (hover.1 ho)

theorem leaves_push {id' : String} {r : SaveRecord}
    (hr : ∃ q : Progress, q.Storable ∧ r = .ofProgress q) :
    l.Leaves id (some (id', r)) (push id' r l).2.depot := by
  obtain ⟨q, hq, rfl⟩ := hr
  constructor
  · intro since hl
    by_cases hlands : l.Lands
    · rw [depot_push_of_lands hlands]
      exact hl.put_save hq (Cloud.ascends_empty _ _)
    · rw [depot_push_of_not_lands hlands]
      exact ⟨hl.device, hl.cloud, hl.issued, Cloud.ascends_empty _ _⟩
  · intro since hl hnot
    refine follows_push hl hq fun ⟨hid, hlow⟩ => hnot ⟨_, ?_, hlow⟩
    rw [hid]
  · rintro ⟨r, hsent, hlow⟩
    cases hsent
    exact not_ascends_push hq hlow

end Link

namespace Courier

/-- What is due has waited. -/
theorem waiting_of_takeDue {c : Courier} {time : Nat} {p : Parcel}
    (h : (c.takeDue time).1 = some p) : c.waiting = some p := by
  unfold takeDue at h
  cases hw : c.waiting with
  | none =>
    rw [hw] at h
    cases h
  | some p' =>
    rw [hw] at h
    dsimp only at h
    split at h
    · exact h
    · cases h

/-- What goes on waiting has waited. -/
theorem waiting_of_takeDue_snd {c : Courier} {time : Nat} {p : Parcel}
    (h : (c.takeDue time).2.waiting = some p) : c.waiting = some p := by
  unfold takeDue at h
  cases hw : c.waiting with
  | none =>
    rw [hw] at h
    exact hw.symm.trans h
  | some p' =>
    rw [hw] at h
    dsimp only at h
    split at h
    · cases h
    · exact hw.symm.trans h

end Courier

/-- What a courier has for the cloud. -/
def Parcel.content (p : Parcel) : String × SaveRecord := (p.profileId, p.record)

/-- Delivering a parcel is a push. -/
theorem Parcel.leaves_sendAny {id : String} {l : Link Pair} {parcel : Option Parcel}
    (h : ∀ p, parcel = some p → ∃ q : Progress, q.Storable ∧ p.record = .ofProgress q) :
    l.Leaves id (parcel.map content) (sendAny parcel l).depot := by
  cases parcel with
  | none => exact Link.leaves_none fun _ hl => hl
  | some p => exact Link.leaves_push (h p rfl)

end Questline
