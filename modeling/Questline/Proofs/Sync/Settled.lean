import Questline.Proofs.Progress.Sound
import Questline.Proofs.Store.Memory
import Questline.Proofs.Sync.Link
import Questline.Proofs.Sync.Record
set_option autoImplicit false

/-!
# The mark after a reconciliation

A link is marked while the cloud is known to lack something.  A reconciliation that succeeds
takes the mark off by its push alone: when the device's record has won.  When the cloud's record
has won, or there is none, the device lacks nothing that could be sent, and yet the mark that an
earlier failure has left stays, so that a retry goes on to push.
-/

namespace Questline

namespace Link

open Questline.Action

variable {w : Type} [Depot w]

/-! ## Histories -/

/-- What can befall a link: something is done with it, or its surroundings change. -/
inductive Event (w : Type) where
  | push (profileId : String) (r : SaveRecord)
  | retry (profileId : String) (r : SaveRecord)
  | reconcile (profileId : String) (own : Option SaveRecord)
  | mark
  | meanwhile (depot : w)

/-- The link after an event, however it went. -/
def Event.happen (l : Link w) : Event w → Link w
  | .push id r => (Link.push id r l).2
  | .retry id r => (Link.retry id r l).2
  | .reconcile id own => (Link.reconcile id own l).2
  | .mark => { l with pending := true }
  | .meanwhile depot => { l with depot := depot }

/-- A link to a cloud after a history that began without a mark. -/
def since (depot : w) (past : List (Event w)) : Link w :=
  past.foldl Event.happen ⟨depot, true, false⟩

/-! ## A reconciliation -/

variable {id : String} {own : Option SaveRecord} {settled : Option Merged} {l l' : Link w}

/-- The device's record has been settled on. -/
def Sent (settled : Option Merged) : Prop := ∃ m, settled = some m ∧ m.source = .device

theorem pending_of_push_eq_ok {r : SaveRecord} (h : push id r l = (.ok (), l')) :
    l'.pending = false := by
  rw [push_apply] at h
  split at h
  · rcases hsent : (Remote.upsert id r : Action SyncError w Unit) l.depot with ⟨_ | _, d⟩ <;>
      rw [hsent] at h <;> cases h
    rfl
  · cases h

/-- A reconciliation that succeeds takes the mark off if it sent something, and else leaves it
as it was. -/
theorem pending_of_reconcile_eq_ok (h : reconcile id own l = (.ok settled, l')) :
    l'.pending = false ↔ l.pending = false ∨ Sent settled := by
  cases settled with
  | none =>
    obtain ⟨fetched, d, -, -, rfl⟩ := exists_of_reconcile_eq_none h
    simp [Sent]
  | some m =>
    obtain ⟨fetched, d, d', -, -, -, hend⟩ := exists_of_reconcile_eq_some h
    by_cases hs : m.source = .device
    · rw [if_pos hs] at hend
      simp [Sent, hs, pending_of_push_eq_ok hend]
    · rw [if_neg hs] at hend
      simp [Sent, hs, hend]

/-- The device has kept the record that is settled on; the cloud has it from a push, or it was
fetched from there. -/
theorem both_of_reconcile_eq_some {m : Merged} (h : reconcile id own l = (.ok (some m), l')) :
    ∃ fetched d d', (Remote.fetch id : Action SyncError w _) l.depot = (.ok fetched, d) ∧
      (Saves.writeRecord m.record : Action StoreError w _) d = (.ok (), d') ∧
      (push id m.record { l with depot := d' } = (.ok (), l') ∨
        fetched = some m.record ∧ l' = { l with depot := d' }) := by
  obtain ⟨fetched, d, d', hfetch, hmerge, hkept, hend⟩ := exists_of_reconcile_eq_some h
  refine ⟨fetched, d, d', hfetch, hkept, ?_⟩
  rcases mergeSaves_eq_some hmerge with ⟨-, hs, -⟩ | ⟨hwon, hs, -⟩
  · exact .inl (by rwa [if_pos hs] at hend)
  · exact .inr ⟨hwon, by rwa [if_neg (by simp [hs])] at hend⟩

/-- A retry finds nothing to do, and does nothing, exactly if there is no mark. -/
theorem retry_eq_ok_false_iff {r : SaveRecord} :
    retry id r l = (.ok false, l) ↔ l.pending = false := by
  rw [retry, bind_eq_of_ok (get_apply l)]
  cases hp : l.pending with
  | false => simp
  | true =>
    refine iff_of_false ?_ (by decide)
    rw [if_pos rfl, bind_apply]
    -- A push that succeeds answers that it has, and one that fails is no answer at all.
    rcases push id r l with ⟨_ | _, l'⟩
    · intro hfailed
      cases hfailed
    · intro hpushed
      cases hpushed

/-- After a reconciliation that succeeds, whatever went before it, the mark is off exactly if it
was off before or the device's record was settled on; and exactly then a retry does nothing.  The
record that is settled on is on both sides in any case. -/
theorem pending_since_reconcile_iff (depot : w) (past : List (Event w))
    (h : reconcile id own (since depot past) = (.ok settled, l')) :
    (l'.pending = false ↔ (since depot past).pending = false ∨ Sent settled) ∧
    (∀ id' r, retry id' r l' = (.ok false, l') ↔
      (since depot past).pending = false ∨ Sent settled) ∧
    ∀ m, settled = some m → ∃ fetched d d',
      (Remote.fetch id : Action SyncError w _) (since depot past).depot = (.ok fetched, d) ∧
      (Saves.writeRecord m.record : Action StoreError w _) d = (.ok (), d') ∧
      (push id m.record { since depot past with depot := d' } = (.ok (), l') ∨
        fetched = some m.record ∧ l' = { since depot past with depot := d' }) := by
  have hmark := pending_of_reconcile_eq_ok h
  refine ⟨hmark, fun id' r => retry_eq_ok_false_iff.trans hmark, ?_⟩
  rintro m rfl
  exact both_of_reconcile_eq_some h

/-- The cloud was out of reach when the device pushed, and another device has saved since: the
cloud's record wins, the mark stays, and a retry does not leave it at that. -/
theorem pending_since_reconcile_of_cloud :
    ∃ (depot : Pair) (past : List (Event Pair)) (own : SaveRecord) (m : Merged) (l' : Link Pair),
      reconcile "a" (some own) (since depot past) = (.ok (some m), l') ∧ m.source = .cloud ∧
      l'.pending = true ∧ ∀ id' r, retry id' r l' ≠ (.ok false, l') := by
  obtain ⟨early, late, hlate, hbefore⟩ : ∃ early late : Progress, late.Storable ∧
      early.updatedAt.before late.updatedAt = true :=
    ⟨.fresh ⟨1, 0⟩, .fresh ⟨2, 0⟩, .fresh (by decide), rfl⟩
  let depot : Pair := ⟨.empty, { Cloud.empty with online := false }, ⟨0, 0⟩, .silent⟩
  let saved : Pair := Pair.put ⟨.empty, .empty, ⟨0, 0⟩, .silent⟩ .cloud (Remote.saveKey "a")
    (SaveRecord.ofProgress late).toText
  let past : List (Event Pair) := [.push "a" (.ofProgress early), .meanwhile saved]
  have hmarked : since depot past = ⟨saved, true, true⟩ := by
    have hfail : Link.push "a" (.ofProgress early) ⟨depot, true, false⟩ =
        (.error (.failed "remote offline"), ⟨depot, true, true⟩) := by
      rw [push_apply, Remote.upsert_pair]
      rfl
    rw [since, List.foldl_cons, Event.happen, hfail]
    rfl
  have hfetch : (Remote.fetch "a" : Action SyncError Pair _) saved =
      (.ok (some (.ofProgress late)), saved) := by
    have htext : saved.cloud.store.entries.get? (Remote.saveKey "a") =
        some (SaveRecord.ofProgress late).toText := Pair.get?_put_self _ .cloud _ _
    rw [Remote.fetch_pair, htext]
    simp only [SaveRecord.ofText?_toText hlate]
    rfl
  have hkept : (Saves.writeRecord (.ofProgress late) : Action StoreError Pair Unit) saved =
      (.ok (), saved.put .device Saves.stateKey late.repair.toText) := by
    rw [Saves.writeRecord_pair, SaveRecord.progress?_ofProgress hlate]
    rfl
  have hsettled : reconcile "a" (some (.ofProgress early)) (since depot past) =
      (.ok (some ⟨.ofProgress late, .cloud⟩),
        ⟨saved.put .device Saves.stateKey late.repair.toText, true, true⟩) := by
    rw [hmarked]
    exact reconcile_of_cloud rfl hfetch (mergeSaves_of_before hbefore) rfl hkept
  have hnot : ¬ ((since depot past).pending = false ∨
      Sent (some ⟨.ofProgress late, .cloud⟩)) := by
    rw [hmarked]
    simp [Sent]
  obtain ⟨hmark, hretry, -⟩ := pending_since_reconcile_iff depot past hsettled
  exact ⟨depot, past, _, _, _, hsettled, rfl, eq_true_of_ne_false fun h => hnot (hmark.1 h),
    fun id' r h => hnot ((hretry id' r).1 h)⟩

end Link

end Questline
