import Questline.Proofs.Progress.Sound
set_option autoImplicit false

/-!
# Quests and the counts beside them

A game keeps its quests and, apart from them, how many are done in each zone; which zones are
open is read off the counts alone.  The counts agree with the quests in a new game, and every
quest that is completed is a quest of the catalog, counted once, in a zone that is open.
-/

namespace Questline.Progress

open Time (Instant)

variable {threshold : UInt32} {p p' : Progress} {now : Instant}

/-- The quests of a zone that are complete, counted in the catalog. -/
def recount (p : Progress) (z : Zone) : Nat :=
  Quest.catalog.countP fun q => q.zone == z && p.isComplete q.id

/-- The quests that are recorded are complete and in the catalog, the counts are those of the
catalog, and the zone of every quest that is complete is open. -/
structure Tallied (threshold : UInt32) (p : Progress) : Prop where
  listed : ∀ e ∈ p.quests.entries, e.2.completed = true ∧ ∃ q ∈ Quest.catalog, q.id = e.1
  counts : ∀ z, (p.completedByZone.get z).toNat = p.recount z
  unlocked : ∀ q ∈ Quest.catalog, p.isComplete q.id = true → p.isUnlocked threshold q.zone = true

/-- Nothing is counted in a new game. -/
theorem Tallied.fresh (threshold : UInt32) (now : Instant) :
    (Progress.fresh now).Tallied threshold where
  listed := nofun
  counts z := by
    have hnone : ∀ q : Quest, (q.zone == z && (Progress.fresh now).isComplete q.id) = false :=
      fun q => Bool.and_false _
    unfold recount
    simp only [hnone, List.countP_false]
    cases z <;> rfl
  unlocked := nofun

/-- Only the quests and the counts matter. -/
theorem Tallied.of_eq (h : p.Tallied threshold) (hquests : p'.quests = p.quests)
    (hcounts : p'.completedByZone = p.completedByZone) : p'.Tallied threshold := by
  have hcomplete : ∀ id, p'.isComplete id = p.isComplete id := by
    intro id
    unfold isComplete
    rw [hquests]
  refine ⟨hquests ▸ h.listed, fun z => ?_, fun q hq hdone => ?_⟩
  · rw [hcounts, h.counts z]
    unfold recount
    simp only [hcomplete]
  · unfold isUnlocked
    rw [hcounts]
    exact h.unlocked q hq (hcomplete q.id ▸ hdone)

theorem Tallied.logCommand (h : p.Tallied threshold) (command output : String) (time : Instant) :
    (p.logCommand command output time).Tallied threshold := by
  -- The log is left open, for comparing it would unfold it.
  have hlog : ∀ log : List LogEntry, { p with log := log }.Tallied threshold := fun _ =>
    h.of_eq rfl rfl
  unfold Progress.logCommand
  exact hlog _

theorem Tallied.purchase (h : p.Tallied threshold) {id : String} {u : Upgrade}
    (hp : p.purchase id = .ok (u, p')) : p'.Tallied threshold := by
  unfold Progress.purchase at hp
  split at hp
  · cases hp
  · split at hp <;> cases hp
    exact h.of_eq rfl rfl

theorem Tallied.accrueOffline (h : p.Tallied threshold) (now : Instant) (rate : UInt32) :
    (p.accrueOffline now rate).2.Tallied threshold := by
  obtain ⟨coins, heq⟩ := p.exists_accrueOffline now rate
  rw [heq]
  exact h.of_eq rfl rfl

/-! ## One more quest -/

theorem nodup_catalog : (Quest.catalog.map Quest.id).Nodup := by decide

/-- The quests of the catalog go by different names. -/
theorem eq_of_id_eq {q r : Quest} (hr : r ∈ Quest.catalog) (hq : q ∈ Quest.catalog)
    (h : r.id = q.id) : r = q := by
  obtain ⟨i, hi, rfl⟩ := List.getElem_of_mem hr
  obtain ⟨j, hj, rfl⟩ := List.getElem_of_mem hq
  have hi' : i < (Quest.catalog.map Quest.id).length := by simpa using hi
  have hj' : j < (Quest.catalog.map Quest.id).length := by simpa using hj
  have hnames : (Quest.catalog.map Quest.id)[i] = (Quest.catalog.map Quest.id)[j] := by simpa using h
  have hij : i = j := (List.getElem_inj nodup_catalog).1 hnames
  subst hij
  rfl

/-- One quest of a list without repetitions counts for one. -/
theorem countP_or_eq_add_one {qs : List Quest} (hnodup : (qs.map Quest.id).Nodup) {q : Quest}
    (hq : q ∈ qs) {f : Quest → Bool} (hf : f q = false) :
    qs.countP (fun r => decide (r.id = q.id) || f r) = qs.countP f + 1 := by
  induction qs with
  | nil => cases hq
  | cons r rest ih =>
    obtain ⟨hr, hrest⟩ := List.nodup_cons.1 hnodup
    rcases List.mem_cons.1 hq with rfl | hq
    · have hothers : ∀ s ∈ rest, (decide (s.id = q.id) || f s) = f s := by
        intro s hs
        have hne : s.id ≠ q.id := fun heq => hr (heq ▸ List.mem_map_of_mem hs)
        rw [decide_eq_false hne, Bool.false_or]
      rw [List.countP_cons_of_pos (by simp), List.countP_cons_of_neg (by simp [hf]),
        List.countP_congr fun s hs => by rw [hothers s hs]]
    · have hne : r.id ≠ q.id := fun heq => hr (heq ▸ List.mem_map_of_mem hq)
      rw [List.countP_cons, List.countP_cons, ih hrest hq, decide_eq_false hne, Bool.false_or]
      omega

/-- A quest that is completed is one more of its zone and none of any other. -/
theorem recount_markComplete {q : Quest} (hq : q ∈ Quest.catalog) (h : p.isComplete q.id = false)
    (time : Instant) (z : Zone) :
    (p.markComplete q.id q.zone time).2.recount z = p.recount z + if z = q.zone then 1 else 0 := by
  unfold recount
  by_cases hz : z = q.zone
  · subst hz
    rw [if_pos rfl, ← countP_or_eq_add_one nodup_catalog hq (by simp [h])]
    refine List.countP_congr fun r hr => ?_
    rw [isComplete_markComplete]
    by_cases hid : r.id = q.id
    · have hsame : r = q := eq_of_id_eq hr hq hid
      simp [hsame]
    · simp [hid]
  · rw [if_neg hz, Nat.add_zero]
    refine List.countP_congr fun r hr => ?_
    rw [isComplete_markComplete]
    by_cases hid : r.id = q.id
    · have hsame : r = q := eq_of_id_eq hr hq hid
      simp [hsame, Ne.symm hz]
    · simp [hid]

theorem recount_le (p : Progress) (z : Zone) : p.recount z ≤ Quest.catalog.length :=
  List.countP_le_length

/-- Completing a quest raises the count of its zone by one. -/
theorem Tallied.toNat_markComplete (h : p.Tallied threshold) {q : Quest}
    (hnot : p.isComplete q.id = false) (time : Instant) (z : Zone) :
    ((p.markComplete q.id q.zone time).2.completedByZone.get z).toNat =
      (p.completedByZone.get z).toNat + if z = q.zone then 1 else 0 := by
  have hcounts : (p.markComplete q.id q.zone time).2.completedByZone =
      p.completedByZone.set q.zone (p.completedByZone.get q.zone + 1) := by
    unfold markComplete
    rw [hnot, if_neg (by simp)]
  rw [hcounts]
  by_cases hz : z = q.zone
  · have hlength : Quest.catalog.length ≤ 100 := by decide
    have hle := p.recount_le q.zone
    have hcount := h.counts q.zone
    rw [hz, if_pos rfl, ZoneCounts.get_set_self, UInt32.toNat_add]
    exact Nat.mod_eq_of_lt (by simp; omega)
  · rw [if_neg hz, Nat.add_zero, ZoneCounts.get_set_of_ne _ hz]

theorem Tallied.markComplete (h : p.Tallied threshold) {q : Quest} (hq : q ∈ Quest.catalog)
    (hnot : p.isComplete q.id = false) (hopen : p.isUnlocked threshold q.zone = true)
    (time : Instant) : (p.markComplete q.id q.zone time).2.Tallied threshold := by
  have hgrows : ∀ z, p.isUnlocked threshold z = true →
      (p.markComplete q.id q.zone time).2.isUnlocked threshold z = true := by
    intro z hz
    unfold isUnlocked at hz ⊢
    split
    · rfl
    · rename_i y hy
      simp only [hy, decide_eq_true_eq, UInt32.le_iff_toNat_le] at hz ⊢
      rw [h.toNat_markComplete hnot time y]
      omega
  have hquests : (p.markComplete q.id q.zone time).2.quests = p.quests.insert q.id ⟨true, time⟩ := by
    unfold Progress.markComplete
    rw [hnot, if_neg (by simp)]
  refine ⟨fun e he => ?_, fun z => ?_, fun r hr hdone => ?_⟩
  · rw [hquests] at he
    rcases Entries.mem_insert he with rfl | he
    · exact ⟨rfl, q, hq, rfl⟩
    · exact h.listed e he
  · rw [h.toNat_markComplete hnot time z, recount_markComplete hq hnot time z, h.counts z]
  · apply hgrows
    rw [isComplete_markComplete, Bool.or_eq_true, decide_eq_true_eq] at hdone
    rcases hdone with hid | hdone
    · exact eq_of_id_eq hr hq hid ▸ hopen
    · exact h.unlocked r hr hdone

/-! ## A pass over the quests -/

theorem Tallied.judge (h : p.Tallied threshold) {fs : FileSystem} {q : Quest}
    (hq : q ∈ Quest.catalog) : (p.judge threshold fs now q).2.Tallied threshold := by
  by_cases hready : p.Ready threshold fs q
  · have hrewarded : (p.reward q.reward).2.Tallied threshold := h.of_eq rfl rfl
    rw [judge_of_ready hready]
    exact hrewarded.markComplete hq hready.1 hready.2.1 now
  · rw [judge_of_not_ready hready]
    exact h

theorem Tallied.judgeAll {fs : FileSystem} {qs : List Quest} (hqs : ∀ q ∈ qs, q ∈ Quest.catalog) :
    ∀ {p : Progress}, p.Tallied threshold → (p.judgeAll threshold fs now qs).2.Tallied threshold := by
  induction qs with
  | nil => exact fun h => h
  | cons q r ih =>
    intro p h
    exact ih (fun q' hq' => hqs q' (List.mem_cons_of_mem _ hq')) (h.judge (hqs q List.mem_cons_self))

theorem Tallied.evaluate (h : p.Tallied threshold) (fs : FileSystem) (now : Instant) :
    (p.evaluate threshold fs now).2.Tallied threshold := by
  rw [evaluate_snd]
  exact Tallied.judgeAll (fun _ hq => hq) h

end Questline.Progress
