import Questline.Quest.Evaluation
set_option autoImplicit false

/-!
# What a pass over the quests changes

A pass leaves a game as it is exactly if none of its quests is ready at the start:
the first quest that is ready gets completed, and what is complete stays so.
-/

namespace Questline.Progress

open Time (Instant)

variable {threshold : UInt32} {fs : FileSystem} {now : Instant} {p : Progress}

/-- The quest would be completed if it were judged now. -/
def Ready (p : Progress) (threshold : UInt32) (fs : FileSystem) (q : Quest) : Prop :=
  p.isComplete q.id = false ∧ p.isUnlocked threshold q.zone = true ∧
    q.check.holds p.log fs = true

instance (p : Progress) (threshold : UInt32) (fs : FileSystem) (q : Quest) :
    Decidable (p.Ready threshold fs q) := inferInstanceAs (Decidable (_ ∧ _ ∧ _))

/-! ## Judging one quest -/

theorem isComplete_reward (p : Progress) (r : Reward) (id : String) :
    (p.reward r).2.isComplete id = p.isComplete id := rfl

theorem updatedAt_markComplete (p : Progress) (quest : String) (zone : Zone) (time : Instant) :
    (p.markComplete quest zone time).2.updatedAt = p.updatedAt := by
  unfold markComplete
  split <;> rfl

theorem isComplete_markComplete (p : Progress) (quest : String) (zone : Zone) (time : Instant)
    (id : String) :
    (p.markComplete quest zone time).2.isComplete id = (decide (id = quest) || p.isComplete id) := by
  unfold markComplete
  cases hq : p.isComplete quest with
  | true =>
    rw [if_pos rfl]
    by_cases hid : id = quest
    · simp [hid, hq]
    · simp [hid]
  | false =>
    rw [if_neg (by simp)]
    by_cases hid : id = quest
    · subst hid
      simp [isComplete]
    · simp [isComplete, Keyed.get?_insert_of_ne _ hid, hid]

theorem judge_of_ready {q : Quest} (h : p.Ready threshold fs q) :
    (p.judge threshold fs now q).2 =
      ((p.reward q.reward).2.markComplete q.id q.zone now).2 := by
  obtain ⟨hdone, hopen, hholds⟩ := h
  simp [judge, hdone, hopen, hholds]

theorem judge_of_not_ready {q : Quest} (h : ¬ p.Ready threshold fs q) :
    p.judge threshold fs now q = (none, p) := by
  unfold judge
  split
  · rfl
  · rename_i hc
    simp only [Bool.or_eq_true, Bool.not_eq_true', not_or, Bool.not_eq_true, Bool.not_eq_false] at hc
    exact absurd ⟨hc.1.1, hc.1.2, hc.2⟩ h

/-- A quest that is ready is complete once it is judged. -/
theorem isComplete_judge_self {q : Quest} (h : p.Ready threshold fs q) :
    (p.judge threshold fs now q).2.isComplete q.id = true := by
  rw [judge_of_ready h, isComplete_markComplete, decide_eq_true rfl, Bool.true_or]

/-- A quest that is judged does not complete another one. -/
theorem isComplete_judge_of_ne {q : Quest} {id : String} (hid : id ≠ q.id) :
    (p.judge threshold fs now q).2.isComplete id = p.isComplete id := by
  by_cases hready : p.Ready threshold fs q
  · rw [judge_of_ready hready, isComplete_markComplete, isComplete_reward, decide_eq_false hid,
      Bool.false_or]
  · rw [judge_of_not_ready hready]

/-- What is complete stays so. -/
theorem isComplete_judge {q : Quest} {id : String} (h : p.isComplete id = true) :
    (p.judge threshold fs now q).2.isComplete id = true := by
  by_cases hq : p.Ready threshold fs q
  · rw [judge_of_ready hq, isComplete_markComplete, isComplete_reward, h, Bool.or_true]
  · rw [judge_of_not_ready hq]
    exact h

/-- `p'` differs from `p` at most in what quests give. -/
structure KeepsRest (p p' : Progress) : Prop where
  upgrades : p'.upgrades = p.upgrades
  log : p'.log = p.log
  streak : p'.streak = p.streak
  lastActive : p'.lastActive = p.lastActive
  account : p'.account = p.account
  updatedAt : p'.updatedAt = p.updatedAt

theorem KeepsRest.refl (p : Progress) : KeepsRest p p := ⟨rfl, rfl, rfl, rfl, rfl, rfl⟩

theorem KeepsRest.trans {p p' p'' : Progress} (h : KeepsRest p p') (h' : KeepsRest p' p'') :
    KeepsRest p p'' :=
  ⟨h'.upgrades.trans h.upgrades, h'.log.trans h.log, h'.streak.trans h.streak,
    h'.lastActive.trans h.lastActive, h'.account.trans h.account, h'.updatedAt.trans h.updatedAt⟩

theorem keepsRest_judge (p : Progress) (q : Quest) :
    KeepsRest p (p.judge threshold fs now q).2 := by
  by_cases hq : p.Ready threshold fs q
  · rw [judge_of_ready hq]
    unfold markComplete
    split <;> exact ⟨rfl, rfl, rfl, rfl, rfl, rfl⟩
  · rw [judge_of_not_ready hq]
    exact .refl p

/-! ## A pass -/

theorem keepsRest_judgeAll (p : Progress) (qs : List Quest) :
    KeepsRest p (p.judgeAll threshold fs now qs).2 := by
  induction qs generalizing p with
  | nil => exact .refl p
  | cons q r ih => exact (keepsRest_judge p q).trans (ih _)

theorem isComplete_judgeAll (qs : List Quest) {id : String} (h : p.isComplete id = true) :
    (p.judgeAll threshold fs now qs).2.isComplete id = true := by
  induction qs generalizing p with
  | nil => exact h
  | cons q r ih => exact ih (isComplete_judge h)

theorem judgeAll_eq_self_iff {qs : List Quest} :
    (p.judgeAll threshold fs now qs).2 = p ↔ ∀ q ∈ qs, ¬ p.Ready threshold fs q := by
  induction qs with
  | nil => simp [judgeAll]
  | cons q r ih =>
    by_cases hq : p.Ready threshold fs q
    · refine ⟨fun h => ?_, fun h => absurd hq (h q List.mem_cons_self)⟩
      have hafter : (p.judgeAll threshold fs now (q :: r)).2.isComplete q.id = true :=
        isComplete_judgeAll r (isComplete_judge_self hq)
      rw [h, hq.1] at hafter
      cases hafter
    · have hstep : (p.judgeAll threshold fs now (q :: r)).2 = (p.judgeAll threshold fs now r).2 := by
        simp only [judgeAll, judge_of_not_ready hq]
      rw [hstep, ih]
      exact ⟨fun h => List.forall_mem_cons.2 ⟨hq, h⟩, fun h => (List.forall_mem_cons.1 h).2⟩

theorem evaluate_snd (p : Progress) :
    (p.evaluate threshold fs now).2 = (p.judgeAll threshold fs now Quest.catalog).2 := by
  unfold evaluate
  rcases p.judgeAll threshold fs now Quest.catalog with ⟨completed, after⟩
  rfl

/-- A pass leaves the game as it is exactly if no quest is ready. -/
theorem evaluate_eq_self_iff :
    (p.evaluate threshold fs now).2 = p ↔ ∀ q ∈ Quest.catalog, ¬ p.Ready threshold fs q := by
  rw [evaluate_snd]
  exact judgeAll_eq_self_iff

/-- A game that bears the stamp already. -/
theorem touch_eq_self (hupdated : p.updatedAt = now) (hactive : p.lastActive = now) :
    p.touch now = p := by
  obtain ⟨_, _, _, _, _, _, _, _, _⟩ := p
  dsimp only at hupdated hactive
  subst hupdated hactive
  rfl

/-- A pass does not stamp the game. -/
theorem touch_evaluate (hupdated : p.updatedAt = now) (hactive : p.lastActive = now) :
    (p.evaluate threshold fs now).2.touch now = (p.evaluate threshold fs now).2 := by
  rw [evaluate_snd]
  have hkeeps : KeepsRest p (p.judgeAll threshold fs now Quest.catalog).2 := keepsRest_judgeAll p _
  exact touch_eq_self (hkeeps.updatedAt.trans hupdated) (hkeeps.lastActive.trans hactive)

end Questline.Progress
