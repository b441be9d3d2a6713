import Questline.Progress.Return
import Questline.Proofs.Progress.Codec
import Questline.Proofs.Quest.Evaluation
set_option autoImplicit false

/-!
# Every game can be stored

A new game can be stored, and so can what a game becomes: by a command that is logged, a
quest that is completed, a purchase, a return, and by being read back and repaired.
-/

namespace Questline.Progress

open Time (Instant)

variable {p : Progress} {now : Instant}

theorem Storable.fresh (hnow : now.Valid) : (Progress.fresh now).Storable where
  xpBoost := .inl rfl
  coinBoost := .inl rfl
  quests := nofun
  log := nofun
  streak := hnow
  lastActive := hnow
  updatedAt := hnow

/-- Whose game it is and what the player has does not matter. -/
theorem Storable.withPlayer (h : p.Storable) (player : Player) (account : Option Account) :
    { p with player := player, account := account }.Storable :=
  { h with }

theorem Storable.withAccount (h : p.Storable) (account : Option Account) :
    { p with account := account }.Storable :=
  h.withPlayer p.player account

theorem Storable.touch (h : p.Storable) (hnow : now.Valid) : (p.touch now).Storable :=
  { h with lastActive := hnow, updatedAt := hnow }

theorem mem_of_mem_newest {log : List LogEntry} {e : LogEntry} (h : e ∈ newest log) : e ∈ log :=
  List.mem_of_mem_drop h

theorem Storable.logCommand (h : p.Storable) (command output : String) (hnow : now.Valid) :
    (p.logCommand command output now).Storable := by
  unfold Progress.logCommand
  refine ⟨h.xpBoost, h.coinBoost, h.quests, ?_, h.streak, h.lastActive, h.updatedAt⟩
  intro e he
  dsimp only at he
  rcases List.mem_append.1 (mem_of_mem_newest he) with he | he
  · exact h.log e he
  · rw [List.mem_singleton.1 he]
    exact hnow

theorem Storable.repair (h : p.Storable) : p.repair.Storable := by
  unfold Progress.repair
  refine ⟨h.xpBoost, h.coinBoost, h.quests, ?_, h.streak, h.lastActive, h.updatedAt⟩
  intro e he
  dsimp only at he
  exact h.log e (mem_of_mem_newest he)

/-! ## Quests -/

theorem Storable.markComplete (h : p.Storable) (quest : String) (zone : Zone) (hnow : now.Valid) :
    (p.markComplete quest zone now).2.Storable := by
  unfold Progress.markComplete
  split
  · exact h
  · refine { h with quests := fun e he => ?_ }
    rcases Entries.mem_insert he with rfl | he
    · exact hnow
    · exact h.quests e he

theorem Storable.judge (h : p.Storable) {threshold : UInt32} {fs : FileSystem} (hnow : now.Valid)
    (q : Quest) : (p.judge threshold fs now q).2.Storable := by
  by_cases hq : p.Ready threshold fs q
  · rw [judge_of_ready hq]
    exact (h.withPlayer _ p.account).markComplete q.id q.zone hnow
  · rw [judge_of_not_ready hq]
    exact h

theorem Storable.judgeAll {threshold : UInt32} {fs : FileSystem} (hnow : now.Valid)
    (qs : List Quest) : ∀ {p : Progress}, p.Storable →
      (p.judgeAll threshold fs now qs).2.Storable := by
  induction qs with
  | nil => exact fun h => h
  | cons q r ih => exact fun h => ih (h.judge hnow q)

theorem Storable.evaluate (h : p.Storable) (threshold : UInt32) (fs : FileSystem)
    (hnow : now.Valid) : (p.evaluate threshold fs now).2.Storable := by
  rw [evaluate_snd]
  exact Storable.judgeAll hnow _ h

/-! ## The shop and the return -/

theorem Storable.purchase (h : p.Storable) {id : String} {u : Upgrade} {p' : Progress}
    (hp : p.purchase id = .ok (u, p')) : p'.Storable := by
  unfold Progress.purchase at hp
  split at hp
  · cases hp
  · split at hp
    · cases hp
    · cases hp
      cases u with
      | xpBoost => exact { h with xpBoost := h.xpBoost.raised }
      | coinBoost => exact { h with coinBoost := h.coinBoost.raised }
      | offlineCap => exact { h with }
      | hintBoost => exact { h with }

/-- The time away gives coins and nothing else. -/
theorem exists_accrueOffline (p : Progress) (now : Instant) (rate : UInt32) :
    ∃ coins, (p.accrueOffline now rate).2 =
      { p with lastActive := now, player := { p.player with coins := coins } } := by
  unfold Progress.accrueOffline
  extract_lets away cap coins p'
  split
  · exact ⟨p.player.coins, rfl⟩
  · exact ⟨_, rfl⟩

@[simp] theorem account_accrueOffline (p : Progress) (now : Instant) (rate : UInt32) :
    (p.accrueOffline now rate).2.account = p.account := by
  obtain ⟨coins, heq⟩ := p.exists_accrueOffline now rate
  rw [heq]

theorem Storable.accrueOffline (h : p.Storable) (hnow : now.Valid) (rate : UInt32) :
    (p.accrueOffline now rate).2.Storable := by
  obtain ⟨coins, heq⟩ := p.exists_accrueOffline now rate
  rw [heq]
  exact { h with lastActive := hnow }

theorem Storable.updateStreak (h : p.Storable) (hnow : now.Valid) : (p.updateStreak now).Storable :=
  { h with streak := hnow }

end Questline.Progress
