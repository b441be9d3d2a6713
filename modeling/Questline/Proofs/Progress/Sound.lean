import Questline.Proofs.Progress.Storable
set_option autoImplicit false

/-!
# Games that repairing leaves alone

A game that is in order is read back from its save as it was.  Every game is that has been
played from its beginning: no command, reward, purchase or return brings it out of order, as
long as the levels do not run out, and they cannot, for a quest gives at most two and is
completed once.
-/

namespace Questline

open Time (Instant)

/-! ## Levels -/

namespace Player

/-- The level is one, the experience is below what it needs, and every skill has a level. -/
structure Sound (p : Player) : Prop where
  level : p.level ≠ 0
  xp : p.xp < xpThreshold p.level
  skills : p.skills.filled = p.skills

theorem sound_initial : initial.Sound := ⟨by decide, by decide, rfl⟩

theorem climb_of_lt {level : UInt32} {xp : UInt64} (gained : UInt32) (h : xp < xpThreshold level) :
    climb level xp gained = (level, xp, gained) := by
  rw [climb, if_pos h]

/-- Climbing ends below what the level needs. -/
theorem climb_lt (level : UInt32) (xp : UInt64) (gained : UInt32) :
    (climb level xp gained).2.1 < xpThreshold (climb level xp gained).1 := by
  induction level, xp, gained using climb.induct with
  | case1 level xp gained h =>
    rw [climb_of_lt gained h]
    exact h
  | case2 level xp gained h ih =>
    rw [climb, if_neg h]
    exact ih

/-- Climbing takes at least 50 of experience for each level. -/
theorem climb_bounds (level : UInt32) (xp : UInt64) (gained : UInt32)
    (hroom : level.toNat + xp.toNat / 50 < UInt32.size) :
    level.toNat ≤ (climb level xp gained).1.toNat ∧
      (climb level xp gained).1.toNat ≤ level.toNat + xp.toNat / 50 := by
  induction level, xp, gained using climb.induct with
  | case1 level xp gained h =>
    rw [climb_of_lt gained h]
    exact ⟨Nat.le_refl _, Nat.le_add_right _ _⟩
  | case2 level xp gained h ih =>
    have hsize : UInt32.size = 4294967296 := rfl
    have hle : xpThreshold level ≤ xp := UInt64.not_lt.1 h
    have hneed := toNat_xpThreshold level
    have hrest : (xp - xpThreshold level).toNat = xp.toNat - (xpThreshold level).toNat :=
      UInt64.toNat_sub_of_le _ _ hle
    have hnat := UInt64.le_iff_toNat_le.1 hle
    have hnext : (level + 1).toNat = level.toNat + 1 := by
      rw [UInt32.toNat_add]
      exact Nat.mod_eq_of_lt (by simp; omega)
    obtain ⟨hup, hbound⟩ := ih (by omega)
    rw [climb, if_neg h]
    exact ⟨by omega, by omega⟩

theorem filled_set (c : SkillLevels) (k : Skill) (n : UInt32) :
    (c.set k n).filled = c.filled.set k n := by
  cases k <;> rfl

/-- A reward that is not too large leaves the player in order, at most two levels up. -/
theorem Sound.receive {p : Player} (h : p.Sound) {xp : UInt64} (hxp : xp.toNat ≤ 100)
    (hroom : p.level.toNat + 2 < UInt32.size) (coins : UInt64) (skill : Option Skill) :
    (p.receive xp coins skill).2.Sound ∧
      (p.receive xp coins skill).2.level.toNat ≤ p.level.toNat + 2 := by
  have hsize : UInt32.size = 4294967296 := rfl
  have hneed := toNat_xpThreshold p.level
  have hbefore := UInt64.lt_iff_toNat_lt.1 h.xp
  have hsum : (p.xp + xp).toNat = p.xp.toNat + xp.toNat := by
    rw [UInt64.toNat_add]
    exact Nat.mod_eq_of_lt (by omega)
  have hpos : p.level.toNat ≠ 0 := fun h0 => h.level (UInt32.toNat_inj.1 h0)
  have hclimb : (climb p.level (p.xp + xp) 0).2.1 < xpThreshold (climb p.level (p.xp + xp) 0).1 ∧
      p.level.toNat ≤ (climb p.level (p.xp + xp) 0).1.toNat ∧
      (climb p.level (p.xp + xp) 0).1.toNat ≤ p.level.toNat + 2 := by
    by_cases hlt : p.xp + xp < xpThreshold p.level
    · rw [climb_of_lt 0 hlt]
      exact ⟨hlt, Nat.le_refl _, Nat.le_add_right _ _⟩
    · -- What is left after the first level is less than the reward.
      have hle : xpThreshold p.level ≤ p.xp + xp := UInt64.not_lt.1 hlt
      have hrest : (p.xp + xp - xpThreshold p.level).toNat =
          (p.xp + xp).toNat - (xpThreshold p.level).toNat := UInt64.toNat_sub_of_le _ _ hle
      have hnext : (p.level + 1).toNat = p.level.toNat + 1 := by
        rw [UInt32.toNat_add]
        exact Nat.mod_eq_of_lt (by simp; omega)
      have hbounds := climb_bounds (p.level + 1) (p.xp + xp - xpThreshold p.level) (0 + 1) (by omega)
      rw [climb, if_neg hlt]
      exact ⟨climb_lt .., by omega, by omega⟩
  obtain ⟨hend, hup, hbound⟩ := hclimb
  have hlevel : (climb p.level (p.xp + xp) 0).1 ≠ 0 := by
    intro h0
    rw [h0] at hup
    exact hpos (Nat.le_zero.1 hup)
  cases skill with
  | none => exact ⟨⟨hlevel, hend, h.skills⟩, hbound⟩
  | some k =>
    refine ⟨⟨hlevel, hend, ?_⟩, hbound⟩
    exact (filled_set ..).trans (congrArg (SkillLevels.set · k _) h.skills)

end Player

namespace Progress

variable {p p' : Progress} {now : Instant}

/-- A game that its save can hold and that is in order. -/
structure Sound (p : Progress) : Prop extends p.Storable where
  player : p.player.Sound
  short : p.log.length ≤ logCapacity

/-- There is nothing in the game that its rules exclude, whether or not a save can hold it. -/
structure Lawful (p : Progress) : Prop where
  player : p.player.Sound
  short : p.log.length ≤ logCapacity

theorem player_repair (p : Progress) : p.repair.player =
    { p.player with
      level := (Player.climb (max p.player.level 1) p.player.xp 0).1
      xp := (Player.climb (max p.player.level 1) p.player.xp 0).2.1
      skills := p.player.skills.filled } := by
  rw [repair]
  rfl

theorem log_repair (p : Progress) : p.repair.log = newest p.log := by
  rw [repair]

theorem max_level_eq_self {level : UInt32} (h : level ≠ 0) : max level 1 = level := by
  have hpos : level.toNat ≠ 0 := fun h0 => h (UInt32.toNat_inj.1 h0)
  have hle : 1 ≤ level := by
    rw [UInt32.le_iff_toNat_le]
    exact Nat.one_le_iff_ne_zero.2 hpos
  change (if level ≤ 1 then 1 else level) = level
  split
  · exact UInt32.le_antisymm hle ‹_›
  · rfl

/-- There is nothing to repair in a game exactly if it is in order. -/
theorem repair_eq_self_iff : p.repair = p ↔ p.Lawful := by
  constructor
  · intro h
    have hplayer := (player_repair p).symm.trans (congrArg Progress.player h)
    have hlevel := congrArg Player.level hplayer
    have hxp := congrArg Player.xp hplayer
    dsimp only at hlevel hxp
    have hbelow := Player.climb_lt (max p.player.level 1) p.player.xp 0
    rw [hlevel, hxp] at hbelow
    refine ⟨⟨fun hzero => ?_, hbelow, congrArg Player.skills hplayer⟩, ?_⟩
    · -- Level zero and the first level need the same, so nobody climbs back to level zero.
      rw [hzero] at hbelow hlevel
      have hfirst : p.player.xp < xpThreshold (max 0 1) := hbelow
      rw [Player.climb_of_lt 0 hfirst] at hlevel
      exact absurd (show max (0 : UInt32) 1 = 0 from hlevel) (by decide)
    · have hlog := (log_repair p).symm.trans (congrArg Progress.log h)
      rw [← hlog]
      exact length_newest_le p.log
  · rintro ⟨hplayer, hshort⟩
    have hcheck : ({ p.player with level := max p.player.level 1 } : Player).levelCheck.2 =
        p.player := by
      rw [max_level_eq_self hplayer.level, Player.levelCheck, Player.climb_of_lt 0 hplayer.xp]
    unfold repair
    rw [newest_eq_self hshort]
    dsimp only
    rw [hcheck, hplayer.skills]

theorem Sound.repair_eq_self (h : p.Sound) : p.repair = p :=
  repair_eq_self_iff.2 ⟨h.player, h.short⟩

/-! ## Whose game it is, and when it was stamped -/

theorem withAccount_eq_self {account : Option Account} (h : p.account = account) :
    { p with account := account } = p := by
  subst h
  rfl

theorem account_repair (p : Progress) : p.repair.account = p.account := rfl

theorem updatedAt_repair (p : Progress) : p.repair.updatedAt = p.updatedAt := rfl

theorem account_logCommand (p : Progress) (command output : String) (time : Instant) :
    (p.logCommand command output time).account = p.account := by
  -- The log is left open, for comparing it would unfold it.
  have haccount : ∀ log : List LogEntry, { p with log := log }.account = p.account := fun _ => rfl
  unfold Progress.logCommand
  exact haccount _

theorem account_purchase {id : String} {u : Upgrade} (h : p.purchase id = .ok (u, p')) :
    p'.account = p.account := by
  unfold Progress.purchase at h
  split at h
  · cases h
  · split at h <;> cases h
    rfl

theorem account_evaluate (p : Progress) (threshold : UInt32) (fs : FileSystem) (now : Instant) :
    (p.evaluate threshold fs now).2.account = p.account := by
  rw [evaluate_snd]
  exact (keepsRest_judgeAll p Quest.catalog).account

/-! ## Games in play -/

/-- The number of quests that are still to be completed. -/
def pendingQuests (p : Progress) : Nat := Quest.catalog.countP fun q => !p.isComplete q.id

/-- A game that is in order and has levels enough for all quests that are left. -/
structure InPlay (p : Progress) : Prop extends p.Sound where
  room : p.player.level.toNat + 2 * p.pendingQuests < UInt32.size

theorem pendingQuests_le (p : Progress) : p.pendingQuests ≤ Quest.catalog.length :=
  List.countP_le_length

theorem InPlay.fresh (hnow : now.Valid) : (Progress.fresh now).InPlay where
  toStorable := .fresh hnow
  player := Player.sound_initial
  short := Nat.zero_le _
  room := by
    have hsize : UInt32.size = 4294967296 := rfl
    have hle := pendingQuests_le (Progress.fresh now)
    have hlength : Quest.catalog.length ≤ 100 := by decide
    have hone : (Progress.fresh now).player.level.toNat = 1 := rfl
    omega

/-- What neither the level nor the quests show does not matter, if the save can hold it. -/
theorem InPlay.of_eq (h : p.InPlay) (hstorable : p'.Storable)
    (hplayer : p'.player = { p.player with coins := p'.player.coins })
    (hquests : p'.quests = p.quests) (hshort : p'.log.length ≤ logCapacity) : p'.InPlay := by
  have hpending : p'.pendingQuests = p.pendingQuests := by
    unfold pendingQuests isComplete
    rw [hquests]
  refine ⟨⟨hstorable, ?_, hshort⟩, ?_⟩
  · rw [hplayer]
    exact ⟨h.player.level, h.player.xp, h.player.skills⟩
  · rw [hpending, hplayer]
    exact h.room

theorem InPlay.withAccount (h : p.InPlay) (account : Option Account) :
    { p with account := account }.InPlay :=
  h.of_eq (h.toStorable.withAccount account) rfl rfl h.short

theorem InPlay.touch (h : p.InPlay) (hnow : now.Valid) : (p.touch now).InPlay :=
  h.of_eq (h.toStorable.touch hnow) rfl rfl h.short

theorem InPlay.repair (h : p.InPlay) : p.repair.InPlay := by
  rw [h.repair_eq_self]
  exact h

theorem InPlay.logCommand (h : p.InPlay) (command output : String) (hnow : now.Valid) :
    (p.logCommand command output now).InPlay := by
  have hstorable := h.toStorable.logCommand command output hnow
  unfold Progress.logCommand at hstorable ⊢
  refine h.of_eq hstorable rfl rfl ?_
  dsimp only
  exact length_newest_le _

theorem InPlay.purchase (h : p.InPlay) {id : String} {u : Upgrade}
    (hp : p.purchase id = .ok (u, p')) : p'.InPlay := by
  have hstorable := h.toStorable.purchase hp
  unfold Progress.purchase at hp
  split at hp
  · cases hp
  · split at hp
    · cases hp
    · cases hp
      exact h.of_eq hstorable rfl rfl h.short

theorem InPlay.accrueOffline (h : p.InPlay) (hnow : now.Valid) (rate : UInt32) :
    (p.accrueOffline now rate).2.InPlay := by
  have hstorable := h.toStorable.accrueOffline hnow rate
  obtain ⟨coins, heq⟩ := p.exists_accrueOffline now rate
  rw [heq] at hstorable ⊢
  exact h.of_eq hstorable rfl rfl h.short

theorem InPlay.updateStreak (h : p.InPlay) (hnow : now.Valid) : (p.updateStreak now).InPlay :=
  h.of_eq (h.toStorable.updateStreak hnow) rfl rfl h.short

/-! ### Quests -/

/-- However it is boosted, no quest gives more than 100 of experience. -/
theorem boosted_le {q : Quest} (hq : q ∈ Quest.catalog) {x : Float} (hx : Json.IsBoost x) :
    (boosted q.reward.xp x).toNat ≤ 100 := by
  have hall : ∀ x ∈ [0.0, 0.1, 0.2, 0.30000000000000004, 0.4, 0.5], ∀ q ∈ Quest.catalog,
      (boosted q.reward.xp x).toNat ≤ 100 := by decide +kernel
  refine hall x ?_ q hq
  simpa [Json.IsBoost] using hx

theorem countP_lt_countP {α : Type} {l : List α} {f g : α → Bool} {a : α} (ha : a ∈ l)
    (hfg : ∀ b ∈ l, f b = true → g b = true) (hf : f a = false) (hg : g a = true) :
    l.countP f < l.countP g := by
  induction l with
  | nil => cases ha
  | cons b r ih =>
    have hrest : r.countP f ≤ r.countP g :=
      List.countP_mono_left fun c hc => hfg c (List.mem_cons_of_mem _ hc)
    rcases List.mem_cons.1 ha with rfl | har
    · rw [List.countP_cons_of_neg (by simp [hf]), List.countP_cons_of_pos hg]
      omega
    · have hlt := ih har fun c hc => hfg c (List.mem_cons_of_mem _ hc)
      rw [List.countP_cons, List.countP_cons]
      by_cases hb : f b = true
      · rw [if_pos hb, if_pos (hfg b List.mem_cons_self hb)]
        omega
      · rw [if_neg hb]
        omega

theorem pendingQuests_markComplete {q : Quest} (hq : q ∈ Quest.catalog)
    (h : p.isComplete q.id = false) (zone : Zone) (time : Instant) :
    (p.markComplete q.id zone time).2.pendingQuests < p.pendingQuests := by
  refine countP_lt_countP hq (fun r _ hr => ?_) ?_ ?_
  · rw [isComplete_markComplete] at hr
    simp only [Bool.not_or, Bool.and_eq_true] at hr
    exact hr.2
  · rw [isComplete_markComplete, decide_eq_true rfl, Bool.true_or, Bool.not_true]
  · rw [h, Bool.not_false]

theorem InPlay.judge (h : p.InPlay) {threshold : UInt32} {fs : FileSystem} (hnow : now.Valid)
    {q : Quest} (hq : q ∈ Quest.catalog) : (p.judge threshold fs now q).2.InPlay := by
  have hstorable : (p.judge threshold fs now q).2.Storable := h.toStorable.judge hnow q
  have hlog : (p.judge threshold fs now q).2.log = p.log := (keepsRest_judge p q).log
  by_cases hready : p.Ready threshold fs q
  · rw [judge_of_ready hready] at hstorable hlog ⊢
    have hxp := boosted_le hq h.xpBoost
    have hfewer : ((p.reward q.reward).2.markComplete q.id q.zone now).2.pendingQuests <
        p.pendingQuests := pendingQuests_markComplete (p := (p.reward q.reward).2) hq hready.1 _ _
    have hroom := h.room
    obtain ⟨hsound, hlevel⟩ := h.player.receive hxp (by omega)
      (boosted q.reward.coins p.upgrades.coinBoost) q.reward.skill
    have hplayer : ((p.reward q.reward).2.markComplete q.id q.zone now).2.player =
        (p.player.receive (boosted q.reward.xp p.upgrades.xpBoost)
          (boosted q.reward.coins p.upgrades.coinBoost) q.reward.skill).2 := by
      unfold markComplete
      split <;> rfl
    refine ⟨⟨hstorable, hplayer ▸ hsound, hlog ▸ h.short⟩, ?_⟩
    rw [hplayer]
    omega
  · rw [judge_of_not_ready hready]
    exact h

theorem InPlay.judgeAll {threshold : UInt32} {fs : FileSystem} (hnow : now.Valid) {qs : List Quest}
    (hqs : ∀ q ∈ qs, q ∈ Quest.catalog) : ∀ {p : Progress}, p.InPlay →
      (p.judgeAll threshold fs now qs).2.InPlay := by
  induction qs with
  | nil => exact fun h => h
  | cons q r ih =>
    intro p h
    exact ih (fun q' hq' => hqs q' (List.mem_cons_of_mem _ hq'))
      (h.judge hnow (hqs q List.mem_cons_self))

theorem InPlay.evaluate (h : p.InPlay) (threshold : UInt32) (fs : FileSystem) (hnow : now.Valid) :
    (p.evaluate threshold fs now).2.InPlay := by
  rw [evaluate_snd]
  exact InPlay.judgeAll hnow (fun _ hq => hq) h

end Progress

end Questline
