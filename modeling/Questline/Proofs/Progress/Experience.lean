import Questline.Proofs.Progress.Sound
set_option autoImplicit false

/-!
# Experience over all levels

What a player has earned since the first level is the need of all levels that are behind plus
the experience inside the current one.  Rolling experience into levels moves it from the one to
the other and loses none, so that a reward adds just what it gives.
-/

namespace Questline

namespace Player

/-- Experience since the first level, however large. -/
def experience (p : Player) : Nat := earned p.level.toNat + p.xp.toNat

/-- Every level needs what the levels before it need, and its own. -/
theorem earned_succ {n : Nat} (h : n ≠ 0) : earned (n + 1) = earned n + (50 + (n - 1) * 25) := by
  obtain ⟨m, rfl⟩ := Nat.exists_eq_succ_of_ne_zero h
  have hsplit : (m + 1) * m = m * (m - 1) + m * 2 := by
    cases m with
    | zero => rfl
    | succ k => rw [Nat.add_sub_cancel, ← Nat.mul_add, Nat.mul_comm]
  have hhalf : (m + 1) * m / 2 = m * (m - 1) / 2 + m := by
    rw [hsplit, Nat.add_mul_div_right _ _ (by decide)]
  simp only [earned, Nat.succ_eq_add_one, Nat.add_sub_cancel, hhalf]
  omega

/-- More levels need more. -/
theorem earned_le_earned {m n : Nat} (h : m ≤ n) : earned m ≤ earned n := by
  have hsquare : (m - 1) * (m - 1 - 1) ≤ (n - 1) * (n - 1 - 1) :=
    Nat.mul_le_mul (by omega) (by omega)
  have hhalf : (m - 1) * (m - 1 - 1) / 2 ≤ (n - 1) * (n - 1 - 1) / 2 :=
    Nat.div_le_div_right hsquare
  unfold earned
  dsimp only
  omega

theorem lt_of_earned_lt {m n : Nat} (h : earned m < earned n) : m < n :=
  Nat.lt_of_not_le fun hle => Nat.not_le_of_lt h (earned_le_earned hle)

/-- The levels do not run out before the words for experience do. -/
theorem lt_earned_size {n : Nat} (h : n < 0x10000000000000000) : n < earned UInt32.size :=
  Nat.lt_trans h (by decide)

/-- Climbing loses nothing, and tells how far it went, as long as the levels do not run out. -/
theorem earned_climb (level : UInt32) (xp : UInt64) (gained : UInt32) (hlevel : level ≠ 0)
    (hgained : gained.toNat ≤ level.toNat)
    (hroom : earned level.toNat + xp.toNat < earned UInt32.size) :
    earned (climb level xp gained).1.toNat + (climb level xp gained).2.1.toNat =
        earned level.toNat + xp.toNat ∧
      (climb level xp gained).1.toNat + gained.toNat =
        level.toNat + (climb level xp gained).2.2.toNat := by
  induction level, xp, gained using climb.induct with
  | case1 level xp gained h =>
    rw [climb_of_lt gained h]
    exact ⟨rfl, rfl⟩
  | case2 level xp gained h ih =>
    have hsize : UInt32.size = 4294967296 := rfl
    have hle : xpThreshold level ≤ xp := UInt64.not_lt.1 h
    have hneed := toNat_xpThreshold level
    have hrest : (xp - xpThreshold level).toNat = xp.toNat - (xpThreshold level).toNat :=
      UInt64.toNat_sub_of_le _ _ hle
    have hnat := UInt64.le_iff_toNat_le.1 hle
    have hpos : level.toNat ≠ 0 := fun h0 => hlevel (UInt32.toNat_inj.1 h0)
    have hearned := earned_succ hpos
    have hbelow := lt_of_earned_lt (show earned (level.toNat + 1) < earned UInt32.size by omega)
    have hnext : (level + 1).toNat = level.toNat + 1 := by
      rw [UInt32.toNat_add]
      exact Nat.mod_eq_of_lt (by simp; omega)
    have hmore : (gained + 1).toNat = gained.toNat + 1 := by
      rw [UInt32.toNat_add]
      exact Nat.mod_eq_of_lt (by simp; omega)
    have hnonzero : level + 1 ≠ 0 := by
      intro h0
      rw [h0] at hnext
      exact absurd hnext (by simp)
    obtain ⟨hkept, hcounted⟩ := ih hnonzero (by omega) (by rw [hnext]; omega)
    rw [hnext] at hkept hcounted
    rw [climb, if_neg h]
    exact ⟨by omega, by omega⟩

/-- Below the largest word the total is told as it is. -/
theorem toNat_totalXp {p : Player} (h : p.experience < 0x10000000000000000) :
    p.totalXp.toNat = p.experience := by
  unfold experience at h ⊢
  have hearned : earned p.level.toNat < UInt64.size := by
    change _ < 0x10000000000000000
    omega
  rw [totalXp, UInt64.toNat_add, UInt64.toNat_ofNat_of_lt' hearned]
  exact Nat.mod_eq_of_lt h

/-! ## Climbing in numbers

Where words are not watched, those of a player begin again at zero when they are full.  Where they
are, the climb gives up at the first result that its word cannot hold. -/

/-- What any level needs can be worked out. -/
theorem need?_toNat (level : UInt32) : need? level.toNat = some (xpThreshold level).toNat := by
  have hlevel := level.toNat_lt
  have hsize : UInt64.size = 18446744073709551616 := rfl
  rw [toNat_xpThreshold, need?, word?, if_pos (by omega), Option.bind_some, word?,
    if_pos (by omega)]

theorem climb?_of_lt {level : UInt32} {xp : UInt64} (gained : Nat) (h : xp < xpThreshold level) :
    climb? level.toNat xp.toNat gained = some (level.toNat, xp.toNat, gained) := by
  rw [climb?, need?_toNat]
  exact if_pos (UInt64.lt_iff_toNat_lt.1 h)

theorem climb?_of_le {level : UInt32} {xp : UInt64} (gained : Nat) (h : xpThreshold level ≤ xp) :
    climb? level.toNat xp.toNat gained =
      if level.toNat + 1 < UInt32.size ∧ gained + 1 < UInt32.size then
        climb? (level.toNat + 1) (xp.toNat - (xpThreshold level).toNat) (gained + 1)
      else none := by
  rw [climb?, need?_toNat]
  dsimp only
  rw [if_neg (Nat.not_lt.2 (UInt64.le_iff_toNat_le.1 h)), word?, word?]
  by_cases hlevel : level.toNat + 1 < UInt32.size
  · by_cases hgained : gained + 1 < UInt32.size
    · rw [if_pos hlevel, if_pos hgained, if_pos ⟨hlevel, hgained⟩]
    · have hboth : ¬ (level.toNat + 1 < UInt32.size ∧ gained + 1 < UInt32.size) :=
        fun hboth => hgained hboth.2
      rw [if_pos hlevel, if_neg hgained, if_neg hboth]
  · have hboth : ¬ (level.toNat + 1 < UInt32.size ∧ gained + 1 < UInt32.size) :=
      fun hboth => hlevel hboth.1
    rw [if_neg hlevel, if_neg hboth]

/-- The climb in numbers is the climb in words, and it gives up exactly when the experience is
enough for all levels that there are. -/
theorem climb?_toNat (level : UInt32) (xp : UInt64) (gained : UInt32) (hlevel : level ≠ 0)
    (hgained : gained.toNat ≤ level.toNat) :
    climb? level.toNat xp.toNat gained.toNat =
      if earned level.toNat + xp.toNat < earned UInt32.size then
        some ((climb level xp gained).1.toNat, (climb level xp gained).2.1.toNat,
          (climb level xp gained).2.2.toNat)
      else none := by
  have hsize : UInt32.size = 4294967296 := rfl
  induction level, xp, gained using climb.induct with
  | case1 level xp gained h =>
    have hpos : level.toNat ≠ 0 := fun h0 => hlevel (UInt32.toNat_inj.1 h0)
    have hearned := earned_succ hpos
    have hneed := toNat_xpThreshold level
    have hnat := UInt64.lt_iff_toNat_lt.1 h
    have hlast : earned (level.toNat + 1) ≤ earned UInt32.size := earned_le_earned level.toNat_lt
    rw [climb?_of_lt _ h, climb_of_lt gained h, if_pos (by omega)]
  | case2 level xp gained h ih =>
    have hle : xpThreshold level ≤ xp := UInt64.not_lt.1 h
    have hneed := toNat_xpThreshold level
    have hrest : (xp - xpThreshold level).toNat = xp.toNat - (xpThreshold level).toNat :=
      UInt64.toNat_sub_of_le _ _ hle
    have hnat := UInt64.le_iff_toNat_le.1 hle
    have hpos : level.toNat ≠ 0 := fun h0 => hlevel (UInt32.toNat_inj.1 h0)
    have hearned := earned_succ hpos
    rw [climb?_of_le _ hle]
    by_cases hbelow : level.toNat + 1 < UInt32.size
    · have hnext : (level + 1).toNat = level.toNat + 1 := by
        rw [UInt32.toNat_add]
        exact Nat.mod_eq_of_lt (by simp; omega)
      have hmore : (gained + 1).toNat = gained.toNat + 1 := by
        rw [UInt32.toNat_add]
        exact Nat.mod_eq_of_lt (by simp; omega)
      have hnonzero : level + 1 ≠ 0 := by
        intro h0
        rw [h0] at hnext
        exact absurd hnext (by simp)
      have hclimb := ih hnonzero (by omega)
      rw [hnext, hmore, hrest] at hclimb
      rw [if_pos ⟨hbelow, by omega⟩, hclimb, climb.eq_def level xp gained, if_neg h,
        show earned (level.toNat + 1) + (xp.toNat - (xpThreshold level).toNat) =
          earned level.toNat + xp.toNat by omega]
    · -- The last level is behind, and what it needs was there.
      have hlast : level.toNat + 1 = UInt32.size := by
        have := level.toNat_lt
        omega
      rw [if_neg fun hboth => hbelow hboth.1, if_neg]
      rw [← hlast]
      omega

/-! ## Rewards -/

section

variable (p : Player) (xp coins : UInt64) (skill : Option Skill)

/-- A reward adds its experience, and tells how many levels it gives. -/
theorem experience_receive {p : Player} {xp : UInt64} (hlevel : p.level ≠ 0)
    (hroom : p.experience + xp.toNat < 0x10000000000000000) :
    (p.receive xp coins skill).2.experience = p.experience + xp.toNat ∧
      (p.receive xp coins skill).2.level.toNat =
        p.level.toNat + (p.receive xp coins skill).1.levels.toNat := by
  unfold experience at hroom ⊢
  have hsum : (p.xp + xp).toNat = p.xp.toNat + xp.toNat := by
    rw [UInt64.toNat_add]
    exact Nat.mod_eq_of_lt (by omega)
  obtain ⟨hclimb, hgained⟩ :=
    earned_climb p.level (p.xp + xp) 0 hlevel (Nat.zero_le _) (lt_earned_size (by rw [hsum]; omega))
  cases skill with
  | none => exact ⟨hclimb.trans (by rw [hsum]; omega), hgained⟩
  | some k => exact ⟨hclimb.trans (by rw [hsum]; omega), hgained⟩

theorem coins_receive : (p.receive xp coins skill).2.coins = p.coins + coins := by
  cases skill <;> rfl

theorem gain_receive : (p.receive xp coins skill).1.xp = xp ∧
    (p.receive xp coins skill).1.coins = coins := by
  cases skill <;> exact ⟨rfl, rfl⟩

theorem skill_receive {k : Skill} (h : skill = some k) :
    (p.receive xp coins skill).1.skill = skillGain xp := by
  subst h
  rfl

theorem skill_receive_le : (p.receive xp coins skill).1.skill.toNat ≤ (skillGain xp).toNat := by
  cases skill with
  | none => exact Nat.zero_le _
  | some k => exact Nat.le_refl _

/-- A reward trains the skill that it names by what it says, and no other. -/
theorem skills_receive
    (hroom : ∀ k, skill = some k → (p.skills.get k).toNat + (skillGain xp).toNat < 0x100000000)
    (k : Skill) :
    ((p.receive xp coins skill).2.skills.get k).toNat = (p.skills.get k).toNat +
      if skill = some k then (p.receive xp coins skill).1.skill.toNat else 0 := by
  cases skill with
  | none => rfl
  | some j =>
    change ((p.skills.set j _).get k).toNat = _ + if some j = some k then (skillGain xp).toNat else 0
    by_cases hk : k = j
    · subst hk
      have hfits := hroom k rfl
      rw [SkillLevels.get_set_self, if_pos rfl]
      dsimp only
      rw [Nat.min_eq_left (by omega)]
      exact UInt32.toNat_ofNat_of_lt' hfits
    · rw [SkillLevels.get_set_of_ne _ hk, if_neg (fun h => hk (Option.some.inj h).symm), Nat.add_zero]

/-- A reward for another skill, or for none, leaves the entry of a skill alone. -/
theorem get?_skills_receive {k : Skill} (h : skill ≠ some k) :
    (p.receive xp coins skill).2.skills.get? k = p.skills.get? k := by
  cases skill with
  | none => rfl
  | some j => exact SkillLevels.get?_set_of_ne _ (fun hk : k = j => h (congrArg some hk.symm)) _

end

/-- Training gives no more than the experience it comes with. -/
theorem skillGain_le {xp : UInt64} (h : xp.toNat ≤ 100) : (skillGain xp).toNat ≤ xp.toNat := by
  have htriple : (xp * 3).toNat = xp.toNat * 3 := by
    rw [UInt64.toNat_mul]
    exact Nat.mod_eq_of_lt (by simp; omega)
  unfold skillGain
  extract_lets t n
  have hn : n ≤ xp.toNat := by
    simp only [n, t, htriple]
    split <;> omega
  rw [Nat.min_eq_left (by omega)]
  rw [UInt32.toNat_ofNat_of_lt' (by simp [UInt32.size]; omega)]
  exact hn

end Player

end Questline
