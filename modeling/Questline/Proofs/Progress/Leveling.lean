import Mathlib.Algebra.BigOperators.Intervals
import Questline.Proofs.Progress.Experience
set_option autoImplicit false

/-!
# Levels hold all experience

The loop that rolls experience into levels is followed here round by round, with every result
checked against its word.  As long as a word can hold all experience since the first level, no
round gives up, the loop goes round once for each level gained, and it arrives at the only level
and remainder that are in order and come to the same experience.
-/

namespace Questline

namespace Player

/-! ## All experience, level by level -/

/-- Experience since the first level: what every level behind needed, and what is left. -/
def cumulativeXp (p : Player) : Nat :=
  ∑ k ∈ Finset.Ico 1 p.level.toNat, (xpThreshold (.ofNat k)).toNat + p.xp.toNat

theorem toNat_xpThreshold_ofNat {n : Nat} (h : n < UInt32.size) :
    (xpThreshold (.ofNat n)).toNat = 50 + (n - 1) * 25 := by
  rw [toNat_xpThreshold, UInt32.toNat_ofNat_of_lt' h]

theorem earned_eq_sum {n : Nat} (h : n ≤ UInt32.size) :
    earned n = ∑ k ∈ Finset.Ico 1 n, (xpThreshold (.ofNat k)).toNat := by
  induction n with
  | zero => rfl
  | succ n ih =>
    by_cases hzero : n = 0
    · subst hzero
      rfl
    · rw [Finset.sum_Ico_succ_top (Nat.one_le_iff_ne_zero.2 hzero), ← ih (Nat.le_of_succ_le h),
        earned_succ hzero, toNat_xpThreshold_ofNat h]

theorem cumulativeXp_eq_experience (p : Player) : p.cumulativeXp = p.experience := by
  rw [cumulativeXp, experience, earned_eq_sum (Nat.le_of_lt p.level.toNat_lt)]

/-- Adds what a level needs, if the need and the sum fit. -/
def addNeed? (sum level : Nat) : Option Nat :=
  (need? level).bind fun need => word? UInt64.size (sum + need)

/-- The total in numbers: the needs of the levels behind are added one after the other, then the
experience that is left, if every sum on the way fits. -/
def total? (p : Player) : Option Nat :=
  ((List.range' 1 (p.level.toNat - 1)).foldlM addNeed? 0).bind fun sum =>
    word? UInt64.size (sum + p.xp.toNat)

theorem need?_of_lt {n : Nat} (h : n < UInt32.size) : need? n = some (50 + (n - 1) * 25) := by
  have hneed := need?_toNat (.ofNat n)
  rw [UInt32.toNat_ofNat_of_lt' h, toNat_xpThreshold_ofNat h] at hneed
  exact hneed

/-- Where a part of a sum does not fit, the sum does not either. -/
theorem bind_word?_add (size m n : Nat) :
    ((word? size m).bind fun sum => word? size (sum + n)) = word? size (m + n) := by
  unfold word?
  by_cases h : m < size
  · rw [if_pos h, Option.bind_some]
  · rw [if_neg h, if_neg fun hsum => h (Nat.lt_of_le_of_lt (Nat.le_add_right m n) hsum),
      Option.bind_none]

/-- Adding up the needs gives up exactly if all of them together do not fit. -/
theorem foldlM_addNeed? {n : Nat} (h : n < UInt32.size) :
    (List.range' 1 n).foldlM addNeed? 0 = word? UInt64.size (earned (n + 1)) := by
  induction n with
  | zero => rfl
  | succ n ih =>
    calc (List.range' 1 (n + 1)).foldlM addNeed? 0
        = ((List.range' 1 n).foldlM addNeed? 0).bind fun sum => addNeed? sum (n + 1) := by
          rw [List.range'_1_concat, List.foldlM_append, Nat.add_comm 1 n]
          simp only [List.foldlM_cons, List.foldlM_nil, bind_pure]
          rfl
      _ = (word? UInt64.size (earned (n + 1))).bind fun sum =>
            word? UInt64.size (sum + (50 + (n + 1 - 1) * 25)) := by
          simp only [ih (Nat.lt_of_succ_lt h), addNeed?, need?_of_lt h, Option.bind_some]
      _ = word? UInt64.size (earned (n + 1 + 1)) := by
          rw [bind_word?_add, earned_succ (Nat.succ_ne_zero n)]

/-- The total is worked out exactly if it fits: no sum on the way is larger. -/
theorem total?_eq (p : Player) : p.total? = word? UInt64.size p.cumulativeXp := by
  have hearned : earned (p.level.toNat - 1 + 1) = earned p.level.toNat := by
    unfold earned
    rw [Nat.add_sub_cancel]
  have hlevel : p.level.toNat - 1 < UInt32.size :=
    Nat.lt_of_le_of_lt (Nat.sub_le ..) p.level.toNat_lt
  rw [total?, foldlM_addNeed? hlevel, hearned, bind_word?_add, cumulativeXp_eq_experience,
    experience]

/-! ## The rounds of a climb -/

/-- What a climb works with: the level, the experience in it and the levels gained. -/
structure Rung where
  level : Nat
  xp : Nat
  gained : Nat

/-- A difference, if it is not below zero. -/
def difference? (m n : Nat) : Option Nat := if n ≤ m then some (m - n) else none

/-- The climb goes round so many times and ends, and every result on the way fits. -/
inductive Climbs : Nat → Rung → Rung → Prop
  | stop {r : Rung} {need : Nat} : need? r.level = some need → r.xp < need → Climbs 0 r r
  | rise {n : Nat} {r s : Rung} {need level xp gained : Nat} :
      need? r.level = some need → ¬ r.xp < need →
      difference? r.xp need = some xp →
      word? UInt32.size (r.level + 1) = some level →
      word? UInt32.size (r.gained + 1) = some gained →
      Climbs n ⟨level, xp, gained⟩ s → Climbs (n + 1) r s

theorem eq_of_word?_eq_some {size n m : Nat} (h : word? size n = some m) : m = n := by
  unfold word? at h
  split at h <;> cases h
  rfl

/-- A climb in numbers that does not give up goes round once for each level. -/
theorem climbs_of_climb? {level xp gained : Nat} {s : Rung}
    (h : climb? level xp gained = some (s.level, s.xp, s.gained)) :
    ∃ n, s.level = level + n ∧ s.gained = gained + n ∧ Climbs n ⟨level, xp, gained⟩ s := by
  -- The two words grow by one in the same round, so that both count the rounds.
  induction level, xp, gained using climb?.induct with
  | case1 level xp gained hneed =>
    rw [climb?, hneed] at h
    cases h
  | case2 level xp gained need hneed hlt =>
    rw [climb?, hneed] at h
    dsimp only at h
    rw [if_pos hlt] at h
    cases h
    exact ⟨0, rfl, rfl, .stop hneed hlt⟩
  | case3 level xp gained need hneed hlt level' gained' hgained hlevel ih =>
    rw [climb?, hneed] at h
    dsimp only at h
    rw [if_neg hlt, hlevel, hgained] at h
    obtain ⟨n, hup, hcount, hclimb⟩ := ih h
    have hdifference : difference? xp need = some (xp - need) := if_pos (Nat.not_lt.1 hlt)
    rw [eq_of_word?_eq_some hlevel] at hup
    rw [eq_of_word?_eq_some hgained] at hcount
    exact ⟨n + 1, by omega, by omega, .rise hneed hlt hdifference hlevel hgained hclimb⟩
  | case4 level xp gained need hneed hlt hfull =>
    rw [climb?, hneed] at h
    dsimp only at h
    rw [if_neg hlt] at h
    split at h
    · exact (hfull _ _ ‹_› ‹_›).elim
    · cases h

/-! ## The result of a check -/

/-- A player is at no higher level than one in order who has at least as much experience. -/
theorem level_le_of_experience_le {p q : Player} (hlevel : q.level ≠ 0)
    (hxp : q.xp < xpThreshold q.level) (h : p.experience ≤ q.experience) :
    p.level.toNat ≤ q.level.toNat := by
  by_contra hnot
  have hpos : q.level.toNat ≠ 0 := fun h0 => hlevel (UInt32.toNat_inj.1 h0)
  have hbelow := UInt64.lt_iff_toNat_lt.1 hxp
  rw [toNat_xpThreshold] at hbelow
  have hless : q.experience < p.experience := by
    calc q.experience
        < earned q.level.toNat + (50 + (q.level.toNat - 1) * 25) := Nat.add_lt_add_left hbelow _
      _ = earned (q.level.toNat + 1) := (earned_succ hpos).symm
      _ ≤ earned p.level.toNat := earned_le_earned (Nat.not_le.1 hnot)
      _ ≤ p.experience := Nat.le_add_right _ _
  exact Nat.not_le.2 hless h

/-- In order, one level and one remainder come to the same experience, and no others do. -/
theorem level_xp_eq_iff {q : Player} (hlevel : q.level ≠ 0) (hxp : q.xp < xpThreshold q.level)
    (r : Player) :
    r.level ≠ 0 ∧ r.xp < xpThreshold r.level ∧ r.cumulativeXp = q.cumulativeXp ↔
      r.level = q.level ∧ r.xp = q.xp := by
  constructor
  · rintro ⟨hrlevel, hrxp, hsame⟩
    rw [cumulativeXp_eq_experience, cumulativeXp_eq_experience] at hsame
    have heq : r.level = q.level := UInt32.toNat_inj.1 <| Nat.le_antisymm
      (level_le_of_experience_le hlevel hxp hsame.le)
      (level_le_of_experience_le hrlevel hrxp hsame.ge)
    refine ⟨heq, UInt64.toNat_inj.1 ?_⟩
    unfold experience at hsame
    rw [heq] at hsame
    exact Nat.add_left_cancel hsame
  · rintro ⟨hrlevel, hrxp⟩
    rw [cumulativeXp, cumulativeXp, hrlevel, hrxp]
    exact ⟨hlevel, hxp, rfl⟩

/-- Rolling the experience of `p` into levels ends at `q`, with as many levels `gained`. -/
structure Rolls (p : Player) (gained : UInt32) (q : Player) : Prop where
  rounds : Climbs gained.toNat ⟨p.level.toNat, p.xp.toNat, 0⟩
    ⟨q.level.toNat, q.xp.toNat, gained.toNat⟩
  counted : q.level.toNat = p.level.toNat + gained.toNat
  below : q.xp < xpThreshold q.level
  rest : q = { p with level := q.level, xp := q.xp }
  /-- The total is the same before and after, and nothing overflows where it is worked out. -/
  total : p.total? = some p.cumulativeXp ∧ q.total? = some p.cumulativeXp
  told : p.totalXp.toNat = p.cumulativeXp ∧ q.totalXp = p.totalXp
  /-- No other level and remainder that are in order come to the same experience. -/
  unique : ∀ r : Player,
    r.level ≠ 0 ∧ r.xp < xpThreshold r.level ∧ r.cumulativeXp = p.cumulativeXp ↔
      r.level = q.level ∧ r.xp = q.xp

section

variable {p : Player} (hlevel : p.level ≠ 0) (hroom : p.experience < earned UInt32.size)

include hlevel hroom

/-- With a level for all experience, the loop ends after a round for each level gained. -/
theorem climbs_levelCheck :
    Climbs p.levelCheck.1.toNat ⟨p.level.toNat, p.xp.toNat, 0⟩
      ⟨p.levelCheck.2.level.toNat, p.levelCheck.2.xp.toNat, p.levelCheck.1.toNat⟩ := by
  have hfits := climb?_toNat p.level p.xp 0 hlevel (Nat.zero_le _)
  rw [if_pos (show earned p.level.toNat + p.xp.toNat < _ from hroom)] at hfits
  obtain ⟨n, -, hcount, hclimb⟩ := climbs_of_climb? (s := ⟨_, _, _⟩) hfits
  obtain rfl : n = p.levelCheck.1.toNat := (hcount.trans (Nat.zero_add n)).symm
  exact hclimb

/-- With a level for all experience, none of it gets lost. -/
theorem experience_levelCheck :
    p.levelCheck.2.experience = p.experience ∧
      p.levelCheck.2.level.toNat = p.level.toNat + p.levelCheck.1.toNat :=
  earned_climb p.level p.xp 0 hlevel (Nat.zero_le _) hroom

end

/-- Rolling is exact for every player whose experience since the first level fits into its word. -/
theorem levelCheck_exact {p : Player} (hlevel : p.level ≠ 0)
    (hroom : p.cumulativeXp < UInt64.size) : p.Rolls p.levelCheck.1 p.levelCheck.2 := by
  have hfits : p.experience < UInt64.size := cumulativeXp_eq_experience p ▸ hroom
  obtain ⟨hkept, hcount⟩ := experience_levelCheck hlevel (lt_earned_size hfits)
  have hbelow : p.levelCheck.2.xp < xpThreshold p.levelCheck.2.level := climb_lt p.level p.xp 0
  have hend : p.levelCheck.2.level ≠ 0 := by
    intro hzero
    rw [hzero] at hcount
    exact hlevel (UInt32.toNat_inj.1 (Nat.eq_zero_of_add_eq_zero_right hcount.symm))
  have hsame : p.levelCheck.2.cumulativeXp = p.cumulativeXp := by
    rw [cumulativeXp_eq_experience, cumulativeXp_eq_experience, hkept]
  refine {
    rounds := climbs_levelCheck hlevel (lt_earned_size hfits)
    counted := hcount
    below := hbelow
    rest := rfl
    total := ⟨?_, ?_⟩
    told := ⟨?_, UInt64.toNat_inj.1 ?_⟩
    unique := fun r => ?_ }
  · rw [total?_eq, word?, if_pos hroom]
  · rw [total?_eq, hsame, word?, if_pos hroom]
  · rw [toNat_totalXp hfits, cumulativeXp_eq_experience]
  · rw [toNat_totalXp hfits, toNat_totalXp (hkept ▸ hfits), hkept]
  · rw [← hsame]
    exact level_xp_eq_iff hend hbelow r

/-- A player at the third level who has all the experience that a word can hold. -/
def fullOfXp : Player := ⟨3, 18446744073709551490, 7, .zero⟩

/-- A full word is rolled into more than a billion levels. -/
theorem levelCheck_fullOfXp :
    fullOfXp.level ≠ 0 ∧ fullOfXp.cumulativeXp < UInt64.size ∧
      fullOfXp.cumulativeXp + 1 = UInt64.size ∧
      fullOfXp.levelCheck = (1214800196, ⟨1214800199, 14894054140, 7, .zero⟩) ∧
      fullOfXp.Rolls 1214800196 ⟨1214800199, 14894054140, 7, .zero⟩ := by
  obtain ⟨gained, q, hcheck, hrolls⟩ :
      ∃ gained q, fullOfXp.levelCheck = (gained, q) ∧ fullOfXp.Rolls gained q :=
    ⟨_, _, Prod.mk.eta.symm, levelCheck_exact (by decide) (by decide)⟩
  -- The rounds are too many to be run, but only one result is in order.
  obtain ⟨hlevel, hxp⟩ : (1214800199 : UInt32) = q.level ∧ (14894054140 : UInt64) = q.xp := by
    refine (hrolls.unique ⟨1214800199, 14894054140, 7, .zero⟩).1 ⟨by decide, by decide, ?_⟩
    rw [cumulativeXp_eq_experience, cumulativeXp_eq_experience]
    decide
  have hgained : gained = 1214800196 := by
    have hcounted := hrolls.counted
    rw [← hlevel, show fullOfXp.level = 3 from rfl] at hcounted
    apply UInt32.toNat_inj.1
    simp only [UInt32.reduceToNat] at hcounted ⊢
    omega
  have hend : q = ⟨1214800199, 14894054140, 7, .zero⟩ := by
    rw [hrolls.rest, ← hlevel, ← hxp]
    rfl
  subst hgained hend
  exact ⟨by decide, by decide, by decide, hcheck, hrolls⟩

end Player

end Questline
