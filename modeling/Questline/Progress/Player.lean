import Questline.Quest.Zone
import Questline.Decimal.Dyadic
set_option autoImplicit false

/-!
# Progress: players and levels

A player has experience inside the current level, and each level needs 25 more
than the one before.  Experience beyond a level's need carries over into the
next levels.

Everything is counted in words, and nothing keeps a save from filling them.  A
build that watches its words stops at the first result that its word cannot
hold; in one that does not, the result begins again at zero.  The first is
modelled by the functions with a question mark, which give nothing where the
build stops, and the second by those without.
-/

namespace Questline

/-! ## Words that are watched -/

/-- A number, if a word with so many values can hold it. -/
def word? (size n : Nat) : Option Nat := if n < size then some n else none

/-- A sum of short words, if it fits. -/
def sum32? (m n : UInt32) : Option UInt32 := (word? UInt32.size (m.toNat + n.toNat)).map .ofNat

/-- A sum of long words, if it fits. -/
def sum64? (m n : UInt64) : Option UInt64 := (word? UInt64.size (m.toNat + n.toNat)).map .ofNat

/-- A product of long words, if it fits. -/
def product64? (m n : UInt64) : Option UInt64 :=
  (word? UInt64.size (m.toNat * n.toNat)).map .ofNat

/-! ## Levels -/

/-- Experience needed to rise from `level` to the next. -/
def xpThreshold (level : UInt32) : UInt64 :=
  50 + (if level = 0 then 0 else (level - 1).toUInt64) * 25

theorem toNat_xpThreshold (level : UInt32) :
    (xpThreshold level).toNat = 50 + (level.toNat - 1) * 25 := by
  have hlt := level.toNat_lt
  by_cases h : level = 0
  · subst h; rfl
  · have hne : level.toNat ≠ 0 := fun h0 => h (UInt32.toNat_inj.1 h0)
    have h1 : (level - 1).toNat = level.toNat - 1 := by
      have : (1 : UInt32) ≤ level := by
        rw [UInt32.le_iff_toNat_le]; simp; omega
      rw [UInt32.toNat_sub_of_le _ _ this]; rfl
    simp only [xpThreshold, if_neg h, UInt64.toNat_add, UInt64.toNat_mul, UInt32.toNat_toUInt64, h1]
    simp
    omega

/-- Level, experience inside the level, coins and skills. -/
structure Player where
  level : UInt32
  xp : UInt64
  coins : UInt64
  skills : SkillLevels
  deriving DecidableEq, Inhabited, Repr

namespace Player

/-- A new player. -/
def initial : Player := ⟨1, 0, 0, .zero⟩

/-- Rolls experience into levels; tells the level, the experience left and how
many levels were gained on top of `gained`. -/
def climb (level : UInt32) (xp : UInt64) (gained : UInt32) : UInt32 × UInt64 × UInt32 :=
  if xp < xpThreshold level then (level, xp, gained)
  else climb (level + 1) (xp - xpThreshold level) (gained + 1)
termination_by xp.toNat
decreasing_by
  have hle : xpThreshold level ≤ xp := UInt64.not_lt.1 ‹_›
  rw [UInt64.toNat_sub_of_le _ _ hle]
  have hpos := toNat_xpThreshold level
  have := UInt64.le_iff_toNat_le.1 hle
  omega

/-- What a level needs, if all that is worked out on the way fits. -/
def need? (level : Nat) : Option Nat :=
  (word? UInt64.size ((level - 1) * 25)).bind fun more => word? UInt64.size (50 + more)

theorem le_of_need?_eq_some {level need : Nat} (h : need? level = some need) : 50 ≤ need := by
  simp only [need?, word?, Option.bind_eq_some_iff, Option.ite_none_right_eq_some,
    Option.some.injEq] at h
  obtain ⟨more, -, -, rfl⟩ := h
  exact Nat.le_add_right _ _

/-- Rolls experience into levels, if every level and every count on the way fits. -/
def climb? (level xp gained : Nat) : Option (Nat × Nat × Nat) :=
  match _h : need? level with
  | none => none
  | some need =>
    if xp < need then some (level, xp, gained)
    else
      match word? UInt32.size (level + 1), word? UInt32.size (gained + 1) with
      | some level, some gained => climb? level (xp - need) gained
      | _, _ => none
termination_by xp
decreasing_by
  have hneed := le_of_need?_eq_some ‹_›
  omega

/-- Rolls excess experience into levels; tells how many were gained. -/
def levelCheck (p : Player) : UInt32 × Player :=
  let (level, xp, gained) := climb p.level p.xp 0
  (gained, { p with level := level, xp := xp })

/-- The same, if every word on the way can hold its result. -/
def levelCheck? (p : Player) : Option (UInt32 × Player) :=
  (climb? p.level.toNat p.xp.toNat 0).map fun (level, xp, gained) =>
    (.ofNat gained, { p with level := .ofNat level, xp := .ofNat xp })

/-- Experience needed for all levels from the first up to `level`. -/
def earned (level : Nat) : Nat :=
  let n := level - 1
  50 * n + 25 * (n * (n - 1) / 2)

/-- Experience since the first level. -/
def totalXp (p : Player) : UInt64 := UInt64.ofNat (earned p.level.toNat) + p.xp

/-- The same, if it fits; no sum on the way is larger. -/
def totalXp? (p : Player) : Option UInt64 :=
  (word? UInt64.size (earned p.level.toNat + p.xp.toNat)).map .ofNat

end Player

/-! ## Rewards -/

/-- What a quest gives, before boosts. -/
structure Reward where
  xp : UInt64
  coins : UInt64
  skill : Option Skill
  deriving DecidableEq, Repr

/-- What a reward gave. -/
structure Gain where
  xp : UInt64
  coins : UInt64
  skill : UInt32
  levels : UInt32
  deriving DecidableEq, Repr

/-- The most that a boost counts for. -/
def maxBoost : Float := 0.5

/-- An amount with a boost; a boost that is no finite number does not count. -/
def boosted (base : UInt64) (boost : Float) : UInt64 :=
  let b :=
    if boost.isFinite then (if boost < 0.0 then 0.0 else if boost > maxBoost then maxBoost else boost)
    else 0.0
  Decimal.nearestWord (base.toFloat * (1.0 + b))

/-- Three fifths of an amount of experience, rounded up. -/
def skillGain (xp : UInt64) : UInt32 :=
  let t := xp * 3
  let n := t.toNat / 5 + (if t.toNat % 5 = 0 then 0 else 1)
  UInt32.ofNat (min n 0xFFFFFFFF)

/-- The same for a skill, if three times the amount fits; there is nothing to work out without. -/
def skillGain? (skill : Option Skill) (xp : UInt64) : Option UInt32 :=
  match skill with
  | some _ => (product64? xp 3).map fun _ => skillGain xp
  | none => some 0

namespace Player

/-- Adds to the level of a skill, which stays at the largest word. -/
def train (p : Player) (skill : Skill) (gain : UInt32) : Player :=
  let n := min ((p.skills.get skill).toNat + gain.toNat) 0xFFFFFFFF
  { p with skills := p.skills.set skill (UInt32.ofNat n) }

/-- Gives amounts that have been boosted already. -/
def receive (p : Player) (xp coins : UInt64) (skill : Option Skill) : Gain × Player :=
  let p := { p with xp := p.xp + xp, coins := p.coins + coins }
  let (gain, p) := match skill with
    | some s => (skillGain xp, p.train s (skillGain xp))
    | none => (0, p)
  let (levels, p) := p.levelCheck
  (⟨xp, coins, gain, levels⟩, p)

/-- The same, if every word on the way can hold its result. -/
def receive? (p : Player) (xp coins : UInt64) (skill : Option Skill) : Option (Gain × Player) := do
  let p := { p with xp := ← sum64? p.xp xp, coins := ← sum64? p.coins coins }
  let gain ← skillGain? skill xp
  let (levels, p) ← (skill.elim p fun s => p.train s gain).levelCheck?
  return (⟨xp, coins, gain, levels⟩, p)

end Player

end Questline
