import Questline.Progress.Return
import Questline.Proofs.Progress.Experience
set_option autoImplicit false

/-!
# Where a build stops that watches its words

A build that watches its words does what one does that does not, or it stops.  Here it is told for
every function that counts in words when it stops.
-/

namespace Questline

open Time (Instant)

/-- What is done after a check and watched itself stops where either of the two does. -/
theorem bind_checked {α β : Type} {a b : Prop} [Decidable a] [Decidable b] {x : α} {y : β}
    {f : α → Option β} (h : a → f x = if b then some y else none) :
    ((if a then some x else none) >>= f) = if a ∧ b then some y else none := by
  by_cases ha : a
  · rw [if_pos ha, Option.bind_eq_bind, Option.bind_some, h ha]
    simp only [ha, true_and]
  · rw [if_neg ha, if_neg fun hab => ha hab.1]
    rfl

/-! ## Sums and products -/

theorem sum32?_eq (m n : UInt32) :
    sum32? m n = if m.toNat + n.toNat < UInt32.size then some (m + n) else none := by
  unfold sum32? word?
  split
  · rw [Option.map_some, UInt32.ofNat_add, UInt32.ofNat_toNat, UInt32.ofNat_toNat]
  · rfl

theorem sum64?_eq (m n : UInt64) :
    sum64? m n = if m.toNat + n.toNat < UInt64.size then some (m + n) else none := by
  unfold sum64? word?
  split
  · rw [Option.map_some, UInt64.ofNat_add, UInt64.ofNat_toNat, UInt64.ofNat_toNat]
  · rfl

theorem skillGain?_eq (skill : Option Skill) (xp : UInt64) :
    skillGain? skill xp =
      if skill.isSome = true → xp.toNat * 3 < UInt64.size then
        some (skill.elim 0 fun _ => skillGain xp)
      else none := by
  cases skill with
  | none => rfl
  | some s =>
    simp only [skillGain?, product64?, word?, Option.isSome_some, forall_const]
    rw [show (3 : UInt64).toNat = 3 from rfl]
    split <;> rfl

theorem toNat_add_of_fits {a b : UInt64} (h : a.toNat + b.toNat < UInt64.size) :
    (a + b).toNat = a.toNat + b.toNat := by
  rw [UInt64.toNat_add]
  exact Nat.mod_eq_of_lt h

/-! ## Levels and rewards -/

namespace Player

variable {p : Player}

/-- Rolling experience into levels stops exactly if there is no level for all of it. -/
theorem levelCheck?_eq (hlevel : p.level ≠ 0) :
    p.levelCheck? = if p.experience < earned UInt32.size then some p.levelCheck else none := by
  have hclimb := climb?_toNat p.level p.xp 0 hlevel (Nat.zero_le _)
  rw [UInt32.toNat_zero] at hclimb
  unfold levelCheck? experience
  rw [hclimb]
  split
  · simp only [Option.map_some, UInt32.ofNat_toNat, UInt64.ofNat_toNat]
    rfl
  · rfl

/-- The words of a player have room for what a reward gives. -/
def Takes (p : Player) (xp coins : UInt64) (skill : Option Skill) : Prop :=
  p.xp.toNat + xp.toNat < UInt64.size ∧ p.coins.toNat + coins.toNat < UInt64.size ∧
    (skill.isSome = true → xp.toNat * 3 < UInt64.size) ∧
    p.experience + xp.toNat < earned UInt32.size

instance (p : Player) (xp coins : UInt64) (skill : Option Skill) :
    Decidable (p.Takes xp coins skill) := inferInstanceAs (Decidable (_ ∧ _ ∧ _ ∧ _))

theorem receive_eq (p : Player) (xp coins : UInt64) (skill : Option Skill) :
    p.receive xp coins skill =
      let gain := skill.elim 0 fun _ => skillGain xp
      let rich : Player := { p with xp := p.xp + xp, coins := p.coins + coins }
      let (levels, q) := (skill.elim rich fun s => rich.train s gain).levelCheck
      (⟨xp, coins, gain, levels⟩, q) := by
  cases skill <;> rfl

/-- A reward stops exactly if a word of the player has no room for it. -/
theorem receive?_eq (hlevel : p.level ≠ 0) (xp coins : UInt64) (skill : Option Skill) :
    p.receive? xp coins skill =
      if p.Takes xp coins skill then some (p.receive xp coins skill) else none := by
  -- Training does not touch what is rolled into levels.
  have hrolls : p.xp.toNat + xp.toNat < UInt64.size → ∀ {q : Player}, q.level = p.level →
      q.xp = p.xp + xp → q.levelCheck? =
        if p.experience + xp.toNat < earned UInt32.size then some q.levelCheck else none := by
    intro hxp q hq hsum
    rw [levelCheck?_eq (hq ▸ hlevel), experience, hq, hsum, toNat_add_of_fits hxp,
      ← Nat.add_assoc, experience]
  unfold receive?
  rw [sum64?_eq, sum64?_eq, skillGain?_eq, receive_eq]
  refine bind_checked fun hxp => bind_checked fun _ => bind_checked fun _ => ?_
  dsimp only
  rw [hrolls hxp (by cases skill <;> rfl) (by cases skill <;> rfl)]
  split <;> rfl

end Player

namespace Progress

/-- Recording a quest stops exactly if there is no room in the count of its zone. -/
theorem markComplete?_eq {p : Progress} {quest : String} (hnot : p.isComplete quest = false)
    (zone : Zone) (time : Instant) :
    p.markComplete? quest zone time =
      if (p.completedByZone.get zone).toNat + 1 < UInt32.size then
        some (p.markComplete quest zone time)
      else none := by
  unfold markComplete? markComplete
  rw [hnot, if_neg Bool.false_ne_true, if_neg Bool.false_ne_true, sum32?_eq]
  rw [show (1 : UInt32).toNat = 1 from rfl]
  split <;> rfl

/-- A reward stops exactly if a word of the player has no room for it. -/
theorem reward?_eq {p : Progress} (hlevel : p.player.level ≠ 0) (r : Reward) :
    p.reward? r =
      if p.player.Takes (boosted r.xp p.upgrades.xpBoost) (boosted r.coins p.upgrades.coinBoost)
          r.skill then
        some (p.reward r)
      else none := by
  unfold reward?
  dsimp only
  rw [Player.receive?_eq hlevel]
  split <;> rfl

/-! ## Coming back and buying -/

/-- Coins for the time away stop the build exactly if the purse has no room for them. -/
theorem accrueOffline?_eq (p : Progress) (now : Instant) (rate : UInt32) :
    p.accrueOffline? now rate =
      if ∀ report ∈ (p.accrueOffline now rate).1,
          p.player.coins.toNat + report.coins.toNat < UInt64.size then
        some (p.accrueOffline now rate)
      else none := by
  unfold accrueOffline? accrueOffline
  extract_lets away cap coins p'
  by_cases hcoins : coins = 0
  · rw [if_pos hcoins]
    exact (if_pos nofun).symm
  · rw [if_neg hcoins]
    simp only [Option.mem_some_iff, forall_eq', sum64?_eq]
    split <;> rfl

/-- A day more stops the build exactly if there is no room in the count of days. -/
theorem updateStreak?_eq (p : Progress) (now : Instant) :
    p.updateStreak? now =
      if (now.since p.streak.lastCheck).days = 1 → p.streak.days.toNat + 1 < UInt32.size then
        some (p.updateStreak now)
      else none := by
  unfold updateStreak? updateStreak
  by_cases hday : (now.since p.streak.lastCheck).days = 1
  · rw [if_pos hday, sum32?_eq, show (1 : UInt32).toNat = 1 from rfl]
    simp only [hday, forall_const]
    split <;> rfl
  · rw [if_neg hday, if_pos fun h => absurd h hday]

end Progress

namespace Upgrade

/-- The word of an upgrade has room for one step more, whatever the cap. -/
def Fits (b : Upgrades) : Upgrade → Prop
  | .offlineCap => b.offlineCapHours.toNat + 2 < UInt32.size
  | .hintBoost => b.hintCooldownReduction.toNat + 5 < UInt32.size
  | _ => True

instance (b : Upgrades) : (u : Upgrade) → Decidable (u.Fits b)
  | .xpBoost | .coinBoost => inferInstanceAs (Decidable True)
  | .offlineCap | .hintBoost => inferInstanceAs (Decidable (_ < _))

theorem applied?_eq (u : Upgrade) (b : Upgrades) :
    u.applied? b = if u.Fits b then some (u.apply b) else none := by
  cases u with
  | xpBoost => rfl
  | coinBoost => rfl
  | offlineCap =>
    have hsum : sum32? b.offlineCapHours 2 = if Fits b .offlineCap then _ else _ := sum32?_eq ..
    rw [applied?, hsum]
    split <;> rfl
  | hintBoost =>
    have hsum : sum32? b.hintCooldownReduction 5 = if Fits b .hintBoost then _ else _ :=
      sum32?_eq ..
    rw [applied?, hsum]
    split <;> rfl

end Upgrade

/-- A purchase stops the build exactly if the upgrade can be paid and its word has no room for one
step more. -/
theorem Progress.purchase?_eq_of_ok {p after : Progress} {id : String} {u : Upgrade}
    (h : p.purchase id = .ok (u, after)) :
    p.purchase? id = if u.Fits p.upgrades then some (.ok (u, after)) else none := by
  have hafter : after.upgrades = u.apply p.upgrades := by
    unfold purchase at h
    split at h
    · cases h
    · split at h <;> cases h
      rfl
  unfold purchase?
  rw [h]
  dsimp only
  rw [Upgrade.applied?_eq, ← hafter]
  split <;> rfl

end Questline
