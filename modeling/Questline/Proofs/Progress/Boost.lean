import Questline.Progress.Player
import Questline.Progress.Shop
import Questline.Proofs.Decimal.Doubles
set_option autoImplicit false

/-!
# Boosts of any size

A boost may come from a save in which any finite number stands.  One more purchase never
lowers a boost that is not above its cap, and no boost makes more than twice of a reward.
-/

namespace Questline

open Decimal

namespace Upgrade

variable {x : Float}

/-- A tenth more is not less, whatever is lost in rounding. -/
theorem steps_le_add_tenth (hx : x.isNaN = false) :
    (x + 0.1).isNaN = false ∧ steps x ≤ steps (x + 0.1) := by
  have htenth : (0.1 : Float).isFinite = true := by decide +kernel
  have hpos : 0 ≤ steps 0.1 := by decide +kernel
  cases hfinite : x.isFinite with
  | true =>
    obtain ⟨hnan, hsum⟩ := rounds_float_add hfinite htenth
    exact ⟨hnan, (hsum x).2 (by omega)⟩
  | false =>
    obtain ⟨hnan, hsame⟩ := steps_add_of_infinite hx hfinite htenth
    exact ⟨hnan, hsame.ge⟩

/-- Whatever stood there before, a bought boost is a number. -/
theorem isNaN_raisedBoost (x : Float) : (raisedBoost x).isNaN = false := by
  unfold raisedBoost
  dsimp only
  split
  · next hless => exact (isNaN_of_lt hless).1
  · decide +kernel

/-- A boost that is not above its cap does not become less. -/
theorem le_raisedBoost (hx : x.isNaN = false) (hcap : x ≤ 0.5) : x ≤ raisedBoost x := by
  obtain ⟨hnan, hle⟩ := steps_le_add_tenth hx
  unfold raisedBoost
  dsimp only
  split
  · exact (le_iff_steps hx hnan).2 hle
  · exact hcap

/-- A boost above its cap becomes the cap. -/
theorem raisedBoost_of_lt (hcap : 0.5 < x) : raisedBoost x = 0.5 := by
  obtain ⟨hhalf, hx⟩ := isNaN_of_lt hcap
  obtain ⟨hnan, hle⟩ := steps_le_add_tenth hx
  have habove := (lt_iff_steps hhalf hx).1 hcap
  have hnot : ¬ x + 0.1 < 0.5 := by
    rw [lt_iff_steps hnan hhalf]
    omega
  exact if_neg hnot

/-- Only a boost above its cap becomes less. -/
theorem lt_of_raisedBoost_lt (h : raisedBoost x < x) : 0.5 < x := by
  obtain ⟨hraised, hx⟩ := isNaN_of_lt h
  have hhalf : (0.5 : Float).isNaN = false := by decide +kernel
  rw [lt_iff_steps hhalf hx]
  by_contra hcap
  have hle := le_raisedBoost hx ((le_iff_steps hx hhalf).2 (by omega))
  rw [le_iff_steps hx hraised] at hle
  rw [lt_iff_steps hraised hx] at h
  omega

end Upgrade

/-! ## What a boost makes of a reward -/

/-- What a boost counts for. -/
def countedBoost (boost : Float) : Float :=
  if boost.isFinite then (if boost < 0.0 then 0.0 else if boost > maxBoost then maxBoost else boost)
  else 0.0

theorem boosted_eq (base : UInt64) (boost : Float) :
    boosted base boost = nearestWord (base.toFloat * (1.0 + countedBoost boost)) := rfl

/-- Whatever stands in a save, a boost counts for something between nothing and a half. -/
theorem countedBoost_bounds (boost : Float) : (countedBoost boost).isFinite = true ∧
    0 ≤ steps (countedBoost boost) ∧ steps (countedBoost boost) ≤ steps 0.5 := by
  have hzero : (0.0 : Float).isFinite = true ∧ 0 ≤ steps 0.0 ∧ steps 0.0 ≤ steps 0.5 := by
    decide +kernel
  have hhalf : (0.5 : Float).isFinite = true ∧ 0 ≤ steps 0.5 ∧ steps 0.5 ≤ steps 0.5 := by
    decide +kernel
  unfold countedBoost
  split
  · rename_i hfinite
    have hnan := isNaN_of_isFinite hfinite
    split
    · exact hzero
    · rename_i hneg
      rw [lt_iff_steps hnan (isNaN_of_isFinite hzero.1)] at hneg
      have hstart : steps 0.0 = 0 := by decide +kernel
      split
      · exact hhalf
      · rename_i hcap
        have hcap : ¬ steps 0.5 < steps boost := by
          rwa [← lt_iff_steps (isNaN_of_isFinite hhalf.1) hnan]
        exact ⟨hfinite, by omega, by omega⟩
  · exact hzero

/-- The factor that a boost makes lies between nothing and two. -/
theorem factor_bounds (boost : Float) : (1.0 + countedBoost boost).isFinite = true ∧
    0 ≤ steps (1.0 + countedBoost boost) ∧
      steps (1.0 + countedBoost boost) ≤ 2 * 2 ^ oneExponent := by
  obtain ⟨hfinite, hnonneg, hhalf⟩ := countedBoost_bounds boost
  generalize countedBoost boost = b at *
  have hone : (1.0 : Float).isFinite = true ∧ steps 1.0 + steps 0.5 = steps 1.5 ∧
      0 ≤ steps 1.0 ∧ steps 1.5 ≤ 2 * 2 ^ oneExponent ∧ (steps 1.5).natAbs < limit := by
    decide +kernel
  obtain ⟨hfinite1, hsum, hpos, htwo, hlimit⟩ := hone
  obtain ⟨hnan, hfactor⟩ := rounds_float_add hfinite1 hfinite
  have hupper : steps (1.0 + b) ≤ steps 1.5 := (hfactor 1.5).1 (by omega)
  have hlower : steps 1.0 ≤ steps (1.0 + b) := (hfactor 1.0).2 (by omega)
  exact ⟨isFinite_of_natAbs_lt hnan (by omega), hpos.trans hlower, hupper.trans htwo⟩

/-- No boost makes more than twice of a reward. -/
theorem boosted_le_two_mul {base : UInt64} (h : base.toNat < 2 ^ 52) (boost : Float) :
    (boosted base boost).toNat ≤ 2 * base.toNat := by
  obtain ⟨hfactor, hnonneg, htwo⟩ := factor_bounds boost
  rw [boosted_eq]
  generalize 1.0 + countedBoost boost = f at *
  -- The reward and twice the reward are doubles themselves.
  have htwice : (2 * base).toNat = 2 * base.toNat := by
    rw [UInt64.toNat_mul]
    exact Nat.mod_eq_of_lt (by show 2 * base.toNat < 2 ^ 64; omega)
  obtain ⟨hbase, hsteps⟩ := steps_toFloat (n := base) (by omega)
  obtain ⟨-, hsteps2⟩ := steps_toFloat (n := 2 * base) (by omega)
  rw [htwice] at hsteps2
  have hpos : (0 : Int) ≤ base.toNat * 2 ^ oneExponent :=
    Int.mul_nonneg (Int.natCast_nonneg _) (Int.pow_nonneg (by decide))
  obtain ⟨hnan, hproduct⟩ := rounds_float_mul hbase hfactor
  have hupper : steps (base.toFloat * f) ≤ (2 * base.toNat : Nat) * 2 ^ oneExponent := by
    rw [← hsteps2]
    refine (hproduct _).1 ?_
    rw [hsteps, hsteps2]
    calc (base.toNat * 2 ^ oneExponent) * steps f
        ≤ (base.toNat * 2 ^ oneExponent) * (2 * 2 ^ oneExponent) :=
          Int.mul_le_mul_of_nonneg_left htwo hpos
      _ = (2 * base.toNat : Nat) * 2 ^ oneExponent * 2 ^ oneExponent := by
          push_cast
          ring
  have hlower : steps 0.0 ≤ steps (base.toFloat * f) := by
    refine (hproduct _).2 ?_
    have hzero : steps 0.0 = 0 := by decide +kernel
    rw [hzero, Int.zero_mul, hsteps]
    exact Int.mul_nonneg hpos hnonneg
  have hfinite : (base.toFloat * f).isFinite = true := by
    refine isFinite_of_natAbs_lt hnan ?_
    have hlimit : 2 * base.toNat * 2 ^ oneExponent < limit :=
      mul_pow_lt_limit (by omega) (by decide)
    have hzero : steps 0.0 = 0 := by decide +kernel
    have hcast : ((2 * base.toNat : Nat) : Int) * 2 ^ oneExponent =
        (2 * base.toNat * 2 ^ oneExponent : Nat) := by
      push_cast
      rfl
    omega
  exact nearestWord_le hfinite hupper

end Questline
