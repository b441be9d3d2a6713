import Mathlib.Algebra.Order.Ring.Int
import Mathlib.Tactic.Ring
set_option autoImplicit false

/-!
# Rounding to doubles

The number that a floating-point operation is asked for and the double that it answers are
measured in steps of the least positive double, `2 ^ (-1074)`.  Of the rounding only one thing is
used, and it is proved here from the bits up: no number with at most fifty-three bits in use lies
strictly between the exact result and the rounded one.
-/

namespace Questline.Decimal

open Float.Model (Format UnpackedFloat totalExponent)
open Float.Model.UnpackedFloat

/-! ## Steps -/

/-- The exponent at which the doubles end, counted from the least step. -/
def topExponent : Nat := 2098

/-- The number of steps at which the doubles end. -/
def limit : Nat := 2 ^ topExponent

/-- The exponent of the number one, counted from the least step. -/
def oneExponent : Nat := 1074

/-- What a float stands for, in steps of the least positive double.  The infinite ones are
taken for what comes after the largest finite ones, and what is no number for zero. -/
def stepsOf : UnpackedFloat → Int
  | .infinity s => s.apply limit
  | .notANumber => 0
  | .zero _ => 0
  | .finite s m e _ => s.apply (m * 2 ^ (e + 1074).toNat : Nat)

theorem stepsOf_infinity (s : Sign) : stepsOf (.infinity s) = s.apply limit := rfl

theorem stepsOf_zero (s : Sign) : stepsOf (.zero s) = 0 := rfl

theorem stepsOf_finite (s : Sign) {m : Nat} (e : Int) (hm : 0 < m) :
    stepsOf (.finite s m e hm) = s.apply (m * 2 ^ (e + 1074).toNat : Nat) := rfl

/-- The form in which the doubles come: fifty-three bits, all in use unless the exponent is
the least one. -/
def Canonical : UnpackedFloat → Prop
  | .finite _ m e _ => m < 2 ^ 53 ∧ -1074 ≤ e ∧ (2 ^ 52 ≤ m ∨ e = -1074)
  | _ => True

/-- Whole numbers of steps with no more than fifty-three bits in use. -/
def OnGrid (c : Int) : Prop := ∃ M k : Nat, M < 2 ^ 53 ∧ c.natAbs = M * 2 ^ k

theorem onGrid_limit : OnGrid limit := ⟨1, topExponent, by decide, by rw [Nat.one_mul]; rfl⟩

@[simp] theorem natAbs_apply (s : Sign) (n : Nat) : (s.apply n).natAbs = n := by
  cases s <;> simp [Sign.apply]

/-- Behind a number of a sign lie the greater numbers of that sign. -/
theorem apply_le_of_le {s : Sign} {n N : Nat} {c : Int} (hN : n ≤ N) (hc : c.natAbs ≤ n)
    (h : s.apply N ≤ c) : s.apply n ≤ c := by
  cases s <;> simp only [Sign.apply] at h ⊢ <;> omega

theorem le_apply_of_le {s : Sign} {n N : Nat} {c : Int} (hN : n ≤ N) (hc : c.natAbs ≤ n)
    (h : c ≤ s.apply N) : c ≤ s.apply n := by
  cases s <;> simp only [Sign.apply] at h ⊢ <;> omega

theorem onGrid_apply {s : Sign} {n : Nat} (h : OnGrid n) : OnGrid (s.apply n) := by
  obtain ⟨M, k, hM, hn⟩ := h
  exact ⟨M, k, hM, by rw [natAbs_apply]; simpa using hn⟩

/-- Every canonical float is on the grid. -/
theorem onGrid_stepsOf {u : UnpackedFloat} (h : Canonical u) : OnGrid (stepsOf u) := by
  cases u with
  | infinity s => exact onGrid_apply onGrid_limit
  | notANumber => exact ⟨0, 0, by decide, rfl⟩
  | zero s => exact ⟨0, 0, by decide, rfl⟩
  | finite s m e hm => exact onGrid_apply ⟨m, (e + 1074).toNat, h.1, Int.natAbs_natCast _⟩

/-! ## Rounding a mantissa -/

theorem le_roundedMantissa (em : ExtendedMantissa) :
    em.mantissa ≤ em.roundedMantissa ∧ em.roundedMantissa ≤ em.mantissa + 1 := by
  obtain ⟨m, _ | _, _ | _⟩ := em <;>
    simp only [ExtendedMantissa.roundedMantissa, ExtendedMantissa.accuracy,
      Accuracy.roundToNearestEven] <;> omega

theorem roundedMantissa_of_exact {em : ExtendedMantissa} (hround : em.roundBit = false)
    (hsticky : em.stickyBit = false) : em.roundedMantissa = em.mantissa := by
  obtain ⟨m, _ | _, _ | _⟩ := em <;> simp_all [ExtendedMantissa.roundedMantissa,
    ExtendedMantissa.accuracy, Accuracy.roundToNearestEven]

/-- A mantissa that is shifted loses its last bits. -/
theorem mantissa_shiftRight (m j : Nat) :
    (ExtendedMantissa.ofMantissaAndAccuracy m .exact >>> j).mantissa = m / 2 ^ j := by
  induction j with
  | zero => rw [Nat.pow_zero, Nat.div_one]; rfl
  | succ j ih =>
    have hstep : (ExtendedMantissa.ofMantissaAndAccuracy m .exact >>> (j + 1)).mantissa =
        (ExtendedMantissa.ofMantissaAndAccuracy m .exact >>> j).mantissa / 2 := rfl
    rw [hstep, ih, Nat.div_div_eq_div_mul, Nat.pow_succ]

/-- Bits that are all zero are not missed. -/
theorem bits_shiftRight {m j : Nat} (h : 2 ^ j ∣ m) :
    (ExtendedMantissa.ofMantissaAndAccuracy m .exact >>> j).roundBit = false ∧
      (ExtendedMantissa.ofMantissaAndAccuracy m .exact >>> j).stickyBit = false := by
  induction j with
  | zero => exact ⟨rfl, rfl⟩
  | succ j ih =>
    obtain ⟨hround, hsticky⟩ := ih ((Nat.pow_dvd_pow 2 (Nat.le_succ j)).trans h)
    have hstep : ExtendedMantissa.ofMantissaAndAccuracy m .exact >>> (j + 1) =
        (ExtendedMantissa.ofMantissaAndAccuracy m .exact >>> j).shiftRightOne := rfl
    have heven : m / 2 ^ j % 2 = 0 := by
      obtain ⟨q, rfl⟩ := h
      rw [Nat.pow_succ, Nat.mul_assoc, Nat.mul_div_cancel_left _ (Nat.two_pow_pos j)]
      omega
    rw [hstep]
    simp [ExtendedMantissa.shiftRightOne, mantissa_shiftRight, hround, hsticky, heven]

/-- The mantissa that is rounded to: one of the two neighbours, and the number itself if it
needs no rounding. -/
structure RoundsTo (m j R : Nat) : Prop where
  lower : m / 2 ^ j ≤ R
  upper : R ≤ m / 2 ^ j + 1
  exact : 2 ^ j ∣ m → R = m / 2 ^ j

theorem roundsTo_shiftRight (m j : Nat) :
    RoundsTo m j (ExtendedMantissa.ofMantissaAndAccuracy m .exact >>> j).roundedMantissa where
  lower := by
    rw [← mantissa_shiftRight]
    exact (le_roundedMantissa _).1
  upper := by
    rw [← mantissa_shiftRight]
    exact (le_roundedMantissa _).2
  exact h := by
    obtain ⟨hround, hsticky⟩ := bits_shiftRight h
    rw [roundedMantissa_of_exact hround hsticky, mantissa_shiftRight]

theorem mul_pow_div_pow_add (m j a : Nat) : m * 2 ^ a / 2 ^ (j + a) = m / 2 ^ j := by
  rw [Nat.pow_add, Nat.mul_div_mul_right _ _ (Nat.two_pow_pos a)]

/-- A mantissa whose bits are all in use outweighs every other one at a smaller exponent. -/
theorem mul_pow_lt_mul_pow {M k q j : Nat} (hM : M < 2 ^ 53) (hq : 2 ^ 52 ≤ q) (hk : k < j) :
    M * 2 ^ k < q * 2 ^ j :=
  calc M * 2 ^ k < 2 ^ 53 * 2 ^ k := Nat.mul_lt_mul_of_pos_right hM (Nat.two_pow_pos k)
    _ = 2 ^ (53 + k) := (Nat.pow_add 2 53 k).symm
    _ ≤ 2 ^ (52 + j) := Nat.pow_le_pow_right (by decide) (by omega)
    _ = 2 ^ 52 * 2 ^ j := Nat.pow_add 2 52 j
    _ ≤ q * 2 ^ j := Nat.mul_le_mul_right _ hq

namespace RoundsTo

variable {m j R M k : Nat}

/-- Rounding passes no number that needs no rounding itself. -/
theorem le_of_le (h : RoundsTo m j R) (hM : M < 2 ^ 53) (hk : j ≤ k ∨ 2 ^ 52 ≤ m / 2 ^ j)
    (hle : m ≤ M * 2 ^ k) : R * 2 ^ j ≤ M * 2 ^ k := by
  have hj : 0 < 2 ^ j := Nat.two_pow_pos j
  by_cases hjk : j ≤ k
  · obtain ⟨i, rfl⟩ := Nat.exists_eq_add_of_le hjk
    have hsplit : M * 2 ^ (j + i) = M * 2 ^ i * 2 ^ j := by ring
    rw [hsplit] at hle ⊢
    refine Nat.mul_le_mul_right _ ?_
    by_cases hdvd : 2 ^ j ∣ m
    · rw [h.exact hdvd]
      exact Nat.div_le_of_le_mul (by rwa [Nat.mul_comm])
    · have hne : m ≠ M * 2 ^ i * 2 ^ j := fun heq => hdvd ⟨_, by rw [heq, Nat.mul_comm]⟩
      have hlt : m / 2 ^ j < M * 2 ^ i := (Nat.div_lt_iff_lt_mul hj).2 (by omega)
      have := h.upper
      omega
  · -- A number with fewer bits behind it is out of reach.
    have hlt := mul_pow_lt_mul_pow hM (hk.resolve_left hjk) (Nat.lt_of_not_le hjk)
    exact absurd (hle.trans_lt hlt) (Nat.not_lt.2 (Nat.div_mul_le_self _ _))

theorem ge_of_ge (h : RoundsTo m j R) (hM : M < 2 ^ 53) (hk : j ≤ k ∨ 2 ^ 52 ≤ m / 2 ^ j)
    (hle : M * 2 ^ k ≤ m) : M * 2 ^ k ≤ R * 2 ^ j := by
  have hj : 0 < 2 ^ j := Nat.two_pow_pos j
  by_cases hjk : j ≤ k
  · obtain ⟨i, rfl⟩ := Nat.exists_eq_add_of_le hjk
    have hsplit : M * 2 ^ (j + i) = M * 2 ^ i * 2 ^ j := by ring
    rw [hsplit] at hle ⊢
    exact Nat.mul_le_mul_right _ (((Nat.le_div_iff_mul_le hj).2 hle).trans h.lower)
  · have hfull := (hk.resolve_left hjk).trans h.lower
    exact (mul_pow_lt_mul_pow hM hfull (Nat.lt_of_not_le hjk)).le

/-- Zeros behind the mantissa change nothing. -/
theorem mul_pow (h : RoundsTo m j R) (a : Nat) : RoundsTo (m * 2 ^ a) (j + a) R := by
  have ha : 0 < 2 ^ a := Nat.two_pow_pos a
  have hdiv := mul_pow_div_pow_add m j a
  refine ⟨hdiv ▸ h.lower, hdiv ▸ h.upper, fun hdvd => ?_⟩
  rw [Nat.pow_add] at hdvd
  rw [hdiv]
  exact h.exact (Nat.dvd_of_mul_dvd_mul_right ha hdvd)

end RoundsTo

/-! ## Rounding a float -/

/-- The exponent that a number with this mantissa and exponent gets as a double. -/
def exponentFor (m : Nat) (e : Int) : Int := max (m.log2 + 1 + e - 53) (-1074)

theorem targetExponent_eq (m : Nat) (e : Int) :
    Format.binary64.targetExponent (totalExponent m e) = exponentFor m e := rfl

theorem shiftToTargetExponent_eq {m : Nat} {e : Int} (h : e ≤ exponentFor m e) :
    shiftToTargetExponent Format.binary64 m e .exact =
      (ExtendedMantissa.ofMantissaAndAccuracy m .exact >>> (exponentFor m e - e).toNat,
        exponentFor m e) := by
  unfold shiftToTargetExponent shiftToExponent
  rw [targetExponent_eq]
  dsimp only
  congr 1
  omega

/-- A number that has its exponent, or a greater one, is not shifted. -/
theorem shiftToTargetExponent_of_le {m : Nat} {e : Int} (h : exponentFor m e ≤ e) :
    shiftToTargetExponent Format.binary64 m e .exact =
      (ExtendedMantissa.ofMantissaAndAccuracy m .exact, e) := by
  unfold shiftToTargetExponent shiftToExponent
  rw [targetExponent_eq]
  dsimp only
  rw [show (exponentFor m e - e).toNat = 0 by omega]
  exact congrArg (Prod.mk _) (Int.add_zero e)

theorem log2_le_of_lt {m n : Nat} (h : m < 2 ^ (n + 1)) : m.log2 ≤ n := by
  by_cases hm : m = 0
  · simp [hm]
  · exact Nat.le_of_lt_succ ((Nat.log2_lt hm).2 h)

/-- The shift leaves fifty-three bits, all in use if it is for their sake. -/
theorem div_exponentFor {m : Nat} (hm : m ≠ 0) {e : Int} (h : e ≤ exponentFor m e) :
    m / 2 ^ (exponentFor m e - e).toNat < 2 ^ 53 ∧
      (exponentFor m e = -1074 ∨ 2 ^ 52 ≤ m / 2 ^ (exponentFor m e - e).toNat) := by
  have hupper : m < 2 ^ (m.log2 + 1) := Nat.lt_log2_self
  have hlower : 2 ^ m.log2 ≤ m := Nat.log2_self_le hm
  generalize hj : (exponentFor m e - e).toNat = j
  unfold exponentFor at *
  constructor
  · rw [Nat.div_lt_iff_lt_mul (Nat.two_pow_pos j), ← Nat.pow_add]
    exact hupper.trans_le (Nat.pow_le_pow_right (by decide) (by omega))
  · by_cases hmin : m.log2 + 1 + e - 53 ≤ -1074
    · exact .inl (by omega)
    · right
      rw [Nat.le_div_iff_mul_le (Nat.two_pow_pos j), ← Nat.pow_add]
      exact (Nat.pow_le_pow_right (by decide) (by omega)).trans hlower

/-- A finite double with this mantissa, which may have become zero or one bit too long. -/
structure IsAt (u : UnpackedFloat) (s : Sign) (R : Nat) (t : Int) : Prop where
  canonical : Canonical u
  isFinite : u.isFinite = true
  steps : stepsOf u = s.apply (R * 2 ^ (t + 1074).toNat : Nat)

theorem isAt_finish (s : Sign) {R : Nat} {t : Int} (ht : -1074 ≤ t) (hR : R < 2 ^ 53)
    (hfull : 2 ^ 52 ≤ R ∨ t = -1074) :
    IsAt (if h : R = 0 then .zero s else .finite s R t (Nat.pos_of_ne_zero h)) s R t := by
  by_cases h : R = 0
  · rw [dif_pos h]
    subst h
    have hsteps : s.apply (0 * 2 ^ (t + 1074).toNat : Nat) = 0 := by
      rw [Nat.zero_mul]
      cases s <;> rfl
    exact ⟨trivial, rfl, hsteps.symm⟩
  · rw [dif_neg h]
    exact ⟨⟨hR, ht, hfull⟩, rfl, rfl⟩

theorem exists_roundWithAccuracy (s : Sign) {m : Nat} (hm : m ≠ 0) {e : Int}
    (he : e ≤ exponentFor m e) : ∃ R, RoundsTo m (exponentFor m e - e).toNat R ∧
      IsAt (roundWithAccuracy Format.binary64 s m e .exact) s R (exponentFor m e) := by
  obtain ⟨hshort, hfull⟩ := div_exponentFor hm he
  have ht : -1074 ≤ exponentFor m e := by unfold exponentFor; omega
  have hrounds := roundsTo_shiftRight m (exponentFor m e - e).toNat
  unfold roundWithAccuracy
  rw [shiftToTargetExponent_eq he]
  dsimp only
  generalize (ExtendedMantissa.ofMantissaAndAccuracy m .exact >>>
    (exponentFor m e - e).toNat).roundedMantissa = R at hrounds
  refine ⟨R, hrounds, ?_⟩
  have hlower := hrounds.lower
  have hupper := hrounds.upper
  generalize exponentFor m e = t at *
  by_cases hR : R < 2 ^ 53
  · have hstay : exponentFor R t ≤ t := by
      have := log2_le_of_lt hR
      unfold exponentFor
      omega
    have hfull : 2 ^ 52 ≤ R ∨ t = -1074 := by omega
    rw [shiftToTargetExponent_of_le hstay]
    exact isAt_finish s ht hR hfull
  · -- The mantissa was all ones and has become a power of two.
    obtain rfl : R = 2 ^ 53 := by omega
    have hnext : exponentFor (2 ^ 53) t = t + 1 := by
      unfold exponentFor
      rw [Nat.log2_two_pow]
      omega
    rw [shiftToTargetExponent_eq (by omega), hnext]
    have hhalf : (ExtendedMantissa.ofMantissaAndAccuracy (2 ^ 53) .exact >>>
        (t + 1 - t).toNat).mantissa = 2 ^ 52 := by
      rw [mantissa_shiftRight, show (t + 1 - t).toNat = 1 by omega]
      decide
    dsimp only
    generalize (ExtendedMantissa.ofMantissaAndAccuracy (2 ^ 53) .exact >>>
      (t + 1 - t).toNat).mantissa = half at *
    subst hhalf
    obtain ⟨hcanonical, hfinite, hsteps⟩ :=
      isAt_finish s (R := 2 ^ 52) (t := t + 1) (by omega) (by decide) (.inl (Nat.le_refl _))
    refine ⟨hcanonical, hfinite, hsteps.trans ?_⟩
    rw [show (t + 1 + 1074).toNat = (t + 1074).toNat + 1 by omega]
    congr 2
    ring

/-! ## Rounding a number of steps -/

/-- The float is the double that the number is rounded to, in steps that are cut into `2 ^ g`
parts: nothing on the grid lies between the two. -/
structure Rounds (g : Nat) (v : Int) (u : UnpackedFloat) : Prop where
  canonical : Canonical u
  isFinite : u.isFinite = true
  le : ∀ {c : Int}, OnGrid c → v ≤ c * 2 ^ g → stepsOf u ≤ c
  ge : ∀ {c : Int}, OnGrid c → c * 2 ^ g ≤ v → c ≤ stepsOf u

/-- What needs no rounding stays. -/
theorem rounds_stepsOf {u : UnpackedFloat} (h : Canonical u) (hu : u.isFinite = true) :
    Rounds 0 (stepsOf u) u :=
  ⟨h, hu, fun _ hle => by simpa using hle, fun _ hle => by simpa using hle⟩

/-- A sign carries over what holds of absolute values. -/
theorem rounds_apply {g n N : Nat} {u : UnpackedFloat} (s : Sign) (h : Canonical u)
    (hu : u.isFinite = true) (hN : stepsOf u = s.apply N)
    (hle : ∀ M k, M < 2 ^ 53 → n ≤ M * 2 ^ k * 2 ^ g → N ≤ M * 2 ^ k)
    (hge : ∀ M k, M < 2 ^ 53 → M * 2 ^ k * 2 ^ g ≤ n → M * 2 ^ k ≤ N) :
    Rounds g (s.apply n) u := by
  have hnat : ∀ {c : Int}, OnGrid c → ∃ P Q : Nat,
      (c = P ∧ c * 2 ^ g = Q ∨ c = -(P : Int) ∧ c * 2 ^ g = -(Q : Int)) ∧ (Q = 0 → P = 0) ∧
        (n ≤ Q → N ≤ P) ∧ (Q ≤ n → P ≤ N) := by
    rintro c ⟨M, k, hM, hc⟩
    have hzero : M * 2 ^ k * 2 ^ g = 0 → M * 2 ^ k = 0 := fun h =>
      (Nat.mul_eq_zero.1 h).resolve_right (Nat.two_pow_pos g).ne'
    refine ⟨M * 2 ^ k, M * 2 ^ k * 2 ^ g, ?_, hzero, hle M k hM, hge M k hM⟩
    rw [← hc]
    rcases Int.natAbs_eq c with heq | heq
    · exact .inl ⟨heq, by rw [Nat.cast_mul, ← heq]; norm_num⟩
    · exact .inr ⟨heq, by rw [Nat.cast_mul, ← Int.neg_mul, ← heq]; norm_num⟩
  refine ⟨h, hu, fun {c} hc hv => ?_, fun {c} hc hv => ?_⟩ <;> rw [hN] <;>
    obtain ⟨P, Q, hsign, hzero, hle, hge⟩ := hnat hc <;> cases s <;>
    simp only [Sign.apply] at hv ⊢ <;> omega

theorem rounds_roundWithAccuracy (g : Nat) (s : Sign) {m : Nat} (hm : m ≠ 0) {e : Int}
    (he : e ≤ exponentFor m e) (hg : 0 ≤ e + 1074 + g) :
    Rounds g (s.apply (m * 2 ^ (e + 1074 + g).toNat : Nat))
      (roundWithAccuracy Format.binary64 s m e .exact) := by
  obtain ⟨R, hrounds, hcanonical, hfinite, hsteps⟩ := exists_roundWithAccuracy s hm he
  have hfull := (div_exponentFor hm he).2
  have ht : -1074 ≤ exponentFor m e := by unfold exponentFor; omega
  generalize exponentFor m e = t at *
  have hscaled := hrounds.mul_pow (e + 1074 + g).toNat
  have hpos : 0 < 2 ^ g := Nat.two_pow_pos g
  have hshift : (t - e).toNat + (e + 1074 + g).toNat = (t + 1074).toNat + g := by omega
  have hbits : ∀ k, (t + 1074).toNat + g ≤ k + g ∨ 2 ^ 52 ≤
      m * 2 ^ (e + 1074 + g).toNat / 2 ^ ((t + 1074).toNat + g) := by
    intro k
    rw [← hshift, mul_pow_div_pow_add, hshift]
    rcases hfull with hmin | hfull
    · exact .inl (by omega)
    · exact .inr hfull
  rw [hshift] at hscaled
  refine rounds_apply s hcanonical hfinite hsteps (fun M k hM hle => ?_) (fun M k hM hge => ?_)
  · have := hscaled.le_of_le hM (hbits k) (by rwa [Nat.pow_add, ← Nat.mul_assoc])
    rw [Nat.pow_add, Nat.pow_add, ← Nat.mul_assoc, ← Nat.mul_assoc] at this
    exact Nat.le_of_mul_le_mul_right this hpos
  · have := hscaled.ge_of_ge hM (hbits k) (by rwa [Nat.pow_add, ← Nat.mul_assoc])
    rw [Nat.pow_add, Nat.pow_add, ← Nat.mul_assoc, ← Nat.mul_assoc] at this
    exact Nat.le_of_mul_le_mul_right this hpos

theorem log2_mul_pow {m : Nat} (hm : m ≠ 0) (k : Nat) : (m * 2 ^ k).log2 = m.log2 + k := by
  induction k with
  | zero => simp
  | succ k ih =>
    have hne : m * 2 ^ k ≠ 0 := Nat.mul_ne_zero hm (Nat.two_pow_pos k).ne'
    rw [Nat.pow_succ, ← Nat.mul_assoc, Nat.mul_comm _ 2, Nat.log2_two_mul hne, ih]
    rfl

theorem decreaseExponent_eq (m : Nat) (e t : Int) :
    decreaseExponent m e t = (m * 2 ^ (e - t).toNat, e - (e - t).toNat) := by
  unfold decreaseExponent
  dsimp only
  rw [Nat.shiftLeft_eq]

theorem rounds_round (s : Sign) {m : Nat} (hm : m ≠ 0) {e : Int} (he : -1074 ≤ e) :
    Rounds 0 (s.apply (m * 2 ^ (e + 1074).toNat : Nat))
      (UnpackedFloat.round Format.binary64 s m e) := by
  unfold UnpackedFloat.round
  dsimp only
  rw [targetExponent_eq, decreaseExponent_eq]
  dsimp only
  generalize hk : (e - exponentFor m e).toNat = k
  have hsame : exponentFor (m * 2 ^ k) (e - k) = exponentFor m e := by
    unfold exponentFor
    rw [log2_mul_pow hm]
    omega
  have hmin : -1074 ≤ exponentFor m e := by unfold exponentFor; omega
  have hsteps : m * 2 ^ (e + 1074).toNat = m * 2 ^ k * 2 ^ (e - k + 1074 + (0 : Nat)).toNat := by
    rw [Nat.mul_assoc, ← Nat.pow_add]
    congr 2
    omega
  rw [hsteps]
  exact rounds_roundWithAccuracy 0 s (Nat.mul_ne_zero hm (Nat.two_pow_pos k).ne') (by omega)
    (by omega)

theorem rounds_normalize (n : Int) {e : Int} (he : -1074 ≤ e) (s : Sign) :
    Rounds 0 (n * 2 ^ (e + 1074).toNat) (UnpackedFloat.normalize Format.binary64 n e s) := by
  unfold UnpackedFloat.normalize
  have hpow : ∀ N : Nat, ((N * 2 ^ (e + 1074).toNat : Nat) : Int) = N * 2 ^ (e + 1074).toNat := by
    intro N
    push_cast
    rfl
  rcases Int.lt_trichotomy n 0 with hn | rfl | hn
  · have h := rounds_round .negative (m := (-n).toNat) (by omega) he
    rw [Sign.apply, hpow, Int.toNat_of_nonneg (by omega), ← Int.neg_mul, Int.neg_neg] at h
    rw [Int.compare_eq_lt.2 hn]
    exact h
  · rw [Int.zero_mul]
    exact rounds_stepsOf (u := .zero s) trivial rfl
  · have h := rounds_round .positive (m := n.toNat) (by omega) he
    rw [Sign.apply, hpow, Int.toNat_of_nonneg (by omega)] at h
    rw [Int.compare_eq_gt.2 hn]
    exact h

/-! ## Sums and products -/

theorem rounds_add {u v : UnpackedFloat} (hu : Canonical u) (hv : Canonical v)
    (hfu : u.isFinite = true) (hfv : v.isFinite = true) :
    Rounds 0 (stepsOf u + stepsOf v) (add Format.binary64 u v) := by
  cases u with
  | infinity s => cases hfu
  | notANumber => cases hfu
  | zero s =>
    cases v with
    | infinity t => cases hfv
    | notANumber => cases hfv
    | zero t =>
      have hzero : ∃ r, add Format.binary64 (.zero s) (.zero t) = .zero r := by
        cases s <;> cases t <;> exact ⟨_, rfl⟩
      obtain ⟨r, hr⟩ := hzero
      rw [hr]
      exact rounds_stepsOf (u := .zero r) trivial rfl
    | finite t m e hm =>
      rw [stepsOf_zero, Int.zero_add]
      exact rounds_stepsOf hv rfl
  | finite s m e hm =>
    cases v with
    | infinity t => cases hfv
    | notANumber => cases hfv
    | zero t =>
      rw [stepsOf_zero, Int.add_zero]
      exact rounds_stepsOf hu rfl
    | finite t m' e' hm' =>
      have hmin : -1074 ≤ min e e' := le_min hu.2.1 hv.2.1
      have hsteps : ∀ (r : Sign) (k : Nat) (f : Int), min e e' ≤ f →
          r.apply (k * 2 ^ (f + 1074).toNat : Nat) =
            r.apply (k * 2 ^ (f - min e e').toNat : Nat) * 2 ^ (min e e' + 1074).toNat := by
        intro r k f hf
        have hexp : (f + 1074).toNat = (f - min e e').toNat + (min e e' + 1074).toNat := by omega
        rw [hexp, Nat.pow_add, ← Nat.mul_assoc]
        cases r <;> simp [Sign.apply]
      have hsum : stepsOf (.finite s m e hm) + stepsOf (.finite t m' e' hm') =
          (s.apply (m * 2 ^ (e - min e e').toNat : Nat) +
            t.apply (m' * 2 ^ (e' - min e e').toNat : Nat)) * 2 ^ (min e e' + 1074).toNat := by
        rw [Int.add_mul, ← hsteps s m e (min_le_left _ _), ← hsteps t m' e' (min_le_right _ _)]
        rfl
      rw [hsum]
      unfold add
      simp only [decreaseExponent_eq]
      exact rounds_normalize _ hmin _

theorem rounds_zero (g : Nat) (s : Sign) : Rounds g 0 (.zero s) := by
  have hG : (0 : Int) < 2 ^ g := Int.pow_pos (by decide)
  refine ⟨trivial, rfl, fun _ h => ?_, fun _ h => ?_⟩
  · exact Int.nonneg_of_mul_nonneg_left h hG
  · have hstart : stepsOf (.zero s) * 2 ^ g = 0 := Int.zero_mul _
    exact Int.le_of_mul_le_mul_right (by rwa [hstart]) hG

theorem apply_mul (s t : Sign) (m n : Nat) :
    (s * t).apply (m * n : Nat) = s.apply m * t.apply n := by
  rw [Int.natCast_mul]
  cases s <;> cases t
  · exact (Int.neg_mul_neg _ _).symm
  · exact (Int.neg_mul _ _).symm
  · exact (Int.mul_neg _ _).symm
  · rfl

theorem rounds_mul {u v : UnpackedFloat} (hu : Canonical u) (hv : Canonical v)
    (hfu : u.isFinite = true) (hfv : v.isFinite = true) :
    Rounds oneExponent (stepsOf u * stepsOf v) (mul Format.binary64 u v) := by
  cases u with
  | infinity s => cases hfu
  | notANumber => cases hfu
  | zero s =>
    have hzero : ∃ r, mul Format.binary64 (.zero s) v = .zero r := by
      cases v with
      | infinity t => cases hfv
      | notANumber => cases hfv
      | zero t => exact ⟨_, rfl⟩
      | finite t m e hm => exact ⟨_, rfl⟩
    obtain ⟨r, hr⟩ := hzero
    rw [hr, stepsOf_zero, Int.zero_mul]
    exact rounds_zero oneExponent r
  | finite s m e hm =>
    cases v with
    | infinity t => cases hfv
    | notANumber => cases hfv
    | zero t =>
      rw [stepsOf_zero, Int.mul_zero]
      exact rounds_zero oneExponent (s * t)
    | finite t m' e' hm' =>
      obtain ⟨-, he, hfull⟩ := hu
      obtain ⟨-, he', hfull'⟩ := hv
      have hne : m * m' ≠ 0 := Nat.mul_ne_zero hm.ne' hm'.ne'
      have hlog : 2 ^ 52 ≤ m ∨ 2 ^ 52 ≤ m' → 52 ≤ (m * m').log2 := by
        intro hbig
        refine (Nat.le_log2 hne).2 ?_
        rcases hbig with hbig | hbig
        · exact hbig.trans (Nat.le_mul_of_pos_right _ hm')
        · exact hbig.trans (Nat.le_mul_of_pos_left _ hm)
      have hexp : e + e' ≤ exponentFor (m * m') (e + e') := by
        unfold exponentFor
        omega
      have hsteps : stepsOf (.finite s m e hm) * stepsOf (.finite t m' e' hm') =
          (s * t).apply (m * m' * 2 ^ (e + e' + 1074 + (1074 : Nat)).toNat : Nat) := by
        have hsum : (e + e' + 1074 + (1074 : Nat)).toNat =
            (e + 1074).toNat + (e' + 1074).toNat := by omega
        rw [stepsOf_finite, stepsOf_finite, ← apply_mul, hsum, Nat.pow_add]
        congr 2
        ring
      rw [hsteps]
      exact rounds_roundWithAccuracy 1074 (s * t) hne hexp (by omega)

end Questline.Decimal
