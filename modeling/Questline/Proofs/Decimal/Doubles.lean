import Questline.Decimal.Dyadic
import Questline.Proofs.Decimal.Rounding
set_option autoImplicit false

/-!
# Doubles as numbers of steps

Every double is read from its bits as a canonical float and written back the same.  So doubles
are compared by their steps, and their sums and products are rounded to doubles as the floats
are.
-/

namespace Questline.Decimal

open Float.Model (Format UnpackedFloat)
open Float.Model.UnpackedFloat

/-! ## Reading doubles -/

/-- No double has a greater exponent than this. -/
def Bounded : UnpackedFloat → Prop
  | .finite _ _ e _ => e ≤ 971
  | _ => True

theorem unpackSign_packComponents (s : Sign) (E : BitVec 11) (F : BitVec 52) :
    unpackSign (packComponents Format.binary64 s E F) = s.toBitVec := by
  unfold unpackSign packComponents BitVec.extractLsb
  rw [BitVec.extractLsb'_append_eq_of_le (by decide),
    BitVec.extractLsb'_append_eq_of_le (by decide)]
  cases s <;> rfl

theorem toNat_leadingOne (F : BitVec 52) : (1#1 ++ F).toNat = 2 ^ 52 + F.toNat := by
  rw [BitVec.toNat_append, ← Nat.shiftLeft_add_eq_or_of_lt F.isLt, Nat.shiftLeft_eq]
  rfl

/-- What a sign, an exponent and a mantissa are read as. -/
def assembled (s : Sign) (E : BitVec 11) (F : BitVec 52) : UnpackedFloat :=
  if E = -1#11 then if F = 0#52 then .infinity s else .notANumber
  else if E = 0#11 then
    if h : F = 0#52 then .zero s
    else .finite s F.toNat (-1074) (Nat.pos_of_ne_zero fun h0 => h (BitVec.eq_of_toNat_eq h0))
  else .finite s (2 ^ 52 + F.toNat) (E.toNat - 1075) (by omega)

theorem finite_eq {s : Sign} {m m' : Nat} {e e' : Int} {hm : 0 < m} {hm' : 0 < m'} (h : m = m')
    (h' : e = e') : UnpackedFloat.finite s m e hm = .finite s m' e' hm' := by
  subst h h'
  rfl

theorem unpack_eq (b : BitVec Format.binary64.numBits) :
    UnpackedFloat.unpack Format.binary64 b =
      assembled (Sign.ofBitVec (unpackSign b)) (unpackExponent b) (unpackMantissa b) := by
  unfold UnpackedFloat.unpack assembled
  dsimp only
  by_cases hones : unpackExponent b = -1#11
  · rw [if_pos hones, if_pos hones]
  · rw [if_neg hones, if_neg hones]
    by_cases hzero : unpackExponent b = 0#11
    · rw [if_pos hzero, if_pos hzero]
      by_cases hF : unpackMantissa b = 0#52
      · rw [dif_pos hF, dif_pos hF]
      · rw [dif_neg hF, dif_neg hF]
        refine finite_eq rfl ?_
        rw [hzero]
        rfl
    · rw [if_neg hzero, if_neg hzero]
      exact finite_eq (toNat_leadingOne _) rfl

theorem unpack_packComponents (s : Sign) (E : BitVec 11) (F : BitVec 52) :
    UnpackedFloat.unpack Format.binary64 (packComponents Format.binary64 s E F) =
      assembled s E F := by
  have hsign : Sign.ofBitVec s.toBitVec = s := by cases s <;> rfl
  rw [unpack_eq, unpackSign_packComponents, unpackExponent_packComponents,
    unpackMantissa_packComponents, hsign]

theorem canonical_unpack (b : BitVec Format.binary64.numBits) :
    Canonical (UnpackedFloat.unpack Format.binary64 b) ∧
      Bounded (UnpackedFloat.unpack Format.binary64 b) := by
  rw [unpack_eq]
  generalize unpackExponent b = E
  generalize unpackMantissa b = F
  have hE : E.toNat < 2048 := E.isLt
  have hF : F.toNat < 2 ^ 52 := F.isLt
  unfold assembled
  by_cases hones : E = -1#11
  · rw [if_pos hones]
    by_cases hF0 : F = 0#52
    · rw [if_pos hF0]
      exact ⟨trivial, trivial⟩
    · rw [if_neg hF0]
      exact ⟨trivial, trivial⟩
  · have hmax : E.toNat ≠ 2047 := fun h => hones (BitVec.eq_of_toNat_eq h)
    rw [if_neg hones]
    by_cases hzero : E = 0#11
    · rw [if_pos hzero]
      by_cases hF0 : F = 0#52
      · rw [dif_pos hF0]
        exact ⟨trivial, trivial⟩
      · rw [dif_neg hF0]
        exact ⟨⟨by omega, by omega, .inr rfl⟩, show (-1074 : Int) ≤ 971 by decide⟩
    · have hmin : E.toNat ≠ 0 := fun h => hzero (BitVec.eq_of_toNat_eq h)
      rw [if_neg hzero]
      exact ⟨⟨by omega, by omega, .inl (by omega)⟩, show (E.toNat : Int) - 1075 ≤ 971 by omega⟩

theorem assembled_of_normal (s : Sign) {E : BitVec 11} {F : BitVec 52} (h : 0 < E.toNat)
    (h' : E.toNat < 2047) :
    assembled s E F = .finite s (2 ^ 52 + F.toNat) (E.toNat - 1075) (by omega) := by
  have hones : E ≠ -1#11 := by
    rintro rfl
    exact absurd h' (by decide)
  have hzero : E ≠ 0#11 := by
    rintro rfl
    exact absurd h (by decide)
  rw [assembled, if_neg hones, if_neg hzero]

theorem assembled_of_subnormal (s : Sign) {F : BitVec 52} (h : 0 < F.toNat) :
    assembled s 0#11 F = .finite s F.toNat (-1074) h := by
  have hones : 0#11 ≠ -1#11 := by decide
  have hF : F ≠ 0#52 := by
    rintro rfl
    exact absurd h (by decide)
  rw [assembled, if_neg hones, if_pos rfl, dif_neg hF]

theorem pack_finite (s : Sign) {m : Nat} (e : Int) (hm : 0 < m) :
    UnpackedFloat.pack Format.binary64 (.finite s m e hm) =
      if 2 ^ 11 ≤ (e + 1075).toNat + 1 then packedInfinity Format.binary64 s
      else if m.log2 + 1 = 53 then
        packComponents Format.binary64 s (BitVec.ofNat 11 (e + 1075).toNat) (BitVec.ofNat 52 m)
      else packComponents Format.binary64 s 0#11 (BitVec.ofNat 52 m) := by
  have hbias : e + 1075 =
      e + Format.binary64.exponentBias + Format.binary64.mantissaBitsWithoutImplicit := by
    rw [Int.add_assoc]
    rfl
  rw [hbias]
  rfl

/-- What is left of a float in the bits of a double: what is too large becomes infinite. -/
def stored : UnpackedFloat → UnpackedFloat
  | .finite s m e hm => if 971 < e then .infinity s else .finite s m e hm
  | u => u

theorem stored_finite (s : Sign) {m : Nat} (e : Int) (hm : 0 < m) :
    stored (.finite s m e hm) = if 971 < e then .infinity s else .finite s m e hm := rfl

/-- A canonical float is read back as it was packed, unless it is too large for a double. -/
theorem unpack_pack {u : UnpackedFloat} (h : Canonical u) :
    UnpackedFloat.unpack Format.binary64 (UnpackedFloat.pack Format.binary64 u) = stored u := by
  cases u with
  | infinity s => exact unpack_packComponents s (-1#11) 0
  | notANumber => exact unpack_packComponents .positive (-1#11) (1#52 <<< 51)
  | zero s => exact unpack_packComponents s 0 0
  | finite s m e hm =>
    obtain ⟨hlt, he, hfull⟩ := h
    rw [pack_finite, stored_finite]
    by_cases hbig : 971 < e
    · rw [if_pos (by omega), if_pos hbig]
      exact unpack_packComponents s (-1#11) 0
    · rw [if_neg (by omega), if_neg hbig]
      by_cases hnormal : 2 ^ 52 ≤ m
      · have hlog : m.log2 + 1 = 53 := by
          have hupper := log2_le_of_lt hlt
          have hlower := (Nat.le_log2 hm.ne').2 hnormal
          omega
        have hE : (BitVec.ofNat 11 (e + 1075).toNat).toNat = (e + 1075).toNat := by
          rw [BitVec.toNat_ofNat]
          omega
        have hF : (BitVec.ofNat 52 m).toNat = m - 2 ^ 52 := by
          rw [BitVec.toNat_ofNat]
          omega
        rw [if_pos hlog, unpack_packComponents,
          assembled_of_normal s (by rw [hE]; omega) (by rw [hE]; omega)]
        refine finite_eq ?_ ?_
        · rw [hF]
          omega
        · rw [hE]
          omega
      · obtain rfl : e = -1074 := hfull.resolve_left hnormal
        have hlog : m.log2 + 1 ≠ 53 := by
          have hupper := log2_le_of_lt (n := 51) (by omega : m < 2 ^ (51 + 1))
          omega
        have hF : (BitVec.ofNat 52 m).toNat = m := by
          rw [BitVec.toNat_ofNat]
          omega
        rw [if_neg hlog, unpack_packComponents, assembled_of_subnormal s (by rw [hF]; exact hm)]
        exact finite_eq hF rfl

/-! ## Comparing -/

theorem limit_pos : 0 < limit := Nat.two_pow_pos topExponent

theorem swap_compare (a b : Int) : (compare a b).swap = compare (-a) (-b) := by
  rcases Int.lt_trichotomy a b with h | rfl | h
  · rw [Int.compare_eq_lt.2 h, Int.compare_eq_gt.2 (Int.neg_lt_neg h)]
    rfl
  · rw [Int.compare_eq_eq.2 rfl, Int.compare_eq_eq.2 rfl]
    rfl
  · rw [Int.compare_eq_gt.2 h, Int.compare_eq_lt.2 (Int.neg_lt_neg h)]
    rfl

/-- The order of exponents and then mantissas is the order of the numbers. -/
theorem compare_canonical {m m' : Nat} {e e' : Int} (hm : m < 2 ^ 53) (hm' : m' < 2 ^ 53)
    (he : -1074 ≤ e) (he' : -1074 ≤ e') (hfull : 2 ^ 52 ≤ m ∨ e = -1074)
    (hfull' : 2 ^ 52 ≤ m' ∨ e' = -1074) :
    (compare e e').then (compare m m') =
      compare ((m * 2 ^ (e + 1074).toNat : Nat) : Int) (m' * 2 ^ (e' + 1074).toNat : Nat) := by
  have hstep : ∀ {m m' : Nat} {e e' : Int}, m < 2 ^ 53 → -1074 ≤ e →
      (2 ^ 52 ≤ m' ∨ e' = -1074) → e < e' → m * 2 ^ (e + 1074).toNat < m' * 2 ^ (e' + 1074).toNat :=
    fun hm he hfull' hlt => mul_pow_lt_mul_pow hm (hfull'.resolve_right (by omega)) (by omega)
  rcases Int.lt_trichotomy e e' with hlt | rfl | hgt
  · rw [Int.compare_eq_lt.2 hlt, Int.compare_eq_lt.2 (Int.ofNat_lt.2 (hstep hm he hfull' hlt))]
    rfl
  · rw [Int.compare_eq_eq.2 rfl]
    have hpos : 0 < 2 ^ (e + 1074).toNat := Nat.two_pow_pos _
    rcases Nat.lt_trichotomy m m' with hlt | rfl | hgt
    · rw [Nat.compare_eq_lt.2 hlt,
        Int.compare_eq_lt.2 (Int.ofNat_lt.2 (Nat.mul_lt_mul_of_pos_right hlt hpos))]
      rfl
    · rw [Nat.compare_eq_eq.2 rfl, Int.compare_eq_eq.2 rfl]
      rfl
    · rw [Nat.compare_eq_gt.2 hgt,
        Int.compare_eq_gt.2 (Int.ofNat_lt.2 (Nat.mul_lt_mul_of_pos_right hgt hpos))]
      rfl
  · rw [Int.compare_eq_gt.2 hgt, Int.compare_eq_gt.2 (Int.ofNat_lt.2 (hstep hm' he' hfull hgt))]
    rfl

theorem limit_eq : limit = 2 ^ 52 * 2 ^ (topExponent - 52) := by
  rw [← Nat.pow_add, Nat.add_sub_of_le (by decide)]
  rfl

theorem mul_pow_lt_limit {m k : Nat} (hm : m < 2 ^ 53) (hk : 52 + k < topExponent) :
    m * 2 ^ k < limit := by
  rw [limit_eq]
  exact mul_pow_lt_mul_pow hm (Nat.le_refl _) (Nat.lt_sub_of_add_lt (by omega))

theorem lt_limit {m : Nat} {e : Int} (hm : m < 2 ^ 53) (he : e ≤ 971) :
    m * 2 ^ (e + 1074).toNat < limit :=
  mul_pow_lt_limit hm (by unfold topExponent; omega)

theorem limit_le {s : Sign} {m : Nat} {e : Int} {hm : 0 < m} (h : Canonical (.finite s m e hm))
    (he : 971 < e) : limit ≤ m * 2 ^ (e + 1074).toNat := by
  have hfull : 2 ^ 52 ≤ m := h.2.2.resolve_right (by omega)
  rw [limit_eq]
  exact Nat.mul_le_mul hfull
    (Nat.pow_le_pow_right (by decide) (by unfold topExponent; omega))

theorem natAbs_stepsOf_lt {s : Sign} {m : Nat} {e : Int} {hm : 0 < m}
    (h : Canonical (.finite s m e hm)) (he : e ≤ 971) :
    (stepsOf (.finite s m e hm)).natAbs < limit := by
  rw [stepsOf_finite, natAbs_apply]
  exact lt_limit h.1 he

theorem stepsOf_negative_lt {m : Nat} (e : Int) (hm : 0 < m) :
    stepsOf (.finite .negative m e hm) < 0 :=
  Int.neg_neg_of_pos (Int.natCast_pos.2 (Nat.mul_pos hm (Nat.two_pow_pos _)))

theorem stepsOf_positive_pos {m : Nat} (e : Int) (hm : 0 < m) :
    0 < stepsOf (.finite .positive m e hm) :=
  Int.natCast_pos.2 (Nat.mul_pos hm (Nat.two_pow_pos _))

/-- Doubles that are numbers are compared by their steps. -/
theorem compare_eq {u v : UnpackedFloat} (hu : Canonical u) (hv : Canonical v) (hbu : Bounded u)
    (hbv : Bounded v) (hnu : u.isNaN = false) (hnv : v.isNaN = false) :
    u.compare v = some (compare (stepsOf u) (stepsOf v)) := by
  have hlimit := limit_pos
  have hlt : ∀ {a b : Int}, a < b → some Ordering.lt = some (compare a b) :=
    fun h => congrArg some (Int.compare_eq_lt.2 h).symm
  have hgt : ∀ {a b : Int}, b < a → some Ordering.gt = some (compare a b) :=
    fun h => congrArg some (Int.compare_eq_gt.2 h).symm
  have heq : ∀ {a : Int}, some Ordering.eq = some (compare a a) :=
    congrArg some (Int.compare_eq_eq.2 rfl).symm
  cases u with
  | notANumber => cases hnu
  | infinity s =>
    cases v with
    | notANumber => cases hnv
    | infinity t =>
      cases s <;> cases t
      · exact heq
      · exact hlt (show -(limit : Int) < limit by omega)
      · exact hgt (show -(limit : Int) < limit by omega)
      · exact heq
    | zero t =>
      cases s
      · exact hlt (show -(limit : Int) < 0 by omega)
      · exact hgt (show (0 : Int) < limit by omega)
    | finite t m e hm =>
      have hinside := natAbs_stepsOf_lt hv hbv
      cases s
      · exact hlt (show -(limit : Int) < stepsOf (.finite t m e hm) by omega)
      · exact hgt (show stepsOf (.finite t m e hm) < limit by omega)
  | zero s =>
    cases v with
    | notANumber => cases hnv
    | infinity t =>
      cases t
      · exact hgt (show -(limit : Int) < 0 by omega)
      · exact hlt (show (0 : Int) < limit by omega)
    | zero t => exact heq
    | finite t m e hm =>
      cases t
      · exact hgt (stepsOf_negative_lt e hm)
      · exact hlt (stepsOf_positive_pos e hm)
  | finite s m e hm =>
    cases v with
    | notANumber => cases hnv
    | infinity t =>
      have hinside := natAbs_stepsOf_lt hu hbu
      cases t
      · exact hgt (show -(limit : Int) < stepsOf (.finite s m e hm) by omega)
      · exact hlt (show stepsOf (.finite s m e hm) < limit by omega)
    | zero t =>
      cases s
      · exact hlt (stepsOf_negative_lt e hm)
      · exact hgt (stepsOf_positive_pos e hm)
    | finite t m' e' hm' =>
      have hcompare := compare_canonical hu.1 hv.1 hu.2.1 hv.2.1 hu.2.2 hv.2.2
      cases s <;> cases t
      · show some ((compare e e').then (compare m m')).swap = _
        rw [hcompare, swap_compare]
        rfl
      · exact hlt ((stepsOf_negative_lt e hm).trans (stepsOf_positive_pos e' hm'))
      · exact hgt ((stepsOf_negative_lt e' hm').trans (stepsOf_positive_pos e hm))
      · exact congrArg some hcompare

/-! ## Doubles -/

/-- What a double stands for, in steps of the least positive one. -/
def steps (x : Float) : Int := stepsOf x.toModel.unpack

variable {x y z : Float}

theorem compare_unpack (hx : x.isNaN = false) (hy : y.isNaN = false) :
    x.toModel.unpack.compare y.toModel.unpack = some (compare (steps x) (steps y)) := by
  obtain ⟨hcx, hbx⟩ := canonical_unpack x.toModel.toBits.toBitVec
  obtain ⟨hcy, hby⟩ := canonical_unpack y.toModel.toBits.toBitVec
  exact compare_eq hcx hcy hbx hby hx hy

theorem lt_iff_steps (hx : x.isNaN = false) (hy : y.isNaN = false) :
    x < y ↔ steps x < steps y := by
  have hlt : x < y ↔ (x.toModel.unpack.compare y.toModel.unpack == some .lt) = true :=
    decide_eq_true_iff (p := x.toModel < y.toModel)
  rw [hlt, beq_iff_eq, compare_unpack hx hy, Option.some.injEq, Int.compare_eq_lt]

theorem le_iff_steps (hx : x.isNaN = false) (hy : y.isNaN = false) :
    x ≤ y ↔ steps x ≤ steps y := by
  have hle : x ≤ y ↔ ((x.toModel.unpack.compare y.toModel.unpack).any (·.isLE)) = true :=
    decide_eq_true_iff (p := x.toModel ≤ y.toModel)
  rw [hle, compare_unpack hx hy, Option.any_some, Int.isLE_compare]

/-- Only numbers are compared. -/
theorem isNaN_of_lt (h : x < y) : x.isNaN = false ∧ y.isNaN = false := by
  have hlt : (x.toModel.unpack.compare y.toModel.unpack == some .lt) = true :=
    (decide_eq_true_iff (p := x.toModel < y.toModel)).1 h
  unfold Float.isNaN Float.Model.isNaN
  cases hx : x.toModel.unpack <;> cases hy : y.toModel.unpack <;> rw [hx, hy] at hlt <;>
    first | exact ⟨rfl, rfl⟩ | cases hlt

/-- No double goes beyond the infinite ones. -/
theorem natAbs_steps_le (x : Float) : (steps x).natAbs ≤ limit := by
  obtain ⟨hc, hb⟩ := canonical_unpack x.toModel.toBits.toBitVec
  unfold steps
  change Canonical x.toModel.unpack at hc
  change Bounded x.toModel.unpack at hb
  cases hu : x.toModel.unpack with
  | infinity s => exact (natAbs_apply s limit).le
  | notANumber => exact Nat.zero_le _
  | zero s => exact Nat.zero_le _
  | finite s m e hm =>
    rw [hu] at hc hb
    exact (natAbs_stepsOf_lt hc hb).le

/-- A double that has been rounded to is no number on the other side of a double. -/
theorem rounds_pack {g : Nat} {v : Int} {u : UnpackedFloat} (h : Rounds g v u) :
    (Float.ofModel (.pack u)).isNaN = false ∧
      ∀ z : Float, (v ≤ steps z * 2 ^ g → steps (.ofModel (.pack u)) ≤ steps z) ∧
        (steps z * 2 ^ g ≤ v → steps z ≤ steps (.ofModel (.pack u))) := by
  have hread : (Float.ofModel (.pack u)).toModel.unpack = stored u := unpack_pack h.canonical
  have hgrid : ∀ z, OnGrid (steps z) := fun z => onGrid_stepsOf (canonical_unpack _).1
  have hle := fun z => h.le (hgrid z)
  have hge := fun z => h.ge (hgrid z)
  have hfinite := h.isFinite
  unfold Float.isNaN Float.Model.isNaN
  unfold steps at *
  rw [hread]
  cases u with
  | infinity s => cases hfinite
  | notANumber => cases hfinite
  | zero s => exact ⟨rfl, fun z => ⟨hle z, hge z⟩⟩
  | finite s m e hm =>
    rw [stored_finite]
    by_cases hbig : 971 < e
    · have hmost : limit ≤ m * 2 ^ (e + 1074).toNat := limit_le h.canonical hbig
      rw [if_pos hbig]
      exact ⟨rfl, fun z => ⟨fun hv => apply_le_of_le hmost (natAbs_steps_le z) (hle z hv),
        fun hv => le_apply_of_le hmost (natAbs_steps_le z) (hge z hv)⟩⟩
    · rw [if_neg hbig]
      exact ⟨rfl, fun z => ⟨hle z, hge z⟩⟩

/-- The sum of two finite doubles passes no double that the exact sum does not pass. -/
theorem rounds_float_add (hx : x.isFinite = true) (hy : y.isFinite = true) :
    (x + y).isNaN = false ∧ ∀ z : Float,
      (steps x + steps y ≤ steps z → steps (x + y) ≤ steps z) ∧
        (steps z ≤ steps x + steps y → steps z ≤ steps (x + y)) := by
  have h := rounds_pack (rounds_add (canonical_unpack x.toModel.toBits.toBitVec).1
    (canonical_unpack y.toModel.toBits.toBitVec).1 hx hy)
  refine ⟨h.1, fun z => ?_⟩
  have hz := h.2 z
  rw [Int.pow_zero, Int.mul_one] at hz
  exact hz

/-- What is infinite stays so under finite sums. -/
theorem steps_add_of_infinite (hx : x.isNaN = false) (hinfinite : x.isFinite = false)
    (hy : y.isFinite = true) : (x + y).isNaN = false ∧ steps (x + y) = steps x := by
  have hsum : (x + y).toModel.unpack = UnpackedFloat.unpack Format.binary64
      (UnpackedFloat.pack Format.binary64
        (add Format.binary64 x.toModel.unpack y.toModel.unpack)) := rfl
  unfold Float.isNaN Float.isFinite Float.Model.isNaN Float.Model.isFinite at *
  unfold steps
  rw [hsum]
  cases hu : x.toModel.unpack with
  | infinity s =>
    have hadd : add Format.binary64 (.infinity s) y.toModel.unpack = .infinity s := by
      cases hv : y.toModel.unpack with
      | infinity t =>
        rw [hv] at hy
        cases hy
      | notANumber =>
        rw [hv] at hy
        cases hy
      | zero t => rfl
      | finite t m e hm => rfl
    rw [hadd, unpack_pack (u := .infinity s) trivial]
    exact ⟨rfl, rfl⟩
  | notANumber =>
    rw [hu] at hx
    cases hx
  | zero s =>
    rw [hu] at hinfinite
    cases hinfinite
  | finite s m e hm =>
    rw [hu] at hinfinite
    cases hinfinite

/-- The product of two finite doubles passes no double that the exact product does not pass;
`2 ^ oneExponent` steps make one. -/
theorem rounds_float_mul (hx : x.isFinite = true) (hy : y.isFinite = true) :
    (x * y).isNaN = false ∧ ∀ z : Float,
      (steps x * steps y ≤ steps z * 2 ^ oneExponent → steps (x * y) ≤ steps z) ∧
        (steps z * 2 ^ oneExponent ≤ steps x * steps y → steps z ≤ steps (x * y)) :=
  rounds_pack (rounds_mul (canonical_unpack x.toModel.toBits.toBitVec).1
    (canonical_unpack y.toModel.toBits.toBitVec).1 hx hy)

/-- A number that is less than infinite is finite. -/
theorem isFinite_of_natAbs_lt (hx : x.isNaN = false) (hlt : (steps x).natAbs < limit) :
    x.isFinite = true := by
  unfold steps at hlt
  unfold Float.isNaN Float.Model.isNaN at hx
  unfold Float.isFinite Float.Model.isFinite
  cases hu : x.toModel.unpack with
  | infinity s =>
    rw [hu, stepsOf_infinity, natAbs_apply] at hlt
    exact absurd hlt (Nat.lt_irrefl _)
  | notANumber =>
    rw [hu] at hx
    cases hx
  | zero s => rfl
  | finite s m e hm => rfl

theorem isNaN_of_isFinite (h : x.isFinite = true) : x.isNaN = false := by
  unfold Float.isFinite Float.Model.isFinite at h
  unfold Float.isNaN Float.Model.isNaN
  cases hu : x.toModel.unpack <;> rw [hu] at h <;> first | rfl | cases h

/-! ## Whole numbers -/

/-- What needs no rounding is not rounded. -/
theorem Rounds.stepsOf_eq {v : Int} {u : UnpackedFloat} (h : Rounds 0 v u) (hv : OnGrid v) :
    stepsOf u = v := by
  have hsame : v * 2 ^ 0 = v := by rw [Int.pow_zero, Int.mul_one]
  exact Int.le_antisymm (h.le hv hsame.ge) (h.ge hv hsame.le)

theorem unpack_pack_of_lt {u : UnpackedFloat} (h : Canonical u) (hlt : (stepsOf u).natAbs < limit) :
    UnpackedFloat.unpack Format.binary64 (UnpackedFloat.pack Format.binary64 u) = u := by
  rw [unpack_pack h]
  cases u with
  | finite s m e hm =>
    rw [stepsOf_finite, natAbs_apply] at hlt
    exact if_neg fun hbig => absurd (limit_le h hbig) (Nat.not_le_of_lt hlt)
  | _ => rfl

/-- A word of at most fifty-three bits is a double. -/
theorem steps_toFloat {n : UInt64} (h : n.toNat < 2 ^ 53) :
    n.toFloat.isFinite = true ∧ steps n.toFloat = n.toNat * 2 ^ oneExponent := by
  have hone : (0 + 1074 : Int).toNat = oneExponent := rfl
  have hrounds : Rounds 0 (n.toNat * 2 ^ (0 + 1074 : Int).toNat)
      (UnpackedFloat.ofUInt64 Format.binary64 n) := rounds_normalize _ (by decide) _
  rw [hone] at hrounds
  have habs : ((n.toNat : Int) * 2 ^ oneExponent).natAbs = n.toNat * 2 ^ oneExponent := by
    simp [Int.natAbs_mul, Int.natAbs_pow]
  have hgrid : OnGrid (n.toNat * 2 ^ oneExponent) := ⟨n.toNat, oneExponent, h, habs⟩
  have hexact := hrounds.stepsOf_eq hgrid
  have hlt : n.toNat * 2 ^ oneExponent < limit := mul_pow_lt_limit h (by decide)
  have hread : n.toFloat.toModel.unpack = UnpackedFloat.ofUInt64 Format.binary64 n :=
    unpack_pack_of_lt hrounds.canonical (by rw [hexact, habs]; exact hlt)
  unfold Float.isFinite Float.Model.isFinite steps
  rw [hread]
  exact ⟨hrounds.isFinite, hexact⟩

/-! ## Rounding to whole numbers -/

/-- The exact value of a float that is finite. -/
def dyadic? : UnpackedFloat → Option Dyadic
  | .infinity _ => none
  | .notANumber => none
  | .zero s => some ⟨s == .negative, 0, -1074⟩
  | .finite s m e _ => some ⟨s == .negative, m, e⟩

theorem toNat_unpackExponent (b : BitVec Format.binary64.numBits) :
    (unpackExponent b).toNat = (b.toNat >>> 52) % 0x800 := by
  unfold unpackExponent
  rw [BitVec.toNat_cast, BitVec.extractLsb_toNat]
  rfl

theorem toNat_unpackMantissa (b : BitVec Format.binary64.numBits) :
    (unpackMantissa b).toNat = b.toNat % 0x10000000000000 := by
  unfold unpackMantissa
  rw [BitVec.toNat_cast, BitVec.extractLsb_toNat]
  rfl

theorem unpackSign_beq_negative (b : BitVec Format.binary64.numBits) :
    (Sign.ofBitVec (unpackSign b) == .negative) = (b.toNat >>> 63 == 1) := by
  have hb : b.toNat < 2 ^ 64 := b.isLt
  have hbit : (unpackSign b).toNat = b.toNat >>> 63 := by
    unfold unpackSign
    rw [BitVec.toNat_cast, BitVec.extractLsb_toNat]
    show (b.toNat >>> 63) % 2 = b.toNat >>> 63
    rw [Nat.shiftRight_eq_div_pow]
    omega
  rw [← hbit]
  generalize unpackSign b = sign
  revert sign
  decide

theorem dyadic?_assembled (s : Sign) (E : BitVec 11) (F : BitVec 52) :
    dyadic? (assembled s E F) =
      if E.toNat = 2047 then none
      else if E.toNat = 0 then some ⟨s == .negative, F.toNat, -1074⟩
      else some ⟨s == .negative, F.toNat + 2 ^ 52, E.toNat - 1075⟩ := by
  have hones : E.toNat = 2047 ↔ E = -1#11 := by
    rw [← BitVec.toNat_inj]
    rfl
  have hzero : E.toNat = 0 ↔ E = 0#11 := by
    rw [← BitVec.toNat_inj]
    rfl
  unfold assembled
  by_cases h1 : E = -1#11
  · rw [if_pos (hones.2 h1), if_pos h1]
    by_cases hF : F = 0#52
    · rw [if_pos hF]
      rfl
    · rw [if_neg hF]
      rfl
  · rw [if_neg (mt hones.1 h1), if_neg h1]
    by_cases h0 : E = 0#11
    · rw [if_pos (hzero.2 h0), if_pos h0]
      by_cases hF : F = 0#52
      · rw [dif_pos hF, hF]
        rfl
      · rw [dif_neg hF]
        rfl
    · rw [if_neg (mt hzero.1 h0), if_neg h0, Nat.add_comm F.toNat]
      rfl

/-- The bits of a double are taken apart in the same way. -/
theorem ofFloat?_eq (x : Float) : Dyadic.ofFloat? x = dyadic? x.toModel.unpack := by
  have hread : x.toModel.unpack = _ := unpack_eq x.toModel.toBits.toBitVec
  have hbits : x.toBits.toNat = x.toModel.toBits.toBitVec.toNat := rfl
  rw [hread, dyadic?_assembled, toNat_unpackExponent, toNat_unpackMantissa,
    unpackSign_beq_negative, ← hbits]
  unfold Dyadic.ofFloat?
  simp only [beq_iff_eq]
  rfl

/-- A quotient that is at most a whole number is not rounded above it. -/
theorem roundHalfUp_le {num den N : Nat} (hden : 0 < den) (h : num ≤ N * den) :
    roundHalfUp num den ≤ N := by
  unfold roundHalfUp
  have hbound : 2 * num + den < (N + 1) * (2 * den) := by
    rw [Nat.add_mul, Nat.one_mul, Nat.mul_left_comm]
    omega
  exact Nat.le_of_lt_succ ((Nat.div_lt_iff_lt_mul (by omega)).2 hbound)

/-- The exact value in whole numbers, for a number that is not negative. -/
theorem num_le {m N : Nat} {e : Int} (he : -1074 ≤ e)
    (h : m * 2 ^ (e + 1074).toNat ≤ N * 2 ^ oneExponent) :
    Dyadic.num ⟨false, m, e⟩ ≤ N * Dyadic.den ⟨false, m, e⟩ := by
  unfold Dyadic.num Dyadic.den
  dsimp only
  rw [Nat.shiftLeft_eq, Nat.shiftLeft_eq, Nat.one_mul]
  -- Both sides are multiplied by what is missing for whole numbers of steps.
  have hsplit : (e + 1074).toNat + (-e).toNat = e.toNat + oneExponent := by
    unfold oneExponent
    omega
  refine Nat.le_of_mul_le_mul_right (c := 2 ^ oneExponent) ?_ (Nat.two_pow_pos _)
  calc m * 2 ^ e.toNat * 2 ^ oneExponent = m * 2 ^ (e.toNat + oneExponent) := by
        rw [Nat.mul_assoc, ← Nat.pow_add]
    _ = m * 2 ^ (e + 1074).toNat * 2 ^ (-e).toNat := by
        rw [← hsplit, Nat.pow_add, Nat.mul_assoc]
    _ ≤ N * 2 ^ oneExponent * 2 ^ (-e).toNat := Nat.mul_le_mul_right _ h
    _ = N * 2 ^ (-e).toNat * 2 ^ oneExponent := Nat.mul_right_comm _ _ _

/-- What is at most a whole number is not rounded above it. -/
theorem nearestWord_le {N : Nat} (hx : x.isFinite = true) (h : steps x ≤ N * 2 ^ oneExponent) :
    (nearestWord x).toNat ≤ N := by
  have hcanonical : Canonical x.toModel.unpack := (canonical_unpack _).1
  have hword : ∀ n, n ≤ N → (UInt64.ofNat (min n 0xFFFFFFFFFFFFFFFF)).toNat ≤ N := by
    intro n hn
    rw [UInt64.toNat_ofNat']
    exact (Nat.mod_le _ _).trans ((Nat.min_le_left _ _).trans hn)
  unfold nearestWord
  rw [ofFloat?_eq]
  unfold steps at h
  unfold Float.isFinite Float.Model.isFinite at hx
  cases hu : x.toModel.unpack with
  | infinity s =>
    rw [hu] at hx
    cases hx
  | notANumber =>
    rw [hu] at hx
    cases hx
  | zero s =>
    cases s with
    | negative => exact Nat.zero_le _
    | positive =>
      have hnum : Dyadic.num ⟨false, 0, -1074⟩ = 0 := Nat.zero_shiftLeft _
      exact hword _ (roundHalfUp_le (by decide +kernel) (hnum.trans_le (Nat.zero_le _)))
  | finite s m e hm =>
    rw [hu] at h hcanonical
    cases s with
    | negative => exact Nat.zero_le _
    | positive =>
      have hsteps : m * 2 ^ (e + 1074).toNat ≤ N * 2 ^ oneExponent := by
        have hcast : ((m * 2 ^ (e + 1074).toNat : Nat) : Int) ≤ (N * 2 ^ oneExponent : Nat) := by
          rw [Int.natCast_mul N, Int.natCast_pow]
          exact h
        exact Int.ofNat_le.1 hcast
      have hden : 0 < Dyadic.den ⟨false, m, e⟩ := by
        unfold Dyadic.den
        rw [Nat.shiftLeft_eq, Nat.one_mul]
        exact Nat.two_pow_pos _
      exact hword _ (roundHalfUp_le hden (num_le hcanonical.2.1 hsteps))

end Questline.Decimal
