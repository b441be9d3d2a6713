import Mathlib.Data.List.Chain
import Questline.Progress.Return
import Questline.Proofs.Time.Stamp
set_option autoImplicit false

/-!
# One visit more

A visit counts for the streak by the whole days since the visit before, and every visit is the
one that the next is counted from, whether or not it has counted itself.  So a visit on the way
can cost the day that the visit after it would have counted: a visit half a day after the last
and one eighteen hours later are a day from neither, although more than a day has passed.
Whether one visit more costs the streak anything is settled here by the three counts of whole
days, for all times in order.
-/

namespace Questline

open Time (Instant Span)

namespace Time

/-! ## Whole days between instants -/

theorem Span.days_of_nonneg {s : Int} (h : 0 ≤ s) : Span.days s = s / 86400000000000 :=
  Int.tdiv_eq_ediv_of_nonneg h

/-- Less than a day back is no day. -/
theorem Span.days_eq_zero {s : Int} (h : -86400000000000 < s) (h' : s < 0) : Span.days s = 0 := by
  have hback : Span.days (-s) = 0 := by
    rw [Span.days_of_nonneg (by omega)]
    omega
  rw [Span.days, Int.neg_tdiv] at hback
  rw [Span.days]
  omega

/-- The whole days of a span, as bounds. -/
theorem Span.days_bounds {s : Int} (h : -86400000000000 < s) : 0 ≤ Span.days s ∧
    Span.days s * 86400000000000 ≤ max s 0 ∧ s < (Span.days s + 1) * 86400000000000 := by
  rcases Int.lt_or_le s 0 with hs | hs
  · rw [Span.days_eq_zero h hs]
    omega
  · rw [Span.days_of_nonneg hs]
    omega

namespace Instant

variable {a b c : Instant}

/-- A leap second adds or takes one second at most, and takes one only from an instant in it. -/
theorem exists_since_eq (a b : Instant) : ∃ leap : Int, -1 ≤ leap ∧ leap ≤ 1 ∧
    (leap = -1 → 1000000000 ≤ a.nanos ∧ a.seconds ≠ b.seconds) ∧
    ∀ {s : Int}, a.since b = s →
      s = (a.seconds - b.seconds + leap) * 1000000000 + (a.nanos - b.nanos) := by
  unfold since
  extract_lets x y leap
  refine ⟨leap, by grind, by grind, fun h => ?_, fun h => h.symm⟩
  simp only [x, y, secondOfDay, leap] at h
  grind

theorem neg_lt_since {s : Int} (hs : a.since b = s) (hb : b.Valid) (h : a.before b = false) :
    -1000000000 < s := by
  obtain ⟨leap, hlow, -, hback, hsince⟩ := exists_since_eq a b
  have hnanos : b.nanos < 2000000000 := by
    rcases hb.nanos with hn | hn <;> omega
  simp only [before, Bool.or_eq_false_iff, Bool.and_eq_false_iff, decide_eq_false_iff_not,
    beq_eq_false_iff_ne] at h
  have heq := hsince hs
  omega

/-- Spans add up, but for the leap seconds that are counted in one and not in the other. -/
theorem since_add_since_le {x y z : Int} (hx : b.since a = x) (hy : c.since b = y)
    (hz : c.since a = z) : x + y ≤ z + 3000000000 := by
  obtain ⟨_, _, _, -, hx'⟩ := exists_since_eq b a
  obtain ⟨_, _, _, -, hy'⟩ := exists_since_eq c b
  obtain ⟨_, _, _, -, hz'⟩ := exists_since_eq c a
  have hx := hx' hx
  have hy := hy' hy
  have hz := hz' hz
  omega

theorem days_since_nonneg (ha : a.Valid) (h : b.before a = false) : 0 ≤ (b.since a).days :=
  (Span.days_bounds (by have := neg_lt_since rfl ha h; omega)).1

/-- Two waits, one after the other, count one day more than the whole wait at most.  They do
count one more if the first ends in a leap second at midnight that makes its day whole. -/
theorem days_add_days_le (ha : a.Valid) (hb : b.Valid) (h : b.before a = false)
    (h' : c.before b = false) :
    (b.since a).days + (c.since b).days ≤ (c.since a).days + 1 := by
  obtain ⟨x, hx⟩ : ∃ x : Int, b.since a = x := ⟨_, rfl⟩
  obtain ⟨y, hy⟩ : ∃ y : Int, c.since b = y := ⟨_, rfl⟩
  obtain ⟨z, hz⟩ : ∃ z : Int, c.since a = z := ⟨_, rfl⟩
  have hlow := neg_lt_since hx ha h
  have hlow' := neg_lt_since hy hb h'
  have hlow'' := neg_lt_since hz ha (not_before_trans h h')
  have hadd := since_add_since_le hx hy hz
  obtain ⟨hnonneg, hle, hlt⟩ := Span.days_bounds (s := x) (by omega)
  obtain ⟨hnonneg', hle', hlt'⟩ := Span.days_bounds (s := y) (by omega)
  obtain ⟨hnonneg'', hle'', hlt''⟩ := Span.days_bounds (s := z) (by omega)
  rw [hx, hy, hz]
  omega

end Instant

end Time

/-! ## What one visit counts -/

/-- The streak after a visit so many whole days after the visit before. -/
def Streak.counted (days : UInt32) (passed : Int) : UInt32 :=
  if passed ≤ 0 then (if days = 0 then 1 else days)
  else if passed = 1 then days + 1
  else 1

/-- The longest streak that is kept; the next day makes it zero. -/
def Streak.longest : UInt32 := 4294967295

namespace Streak

variable {days : UInt32} {passed : Int}

/-- A visit within a day of the one before leaves the streak. -/
theorem counted_of_le (hdays : days ≠ 0) (h : passed ≤ 0) : counted days passed = days := by
  rw [counted, if_pos h, if_neg hdays]

theorem counted_one : counted days 1 = days + 1 := by
  simp [counted]

theorem counted_of_one_lt (h : 1 < passed) : counted days passed = 1 := by
  rw [counted, if_neg (by omega), if_neg (by omega)]

/-- Days counted from zero on: none, one or more. -/
theorem passed_cases (h : 0 ≤ passed) : passed = 0 ∨ passed = 1 ∨ 1 < passed := by
  omega

/-! The streak with a visit on the way, by what the visit at the end would count alone.  The
two waits count one day more than the whole wait at most, so that few cases are left for each. -/

section Counts

variable {first rest : Int} (hdays : days ≠ 0) (hfirst : 0 ≤ first) (hrest : 0 ≤ rest)

include hdays hfirst hrest

theorem counted_zero_le_iff (hsum : first + rest ≤ 1) :
    counted days 0 ≤ counted (counted days first) rest ↔
      ¬ (days = longest ∧ first + rest = 1) := by
  rw [counted_of_le hdays (Int.le_refl 0)]
  rcases passed_cases hfirst with rfl | rfl | hf <;> rcases passed_cases hrest with rfl | rfl | hr
  all_goals grind [counted, longest]

theorem counted_one_le_iff (hsum : first + rest ≤ 2) :
    counted days 1 ≤ counted (counted days first) rest ↔
      (first = 1 ∨ rest = 1 ∨ days = longest) ∧
      ¬ (days + 1 = longest ∧ first = 1 ∧ rest = 1) := by
  rw [counted_one]
  rcases passed_cases hfirst with rfl | rfl | hf <;> rcases passed_cases hrest with rfl | rfl | hr
  all_goals grind [counted, longest]

theorem counted_many_le_iff {whole : Int} (hwhole : 1 < whole) :
    counted days whole ≤ counted (counted days first) rest ↔
      ¬ (days + 1 = longest ∧ first = 1 ∧ rest = 1) ∧
      ¬ (days = longest ∧ first = 0 ∧ rest = 1) := by
  rw [counted_of_one_lt hwhole]
  rcases passed_cases hfirst with rfl | rfl | hf <;> rcases passed_cases hrest with rfl | rfl | hr
  all_goals grind [counted, longest]

end Counts

end Streak

namespace Progress

variable (p : Progress) (t₁ t₂ : Instant)

@[simp] theorem days_updateStreak (t : Instant) : (p.updateStreak t).streak.days =
    Streak.counted p.streak.days (t.since p.streak.lastCheck).days := rfl

@[simp] theorem lastCheck_updateStreak (t : Instant) :
    (p.updateStreak t).streak.lastCheck = t := rfl

/-! ## Many visits -/

/-- Visits that each come less than a day after the one before leave the streak where it is,
however many they are and however long they go on. -/
theorem days_foldl_updateStreak {p : Progress} (hdays : p.streak.days ≠ 0) {ts : List Instant}
    (hts : List.IsChain (fun a b => (b.since a).days ≤ 0) (p.streak.lastCheck :: ts)) :
    (ts.foldl updateStreak p).streak.days = p.streak.days := by
  induction ts generalizing p with
  | nil => rfl
  | cons t ts ih =>
    obtain ⟨hsoon, hrest⟩ := List.isChain_cons_cons.mp hts
    have hkept : (p.updateStreak t).streak.days = p.streak.days := by
      rw [days_updateStreak, Streak.counted_of_le hdays hsoon]
    rw [List.foldl_cons, ih (by rwa [hkept]) (by simpa using hrest), hkept]

/-! ## One visit more -/

/-- The visit at `t₂` comes a day after the last visit and the visit at `t₁` on the way is a day
from neither, so that the day is lost. -/
def LosesDay : Prop :=
  (t₂.since p.streak.lastCheck).days = 1 ∧ (t₁.since p.streak.lastCheck).days ≠ 1 ∧
    (t₂.since t₁).days ≠ 1 ∧ p.streak.days ≠ Streak.longest

/-- The visit at `t₁` on the way makes the count go beyond the longest streak. -/
def RunsOver : Prop :=
  p.streak.days + 1 = Streak.longest ∧ (t₁.since p.streak.lastCheck).days = 1 ∧
      (t₂.since t₁).days = 1 ∨
    p.streak.days = Streak.longest ∧
      ((t₁.since p.streak.lastCheck).days = 0 ∧ (t₂.since t₁).days = 1 ∧
          (t₂.since p.streak.lastCheck).days ≠ 1 ∨
        (t₁.since p.streak.lastCheck).days = 1 ∧ (t₂.since t₁).days = 0 ∧
          (t₂.since p.streak.lastCheck).days = 0)

/-- One visit more costs nothing of the streak unless the day of the visit after it is lost, or
the count runs over. -/
theorem days_updateStreak_le_iff (hdays : 1 ≤ p.streak.days) (hlast : p.streak.lastCheck.Valid)
    (ht : t₁.Valid) (h₁ : t₁.before p.streak.lastCheck = false) (h₂ : t₂.before t₁ = false) :
    (p.updateStreak t₂).streak.days ≤ ((p.updateStreak t₁).updateStreak t₂).streak.days ↔
      ¬ p.LosesDay t₁ t₂ ∧ ¬ p.RunsOver t₁ t₂ := by
  have hdays : p.streak.days ≠ 0 := by grind
  have hfirst := Time.Instant.days_since_nonneg hlast h₁
  have hrest := Time.Instant.days_since_nonneg ht h₂
  have hwhole := Time.Instant.days_since_nonneg hlast (Time.Instant.not_before_trans h₁ h₂)
  have hsum := Time.Instant.days_add_days_le hlast ht h₁ h₂
  simp only [days_updateStreak, lastCheck_updateStreak, LosesDay, RunsOver]
  generalize (t₁.since p.streak.lastCheck).days = first at *
  generalize (t₂.since t₁).days = rest at *
  generalize (t₂.since p.streak.lastCheck).days = whole at *
  rcases Streak.passed_cases hwhole with rfl | rfl | hw
  · rw [Streak.counted_zero_le_iff hdays hfirst hrest hsum]
    grind
  · rw [Streak.counted_one_le_iff hdays hfirst hrest hsum]
    grind
  · rw [Streak.counted_many_le_iff hdays hfirst hrest hw]
    grind

/-- A streak of a day, the last visit at midnight: a visit at six in the morning of the next
day makes two days of it, but not with a visit at noon before. -/
theorem days_updateStreak_lt_of_noon :
    let p : Progress := { fresh ⟨0, 0⟩ with streak := ⟨⟨0, 0⟩, 1⟩ }
    let noon : Instant := ⟨12 * 3600, 0⟩
    let morning : Instant := ⟨30 * 3600, 0⟩
    (p.updateStreak morning).streak.days = 2 ∧
      ((p.updateStreak noon).updateStreak morning).streak.days = 1 ∧
      ¬ (p.updateStreak morning).streak.days ≤
        ((p.updateStreak noon).updateStreak morning).streak.days := by
  intro p noon morning
  have hloses : p.LosesDay noon morning := by
    unfold LosesDay
    decide
  refine ⟨by decide, by decide, fun h => ?_⟩
  exact ((p.days_updateStreak_le_iff noon morning (by decide) (by decide) (by decide)
    (by decide) (by decide)).mp h).1 hloses

end Progress

end Questline
