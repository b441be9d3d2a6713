import Questline.Time.Calendar
set_option autoImplicit false

/-!
# Day numbers and dates

Every day number has a date, which exists in the calendar, and the number of that
date is the day number again.
-/

namespace Questline.Time.Date

/-- The day of an era on which a year of it begins; years begin on the first of March. -/
def yearStart (y : Int) : Int := 365 * y + y / 4 - y / 100

/-- The year of its era that a day of the era falls into. -/
def yearOfEra (d : Int) : Int := (d - d / 1460 + d / 36524 - d / 146096) / 365

/-- A day of an era by century, group of four years, year and day of the year.  Only the
last year of a group has a day 365, and in the last group of a century only if the
century is the last of the era. -/
theorem exists_parts {d : Int} (h : 0 ≤ d) (h' : d < 146097) :
    ∃ c q y t : Int, d = 36524 * c + 1461 * q + 365 * y + t ∧ yearOfEra d = 100 * c + 4 * q + y ∧
      (0 ≤ c ∧ c ≤ 3) ∧ (0 ≤ q ∧ q ≤ 24) ∧ (0 ≤ y ∧ y ≤ 3) ∧ (0 ≤ t ∧ t ≤ 365) ∧
      (t = 365 → y = 3 ∧ (q < 24 ∨ c = 3)) := by
  rcases Int.lt_or_le d 146096 with hd | hd
  · obtain ⟨c, q, s, hdays, hc, hq, hs, hlast⟩ : ∃ c q s : Int, d = 36524 * c + 1461 * q + s ∧
        (0 ≤ c ∧ c ≤ 3) ∧ (0 ≤ q ∧ q ≤ 24) ∧ (0 ≤ s ∧ s ≤ 1460) ∧ (q = 24 → s ≤ 1459) :=
      ⟨d / 36524, d % 36524 / 1461, d % 36524 % 1461, by omega⟩
    have hcentury : d / 36524 = c := by omega
    have hera : d / 146096 = 0 := by omega
    -- A group has one day more than 1460, so that the quotient may run ahead by one.
    have hgroup : d / 1460 = 25 * c + q ∧ s < 1460 ∨ d / 1460 = 25 * c + q + 1 ∧ 1364 ≤ s := by omega
    obtain ⟨y, hy, hyear⟩ : ∃ y : Int, (0 ≤ y ∧ y ≤ 3) ∧
        (365 * y ≤ s ∧ s ≤ 365 * y + 364 ∨ y = 3 ∧ s = 1460) :=
      ⟨min (s / 365) 3, by omega, by omega⟩
    refine ⟨c, q, y, s - 365 * y, by omega, ?_, hc, hq, hy, by omega, by omega⟩
    unfold yearOfEra
    rw [hcentury, hera]
    rcases hgroup with ⟨hg, -⟩ | ⟨hg, -⟩ <;> rw [hg] <;> omega
  · obtain rfl : d = 146096 := by omega
    exact ⟨3, 24, 3, 365, by decide⟩

theorem yearStart_parts {c q y : Int} (hq : 0 ≤ q ∧ q ≤ 24) (hy : 0 ≤ y ∧ y ≤ 3) :
    yearStart (100 * c + 4 * q + y) = 36524 * c + 1461 * q + 365 * y := by
  have h4 : (100 * c + 4 * q + y) / 4 = 25 * c + q := by omega
  have h100 : (100 * c + 4 * q + y) / 100 = c := by omega
  rw [yearStart, h4, h100]
  omega

/-- The date of the day `t` of a year of an era. -/
def ofParts (era c q y t : Int) : Date :=
  let m := (5 * t + 2) / 153
  let month := if m < 10 then m + 3 else m - 9
  ⟨100 * c + 4 * q + y + era * 400 + (if month ≤ 2 then 1 else 0), month.toNat,
    (t - (153 * m + 2) / 5 + 1).toNat⟩

theorem exists_ofDayNumber_eq (n : Int) :
    ∃ era c q y t : Int, ofDayNumber n = ofParts era c q y t ∧
      n + 719468 = era * 146097 + (36524 * c + 1461 * q + 365 * y + t) ∧
      (0 ≤ c ∧ c ≤ 3) ∧ (0 ≤ q ∧ q ≤ 24) ∧ (0 ≤ y ∧ y ≤ 3) ∧ (0 ≤ t ∧ t ≤ 365) ∧
      (t = 365 → y = 3 ∧ (q < 24 ∨ c = 3)) := by
  obtain ⟨c, q, y, t, hday, hyear, hc, hq, hy, ht, hleap⟩ :=
    exists_parts (d := (n + 719468) % 146097) (by omega) (by omega)
  refine ⟨(n + 719468) / 146097, c, q, y, t, ?_, by omega, hc, hq, hy, ht, hleap⟩
  have hstart := yearStart_parts (c := c) hq hy
  unfold yearStart at hstart
  unfold yearOfEra at hyear
  have hdoy : (n + 719468) % 146097 - (365 * (100 * c + 4 * q + y) + (100 * c + 4 * q + y) / 4
      - (100 * c + 4 * q + y) / 100) = t := by
    rw [hstart]
    omega
  unfold ofDayNumber ofParts
  dsimp only
  rw [hyear, hdoy]

/-- A date in months and days as they are counted: in the first ten months from March the
year is that of the parts, in the last two the next. -/
theorem exists_ofParts_eq (era c q y : Int) {t : Int} (ht : 0 ≤ t ∧ t ≤ 365) :
    ∃ (month day : Nat) (late : Int), ofParts era c q y t =
        ⟨100 * c + 4 * q + y + era * 400 + late, month, day⟩ ∧
      (3 ≤ month ∧ month ≤ 12 ∧ late = 0 ∨ 1 ≤ month ∧ month ≤ 2 ∧ late = 1) ∧
      1 ≤ day ∧ (month : Int) - 3 + 12 * late = (5 * t + 2) / 153 ∧
      (day : Int) = t - (153 * ((5 * t + 2) / 153) + 2) / 5 + 1 := by
  obtain ⟨m, hm⟩ : ∃ m, m = (5 * t + 2) / 153 := ⟨_, rfl⟩
  have hm' : 0 ≤ m ∧ m ≤ 11 := by omega
  have hday : 1 ≤ t - (153 * m + 2) / 5 + 1 := by omega
  unfold ofParts
  simp only [← hm]
  rcases Int.lt_or_le m 10 with h10 | h10
  · refine ⟨(m + 3).toNat, (t - (153 * m + 2) / 5 + 1).toNat, 0, ?_, by omega⟩
    simp only [if_pos h10, if_neg (by omega : ¬ m + 3 ≤ 2)]
  · refine ⟨(m - 9).toNat, (t - (153 * m + 2) / 5 + 1).toNat, 1, ?_, by omega⟩
    simp only [if_neg (by omega : ¬ m < 10), if_pos (by omega : m - 9 ≤ 2)]

/-- The day number counts the years from March, as the parts do. -/
theorem dayNumber_ofParts {era c q y t : Int} (hc : 0 ≤ c ∧ c ≤ 3) (hq : 0 ≤ q ∧ q ≤ 24)
    (hy : 0 ≤ y ∧ y ≤ 3) (ht : 0 ≤ t ∧ t ≤ 365) : (ofParts era c q y t).dayNumber =
    era * 146097 + (36524 * c + 1461 * q + 365 * y + t) - 719468 := by
  have hstart := yearStart_parts (c := c) hq hy
  unfold yearStart at hstart
  have hera : (100 * c + 4 * q + y + era * 400) / 400 = era := by omega
  have hyear : (100 * c + 4 * q + y + era * 400) % 400 = 100 * c + 4 * q + y := by omega
  obtain ⟨month, day, late, hdate, hmonth, -, hm, hday⟩ := exists_ofParts_eq era c q y ht
  have hyear' : (if month ≤ 2 then 100 * c + 4 * q + y + era * 400 + late - 1
      else 100 * c + 4 * q + y + era * 400 + late) = 100 * c + 4 * q + y + era * 400 := by
    split <;> omega
  have hmonth' : ((month : Int) + 9) % 12 = (5 * t + 2) / 153 := by omega
  rw [hdate]
  unfold dayNumber
  dsimp only
  rw [Int.mul_comm 365] at hstart
  rw [hyear', hera, hyear, hmonth', hstart, hday]
  omega

/-- A year has a twenty-ninth of February exactly if the year before, counted from March,
has a day 365. -/
theorem isLeapYear_parts {era c q y : Int} (hq : 0 ≤ q ∧ q ≤ 24) (hleap : y = 3 ∧ (q < 24 ∨ c = 3)) :
    isLeapYear (100 * c + 4 * q + y + era * 400 + 1) = true := by
  simp only [isLeapYear, Bool.and_eq_true, Bool.or_eq_true, beq_iff_eq, bne_iff_ne]
  omega

theorem isValid_ofParts {era c q y t : Int} (hq : 0 ≤ q ∧ q ≤ 24) (ht : 0 ≤ t ∧ t ≤ 365)
    (hleap : t = 365 → y = 3 ∧ (q < 24 ∨ c = 3)) : (ofParts era c q y t).isValid = true := by
  obtain ⟨month, day, late, hdate, hmonth, hday, hm, hday'⟩ := exists_ofParts_eq era c q y ht
  rw [hdate]
  simp only [isValid, Bool.and_eq_true, decide_eq_true_eq]
  refine ⟨⟨⟨by omega, by omega⟩, hday⟩, ?_⟩
  by_cases hfeb : month = 2
  · have hlate : late = 1 := by omega
    have hdays : daysInMonth (100 * c + 4 * q + y + era * 400 + late) month =
        if isLeapYear (100 * c + 4 * q + y + era * 400 + 1) then 29 else 28 := by
      rw [hfeb, hlate]
      rfl
    rw [hdays]
    by_cases hlast : t = 365
    · rw [if_pos (isLeapYear_parts hq (hleap hlast))]
      omega
    · split <;> omega
  · have hdays : daysInMonth (100 * c + 4 * q + y + era * 400 + late) month =
        if month = 4 ∨ month = 6 ∨ month = 9 ∨ month = 11 then 30 else 31 := by
      simp [daysInMonth, hfeb, or_assoc]
    rw [hdays]
    split <;> omega

theorem bounds_of_isValid {d : Date} (h : d.isValid = true) :
    (1 ≤ d.month ∧ d.month ≤ 12) ∧ 1 ≤ d.day ∧ d.day ≤ 31 := by
  have hdays : daysInMonth d.year d.month ≤ 31 := by
    unfold daysInMonth
    split
    · split <;> decide
    · split <;> decide
  simp only [isValid, Bool.and_eq_true, decide_eq_true_eq] at h
  omega

/-- Every day has a date. -/
theorem dayNumber_ofDayNumber (n : Int) : (ofDayNumber n).dayNumber = n := by
  obtain ⟨era, c, q, y, t, hdate, hn, hc, hq, hy, ht, -⟩ := exists_ofDayNumber_eq n
  rw [hdate, dayNumber_ofParts hc hq hy ht]
  omega

/-- The date exists in the calendar. -/
theorem isValid_ofDayNumber (n : Int) : (ofDayNumber n).isValid = true := by
  obtain ⟨era, c, q, y, t, hdate, -, -, hq, -, ht, hleap⟩ := exists_ofDayNumber_eq n
  rw [hdate]
  exact isValid_ofParts hq ht hleap

end Questline.Time.Date
