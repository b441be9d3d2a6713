import Questline.Proofs.Decimal.Digits
import Questline.Proofs.Time.Calendar
import Questline.Time.Stamp
set_option autoImplicit false

/-!
# Written instants, read again

Every instant of the supported range is read back from its stamp.
-/

namespace Questline.Time

open Decimal (Stops isDigit padded)

/-- An instant that the clock can show: a leap second only ends a minute, and the date is
in the years that are kept. -/
structure Instant.Valid (t : Instant) : Prop where
  nanos : t.nanos < 1000000000 ∨ t.nanos < 2000000000 ∧ t.seconds % 60 = 59
  year : yearInRange (Date.ofDayNumber (t.seconds / 86400)).year = true

instance (t : Instant) : Decidable t.Valid :=
  decidable_of_iff (_ ∧ _) ⟨fun h => ⟨h.1, h.2⟩, fun h => ⟨h.1, h.2⟩⟩

/-! ## Blanks and digits -/

/-- Digits are not blank. -/
theorem isBlank_of_isDigit {c : Char} (h : isDigit c = true) : Text.isBlank c = false := by
  have hc : 48 ≤ c.toNat ∧ c.toNat ≤ 57 := by
    simpa [isDigit, Char.le_def, UInt32.le_iff_toNat_le] using h
  simp only [Text.isBlank, Bool.or_eq_false_iff, Bool.and_eq_false_iff, decide_eq_false_iff_not,
    beq_eq_false_iff_ne]
  omega

theorem trimStart_cons {c : Char} (h : Text.isBlank c = false) (r : List Char) :
    Text.trimStart (c :: r) = c :: r :=
  List.dropWhile_cons_of_neg (by simp [h])

/-- There is nothing to trim before digits. -/
theorem trimStart_digits {ds rest : List Char} (hds : ∀ c ∈ ds, isDigit c = true) (hne : ds ≠ []) :
    Text.trimStart (ds ++ rest) = ds ++ rest := by
  cases ds with
  | nil => exact absurd rfl hne
  | cons c r => exact trimStart_cons (isBlank_of_isDigit (hds c List.mem_cons_self)) _

/-! ## The parts of a stamp -/

theorem readDigits_none {ds rest : List Char} (hds : ∀ c ∈ ds, isDigit c = true) (hne : ds ≠ [])
    (hrest : Stops rest) :
    readDigits none (ds ++ rest) = some (Nat.ofDigitChars 10 ds 0, rest) := by
  simp [readDigits, Decimal.takeWhile_isDigit_append hds hrest, hne]

/-- A number that fills its width is read whatever follows. -/
theorem readDigits_padded {width n : Nat} (hw : 0 < width) (hn : n < Nat.pow 10 width)
    (rest : List Char) : readDigits (some width) (padded width n ++ rest) = some (n, rest) := by
  have hlen := Decimal.length_padded hw hn
  have hds : ∀ c ∈ padded width n, isDigit c = true := fun c => Decimal.isDigit_of_mem_padded
  have htake : ((padded width n ++ rest).takeWhile isDigit).take width = padded width n := by
    rw [List.takeWhile_append_of_pos hds, List.take_append_of_le_length (by omega),
      List.take_of_length_le (by omega)]
  simp [readDigits, htake, Decimal.padded_ne_nil, Decimal.ofDigitChars_padded, hlen]

theorem readPart_padded {low high n : Nat} (hlow : low ≤ n) (hhigh : n ≤ high) (hn : n < 100)
    (rest : List Char) : readPart low high (padded 2 n ++ rest) = some (n, rest) := by
  rw [readPart, trimStart_digits (fun c => Decimal.isDigit_of_mem_padded)
    (Decimal.padded_ne_nil 2 n), readDigits_padded (by decide) hn]
  simp [hlow, hhigh]

theorem readMark_cons {c : Char} (h : Text.isBlank c = false) (rest : List Char) :
    readMark c (c :: rest) = some rest := by
  rw [readMark, trimStart_cons h]
  simp

/-- A year is followed by a mark that is no digit. -/
theorem readYear_write (y : Int) {rest : List Char} (hrest : Stops rest) :
    readYear (writeYear y ++ rest) = some (y, rest) := by
  have hlong : readDigits none (padded 4 y.natAbs ++ rest) = some (y.natAbs, rest) := by
    rw [readDigits_none (fun c => Decimal.isDigit_of_mem_padded) (Decimal.padded_ne_nil 4 _) hrest,
      Decimal.ofDigitChars_padded]
  unfold writeYear
  split
  · rename_i h
    simp only [Bool.and_eq_true, decide_eq_true_eq] at h
    have hshort : y.toNat < 10000 := by omega
    have hread : readDigits (some 4) (padded 4 y.toNat ++ rest) = some (y.toNat, rest) :=
      readDigits_padded (by decide) hshort rest
    obtain ⟨c, r, hcr, hc⟩ := Decimal.exists_padded_eq_cons 4 y.toNat
    rw [hcr, List.cons_append] at hread ⊢
    unfold readYear
    rw [trimStart_cons (isBlank_of_isDigit hc)]
    split
    · rename_i heq
      cases heq
      cases hc
    · rename_i heq
      cases heq
      cases hc
    · rw [hread]
      simp only [Option.map_some, Option.some.injEq, Prod.mk.injEq, and_true,
        Int.ofNat_eq_natCast]
      omega
  · split
    · rw [List.cons_append, readYear, trimStart_cons (by decide)]
      simp only [hlong, Option.map_some, Option.some.injEq, Prod.mk.injEq, and_true,
        Int.ofNat_eq_natCast]
      omega
    · rename_i h hpos
      simp only [Bool.and_eq_true, decide_eq_true_eq] at h
      rw [List.cons_append, readYear, trimStart_cons (by decide)]
      simp only [hlong, Option.map_some, Option.some.injEq, Prod.mk.injEq, and_true,
        Int.ofNat_eq_natCast]
      omega

theorem readFraction_digits {width n : Nat} (hw : 0 < width ∧ width ≤ 9) (hn : n < Nat.pow 10 width)
    {rest : List Char} (hrest : Stops rest) :
    readFraction ('.' :: (padded width n ++ rest)) = some (n * Nat.pow 10 (9 - width), rest) := by
  have hds : ∀ c ∈ padded width n, isDigit c = true := fun c => Decimal.isDigit_of_mem_padded
  have hlen := Decimal.length_padded hw.1 hn
  have htake : ((padded width n ++ rest).takeWhile isDigit).take 9 = padded width n := by
    rw [Decimal.takeWhile_isDigit_append hds hrest, List.take_of_length_le (by omega)]
  rw [readFraction, htake, Decimal.dropWhile_isDigit_append hds hrest]
  split
  · rename_i h
    exact absurd h (Decimal.padded_ne_nil width n)
  · rw [hlen, Decimal.ofDigitChars_padded]

theorem readFraction_write {nanos : Nat} (h : nanos < 1000000000) {rest : List Char}
    (hrest : Stops rest) (hdot : rest.head? ≠ some '.') :
    readFraction (writeFraction nanos ++ rest) = some (nanos, rest) := by
  unfold writeFraction
  split
  · rename_i hzero
    subst hzero
    unfold readFraction
    split
    · rename_i r hr
      exact absurd (congrArg List.head? hr) hdot
    · rfl
  · split
    · rename_i hmillis
      have hdigits : nanos / 1000000 < 1000 := by omega
      have hback : nanos / 1000000 * 1000000 = nanos := by omega
      rw [List.cons_append, readFraction_digits (by decide) hdigits hrest]
      exact congrArg (fun n => some (n, rest)) hback
    · split
      · rename_i hmicros
        have hdigits : nanos / 1000 < 1000000 := by omega
        have hback : nanos / 1000 * 1000 = nanos := by omega
        rw [List.cons_append, readFraction_digits (by decide) hdigits hrest]
        exact congrArg (fun n => some (n, rest)) hback
      · rw [List.cons_append, readFraction_digits (by decide) h hrest]
        exact congrArg (fun n => some (n, rest)) (Nat.mul_one nanos)

/-! ## A whole stamp -/

theorem readOffset_utc : readOffset ['Z'] = some (0, []) := by decide

/-- The seconds of a minute, and the nanoseconds, as they are written. -/
theorem exists_written {t : Instant} (h : t.Valid) :
    ∃ leap nanos, (if t.nanos ≥ 1000000000 then (1, t.nanos - 1000000000) else (0, t.nanos)) =
        (leap, nanos) ∧ nanos < 1000000000 ∧ t.secondOfDay.toNat % 60 + leap ≤ 60 ∧
      (if t.secondOfDay.toNat % 60 + leap = 60 then (59, nanos + 1000000000)
        else (t.secondOfDay.toNat % 60 + leap, nanos)) = (t.secondOfDay.toNat % 60, t.nanos) := by
  have hday : 0 ≤ t.secondOfDay := by
    unfold Instant.secondOfDay
    omega
  have hsec : (t.secondOfDay.toNat % 60 : Int) = t.seconds % 60 := by
    unfold Instant.secondOfDay
    omega
  rcases h.nanos with hn | ⟨hn, hlast⟩
  · refine ⟨0, t.nanos, if_neg (by omega), hn, by omega, ?_⟩
    rw [if_neg (by omega), Nat.add_zero]
  · by_cases hleap : t.nanos ≥ 1000000000
    · refine ⟨1, t.nanos - 1000000000, if_pos hleap, by omega, by omega, ?_⟩
      rw [if_pos (by omega)]
      simp only [Prod.mk.injEq]
      omega
    · refine ⟨0, t.nanos, if_neg hleap, by omega, by omega, ?_⟩
      rw [if_neg (by omega), Nat.add_zero]

/-- The next part of a course of reading.  The parts are read one by one: carried out all at
once, the binds inside one another would be gone through over and over. -/
theorem some_bind {α β : Type} (a : α) (f : α → Option β) : (some a >>= f) = f a := rfl

/-- A stamp gives back the instant it was written for. -/
theorem ofStamp?_stamp {t : Instant} (h : t.Valid) : Instant.ofStamp? t.stamp = some t := by
  obtain ⟨leap, nanos, hwritten, hnanos, hsecond, hread⟩ := exists_written h
  have hvalid := Date.isValid_ofDayNumber (t.seconds / 86400)
  have hnumber := Date.dayNumber_ofDayNumber (t.seconds / 86400)
  have hyear := h.year
  rcases hdate : Date.ofDayNumber (t.seconds / 86400) with ⟨year, month, day⟩
  rw [hdate] at hvalid hnumber hyear
  have hbounds := Date.bounds_of_isValid hvalid
  dsimp only at hbounds
  have hs : t.secondOfDay.toNat < 86400 ∧ (t.secondOfDay.toNat : Int) = t.seconds % 86400 := by
    unfold Instant.secondOfDay
    omega
  unfold Instant.ofStamp? Instant.stamp Instant.write
  rw [hdate, hwritten, String.toList_ofList]
  dsimp only
  simp only [List.append_assoc, List.cons_append]
  rw [readYear_write year (Decimal.stops_cons (by decide)), some_bind,
    readMark_cons (by decide), some_bind,
    readPart_padded hbounds.1.1 hbounds.1.2 (by omega), some_bind,
    readMark_cons (by decide), some_bind,
    readPart_padded hbounds.2.1 hbounds.2.2 (by omega), some_bind]
  have hdivider : ∀ r, readDivider ('T' :: r) = some r := fun _ => rfl
  rw [hdivider, some_bind,
    readPart_padded (Nat.zero_le _) (by omega) (by omega), some_bind,
    readMark_cons (by decide), some_bind,
    readPart_padded (Nat.zero_le _) (by omega) (by omega), some_bind,
    readMark_cons (by decide), some_bind,
    readPart_padded (Nat.zero_le _) hsecond (by omega), some_bind,
    readFraction_write hnanos (Decimal.stops_cons (by decide)) (by decide), some_bind,
    readOffset_utc, some_bind]
  dsimp only
  rw [hread]
  have hseconds : (⟨year, month, day⟩ : Date).dayNumber * 86400
      + ((t.secondOfDay.toNat / 3600 : Nat) : Int) * 3600
      + ((t.secondOfDay.toNat / 60 % 60 : Nat) : Int) * 60
      + ((t.secondOfDay.toNat % 60 : Nat) : Int) - 0 = t.seconds := by
    rw [hnumber]
    omega
  dsimp only at hyear ⊢
  rw [if_neg (by simp [hvalid, hyear, Text.isBlankText]), hseconds, hdate, if_pos hyear]

end Questline.Time
