import Questline.Proofs.Progress.Tally
set_option autoImplicit false

/-!
# The quest to take next

The catalog stands zone by zone in the order in which the zones open, so the first pending quest
of the first open zone that has one is the first of the catalog that can be taken.  Where the
counts agree with the quests and no zone needs more of them than it has, a zone all of whose
quests are complete opens the next: as long as a quest is pending, there is one to take.
-/

namespace Questline

namespace Quest

/-- The catalog goes zone by zone. -/
theorem catalog_eq_flatMap :
    catalog = Zone.all.flatMap fun z => catalog.filter fun q => q.zone == z := rfl

/-- No zone has fewer than eight quests. -/
theorem eight_le_countP_catalog (z : Zone) : 8 ≤ catalog.countP fun q => q.zone == z := by
  cases z <;> decide

end Quest

namespace Progress

variable {threshold : UInt32} {p : Progress}

/-- The quest can be taken: it is pending, in a zone that is open. -/
def isAvailable (p : Progress) (threshold : UInt32) (q : Quest) : Bool :=
  !p.isComplete q.id && p.isUnlocked threshold q.zone

/-! ## The first quest that can be taken -/

/-- The first pending quest of a zone, if that is open, is the first there that can be taken. -/
theorem find?_available_of_zone (p : Progress) (threshold : UInt32) (z : Zone) :
    (if p.isUnlocked threshold z then
      (Quest.catalog.find? fun q => q.zone == z && !p.isComplete q.id).map fun q => (z, q)
    else none) =
      ((Quest.catalog.filter fun q => q.zone == z).find? (p.isAvailable threshold)).map
        fun q => (q.zone, q) := by
  rw [List.find?_filter]
  cases hz : p.isUnlocked threshold z with
  | false =>
    have hnone : ∀ q ∈ Quest.catalog,
        ¬ ((q.zone == z) = true ∧ p.isAvailable threshold q = true) := by
      rintro q - ⟨hzone, havailable⟩
      rw [isAvailable, eq_of_beq hzone, hz, Bool.and_false] at havailable
      cases havailable
    rw [if_neg (by simp), eq_comm, Option.map_eq_none_iff, List.find?_eq_none]
    simpa using hnone
  | true =>
    have hsame : ∀ q : Quest, decide ((q.zone == z) = true ∧ p.isAvailable threshold q = true) =
        (q.zone == z && !p.isComplete q.id) := by
      intro q
      by_cases hzone : q.zone = z
      · simp [isAvailable, hzone, hz]
      · simp [hzone]
    rw [if_pos rfl, funext hsame]
    refine Option.map_congr fun q hq => ?_
    have hzone : q.zone = z := by
      have := List.find?_some hq
      simp only [Bool.and_eq_true, beq_iff_eq] at this
      exact this.1
    rw [hzone]

/-- What is recommended is the first quest of the catalog that can be taken. -/
theorem nextQuest?_eq_find? (p : Progress) (threshold : UInt32) :
    p.nextQuest? threshold =
      (Quest.catalog.find? (p.isAvailable threshold)).map fun q => (q.zone, q) := by
  rw [nextQuest?, unlockedZones, ← List.head?_filterMap, List.filterMap_filter,
    List.head?_filterMap, Quest.catalog_eq_flatMap, List.find?_flatMap, List.map_findSome?]
  exact congrArg (List.findSome? · Zone.all) (funext (p.find?_available_of_zone threshold))

/-! ## There is one as long as a quest is pending -/

/-- A zone all of whose quests are complete opens the next. -/
theorem Tallied.isUnlocked_of_complete (h : p.Tallied threshold) (hle : threshold ≤ 8)
    {z next : Zone} (hnext : next.previous? = some z)
    (hdone : ∀ q ∈ Quest.catalog, q.zone = z → p.isComplete q.id = true) :
    p.isUnlocked threshold next = true := by
  have hcount : p.recount z = Quest.catalog.countP fun q => q.zone == z := by
    refine List.countP_congr fun q hq => ?_
    simpa using hdone q hq
  have hsize := Quest.eight_le_countP_catalog z
  have hbound : threshold.toNat ≤ 8 := UInt32.le_iff_toNat_le.1 hle
  simp only [isUnlocked, hnext, decide_eq_true_eq, UInt32.le_iff_toNat_le]
  rw [h.counts z, hcount]
  omega

/-- If no quest can be taken, all are complete: each zone opens the next. -/
theorem Tallied.isComplete_of_none_available (h : p.Tallied threshold) (hle : threshold ≤ 8)
    (hnone : ∀ q ∈ Quest.catalog, p.isAvailable threshold q = false) :
    ∀ q ∈ Quest.catalog, p.isComplete q.id = true := by
  have hdone : ∀ q ∈ Quest.catalog, p.isUnlocked threshold q.zone = true →
      p.isComplete q.id = true := by
    intro q hq hopen
    have hq' := hnone q hq
    rw [isAvailable, hopen, Bool.and_true] at hq'
    simpa using hq'
  have hopens : ∀ z next : Zone, next.previous? = some z → p.isUnlocked threshold z = true →
      p.isUnlocked threshold next = true := fun z next hnext hz =>
    h.isUnlocked_of_complete hle hnext fun q hq hzone => hdone q hq (hzone ▸ hz)
  have hplains : p.isUnlocked threshold .plains = true := rfl
  have hforest := hopens .plains .forest rfl hplains
  have hcaves := hopens .forest .caves rfl hforest
  intro q hq
  refine hdone q hq ?_
  cases q.zone with
  | plains => exact hplains
  | forest => exact hforest
  | caves => exact hcaves

theorem Tallied.nextQuest?_eq_none_iff (h : p.Tallied threshold) (hle : threshold ≤ 8) :
    p.nextQuest? threshold = none ↔ ∀ q ∈ Quest.catalog, p.isComplete q.id = true := by
  rw [nextQuest?_eq_find?, Option.map_eq_none_iff, List.find?_eq_none]
  refine ⟨fun hnone => h.isComplete_of_none_available hle fun q hq => by simpa using hnone q hq,
    fun hdone q hq => ?_⟩
  simp [isAvailable, hdone q hq]

end Progress

end Questline
