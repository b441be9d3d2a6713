import Questline.Proofs.Progress.Ledger
import Questline.Proofs.Progress.Tally
set_option autoImplicit false

/-!
# One pass is enough

A pass judges every quest once, and what it completes may open zones while it goes on.  The
catalog lists the quests of a zone after all those of the zone before it, so that a zone is open
when its quests are judged if it is open when the pass ends.  Hence a pass completes all that it
can, and a second one finds nothing to do.  What a pass changes is what the completed quests give.
-/

namespace Questline

open Time (Instant)

/-! ## What is counted -/

/-- What completed quests add to. -/
inductive Gauge where
  | coins
  | experience
  | skill (k : Skill)
  | zone (z : Zone)
  deriving DecidableEq

namespace Gauge

/-- All that completed quests add to. -/
def all : List Gauge := [coins, experience] ++ Skill.all.map skill ++ Zone.all.map zone

theorem mem_all (g : Gauge) : g ∈ all := by
  rcases g with _ | _ | k | z
  · decide
  · decide
  · cases k <;> decide
  · cases z <;> decide

/-- How much of it a game has. -/
def reading (g : Gauge) (p : Progress) : Nat :=
  match g with
  | coins => p.player.coins.toNat
  | experience => p.player.experience
  | skill k => (p.player.skills.get k).toNat
  | zone z => (p.completedByZone.get z).toNat

/-- How much of it a completed quest gives. -/
def rise (g : Gauge) (c : Completed) : Nat :=
  match g with
  | coins => c.gain.coins.toNat
  | experience => c.gain.xp.toNat
  | skill k => if c.quest.reward.skill = some k then c.gain.skill.toNat else 0
  | zone z => if c.quest.zone = z then 1 else 0

/-- What a word for it cannot hold any more. -/
def limit : Gauge → Nat
  | coins => 0x10000000000000000
  | experience => 0x10000000000000000
  | skill _ => 0x100000000
  | zone _ => 0x100000000

/-- How much of it several completed quests give. -/
def total (g : Gauge) (cs : List Completed) : Nat := (cs.map g.rise).sum

@[simp] theorem total_nil (g : Gauge) : g.total [] = 0 := rfl

@[simp] theorem total_singleton (g : Gauge) (c : Completed) : g.total [c] = g.rise c := by
  simp [total]

@[simp] theorem total_append (g : Gauge) (cs cs' : List Completed) :
    g.total (cs ++ cs') = g.total cs + g.total cs' := by
  simp [total]

end Gauge

/-- All levels that completed quests have given. -/
def levelsOf (cs : List Completed) : Nat := (cs.map fun c => c.gain.levels.toNat).sum

namespace Progress

variable {threshold : UInt32} {fs : FileSystem} {now : Instant} {p p' p'' : Progress}
  {cs cs' : List Completed}

/-- What the quests give keeps all counts below what their words can hold. -/
def Room (cs : List Completed) (p : Progress) : Prop :=
  ∀ g : Gauge, g.reading p + g.total cs < g.limit

instance (cs : List Completed) (p : Progress) : Decidable (Room cs p) :=
  decidable_of_iff (∀ g ∈ Gauge.all, g.reading p + g.total cs < g.limit)
    ⟨fun h g => h g g.mem_all, fun h g _ => h g⟩

/-- `p'` is `p` with these quests completed at `now`: each gave its reward, every count and the
level have grown by what the quests gave, and nothing else has changed. -/
structure Grows (now : Instant) (cs : List Completed) (p p' : Progress) : Prop
    extends KeepsRest p p' where
  rewards : ∀ c ∈ cs, c.gain.xp = boosted c.quest.reward.xp p.upgrades.xpBoost ∧
    c.gain.coins = boosted c.quest.reward.coins p.upgrades.coinBoost
  counts : ∀ g : Gauge, g.reading p' = g.reading p + g.total cs
  level : p'.player.level.toNat = p.player.level.toNat + levelsOf cs
  skills : ∀ k, (∀ c ∈ cs, c.quest.reward.skill ≠ some k) →
    p'.player.skills.get? k = p.player.skills.get? k
  zones : ∀ z, (∀ c ∈ cs, c.quest.zone ≠ z) →
    p'.completedByZone.get? z = p.completedByZone.get? z
  done : ∀ c ∈ cs, p'.quests.get? c.quest.id = some ⟨true, now⟩
  others : ∀ id, (∀ c ∈ cs, c.quest.id ≠ id) → p'.quests.get? id = p.quests.get? id

theorem Grows.refl (now : Instant) (p : Progress) : Grows now [] p p where
  toKeepsRest := .refl p
  rewards := nofun
  counts _ := rfl
  level := rfl
  skills _ _ := rfl
  zones _ _ := rfl
  done := nofun
  others _ _ := rfl

theorem Grows.trans (h : Grows now cs p p') (h' : Grows now cs' p' p'') :
    Grows now (cs ++ cs') p p'' where
  toKeepsRest := h.toKeepsRest.trans h'.toKeepsRest
  rewards c hc := (List.mem_append.1 hc).elim (h.rewards c) fun hlast => by
    rw [← h.upgrades]
    exact h'.rewards c hlast
  counts g := by rw [h'.counts, h.counts, Gauge.total_append, Nat.add_assoc]
  level := by rw [h'.level, h.level, levelsOf, levelsOf, levelsOf, List.map_append,
    List.sum_append, Nat.add_assoc]
  skills k hk := by
    obtain ⟨hfirst, hlast⟩ := List.forall_mem_append.1 hk
    rw [h'.skills k hlast, h.skills k hfirst]
  zones z hz := by
    obtain ⟨hfirst, hlast⟩ := List.forall_mem_append.1 hz
    rw [h'.zones z hlast, h.zones z hfirst]
  done c hc := by
    by_cases hagain : ∃ c' ∈ cs', c'.quest.id = c.quest.id
    · obtain ⟨c', hc', hid⟩ := hagain
      rw [← hid]
      exact h'.done c' hc'
    · have hfirst := (List.mem_append.1 hc).resolve_right fun hlast => hagain ⟨c, hlast, rfl⟩
      rw [h'.others _ fun c' hc' hid => hagain ⟨c', hc', hid⟩]
      exact h.done c hfirst
  others id hid := by
    obtain ⟨hfirst, hlast⟩ := List.forall_mem_append.1 hid
    rw [h'.others id hlast, h.others id hfirst]

theorem Grows.level_ne_zero (h : Grows now cs p p') (hlevel : p.player.level ≠ 0) :
    p'.player.level ≠ 0 := by
  intro h0
  have hgrown := h.level
  rw [h0] at hgrown
  exact hlevel (UInt32.toNat_inj.1 (Nat.eq_zero_of_add_eq_zero hgrown.symm).1)

/-- What is left of the room after some of the quests is enough for the others. -/
theorem Grows.room (h : Grows now cs p p') (hroom : Room (cs ++ cs') p) : Room cs' p' := by
  intro g
  have hg := hroom g
  rw [Gauge.total_append] at hg
  rw [h.counts]
  omega

theorem Room.of_append (h : Room (cs ++ cs') p) : Room cs p := by
  intro g
  have hg := h g
  rw [Gauge.total_append] at hg
  omega

/-- A zone that is open stays open. -/
theorem Grows.isUnlocked (h : Grows now cs p p') {z : Zone} (hopen : p.isUnlocked threshold z = true) :
    p'.isUnlocked threshold z = true := by
  unfold Progress.isUnlocked at hopen ⊢
  split
  · rfl
  · rename_i y hy
    have hcount := h.counts (.zone y)
    simp only [hy, decide_eq_true_eq, UInt32.le_iff_toNat_le, Gauge.reading] at hopen hcount ⊢
    omega

/-- A zone opens through quests of the zone before it only. -/
theorem Grows.isUnlocked_eq (h : Grows now cs p p') {z : Zone}
    (hz : ∀ c ∈ cs, z.previous? ≠ some c.quest.zone) :
    p'.isUnlocked threshold z = p.isUnlocked threshold z := by
  unfold Progress.isUnlocked
  split
  · rfl
  · rename_i y hy
    have hkept := h.zones y fun c hc heq => hz c hc (hy.trans (congrArg some heq.symm))
    rw [ZoneCounts.get, hkept, ← ZoneCounts.get]

theorem Grows.isComplete_eq (h : Grows now cs p p') {id : String}
    (hid : ∀ c ∈ cs, c.quest.id ≠ id) : p'.isComplete id = p.isComplete id := by
  unfold Progress.isComplete
  rw [h.others id hid]

/-! ## Judging one quest -/

section

variable (p : Progress) (r : Reward)

theorem coins_reward
    (hroom : p.player.coins.toNat + (p.reward r).1.coins.toNat < 0x10000000000000000) :
    (p.reward r).2.player.coins.toNat = p.player.coins.toNat + (p.reward r).1.coins.toNat := by
  have hgain : (p.reward r).1.coins = boosted r.coins p.upgrades.coinBoost :=
    (Player.gain_receive ..).2
  have hpurse : (p.reward r).2.player.coins =
      p.player.coins + boosted r.coins p.upgrades.coinBoost := Player.coins_receive ..
  rw [hpurse, ← hgain, UInt64.toNat_add]
  exact Nat.mod_eq_of_lt hroom

theorem experience_reward (hlevel : p.player.level ≠ 0)
    (hroom : p.player.experience + (p.reward r).1.xp.toNat < 0x10000000000000000) :
    (p.reward r).2.player.experience = p.player.experience + (p.reward r).1.xp.toNat ∧
      (p.reward r).2.player.level.toNat = p.player.level.toNat + (p.reward r).1.levels.toNat := by
  have hgain : (p.reward r).1.xp = boosted r.xp p.upgrades.xpBoost := (Player.gain_receive ..).1
  rw [hgain] at hroom ⊢
  exact Player.experience_receive _ r.skill hlevel hroom

theorem skills_reward
    (hroom : ∀ k, r.skill = some k →
      (p.player.skills.get k).toNat + (p.reward r).1.skill.toNat < 0x100000000) (k : Skill) :
    ((p.reward r).2.player.skills.get k).toNat = (p.player.skills.get k).toNat +
      if r.skill = some k then (p.reward r).1.skill.toNat else 0 := by
  refine Player.skills_receive _ _ _ r.skill (fun j hj => ?_) k
  have hgain : (p.reward r).1.skill = skillGain (boosted r.xp p.upgrades.xpBoost) :=
    Player.skill_receive _ _ _ _ hj
  rw [← hgain]
  exact hroom j hj

end

/-- A quest that is completed gives what it is told to give. -/
theorem grows_complete {q : Quest} (hnot : p.isComplete q.id = false)
    (hlevel : p.player.level ≠ 0) (hroom : Room [⟨q, (p.reward q.reward).1⟩] p) :
    Grows now [⟨q, (p.reward q.reward).1⟩] p
      ((p.reward q.reward).2.markComplete q.id q.zone now).2 := by
  have hmark : ((p.reward q.reward).2.markComplete q.id q.zone now).2 =
      { p with
        player := (p.reward q.reward).2.player
        completedByZone := p.completedByZone.set q.zone (p.completedByZone.get q.zone + 1)
        quests := p.quests.insert q.id ⟨true, now⟩ } := by
    unfold markComplete
    rw [isComplete_reward, hnot, if_neg (by simp)]
    rfl
  have hfits : ∀ g : Gauge, g.reading p + g.rise ⟨q, (p.reward q.reward).1⟩ < g.limit := fun g => by
    have hg := hroom g
    rwa [Gauge.total_singleton] at hg
  obtain ⟨hearn, hclimb⟩ := experience_reward p q.reward hlevel (hfits .experience)
  rw [hmark]
  refine ⟨⟨rfl, rfl, rfl, rfl, rfl, rfl⟩, fun c hc => ?_, fun g => ?_, ?_, fun k hk => ?_,
    fun z hz => ?_, fun c hc => ?_, fun id hid => ?_⟩
  · rw [List.mem_singleton.1 hc]
    exact Player.gain_receive ..
  · rw [Gauge.total_singleton]
    cases g with
    | coins => exact coins_reward p q.reward (hfits .coins)
    | experience => exact hearn
    | skill k =>
      refine skills_reward p q.reward (fun j hj => ?_) k
      have hj' := hfits (.skill j)
      rwa [Gauge.rise, if_pos hj] at hj'
    | zone z =>
      dsimp only [Gauge.reading, Gauge.rise]
      by_cases hz : q.zone = z
      · subst hz
        have hz' := hfits (.zone q.zone)
        rw [Gauge.rise, if_pos rfl] at hz'
        rw [if_pos rfl, ZoneCounts.get_set_self, UInt32.toNat_add]
        exact Nat.mod_eq_of_lt hz'
      · rw [if_neg hz, ZoneCounts.get_set_of_ne _ (Ne.symm hz), Nat.add_zero]
  · simpa [levelsOf] using hclimb
  · exact Player.get?_skills_receive _ _ _ _ (hk _ List.mem_cons_self)
  · exact ZoneCounts.get?_set_of_ne _ (Ne.symm (hz _ List.mem_cons_self)) _
  · rw [List.mem_singleton.1 hc]
    exact Keyed.get?_insert_self ..
  · exact Keyed.get?_insert_of_ne _ (Ne.symm (hid _ List.mem_cons_self)) _

theorem grows_judge {q : Quest} (hlevel : p.player.level ≠ 0)
    (hroom : Room (p.judge threshold fs now q).1.toList p) :
    Grows now (p.judge threshold fs now q).1.toList p (p.judge threshold fs now q).2 := by
  by_cases hready : p.Ready threshold fs q
  · rw [judge_fst_of_ready hready] at hroom ⊢
    rw [judge_of_ready hready]
    exact grows_complete hready.1 hlevel hroom
  · rw [judge_of_not_ready hready]
    exact .refl now p

/-! ## A pass -/

theorem judgeAll_cons (p : Progress) (q : Quest) (qs : List Quest) :
    p.judgeAll threshold fs now (q :: qs) =
      ((p.judge threshold fs now q).1.toList ++
          ((p.judge threshold fs now q).2.judgeAll threshold fs now qs).1,
        ((p.judge threshold fs now q).2.judgeAll threshold fs now qs).2) := rfl

/-- A pass gives what the quests give that it completes. -/
theorem grows_judgeAll (qs : List Quest) : ∀ {p : Progress}, p.player.level ≠ 0 →
    Room (p.judgeAll threshold fs now qs).1 p →
    Grows now (p.judgeAll threshold fs now qs).1 p (p.judgeAll threshold fs now qs).2 := by
  induction qs with
  | nil => exact fun _ _ => .refl now _
  | cons q r ih =>
    intro p hlevel hroom
    rw [judgeAll_cons] at hroom ⊢
    have hjudged := grows_judge hlevel hroom.of_append
    exact hjudged.trans (ih (hjudged.level_ne_zero hlevel) (hjudged.room hroom))

/-- Only quests that are judged are completed. -/
theorem mem_of_mem_judgeAll {qs : List Quest} {c : Completed} :
    ∀ {p : Progress}, c ∈ (p.judgeAll threshold fs now qs).1 → c.quest ∈ qs := by
  induction qs with
  | nil => nofun
  | cons q r ih =>
    intro p hc
    rw [judgeAll_cons] at hc
    rcases List.mem_append.1 hc with hc | hc
    · by_cases hready : p.Ready threshold fs q
      · rw [judge_fst_of_ready hready] at hc
        rw [List.mem_singleton.1 hc]
        exact List.mem_cons_self
      · rw [judge_of_not_ready hready] at hc
        cases hc
    · exact List.mem_cons_of_mem _ (ih hc)

/-! ## Why one pass is enough -/

/-- The quests have different names, and none of them opens the zone of one before it. -/
structure InOrder (qs : List Quest) : Prop where
  nodup : (qs.map Quest.id).Nodup
  zones : qs.Pairwise fun q r => q.zone.previous? ≠ some r.zone

theorem inOrder_catalog : InOrder Quest.catalog := ⟨nodup_catalog, by decide⟩

theorem InOrder.of_cons {q : Quest} {r : List Quest} (h : InOrder (q :: r)) : InOrder r :=
  ⟨(List.nodup_cons.1 h.nodup).2, (List.pairwise_cons.1 h.zones).2⟩

theorem InOrder.id_ne {q s : Quest} {r : List Quest} (h : InOrder (q :: r)) (hs : s ∈ r) :
    s.id ≠ q.id := fun hid => (List.nodup_cons.1 h.nodup).1 (hid ▸ List.mem_map_of_mem hs)

/-- After a pass a quest is complete exactly if it was before, or its condition holds and its zone
is open in the end. -/
theorem isComplete_judgeAll_iff {qs : List Quest} (hqs : InOrder qs) : ∀ {p : Progress},
    p.player.level ≠ 0 → Room (p.judgeAll threshold fs now qs).1 p → ∀ q ∈ qs,
      ((p.judgeAll threshold fs now qs).2.isComplete q.id = true ↔
        p.isComplete q.id = true ∨ q.check.holds p.log fs = true ∧
          (p.judgeAll threshold fs now qs).2.isUnlocked threshold q.zone = true) := by
  induction qs with
  | nil => nofun
  | cons q r ih =>
    intro p hlevel hroom s hs
    have hgrows := grows_judgeAll (q :: r) hlevel hroom
    rw [judgeAll_cons] at hroom hgrows ⊢
    have hjudged := grows_judge hlevel hroom.of_append
    have hlater := grows_judgeAll r (hjudged.level_ne_zero hlevel) (hjudged.room hroom)
    rcases List.mem_cons.1 hs with rfl | hs
    · by_cases hready : p.Ready threshold fs s
      · exact iff_of_true (isComplete_judgeAll r (isComplete_judge_self hready))
          (.inr ⟨hready.2.2, hgrows.isUnlocked hready.2.1⟩)
      · -- No quest that is still to come opens the zone or is the quest itself.
        have hzone : ∀ c ∈ ((p.judge threshold fs now s).2.judgeAll threshold fs now r).1,
            s.zone.previous? ≠ some c.quest.zone := fun c hc =>
          (List.pairwise_cons.1 hqs.zones).1 _ (mem_of_mem_judgeAll hc)
        have hself : ∀ c ∈ ((p.judge threshold fs now s).2.judgeAll threshold fs now r).1,
            c.quest.id ≠ s.id := fun c hc => hqs.id_ne (mem_of_mem_judgeAll hc)
        rw [hlater.isComplete_eq hself, hlater.isUnlocked_eq hzone, judge_of_not_ready hready]
        refine ⟨.inl, fun h => h.elim id fun ⟨hholds, hopen⟩ => ?_⟩
        exact Decidable.byContradiction fun hnot =>
          hready ⟨Bool.eq_false_iff.2 hnot, hopen, hholds⟩
    · have hrest := ih hqs.of_cons (hjudged.level_ne_zero hlevel) (hjudged.room hroom) s hs
      rw [hjudged.log, isComplete_judge_of_ne (hqs.id_ne hs)] at hrest
      exact hrest

/-- A pass tells of the quests that it completed, in their order. -/
theorem judgeAll_eq_filter {qs : List Quest} (hqs : InOrder qs) : ∀ {p : Progress},
    p.player.level ≠ 0 → Room (p.judgeAll threshold fs now qs).1 p →
      (p.judgeAll threshold fs now qs).1.map Completed.quest =
        qs.filter fun q => (p.judgeAll threshold fs now qs).2.isComplete q.id &&
          !p.isComplete q.id := by
  induction qs with
  | nil => exact fun _ _ => rfl
  | cons q r ih =>
    intro p hlevel hroom
    rw [judgeAll_cons] at hroom ⊢
    have hjudged := grows_judge hlevel hroom.of_append
    have hlater := grows_judgeAll r (hjudged.level_ne_zero hlevel) (hjudged.room hroom)
    have hrest := ih hqs.of_cons (hjudged.level_ne_zero hlevel) (hjudged.room hroom)
    have hsame : ∀ s ∈ r, (p.judge threshold fs now q).2.isComplete s.id = p.isComplete s.id :=
      fun s hs => isComplete_judge_of_ne (hqs.id_ne hs)
    rw [List.map_append, hrest, List.filter_congr fun s hs => by rw [hsame s hs]]
    by_cases hready : p.Ready threshold fs q
    · have hdone : ((p.judge threshold fs now q).2.judgeAll threshold fs now r).2.isComplete q.id =
          true := isComplete_judgeAll r (isComplete_judge_self hready)
      rw [judge_fst_of_ready hready,
        List.filter_cons_of_pos (by rw [hdone, hready.1]; rfl)]
      rfl
    · have hself : ∀ c ∈ ((p.judge threshold fs now q).2.judgeAll threshold fs now r).1,
          c.quest.id ≠ q.id := fun c hc => hqs.id_ne (mem_of_mem_judgeAll hc)
      have hkept := hlater.isComplete_eq hself
      rw [judge_of_not_ready hready] at hkept ⊢
      rw [List.filter_cons_of_neg (by rw [hkept, Bool.and_not_self]; decide)]
      rfl

/-- A pass over quests of which none is ready does nothing. -/
theorem judgeAll_of_not_ready {qs : List Quest} (h : ∀ q ∈ qs, ¬ p.Ready threshold fs q) :
    p.judgeAll threshold fs now qs = ([], p) := by
  induction qs with
  | nil => rfl
  | cons q r ih =>
    obtain ⟨hq, hr⟩ := List.forall_mem_cons.1 h
    rw [judgeAll_cons, judge_of_not_ready hq, ih hr]
    rfl

theorem evaluate_of_not_ready (h : ∀ q ∈ Quest.catalog, ¬ p.Ready threshold fs q) :
    p.evaluate threshold fs now = (.none, p) := by
  unfold evaluate
  rw [judgeAll_of_not_ready h]
  simp [Evaluation.none]

/-- What a pass tells and leaves, in terms of the quests that it judged. -/
theorem evaluate_eq (p : Progress) : p.evaluate threshold fs now =
    (⟨(p.judgeAll threshold fs now Quest.catalog).1, Zone.all.filter fun z =>
        (p.judgeAll threshold fs now Quest.catalog).2.isUnlocked threshold z &&
          !p.isUnlocked threshold z⟩,
      (p.judgeAll threshold fs now Quest.catalog).2) := by
  unfold evaluate
  rcases p.judgeAll threshold fs now Quest.catalog with ⟨completed, after⟩
  simp only [List.filter_filter]

/-- One pass is enough.  With room for what it completes, a quest is complete after it exactly if
it was before, or its condition holds and its zone is open in the end; the pass tells of the quests
that were completed, each once and in the order of the catalog, and of the zones that were opened;
the game has grown by what these quests gave; and a second pass finds nothing to do. -/
theorem evaluate_reaches_fixed_point {e : Evaluation}
    (heval : p.evaluate threshold fs now = (e, p')) (hlevel : p.player.level ≠ 0)
    (hroom : Room e.completed p) :
    (∀ q ∈ Quest.catalog, p'.isComplete q.id = true ↔
      p.isComplete q.id = true ∨
        q.check.holds p.log fs = true ∧ p'.isUnlocked threshold q.zone = true) ∧
    e.completed.map Completed.quest =
      (Quest.catalog.filter fun q => p'.isComplete q.id && !p.isComplete q.id) ∧
    (e.completed.map fun c => c.quest.id).Nodup ∧
    e.unlocked =
      (Zone.all.filter fun z => p'.isUnlocked threshold z && !p.isUnlocked threshold z) ∧
    Grows now e.completed p p' ∧
    ∀ later, p'.evaluate threshold fs later = (.none, p') := by
  rw [evaluate_eq] at heval
  obtain ⟨he, hp'⟩ := Prod.mk.inj heval
  subst he hp'
  dsimp only at hroom ⊢
  have hgrows := grows_judgeAll Quest.catalog hlevel hroom
  have hiff := isComplete_judgeAll_iff inOrder_catalog hlevel hroom
  have hfilter := judgeAll_eq_filter inOrder_catalog hlevel hroom
  have hnodup : (((p.judgeAll threshold fs now Quest.catalog).1.map Completed.quest).map
      Quest.id).Nodup := by
    rw [hfilter]
    exact nodup_catalog.sublist (List.filter_sublist.map Quest.id)
  rw [List.map_map] at hnodup
  refine ⟨hiff, hfilter, hnodup, rfl, hgrows, fun later => evaluate_of_not_ready ?_⟩
  intro q hq ⟨hnot, hopen, hholds⟩
  rw [hgrows.log] at hholds
  exact absurd ((hiff q hq).2 (.inr ⟨hholds, hopen⟩)) (by rw [hnot]; decide)

/-- A new game in which the listing was searched. -/
def searched : Progress := { fresh ⟨0, 0⟩ with log := [⟨"ls | grep echo", "", ⟨0, 0⟩⟩] }

/-- Where one quest opens a zone, one command completes a quest in each zone in a single pass. -/
theorem evaluate_searched :
    searched.player.level ≠ 0 ∧
      Room (searched.evaluate 1 .starter ⟨1, 0⟩).1.completed searched ∧
      (searched.evaluate 1 .starter ⟨1, 0⟩).1.completed.map (·.quest.id) =
        ["plains-ls", "forest-ls-grep", "caves-ls-grep"] ∧
      ∀ later, (searched.evaluate 1 .starter ⟨1, 0⟩).2.evaluate 1 .starter later =
        (.none, (searched.evaluate 1 .starter ⟨1, 0⟩).2) := by
  have hlevel : searched.player.level ≠ 0 := by decide
  have hpass : Room (searched.evaluate 1 .starter ⟨1, 0⟩).1.completed searched ∧
      (searched.evaluate 1 .starter ⟨1, 0⟩).1.completed.map (·.quest.id) =
        ["plains-ls", "forest-ls-grep", "caves-ls-grep"] := by decide +kernel
  exact ⟨hlevel, hpass.1, hpass.2,
    (evaluate_reaches_fixed_point (Prod.eta _).symm hlevel hpass.1).2.2.2.2.2⟩

end Progress

end Questline
