import Questline.Proofs.Progress.Boost
import Questline.Proofs.Progress.Repair
import Questline.Proofs.Quest.FixedPoint
set_option autoImplicit false

/-!
# What a pass takes away

Completed quests only ever add, but coins, levels and the counts of the zones are words that can
get full; only the skills stop at their largest word.  A build that watches its words goes through
a pass over a loaded game exactly if the words have room for all that the completed quests give,
and then nothing is less than it was.
-/

namespace Questline

open Time (Instant)

/-! ## Rewards that fit -/

namespace Player

theorem le_skills_receive (player : Player) (xp coins : UInt64) (skill : Option Skill) (k : Skill) :
    (player.skills.get k).toNat ≤ ((player.receive xp coins skill).2.skills.get k).toNat := by
  cases skill with
  | none => exact Nat.le_refl _
  | some j =>
    change _ ≤ ((player.skills.set j _).get k).toNat
    by_cases hk : k = j
    · subst hk
      have hold := (player.skills.get k).toNat_lt
      rw [SkillLevels.get_set_self]
      dsimp only
      rw [UInt32.toNat_ofNat_of_lt' (by show _ < 2 ^ 32; omega)]
      omega
    · rw [SkillLevels.get_set_of_ne _ hk]

/-- A reward that the words have room for is added as it is, and no level is lost. -/
theorem receive_of_takes {p : Player} {xp coins : UInt64} {skill : Option Skill}
    (hlevel : p.level ≠ 0) (h : p.Takes xp coins skill) :
    (p.receive xp coins skill).2.coins.toNat = p.coins.toNat + coins.toNat ∧
      (p.receive xp coins skill).2.experience = p.experience + xp.toNat ∧
      p.level ≤ (p.receive xp coins skill).2.level := by
  obtain ⟨hxp, hcoins, -, hroom⟩ := h
  have hsum := toNat_add_of_fits hxp
  have hclimbs := earned_climb p.level (p.xp + xp) 0 hlevel (Nat.zero_le _)
    (by rw [hsum, ← Nat.add_assoc]; exact hroom)
  obtain ⟨hkept, hcount⟩ := hclimbs
  rw [hsum, ← Nat.add_assoc] at hkept
  have hup : p.level ≤ (climb p.level (p.xp + xp) 0).1 := by
    rw [UInt32.le_iff_toNat_le]
    rw [UInt32.toNat_zero, Nat.add_zero] at hcount
    omega
  refine ⟨?_, ?_, ?_⟩
  · rw [coins_receive, toNat_add_of_fits hcoins]
  · cases skill <;> exact hkept
  · cases skill <;> exact hup

theorem receive_lt (p : Player) (xp coins : UInt64) (skill : Option Skill) :
    (p.receive xp coins skill).2.xp < xpThreshold (p.receive xp coins skill).2.level := by
  cases skill <;> exact climb_lt ..

end Player

/-- What the words cannot hold any more, where they do not stop at their largest value. -/
def Gauge.bound? : Gauge → Option Nat
  | .coins => some UInt64.size
  | .experience => some (Player.earned UInt32.size)
  | .skill _ => none
  | .zone _ => some UInt32.size

namespace Progress

variable {threshold : UInt32} {fs : FileSystem} {now : Instant} {p p' p'' : Progress}
  {cs cs' : List Completed}

/-! ## What fits -/

/-- The words have room for what the quests give: the coins and the counts for their sums, and the
levels for all experience. -/
def Fits (cs : List Completed) (p : Progress) : Prop :=
  ∀ g : Gauge, ∀ bound ∈ g.bound?, g.reading p + g.total cs < bound

instance (cs : List Completed) (p : Progress) : Decidable (Fits cs p) :=
  decidable_of_iff (∀ g ∈ Gauge.all, ∀ bound ∈ g.bound?, g.reading p + g.total cs < bound)
    ⟨fun h g => h g g.mem_all, fun h g _ => h g⟩

theorem Fits.of_append (h : Fits (cs ++ cs') p) : Fits cs p := by
  intro g bound hbound
  have hg := h g bound hbound
  rw [Gauge.total_append] at hg
  omega

/-- The player has a level, and less experience than it needs. -/
structure Settled (p : Progress) : Prop where
  level : p.player.level ≠ 0
  xp : p.player.xp < xpThreshold p.player.level

/-- There is always room for nothing. -/
theorem Settled.fits_nil (h : p.Settled) : Fits [] p := by
  intro g bound hbound
  rw [Gauge.total_nil, Nat.add_zero]
  cases g with
  | coins =>
    cases hbound
    exact p.player.coins.toNat_lt
  | experience =>
    cases hbound
    have hpos : p.player.level.toNat ≠ 0 := fun h0 => h.level (UInt32.toNat_inj.1 h0)
    have hbelow := UInt64.lt_iff_toNat_lt.1 h.xp
    rw [toNat_xpThreshold] at hbelow
    calc p.player.experience
        < Player.earned p.player.level.toNat + (50 + (p.player.level.toNat - 1) * 25) :=
          Nat.add_lt_add_left hbelow _
      _ = Player.earned (p.player.level.toNat + 1) := (Player.earned_succ hpos).symm
      _ ≤ Player.earned UInt32.size := Player.earned_le_earned p.player.level.toNat_lt
  | skill k => cases hbound
  | zone z =>
    cases hbound
    exact (p.completedByZone.get z).toNat_lt

/-- `p'` is `p` with these quests completed: what they gave has been added, and nothing has become
less. -/
structure Adds (cs : List Completed) (p p' : Progress) : Prop where
  counts : ∀ g : Gauge, g.bound?.isSome = true → g.reading p' = g.reading p + g.total cs
  level : p.player.level ≤ p'.player.level
  skills : ∀ k, (p.player.skills.get k).toNat ≤ (p'.player.skills.get k).toNat
  settled : p'.Settled

theorem Adds.refl (h : p.Settled) : Adds [] p p :=
  ⟨fun _ _ => rfl, UInt32.le_refl _, fun _ => Nat.le_refl _, h⟩

theorem Adds.trans (h : Adds cs p p') (h' : Adds cs' p' p'') : Adds (cs ++ cs') p p'' where
  counts g hg := by rw [h'.counts g hg, h.counts g hg, Gauge.total_append, Nat.add_assoc]
  level := UInt32.le_trans h.level h'.level
  skills k := (h.skills k).trans (h'.skills k)
  settled := h'.settled

/-- What is added later fits exactly if all together does. -/
theorem Adds.fits_append_iff (h : Adds cs p p') : Fits (cs ++ cs') p ↔ Fits cs' p' := by
  refine forall_congr' fun g => forall₂_congr fun bound hbound => ?_
  rw [h.counts g (Option.isSome_of_mem hbound), Gauge.total_append, Nat.add_assoc]

/-- All together fits exactly if one after the other does. -/
theorem fits_append_iff (h : Fits cs p → Adds cs p p') :
    Fits (cs ++ cs') p ↔ Fits cs p ∧ Fits cs' p' :=
  ⟨fun hall => ⟨hall.of_append, (h hall.of_append).fits_append_iff.1 hall⟩,
    fun hboth => (h hboth.1).fits_append_iff.2 hboth.2⟩

/-! ## Judging one quest -/

theorem completedByZone_markComplete {quest : String} (h : p.isComplete quest = false) (zone : Zone)
    (time : Instant) : (p.markComplete quest zone time).2.completedByZone =
      p.completedByZone.set zone (p.completedByZone.get zone + 1) := by
  unfold markComplete
  rw [h]
  rfl

theorem gain_reward (p : Progress) (r : Reward) :
    (p.reward r).1.xp = boosted r.xp p.upgrades.xpBoost ∧
      (p.reward r).1.coins = boosted r.coins p.upgrades.coinBoost := Player.gain_receive ..

/-- A quest gives so little that its experience can be worked with, whatever the boost. -/
def Modest (q : Quest) : Prop := ∀ boost, (boosted q.reward.xp boost).toNat < 2 ^ 32

/-- The words have room for what a quest gives exactly if they have room for its reward and for one
quest more. -/
theorem fits_singleton_iff (hp : p.Settled) {q : Quest} (hq : Modest q) :
    Fits [⟨q, (p.reward q.reward).1⟩] p ↔
      p.player.Takes (boosted q.reward.xp p.upgrades.xpBoost)
          (boosted q.reward.coins p.upgrades.coinBoost) q.reward.skill ∧
        (p.completedByZone.get q.zone).toNat + 1 < UInt32.size := by
  obtain ⟨hxp, hcoins⟩ := gain_reward p q.reward
  constructor
  · intro h
    have hbelow := UInt64.lt_iff_toNat_lt.1 hp.xp
    have hlevel := p.player.level.toNat_lt
    rw [toNat_xpThreshold] at hbelow
    have hlittle := hq p.upgrades.xpBoost
    have hpurse := h .coins _ rfl
    have hlevels := h .experience _ rfl
    have hzone := h (.zone q.zone) _ rfl
    rw [Gauge.total_singleton, Gauge.rise, hcoins] at hpurse
    rw [Gauge.total_singleton, Gauge.rise, hxp] at hlevels
    rw [Gauge.total_singleton, Gauge.rise, if_pos rfl] at hzone
    have hsize : UInt64.size = 18446744073709551616 := rfl
    exact ⟨⟨by omega, hpurse, fun _ => by omega, hlevels⟩, hzone⟩
  · rintro ⟨⟨-, hpurse, -, hlevels⟩, hzone⟩ g bound hbound
    rw [Gauge.total_singleton]
    cases g with
    | coins =>
      cases hbound
      rw [Gauge.rise, hcoins]
      exact hpurse
    | experience =>
      cases hbound
      rw [Gauge.rise, hxp]
      exact hlevels
    | skill k => cases hbound
    | zone z =>
      cases hbound
      rw [Gauge.rise]
      dsimp only
      by_cases hz : q.zone = z
      · rw [if_pos hz, ← hz]
        exact hzone
      · rw [if_neg hz]
        exact (p.completedByZone.get z).toNat_lt

theorem judge?_of_ready (hp : p.Settled) {q : Quest} (h : p.Ready threshold fs q) :
    p.judge? threshold fs now q =
      if p.player.Takes (boosted q.reward.xp p.upgrades.xpBoost)
            (boosted q.reward.coins p.upgrades.coinBoost) q.reward.skill ∧
          (p.completedByZone.get q.zone).toNat + 1 < UInt32.size then
        some (p.judge threshold fs now q)
      else none := by
  have hjudge : p.judge threshold fs now q = (some ⟨q, (p.reward q.reward).1⟩,
      ((p.reward q.reward).2.markComplete q.id q.zone now).2) :=
    Prod.ext (judge_fst_of_ready h) (judge_of_ready h)
  obtain ⟨hdone, hopen, hholds⟩ := h
  have hmark : (p.reward q.reward).2.markComplete? q.id q.zone now =
      if (p.completedByZone.get q.zone).toNat + 1 < UInt32.size then
        some ((p.reward q.reward).2.markComplete q.id q.zone now)
      else none := markComplete?_eq (p := (p.reward q.reward).2) hdone q.zone now
  rw [hjudge, judge?, if_neg (by simp [hdone, hopen, hholds]), reward?_eq hp.level]
  refine bind_checked fun _ => ?_
  dsimp only
  rw [hmark]
  split <;> rfl

theorem judge?_of_not_ready {q : Quest} (h : ¬ p.Ready threshold fs q) :
    p.judge? threshold fs now q = some (none, p) := by
  unfold judge?
  split
  · rfl
  · rename_i hc
    simp only [Bool.or_eq_true, Bool.not_eq_true', not_or, Bool.not_eq_true, Bool.not_eq_false] at hc
    exact absurd ⟨hc.1.1, hc.1.2, hc.2⟩ h

/-- Judging a quest stops exactly if it is completed and the words have no room for what it gives. -/
theorem judge?_eq (hp : p.Settled) {q : Quest} (hq : Modest q) :
    p.judge? threshold fs now q =
      if Fits (p.judge threshold fs now q).1.toList p then some (p.judge threshold fs now q)
      else none := by
  by_cases hready : p.Ready threshold fs q
  · rw [judge?_of_ready hp hready]
    refine if_congr ?_ rfl rfl
    rw [judge_fst_of_ready hready]
    exact (fits_singleton_iff hp hq).symm
  · rw [judge_of_not_ready hready, judge?_of_not_ready hready]
    exact (if_pos hp.fits_nil).symm

theorem adds_complete (hp : p.Settled) {q : Quest} (hq : Modest q)
    (hnot : p.isComplete q.id = false) (h : Fits [⟨q, (p.reward q.reward).1⟩] p) :
    Adds [⟨q, (p.reward q.reward).1⟩] p
      ((p.reward q.reward).2.markComplete q.id q.zone now).2 := by
  obtain ⟨htakes, hzone⟩ := (fits_singleton_iff hp hq).1 h
  obtain ⟨hxp, hcoins⟩ := gain_reward p q.reward
  obtain ⟨hpurse, hlevels, hup⟩ := Player.receive_of_takes hp.level htakes
  have hplayer : ((p.reward q.reward).2.markComplete q.id q.zone now).2.player = _ :=
    player_markComplete (p.reward q.reward).2 q.id q.zone now
  have hcounts := completedByZone_markComplete (p := (p.reward q.reward).2) hnot q.zone now
  refine ⟨fun g hg => ?_, ?_, fun k => ?_, ⟨?_, ?_⟩⟩
  · rw [Gauge.total_singleton]
    cases g with
    | coins =>
      rw [Gauge.rise, hcoins, Gauge.reading, hplayer]
      exact hpurse
    | experience =>
      rw [Gauge.rise, hxp, Gauge.reading, hplayer]
      exact hlevels
    | skill k => cases hg
    | zone z =>
      rw [Gauge.rise, Gauge.reading, hcounts]
      dsimp only
      by_cases hz : q.zone = z
      · subst hz
        rw [if_pos rfl, ZoneCounts.get_set_self, UInt32.toNat_add]
        exact Nat.mod_eq_of_lt hzone
      · rw [if_neg hz, ZoneCounts.get_set_of_ne _ (Ne.symm hz)]
        rfl
  · rw [hplayer]
    exact hup
  · rw [hplayer]
    exact Player.le_skills_receive ..
  · rw [hplayer]
    intro hzero
    have hlevel : (p.player.receive _ _ _).2.level = 0 := hzero
    rw [hlevel, UInt32.le_iff_toNat_le] at hup
    exact hp.level (UInt32.toNat_inj.1 (Nat.le_zero.1 hup))
  · rw [hplayer]
    exact Player.receive_lt ..

theorem adds_judge (hp : p.Settled) {q : Quest} (hq : Modest q)
    (h : Fits (p.judge threshold fs now q).1.toList p) :
    Adds (p.judge threshold fs now q).1.toList p (p.judge threshold fs now q).2 := by
  by_cases hready : p.Ready threshold fs q
  · rw [judge_fst_of_ready hready] at h ⊢
    rw [judge_of_ready hready]
    exact adds_complete hp hq hready.1 h
  · rw [judge_of_not_ready hready]
    exact .refl hp

/-! ## A pass -/

/-- A pass stops exactly if the words have no room for all that its quests give: no part of a sum
is larger than the sum. -/
theorem judgeAll?_eq {qs : List Quest} (hqs : ∀ q ∈ qs, Modest q) : ∀ {p : Progress}, p.Settled →
    p.judgeAll? threshold fs now qs =
      if Fits (p.judgeAll threshold fs now qs).1 p then some (p.judgeAll threshold fs now qs)
      else none := by
  induction qs with
  | nil => exact fun hp => (if_pos hp.fits_nil).symm
  | cons q r ih =>
    intro p hp
    have hq := hqs q List.mem_cons_self
    have hadds : Fits (p.judge threshold fs now q).1.toList p →
        Adds (p.judge threshold fs now q).1.toList p (p.judge threshold fs now q).2 :=
      adds_judge hp hq
    rw [judgeAll?, judge?_eq hp hq, judgeAll_cons]
    simp only [fits_append_iff hadds]
    refine bind_checked fun hfirst => ?_
    rw [ih (fun s hs => hqs s (List.mem_cons_of_mem _ hs)) (hadds hfirst).settled]
    split <;> rfl

theorem adds_judgeAll {qs : List Quest} (hqs : ∀ q ∈ qs, Modest q) : ∀ {p : Progress},
    p.Settled → Fits (p.judgeAll threshold fs now qs).1 p →
      Adds (p.judgeAll threshold fs now qs).1 p (p.judgeAll threshold fs now qs).2 := by
  induction qs with
  | nil => exact fun hp _ => .refl hp
  | cons q r ih =>
    intro p hp h
    have hq := hqs q List.mem_cons_self
    rw [judgeAll_cons] at h ⊢
    have hadds : Adds _ p (p.judge threshold fs now q).2 := adds_judge hp hq h.of_append
    exact hadds.trans (ih (fun s hs => hqs s (List.mem_cons_of_mem _ hs)) hadds.settled
      (hadds.fits_append_iff.1 h))

theorem modest_of_mem_catalog {q : Quest} (hq : q ∈ Quest.catalog) : Modest q := by
  have hsmall : ∀ q ∈ Quest.catalog, q.reward.xp.toNat < 2 ^ 31 := by decide
  intro boost
  have hxp := hsmall q hq
  have htwice : (boosted q.reward.xp boost).toNat ≤ 2 * q.reward.xp.toNat :=
    boosted_le_two_mul (by omega) boost
  omega

section

variable (threshold : UInt32) (fs : FileSystem) (now : Instant)

theorem evaluate?_eq (hp : p.Settled) :
    p.evaluate? threshold fs now =
      if Fits (p.evaluate threshold fs now).1.completed p then some (p.evaluate threshold fs now)
      else none := by
  have hall : p.judgeAll? threshold fs now Quest.catalog = _ :=
    judgeAll?_eq (fun q hq => modest_of_mem_catalog hq) hp
  unfold evaluate? evaluate
  rw [hall]
  dsimp only
  split <;> rfl

theorem adds_evaluate (hp : p.Settled) (h : Fits (p.evaluate threshold fs now).1.completed p) :
    Adds (p.evaluate threshold fs now).1.completed p (p.evaluate threshold fs now).2 := by
  rw [evaluate_eq] at h ⊢
  dsimp only at h ⊢
  exact adds_judgeAll (fun q hq => modest_of_mem_catalog hq) hp h

end

/-! ## What is left after a pass -/

theorem settled_of_loadText {clock : Instant} {text : String}
    (h : loadText clock text = .loaded p) : p.Settled := by
  have hload : (Source.text text).load clock = .loaded p := h
  obtain ⟨raw, -, hroom, rfl⟩ := Source.exists_of_load_eq_loaded hload
  have hsettles := settles_repair hroom
  refine ⟨fun hzero => ?_, hsettles.xp⟩
  have hlevel := hsettles.level
  rw [hzero] at hlevel
  exact absurd hlevel (by decide)

/-- A pass over a loaded game, with any log, goes through and takes nothing away exactly if the
words have room for what the completed quests give; if not, it stops. -/
theorem evaluate?_keeps_iff {clock : Instant} {text : String} {log : List LogEntry} {e : Evaluation}
    (hload : loadText clock text = .loaded p)
    (heval : ({ p with log := log } : Progress).evaluate threshold fs now = (e, p')) :
    (({ p with log := log } : Progress).evaluate? threshold fs now = some (e, p') ∧
          p.player.coins ≤ p'.player.coins ∧ p.player.level ≤ p'.player.level ∧
          (∀ k, p.player.skills.get k ≤ p'.player.skills.get k) ∧
          (∀ z, p.completedByZone.get z ≤ p'.completedByZone.get z) ↔
        Fits e.completed p) ∧
      (¬ Fits e.completed p →
        ({ p with log := log } : Progress).evaluate? threshold fs now = none) := by
  have hloaded : p.Settled := settled_of_loadText hload
  have hsettled : ({ p with log := log } : Progress).Settled := ⟨hloaded.level, hloaded.xp⟩
  have hwatch := evaluate?_eq threshold fs now hsettled
  have hadds := adds_evaluate threshold fs now hsettled
  rw [heval] at hwatch hadds
  -- From here on the pass is only known by what it gave; the log has no part in what fits.
  have hfits : Fits e.completed { p with log := log } ↔ Fits e.completed p := Iff.rfl
  rw [hwatch]
  by_cases hroom : Fits e.completed p
  · obtain ⟨hcounts, hlevel, hskills, -⟩ := hadds (hfits.2 hroom)
    have hcoins := hcounts .coins rfl
    have hzones := fun z => hcounts (.zone z) rfl
    rw [if_pos (hfits.2 hroom)]
    refine ⟨iff_of_true ⟨rfl, ?_, hlevel, fun k => ?_, fun z => ?_⟩ hroom, absurd hroom⟩
    · rw [UInt64.le_iff_toNat_le]
      exact Nat.le.intro hcoins.symm
    · rw [UInt32.le_iff_toNat_le]
      exact hskills k
    · rw [UInt32.le_iff_toNat_le]
      exact Nat.le.intro (hzones z).symm
  · rw [if_neg fun h => hroom (hfits.1 h)]
    exact ⟨iff_of_false (fun h => by cases h.1) hroom, fun _ => rfl⟩

/-- A new game with all the coins that a word can count. -/
def fullPurse : Progress :=
  { fresh ⟨0, 0⟩ with player := { Player.initial with coins := 18446744073709551615 } }

/-- After help was asked for a pass over that game stops: the purse has no room for five coins. -/
theorem evaluate?_fullPurse :
    loadText ⟨0, 0⟩ "\x7b\"player\":\x7b\"coins\":18446744073709551615\x7d\x7d" =
        .loaded fullPurse ∧
      ({ fullPurse with log := [⟨"help", "", ⟨0, 0⟩⟩] } : Progress).evaluate? 6 .starter ⟨1, 0⟩ =
        none := by
  have hload : loadText ⟨0, 0⟩ "\x7b\"player\":\x7b\"coins\":18446744073709551615\x7d\x7d" =
      .loaded fullPurse := by decide +kernel
  have hfull : ¬ Fits (({ fullPurse with log := [⟨"help", "", ⟨0, 0⟩⟩] } : Progress).evaluate 6
      .starter ⟨1, 0⟩).1.completed fullPurse := by
    decide +kernel
  exact ⟨hload, (evaluate?_keeps_iff hload (Prod.eta _).symm).2 hfull⟩

end Progress

end Questline
