import Mathlib.Algebra.GroupWithZero.Nat
import Questline.Proofs.Progress.Experience
set_option autoImplicit false

/-!
# The ledger of a game

A ledger lists what was told to the player: the quests that were announced as completed, the
reports of coins earned while away, and the upgrades that were bought.  A game balances with
such a list if its coins, its experience and its skills are what the list adds up to.  Every
operation on a game keeps it in balance with the list to which its own entries are added.
-/

namespace Questline

open Time (Instant)

/-- What has been told to a player. -/
structure Ledger where
  announced : List Completed
  reports : List AwayReport
  bought : List Upgrade

namespace Ledger

/-- Nothing has been told. -/
def empty : Ledger := ⟨[], [], []⟩

/-- One list after the other. -/
def append (l l' : Ledger) : Ledger :=
  ⟨l.announced ++ l'.announced, l.reports ++ l'.reports, l.bought ++ l'.bought⟩

instance : Append Ledger := ⟨append⟩

/-- All experience that quests have given. -/
def xp (l : Ledger) : Nat := (l.announced.map fun c => c.gain.xp.toNat).sum

/-- All coins that quests and reports have given. -/
def income (l : Ledger) : Nat :=
  (l.announced.map fun c => c.gain.coins.toNat).sum + (l.reports.map fun r => r.coins.toNat).sum

/-- All coins that upgrades have cost. -/
def spent (l : Ledger) : Nat := (l.bought.map fun u => u.cost.toNat).sum

/-- The coins that should be left. -/
def balance (l : Ledger) : Int := l.income - l.spent

/-- What the quests for a skill have given of it. -/
def skill (l : Ledger) (k : Skill) : Nat :=
  ((l.announced.filter fun c => c.quest.reward.skill = some k).map fun c => c.gain.skill.toNat).sum

/-- The names of the quests that were announced. -/
def quests (l : Ledger) : List String := l.announced.map fun c => c.quest.id

@[simp] theorem append_empty (l : Ledger) : l ++ empty = l := by
  change append l empty = l
  simp [append, empty]

@[simp] theorem empty_append (l : Ledger) : empty ++ l = l := by
  change append empty l = l
  simp [append, empty]

@[simp] theorem announced_append (l l' : Ledger) :
    (l ++ l').announced = l.announced ++ l'.announced := rfl

@[simp] theorem reports_append (l l' : Ledger) : (l ++ l').reports = l.reports ++ l'.reports := rfl

@[simp] theorem bought_append (l l' : Ledger) : (l ++ l').bought = l.bought ++ l'.bought := rfl

@[simp] theorem xp_append (l l' : Ledger) : (l ++ l').xp = l.xp + l'.xp := by
  simp [xp]

@[simp] theorem income_append (l l' : Ledger) : (l ++ l').income = l.income + l'.income := by
  simp [income]
  omega

@[simp] theorem spent_append (l l' : Ledger) : (l ++ l').spent = l.spent + l'.spent := by
  simp [spent]

@[simp] theorem skill_append (l l' : Ledger) (k : Skill) :
    (l ++ l').skill k = l.skill k + l'.skill k := by
  simp [skill]

@[simp] theorem quests_append (l l' : Ledger) : (l ++ l').quests = l.quests ++ l'.quests := by
  simp [quests]

theorem append_assoc (l l' l'' : Ledger) : l ++ l' ++ l'' = l ++ (l' ++ l'') := by
  change append (append l l') l'' = append l (append l' l'')
  simp [append]

theorem skill_announced (c : Completed) (k : Skill) :
    skill ⟨[c], [], []⟩ k = if c.quest.reward.skill = some k then c.gain.skill.toNat else 0 := by
  by_cases hk : c.quest.reward.skill = some k <;> simp [skill, hk]

end Ledger

/-! ## Players -/

namespace Player

variable {l : Ledger} {p : Player}

/-- Words add up but for the laps that they run over. -/
theorem exists_laps (a b : UInt64) :
    ∃ laps, (a + b).toNat + 0x10000000000000000 * laps = a.toNat + b.toNat :=
  ⟨(a.toNat + b.toNat) / 0x10000000000000000, by rw [UInt64.toNat_add]; exact Nat.mod_add_div _ _⟩

/-- What the player has is what the ledger adds up to; coins are lost only by the word in which
they are counted running over. -/
structure Accounts (l : Ledger) (p : Player) : Prop where
  coins : ∃ laps, p.coins.toNat + l.spent + 0x10000000000000000 * laps = l.income
  xp : p.experience = l.xp
  skills : ∀ k, (p.skills.get k).toNat = l.skill k
  trained : ∀ k, l.skill k ≤ l.xp

theorem accounts_initial : initial.Accounts .empty where
  coins := ⟨0, rfl⟩
  xp := by decide
  skills k := by cases k <;> rfl
  trained _ := Nat.le_refl _

/-- As long as the balance fits into a word, the coins are the balance. -/
theorem Accounts.coins_eq_balance (h : p.Accounts l) (hfits : l.balance < 0x10000000000000000) :
    (p.coins.toNat : Int) = l.balance := by
  obtain ⟨laps, hlaps⟩ := h.coins
  unfold Ledger.balance at hfits ⊢
  omega

/-- Where no quest is announced, only the coins have to be accounted for anew. -/
theorem Accounts.of_coins (h : p.Accounts l) {l' : Ledger} (hannounced : l'.announced = l.announced)
    {coins : UInt64}
    (hcoins : ∃ laps, coins.toNat + l'.spent + 0x10000000000000000 * laps = l'.income) :
    { p with coins := coins }.Accounts l' := by
  have hxp : l'.xp = l.xp := by rw [Ledger.xp, hannounced, Ledger.xp]
  have hskill : ∀ k, l'.skill k = l.skill k := fun k => by
    rw [Ledger.skill, hannounced, Ledger.skill]
  refine ⟨hcoins, ?_, fun k => ?_, fun k => ?_⟩
  · rw [hxp]
    exact h.xp
  · rw [hskill]
    exact h.skills k
  · rw [hskill, hxp]
    exact h.trained k

/-- A reward is accounted for by what it says that it gives. -/
theorem Accounts.receive (h : p.Accounts l) (hlevel : p.level ≠ 0) (hfew : l.xp < 0x40000000)
    {xp : UInt64} (hxp : xp.toNat ≤ 100) (coins : UInt64) (q : Quest) :
    (p.receive xp coins q.reward.skill).2.Accounts
      (l ++ ⟨[⟨q, (p.receive xp coins q.reward.skill).1⟩], [], []⟩) := by
  have hbefore := h.xp
  have htrain := skillGain_le hxp
  obtain ⟨hgainxp, hgaincoins⟩ := gain_receive p xp coins q.reward.skill
  have hgainskill := skill_receive_le p xp coins q.reward.skill
  have hskills := skills_receive p xp coins q.reward.skill fun k _ => by
    have hk := h.skills k
    have hle := h.trained k
    omega
  obtain ⟨hexperience, -⟩ := experience_receive coins q.reward.skill hlevel
    (show p.experience + xp.toNat < 0x10000000000000000 by omega)
  have hpurse := coins_receive p xp coins q.reward.skill
  generalize p.receive xp coins q.reward.skill = received at *
  obtain ⟨gain, p'⟩ := received
  dsimp only at *
  have hentry : Ledger.xp ⟨[⟨q, gain⟩], [], []⟩ = xp.toNat := by simp [Ledger.xp, hgainxp]
  refine ⟨?_, ?_, fun k => ?_, fun k => ?_⟩
  · obtain ⟨laps, hlaps⟩ := h.coins
    obtain ⟨more, hmore⟩ := exists_laps p.coins coins
    have hspent : Ledger.spent ⟨[⟨q, gain⟩], [], []⟩ = 0 := rfl
    have hincome : Ledger.income ⟨[⟨q, gain⟩], [], []⟩ = coins.toNat := by
      simp [Ledger.income, hgaincoins]
    refine ⟨laps + more, ?_⟩
    rw [hpurse, Ledger.spent_append, Ledger.income_append, hspent, hincome]
    omega
  · rw [hexperience, hbefore, Ledger.xp_append, hentry]
  · rw [hskills, h.skills, Ledger.skill_append, Ledger.skill_announced]
  · have hle := h.trained k
    rw [Ledger.skill_append, Ledger.xp_append, hentry, Ledger.skill_announced]
    dsimp only
    split <;> omega

end Player

/-! ## Games -/

namespace Progress

variable {l : Ledger} {p p' : Progress} {now : Instant}

/-- The game balances with the ledger: the player does, and the quests that were announced are
complete and were announced once, each with what a quest can give at most. -/
structure Balances (l : Ledger) (p : Progress) : Prop where
  accounts : p.player.Accounts l
  distinct : l.quests.Nodup
  done : ∀ id ∈ l.quests, p.isComplete id = true
  ample : l.xp + 100 * p.pendingQuests ≤ 100 * Quest.catalog.length

theorem Balances.fresh (now : Instant) : Balances .empty (Progress.fresh now) where
  accounts := Player.accounts_initial
  distinct := List.nodup_nil
  done := nofun
  ample := by
    have hle := (Progress.fresh now).pendingQuests_le
    change 0 + 100 * _ ≤ _
    omega

/-- Where no quest is completed, only the coins have to balance anew. -/
theorem Balances.of_coins (h : Balances l p) {l' : Ledger} (hannounced : l'.announced = l.announced)
    (hplayer : p'.player = { p.player with coins := p'.player.coins })
    (hquests : p'.quests = p.quests)
    (hcoins : ∃ laps, p'.player.coins.toNat + l'.spent + 0x10000000000000000 * laps = l'.income) :
    Balances l' p' := by
  have hcomplete : ∀ id, p'.isComplete id = p.isComplete id := by
    intro id
    unfold isComplete
    rw [hquests]
  have hpending : p'.pendingQuests = p.pendingQuests := by
    unfold pendingQuests
    simp only [hcomplete]
  have hlisted : l'.quests = l.quests := by rw [Ledger.quests, hannounced, Ledger.quests]
  have hxp : l'.xp = l.xp := by rw [Ledger.xp, hannounced, Ledger.xp]
  refine ⟨?_, ?_, fun id hid => ?_, ?_⟩
  · rw [hplayer]
    exact h.accounts.of_coins hannounced hcoins
  · rw [hlisted]
    exact h.distinct
  · rw [hcomplete]
    exact h.done id (hlisted ▸ hid)
  · rw [hxp, hpending]
    exact h.ample

/-- What is neither of the player nor of the quests does not matter. -/
theorem Balances.of_eq (h : Balances l p) (hplayer : p'.player = p.player)
    (hquests : p'.quests = p.quests) : Balances l p' :=
  h.of_coins rfl (by rw [hplayer]) hquests (by rw [hplayer]; exact h.accounts.coins)

theorem Balances.logCommand (h : Balances l p) (command output : String) (time : Instant) :
    Balances l (p.logCommand command output time) := by
  -- The log is left open, for comparing it would unfold it.
  have hlog : ∀ log : List LogEntry, Balances l { p with log := log } := fun _ => h.of_eq rfl rfl
  unfold Progress.logCommand
  exact hlog _

/-- A purchase is paid for. -/
theorem Balances.purchase (h : Balances l p) {id : String} {u : Upgrade}
    (hp : p.purchase id = .ok (u, p')) :
    Upgrade.ofId? id = some u ∧ Balances (l ++ ⟨[], [], [u]⟩) p' := by
  unfold Progress.purchase at hp
  split at hp
  · cases hp
  · rename_i v hv
    split at hp
    · cases hp
    · rename_i hcost
      cases hp
      have hle : u.cost ≤ p.player.coins := UInt64.not_lt.1 hcost
      have hcoins : (p.player.coins - u.cost).toNat = p.player.coins.toNat - u.cost.toNat :=
        UInt64.toNat_sub_of_le _ _ hle
      have hnat := UInt64.le_iff_toNat_le.1 hle
      obtain ⟨laps, hlaps⟩ := h.accounts.coins
      have hspent : Ledger.spent ⟨[], [], [u]⟩ = u.cost.toNat := by simp [Ledger.spent]
      have hincome : Ledger.income ⟨[], [], [u]⟩ = 0 := rfl
      refine ⟨hv, h.of_coins (by simp) rfl rfl ⟨laps, ?_⟩⟩
      rw [Ledger.spent_append, Ledger.income_append, hspent, hincome]
      dsimp only
      omega

/-- Coins for the time away are reported. -/
theorem Balances.accrueOffline (h : Balances l p) (now : Instant) (rate : UInt32) :
    Balances (l ++ ⟨[], (p.accrueOffline now rate).1.toList, []⟩) (p.accrueOffline now rate).2 := by
  unfold Progress.accrueOffline
  extract_lets away cap coins p'
  split
  · exact (Ledger.append_empty l).symm ▸ h.of_eq rfl rfl
  · obtain ⟨laps, hlaps⟩ := h.accounts.coins
    obtain ⟨more, hmore⟩ := Player.exists_laps p.player.coins coins
    have hspent : Ledger.spent ⟨[], [⟨away, coins⟩], []⟩ = 0 := rfl
    have hincome : Ledger.income ⟨[], [⟨away, coins⟩], []⟩ = coins.toNat := by simp [Ledger.income]
    refine h.of_coins (by simp) rfl rfl ⟨laps + more, ?_⟩
    change (p.player.coins + coins).toNat +
      (l ++ ⟨[], [⟨away, coins⟩], []⟩ : Ledger).spent + _ = (l ++ ⟨[], [⟨away, coins⟩], []⟩).income
    rw [Ledger.spent_append, Ledger.income_append, hspent, hincome]
    omega

/-! ## Quests -/

theorem player_markComplete (p : Progress) (quest : String) (zone : Zone) (time : Instant) :
    (p.markComplete quest zone time).2.player = p.player := by
  unfold markComplete
  split <;> rfl

/-- A quest that is completed is announced with what it gives. -/
theorem Balances.complete (h : Balances l p) (hp : p.InPlay) {q : Quest} (hq : q ∈ Quest.catalog)
    (hnot : p.isComplete q.id = false) (time : Instant) :
    Balances (l ++ ⟨[⟨q, (p.reward q.reward).1⟩], [], []⟩)
      ((p.reward q.reward).2.markComplete q.id q.zone time).2 := by
  have hlength : Quest.catalog.length ≤ 100 := by decide
  have hxp := boosted_le hq hp.xpBoost
  have hfewer : ((p.reward q.reward).2.markComplete q.id q.zone time).2.pendingQuests <
      p.pendingQuests := pendingQuests_markComplete (p := (p.reward q.reward).2) hq hnot _ _
  have hample := h.ample
  have haccounts := h.accounts.receive hp.player.level (by omega) hxp
    (boosted q.reward.coins p.upgrades.coinBoost) q
  refine ⟨?_, ?_, fun id hid => ?_, ?_⟩
  · rw [player_markComplete]
    exact haccounts
  · rw [Ledger.quests_append]
    refine List.nodup_append.2 ⟨h.distinct, by simp [Ledger.quests], fun id hid id' hid' heq => ?_⟩
    rw [heq, List.mem_singleton.1 hid'] at hid
    exact absurd (hnot.symm.trans (h.done _ hid)) (by decide)
  · rw [isComplete_markComplete, isComplete_reward]
    rw [Ledger.quests_append] at hid
    rcases List.mem_append.1 hid with hid | hid
    · rw [h.done id hid, Bool.or_true]
    · rw [List.mem_singleton.1 hid, decide_eq_true rfl, Bool.true_or]
  · have hentry : Ledger.xp ⟨[⟨q, (p.reward q.reward).1⟩], [], []⟩ =
        (boosted q.reward.xp p.upgrades.xpBoost).toNat := by
      simp only [Ledger.xp, List.map_cons, List.map_nil, List.sum_cons, List.sum_nil, Nat.add_zero]
      exact congrArg UInt64.toNat (Player.gain_receive ..).1
    rw [Ledger.xp_append, hentry]
    omega

theorem judge_fst_of_ready {threshold : UInt32} {fs : FileSystem} {q : Quest}
    (h : p.Ready threshold fs q) :
    (p.judge threshold fs now q).1 = some ⟨q, (p.reward q.reward).1⟩ := by
  obtain ⟨hdone, hopen, hholds⟩ := h
  simp [judge, hdone, hopen, hholds]

/-- A quest that is judged is announced if it is completed. -/
theorem Balances.judge (h : Balances l p) (hp : p.InPlay) {threshold : UInt32} {fs : FileSystem}
    {q : Quest} (hq : q ∈ Quest.catalog) :
    Balances (l ++ ⟨(p.judge threshold fs now q).1.toList, [], []⟩)
      (p.judge threshold fs now q).2 := by
  by_cases hready : p.Ready threshold fs q
  · rw [judge_fst_of_ready hready, judge_of_ready hready]
    exact h.complete hp hq hready.1 now
  · rw [judge_of_not_ready hready]
    exact (Ledger.append_empty l).symm ▸ h

/-- A pass announces what it completes. -/
theorem Balances.judgeAll {threshold : UInt32} {fs : FileSystem} (hnow : now.Valid)
    {qs : List Quest} (hqs : ∀ q ∈ qs, q ∈ Quest.catalog) :
    ∀ {l : Ledger} {p : Progress}, Balances l p → p.InPlay →
      Balances (l ++ ⟨(p.judgeAll threshold fs now qs).1, [], []⟩)
        (p.judgeAll threshold fs now qs).2 := by
  induction qs with
  | nil =>
    intro l p h _
    exact (Ledger.append_empty l).symm ▸ h
  | cons q r ih =>
    intro l p h hp
    have hq := hqs q List.mem_cons_self
    have hjudged : (p.judge threshold fs now q).2.InPlay := hp.judge hnow hq
    have hrest := ih (fun q' hq' => hqs q' (List.mem_cons_of_mem _ hq')) (h.judge hp hq) hjudged
    rw [Ledger.append_assoc] at hrest
    exact hrest

theorem Balances.evaluate (h : Balances l p) (hp : p.InPlay) (threshold : UInt32)
    (fs : FileSystem) (hnow : now.Valid) :
    Balances (l ++ ⟨(p.evaluate threshold fs now).1.completed, [], []⟩)
      (p.evaluate threshold fs now).2 := by
  have hpass : Balances (l ++ ⟨(p.judgeAll threshold fs now Quest.catalog).1, [], []⟩)
      (p.judgeAll threshold fs now Quest.catalog).2 :=
    Balances.judgeAll hnow (fun _ hq => hq) h hp
  unfold Progress.evaluate
  generalize p.judgeAll threshold fs now Quest.catalog = judged at hpass ⊢
  exact hpass

/-! ## Guests -/

/-- A guest's game in play that balances with the ledger. -/
structure Booked (l : Ledger) (p : Progress) : Prop extends p.InPlay, Balances l p where
  guest : p.account = none

theorem Booked.fresh (hnow : now.Valid) : Booked .empty (Progress.fresh now) :=
  ⟨.fresh hnow, .fresh now, rfl⟩

theorem Booked.touch (h : Booked l p) (hnow : now.Valid) : Booked l (p.touch now) :=
  ⟨h.toInPlay.touch hnow, h.toBalances.of_eq rfl rfl, h.guest⟩

theorem Booked.updateStreak (h : Booked l p) (hnow : now.Valid) : Booked l (p.updateStreak now) :=
  ⟨h.toInPlay.updateStreak hnow, h.toBalances.of_eq rfl rfl, h.guest⟩

theorem Booked.logCommand (h : Booked l p) (command output : String) (hnow : now.Valid) :
    Booked l (p.logCommand command output now) :=
  ⟨h.toInPlay.logCommand command output hnow, h.toBalances.logCommand command output now,
    (account_logCommand ..).trans h.guest⟩

theorem Booked.purchase (h : Booked l p) {id : String} {u : Upgrade}
    (hp : p.purchase id = .ok (u, p')) :
    Upgrade.ofId? id = some u ∧ Booked (l ++ ⟨[], [], [u]⟩) p' := by
  obtain ⟨hid, hbalances⟩ := h.toBalances.purchase hp
  exact ⟨hid, h.toInPlay.purchase hp, hbalances, (account_purchase hp).trans h.guest⟩

theorem Booked.accrueOffline (h : Booked l p) (hnow : now.Valid) (rate : UInt32) :
    Booked (l ++ ⟨[], (p.accrueOffline now rate).1.toList, []⟩) (p.accrueOffline now rate).2 := by
  exact ⟨h.toInPlay.accrueOffline hnow rate, h.toBalances.accrueOffline now rate,
    (account_accrueOffline ..).trans h.guest⟩

theorem Booked.evaluate (h : Booked l p) (threshold : UInt32) (fs : FileSystem)
    (hnow : now.Valid) :
    Booked (l ++ ⟨(p.evaluate threshold fs now).1.completed, [], []⟩)
      (p.evaluate threshold fs now).2 :=
  ⟨h.toInPlay.evaluate threshold fs hnow, h.toBalances.evaluate h.toInPlay threshold fs hnow,
    (account_evaluate ..).trans h.guest⟩

end Progress

end Questline
