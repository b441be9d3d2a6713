import Questline.Account.Basic
import Questline.Keyed
import Questline.Progress.Player
import Questline.Progress.Shop
import Questline.Time.Instant
set_option autoImplicit false

/-!
# Progress: a player's saved game

Everything about a game that outlives the session: the player, what was bought,
the quests that are done, the latest commands, the daily streak, and whose game
it is.  The number of quests done in each zone is kept beside the quests
themselves and grows with them.
-/

namespace Questline

open Time (Instant Span)

/-- The state of a quest that has been recorded. -/
structure QuestStatus where
  completed : Bool
  completedAt : Instant
  deriving DecidableEq, Repr

/-- A command that was executed, with its output as one text. -/
structure LogEntry where
  command : String
  output : String
  time : Instant
  deriving DecidableEq, Repr

/-- Days in a row on which the game was played. -/
structure Streak where
  lastCheck : Instant
  days : UInt32
  deriving DecidableEq, Inhabited, Repr

/-- A saved game. -/
structure Progress where
  player : Player
  upgrades : Upgrades
  quests : Keyed QuestStatus
  completedByZone : ZoneCounts
  /-- The latest commands, oldest first. -/
  log : List LogEntry
  streak : Streak
  lastActive : Instant
  account : Option Account
  updatedAt : Instant
  deriving DecidableEq, Inhabited

/-- The number of commands that are kept. -/
def logCapacity : Nat := 200

/-- The newest entries of a log, as many as are kept. -/
def newest (log : List LogEntry) : List LogEntry := log.drop (log.length - logCapacity)

theorem length_newest_le (log : List LogEntry) : (newest log).length ≤ logCapacity := by
  simp [newest]; omega

theorem newest_eq_self {log : List LogEntry} (h : log.length ≤ logCapacity) : newest log = log := by
  simp [newest, Nat.sub_eq_zero_of_le h]

namespace Progress

/-- A new guest's game. -/
def fresh (now : Instant) : Progress where
  player := .initial
  upgrades := .initial
  quests := .empty
  completedByZone := .empty
  log := []
  streak := ⟨now, 0⟩
  lastActive := now
  account := none
  updatedAt := now

/-- Enters a command into the log; the oldest entry makes room. -/
def logCommand (p : Progress) (command output : String) (time : Instant) : Progress :=
  { p with log := newest (p.log ++ [⟨command, output, time⟩]) }

/-- The quest is done. -/
def isComplete (p : Progress) (quest : String) : Bool :=
  match p.quests.get? quest with
  | some s => s.completed
  | none => false

/-- Some quest is done. -/
def hasCompletedAny (p : Progress) : Bool := p.quests.entries.any fun e => e.2.completed

/-- Records that a quest is done, unless it was before. -/
def markComplete (p : Progress) (quest : String) (zone : Zone) (time : Instant) : Bool × Progress :=
  if p.isComplete quest then (false, p)
  else
    (true,
      { p with
        completedByZone := p.completedByZone.set zone (p.completedByZone.get zone + 1)
        quests := p.quests.insert quest ⟨true, time⟩ })

/-- The same, if there is room in the zone's count. -/
def markComplete? (p : Progress) (quest : String) (zone : Zone) (time : Instant) :
    Option (Bool × Progress) :=
  if p.isComplete quest then some (false, p)
  else do
    let count ← sum32? (p.completedByZone.get zone) 1
    return (true,
      { p with
        completedByZone := p.completedByZone.set zone count
        quests := p.quests.insert quest ⟨true, time⟩ })

/-- Stamps a change. -/
def touch (p : Progress) (now : Instant) : Progress :=
  { p with updatedAt := now, lastActive := now }

/-- Repairs what a save that was cut short or edited may break: there is no
level zero, experience stays below the level's need, every skill has a level,
and the log keeps to its capacity. -/
def repair (p : Progress) : Progress :=
  let leveled := { p.player with level := max p.player.level 1 }.levelCheck.2
  { p with
    player := { leveled with skills := leveled.skills.filled }
    log := newest p.log }

/-- The same, if every word on the way can hold its result. -/
def repair? (p : Progress) : Option Progress := do
  let (_, leveled) ← { p.player with level := max p.player.level 1 }.levelCheck?
  return { p with
    player := { leveled with skills := leveled.skills.filled }
    log := newest p.log }

/-- Gives a reward, with boosts. -/
def reward (p : Progress) (r : Reward) : Gain × Progress :=
  let xp := boosted r.xp p.upgrades.xpBoost
  let coins := boosted r.coins p.upgrades.coinBoost
  let (gain, player) := p.player.receive xp coins r.skill
  (gain, { p with player := player })

/-- The same, if every word on the way can hold its result. -/
def reward? (p : Progress) (r : Reward) : Option (Gain × Progress) := do
  let xp := boosted r.xp p.upgrades.xpBoost
  let coins := boosted r.coins p.upgrades.coinBoost
  let (gain, player) ← p.player.receive? xp coins r.skill
  return (gain, { p with player := player })

/-- Buys an upgrade. -/
def purchase (p : Progress) (id : String) : Except PurchaseError (Upgrade × Progress) :=
  match Upgrade.ofId? id with
  | none => .error .unknownUpgrade
  | some u =>
    if p.player.coins < u.cost then .error .notEnoughCoins
    else
      .ok (u,
        { p with
          player := { p.player with coins := p.player.coins - u.cost }
          upgrades := u.apply p.upgrades })

/-- The same, if the word of what is bought can hold one step more. -/
def purchase? (p : Progress) (id : String) : Option (Except PurchaseError (Upgrade × Progress)) :=
  match p.purchase id with
  | .error e => some (.error e)
  | .ok (u, bought) => (u.applied? p.upgrades).map fun upgrades =>
    .ok (u, { bought with upgrades := upgrades })

end Progress

end Questline
