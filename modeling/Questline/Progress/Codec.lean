import Questline.Account.Codec
import Questline.Progress.Basic
import Questline.Json.Printer
import Questline.Json.Reader
set_option autoImplicit false

/-!
# Progress: the save format

A save is an object, written as a text for a store and as data for a record.
Whatever is missing in what is read takes the value of a new game, so that older
saves and those cut short still load.
-/

namespace Questline

open Time (Instant)

/-! ## Writing -/

namespace SkillLevels

/-- The levels, written; a missing one is left out. -/
def toJson (form : Json.Form) (c : SkillLevels) : Json :=
  form.object (Skill.all.filterMap fun k => (c.get? k).map fun n => (k.id, .nat n.toNat))

end SkillLevels

namespace ZoneCounts

/-- The counts, written; a missing one is left out. -/
def toJson (form : Json.Form) (c : ZoneCounts) : Json :=
  form.object (Zone.all.filterMap fun z => (c.get? z).map fun n => (z.id, .nat n.toNat))

end ZoneCounts

/-- The player, written. -/
def Player.toJson (form : Json.Form) (p : Player) : Json :=
  form.object [("level", .nat p.level.toNat), ("xp", .nat p.xp.toNat),
    ("coins", .nat p.coins.toNat), ("skills", p.skills.toJson form)]

/-- The upgrades, written. -/
def Upgrades.toJson (form : Json.Form) (u : Upgrades) : Json :=
  form.object [("xpBoost", Json.ofFloat u.xpBoost), ("coinBoost", Json.ofFloat u.coinBoost),
    ("offlineCapHours", .nat u.offlineCapHours.toNat),
    ("hintCooldownReduction", .nat u.hintCooldownReduction.toNat)]

/-- The state of a quest, written. -/
def QuestStatus.toJson (form : Json.Form) (s : QuestStatus) : Json :=
  form.object [("completed", .bool s.completed), ("completedAt", Json.ofInstant s.completedAt)]

/-- A log entry, written. -/
def LogEntry.toJson (form : Json.Form) (e : LogEntry) : Json :=
  form.object [("command", .str e.command), ("output", .str e.output),
    ("at", Json.ofInstant e.time)]

/-- The streak, written. -/
def Streak.toJson (form : Json.Form) (s : Streak) : Json :=
  form.object [("lastCheck", Json.ofInstant s.lastCheck), ("days", .nat s.days.toNat)]

/-- The save, written. -/
def Progress.toJson (form : Json.Form) (p : Progress) : Json :=
  form.object [("player", p.player.toJson form),
    ("upgrades", p.upgrades.toJson form),
    ("quests", .obj (p.quests.entries.map fun e => (e.1, e.2.toJson form))),
    ("completedByZone", p.completedByZone.toJson form),
    ("commandLog", .arr (p.log.map (LogEntry.toJson form))),
    ("streak", p.streak.toJson form),
    ("lastActive", Json.ofInstant p.lastActive),
    ("account", Json.ofOption (Account.toJson form) p.account),
    ("updatedAt", Json.ofInstant p.updatedAt)]

/-- The text of a save. -/
def Progress.toText (p : Progress) : String := (p.toJson .text).print

/-! ## Reading -/

/-- The levels that data gives. -/
def SkillLevels.ofJson? : Json → Option SkillLevels
  | .obj fields => fields.foldlM (fun c (e : String × Json) => do
      return c.set (← Skill.ofId? e.1) (← Json.word32? e.2)) .empty
  | _ => none

/-- The counts that data gives. -/
def ZoneCounts.ofJson? : Json → Option ZoneCounts
  | .obj fields => fields.foldlM (fun c (e : String × Json) => do
      return c.set (← Zone.ofId? e.1) (← Json.word32? e.2)) .empty
  | _ => none

/-- The player that data gives. -/
def Player.ofJson? (j : Json) : Option Player := do
  let fs ← Json.Fields.ofJson? ["level", "xp", "coins", "skills"] j
  return {
    level := ← fs.getD "level" Json.word32? Player.initial.level
    xp := ← fs.getD "xp" Json.word64? Player.initial.xp
    coins := ← fs.getD "coins" Json.word64? Player.initial.coins
    skills := ← fs.getD "skills" SkillLevels.ofJson? Player.initial.skills }

/-- The upgrades that data gives. -/
def Upgrades.ofJson? (j : Json) : Option Upgrades := do
  let fs ← Json.Fields.ofJson?
    ["xpBoost", "coinBoost", "offlineCapHours", "hintCooldownReduction"] j
  return {
    xpBoost := ← fs.getD "xpBoost" Json.float? Upgrades.initial.xpBoost
    coinBoost := ← fs.getD "coinBoost" Json.float? Upgrades.initial.coinBoost
    offlineCapHours := ← fs.getD "offlineCapHours" Json.word32? Upgrades.initial.offlineCapHours
    hintCooldownReduction :=
      ← fs.getD "hintCooldownReduction" Json.word32? Upgrades.initial.hintCooldownReduction }

/-- The state of a quest that data gives. -/
def QuestStatus.ofJson? (j : Json) : Option QuestStatus := do
  let fs ← Json.Fields.ofJson? ["completed", "completedAt"] j
  return ⟨← fs.need "completed" Json.bool?, ← fs.need "completedAt" Json.instant?⟩

/-- The log entry that data gives. -/
def LogEntry.ofJson? (j : Json) : Option LogEntry := do
  let fs ← Json.Fields.ofJson? ["command", "output", "at"] j
  return ⟨← fs.need "command" Json.str?, ← fs.need "output" Json.str?,
    ← fs.need "at" Json.instant?⟩

/-- The streak that data gives. -/
def Streak.ofJson? (clock : Instant) (j : Json) : Option Streak := do
  let fs ← Json.Fields.ofJson? ["lastCheck", "days"] j
  return ⟨← fs.getD "lastCheck" Json.instant? clock, ← fs.getD "days" Json.word32? 0⟩

/-- No account for `null`, else the account that the data gives. -/
def Account.ofNullable? (around : Nat) : Json → Option (Option Account)
  | .null => some none
  | j => (Account.ofJson? around j).map some

/-- The save that data inside `around` arrays and objects gives, before any
repair; times that are missing are those of the clock. -/
def Progress.ofJson? (clock : Instant) (around : Nat) (j : Json) : Option Progress := do
  let base := Progress.fresh clock
  let fs ← Json.Fields.ofJson? ["player", "upgrades", "quests", "completedByZone", "commandLog",
    "streak", "lastActive", "account", "updatedAt"] j
  return {
    player := ← fs.getD "player" Player.ofJson? base.player
    upgrades := ← fs.getD "upgrades" Upgrades.ofJson? base.upgrades
    quests := ← fs.getD "quests" (Json.map? QuestStatus.ofJson?) base.quests
    completedByZone := ← fs.getD "completedByZone" ZoneCounts.ofJson? base.completedByZone
    log := ← fs.getD "commandLog" (Json.list? LogEntry.ofJson?) base.log
    streak := ← fs.getD "streak" (Streak.ofJson? clock) base.streak
    lastActive := ← fs.getD "lastActive" Json.instant? base.lastActive
    account := ← fs.getD "account" (Account.ofNullable? (around + 1)) base.account
    updatedAt := ← fs.getD "updatedAt" Json.instant? base.updatedAt }

/-- What comes of loading a game where words are watched. -/
inductive Loading where
  /-- There is no save in what was read. -/
  | refused
  /-- A word was too small for what the repair counts. -/
  | stopped
  | loaded (p : Progress)
  deriving DecidableEq

/-- What comes of a game that was read, or was not, and is to be repaired. -/
def Loading.ofWritten : Option Progress → Loading
  | none => .refused
  | some raw => match raw.repair? with
    | none => .stopped
    | some p => .loaded p

/-- Loads a game from its text where words are watched. -/
def Progress.loadText (clock : Instant) (text : String) : Loading :=
  .ofWritten ((Json.parse? text).bind (Progress.ofJson? clock 0))

/-- The save that a text gives, repaired. -/
def Progress.ofText? (clock : Instant) (text : String) : Option Progress := do
  let j ← Json.parse? text
  return (← Progress.ofJson? clock 0 j).repair

end Questline
