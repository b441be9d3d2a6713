import Questline.Quest.Evaluation
import Questline.Shell.Card
import Questline.Shell.Command
import Questline.Shell.Outcome
set_option autoImplicit false

/-!
# Shell: what the game tells about itself

Help, the next step, the list of quests, the player's numbers and the shop: all
answers that only look at the saved game.
-/

namespace Questline.Report

/-- The command names, under a welcome until a quest is done. -/
def help (p : Progress) : Outcome :=
  let welcome := if p.hasCompletedAny then [] else
    Card.render "Welcome to ShellQuest"
      ["Use `tutorial` for your next move.", "Start with `pwd`, `ls`, then `cat notes.txt`."]
  .success (welcome ++ ["Commands: " ++ ", ".intercalate Command.names])

/-- The next quest. -/
def tutorial (threshold : UInt32) (p : Progress) : Outcome :=
  .success <| match p.nextQuest? threshold with
    | none => Card.render "All quests clear!" ["Awaiting new adventures."]
    | some (zone, quest) => Card.render s!"Next: {quest.title}"
        [s!"Zone: {zone.name}", s!"Goal: {quest.goal}", s!"Try: {quest.firstHint}"]

/-- The quests of a zone, done ones marked, or that the zone is locked. -/
def zoneQuests (threshold : UInt32) (p : Progress) (zone : Zone) : List String :=
  if p.isUnlocked threshold zone then
    s!"{zone.name}:" :: (Quest.catalog.filter fun q => q.zone == zone).map fun q =>
      let mark := if p.isComplete q.id then "✔" else "•"
      s!"  {mark} {q.title}: {q.goal}"
  else [s!"{zone.name} (locked)"]

/-- The quests of all zones. -/
def quests (threshold : UInt32) (p : Progress) : Outcome :=
  .success (Zone.all.flatMap (zoneQuests threshold p))

/-- The player's numbers. -/
def stats (p : Progress) : Outcome :=
  let skills := Skill.all.map fun k => s!"{k.name} {p.player.skills.get k}"
  let need := xpThreshold p.player.level
  .success [s!"Lvl {p.player.level} · XP {p.player.xp}/{need} · Coins {p.player.coins}",
    "Skills: " ++ " · ".intercalate skills, s!"Streak: {p.streak.days} day(s)"]

/-- What can be bought. -/
def shop (p : Progress) : Outcome :=
  let rows := Upgrade.all.map fun u =>
    Text.padEnd 12 u.id ++ " " ++ Text.padStart 3 (toString u.cost) ++ s!"c  {u.name}: {u.description}"
  .success (rows ++ [s!"Coins: {p.player.coins}. Buy with `buy <upgrade-id>`."])

/-- The commands of the log and after them the current line, numbered. -/
def history (line : String) (p : Progress) : Outcome :=
  .success ((p.log.map LogEntry.command ++ [line]).mapIdx fun i c =>
    Text.padStart 3 (toString (i + 1)) ++ "  " ++ c)

/-- All tips. -/
def tips : List String :=
  ["Type `tutorial` anytime to see your next move.",
    "Use `ls` often to stay oriented.",
    "`pwd` tells you exactly where you are.",
    "Try `cd tutorials` to explore starter files.",
    "Most commands are lowercase. Mind the spaces.",
    "Use `cat <file>` to read story snippets.",
    "Create practice files with `touch filename`.",
    "Clear clutter with `clear` to focus.",
    "Unlock new zones by completing quests.",
    "Pipes like `ls | grep txt` filter output."]

/-- The number of tips on a card. -/
def tipsPerCard : Nat := 5

/-- A card with tips from `start` on, beginning again after the last. -/
def tipsFrom (start : Nat) : Outcome :=
  let picked := ((tips ++ tips).drop start).take tipsPerCard
  .success (Card.render "Quick tips" picked)

end Questline.Report
