import Questline.Quest.Catalog
set_option autoImplicit false

/-!
# Quest: judging and opening zones

A zone is open when enough quests of the zone before it are done.  A pass over
the catalog completes every pending quest of an open zone whose condition holds;
completions count at once, so that the last quest needed to open a zone lets
quests of that zone complete in the same pass.
-/

namespace Questline

open Time (Instant)

/-- A quest that was completed in a pass. -/
structure Completed where
  quest : Quest
  gain : Gain

/-- The completion as it is told. -/
def Completed.message (c : Completed) : String :=
  s!"Quest complete: {c.quest.title}! +{c.gain.xp}xp +{c.gain.coins}c"

/-- What a pass changed. -/
structure Evaluation where
  completed : List Completed
  /-- Zones that were opened. -/
  unlocked : List Zone

namespace Evaluation

/-- Nothing changed. -/
def none : Evaluation := ⟨[], []⟩

/-- Nothing changed. -/
def isEmpty (e : Evaluation) : Bool := e.completed.isEmpty && e.unlocked.isEmpty

/-- The changes as they are told. -/
def lines (e : Evaluation) : List String :=
  e.completed.map Completed.message ++ e.unlocked.map fun z => "Zone unlocked: " ++ z.name

end Evaluation

namespace Progress

/-- The zone is open; `threshold` quests of the zone before it are needed. -/
def isUnlocked (p : Progress) (threshold : UInt32) (zone : Zone) : Bool :=
  match zone.previous? with
  | none => true
  | some z => threshold ≤ p.completedByZone.get z

/-- The open zones in order. -/
def unlockedZones (p : Progress) (threshold : UInt32) : List Zone :=
  Zone.all.filter (p.isUnlocked threshold)

/-- The first pending quest of the first open zone that has one. -/
def nextQuest? (p : Progress) (threshold : UInt32) : Option (Zone × Quest) :=
  (p.unlockedZones threshold).findSome? fun z =>
    (Quest.catalog.find? fun q => q.zone == z && !p.isComplete q.id).map fun q => (z, q)

/-- Judges one quest. -/
def judge (threshold : UInt32) (fs : FileSystem) (now : Instant) (p : Progress) (q : Quest) :
    Option Completed × Progress :=
  if p.isComplete q.id || !p.isUnlocked threshold q.zone || !q.check.holds p.log fs then
    (.none, p)
  else
    let (gain, p) := p.reward q.reward
    (some ⟨q, gain⟩, (p.markComplete q.id q.zone now).2)

/-- The same, if every word on the way can hold its result. -/
def judge? (threshold : UInt32) (fs : FileSystem) (now : Instant) (p : Progress) (q : Quest) :
    Option (Option Completed × Progress) :=
  if p.isComplete q.id || !p.isUnlocked threshold q.zone || !q.check.holds p.log fs then
    some (.none, p)
  else do
    let (gain, p) ← p.reward? q.reward
    let (_, p) ← p.markComplete? q.id q.zone now
    return (some ⟨q, gain⟩, p)

/-- Judges quests one after the other. -/
def judgeAll (threshold : UInt32) (fs : FileSystem) (now : Instant) (p : Progress) :
    List Quest → List Completed × Progress
  | [] => ([], p)
  | q :: r =>
    let (c, p) := p.judge threshold fs now q
    let (cs, p) := p.judgeAll threshold fs now r
    (c.toList ++ cs, p)

/-- The same, if every word on the way can hold its result. -/
def judgeAll? (threshold : UInt32) (fs : FileSystem) (now : Instant) (p : Progress) :
    List Quest → Option (List Completed × Progress)
  | [] => some ([], p)
  | q :: r => do
    let (c, p) ← p.judge? threshold fs now q
    let (cs, p) ← p.judgeAll? threshold fs now r
    return (c.toList ++ cs, p)

/-- One pass over the catalog. -/
def evaluate (p : Progress) (threshold : UInt32) (fs : FileSystem) (now : Instant) :
    Evaluation × Progress :=
  let locked := Zone.all.filter fun z => !p.isUnlocked threshold z
  let (completed, after) := p.judgeAll threshold fs now Quest.catalog
  (⟨completed, locked.filter (after.isUnlocked threshold)⟩, after)

/-- The same, if every word on the way can hold its result. -/
def evaluate? (p : Progress) (threshold : UInt32) (fs : FileSystem) (now : Instant) :
    Option (Evaluation × Progress) := do
  let locked := Zone.all.filter fun z => !p.isUnlocked threshold z
  let (completed, after) ← p.judgeAll? threshold fs now Quest.catalog
  return (⟨completed, locked.filter (after.isUnlocked threshold)⟩, after)

end Progress

end Questline
