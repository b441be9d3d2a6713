set_option autoImplicit false

/-!
# Quest: zones and skills

The three zones, in the order in which they open, and the three skills.  What
is counted for each of them is kept in a small record, where a count can also be
missing.
-/

namespace Questline

/-- A zone of the world. -/
inductive Zone where
  | plains
  | forest
  | caves
  deriving DecidableEq, Repr

namespace Zone

/-- All zones in the order in which they open. -/
def all : List Zone := [.plains, .forest, .caves]

/-- The name by which a zone is stored. -/
def id : Zone → String
  | .plains => "terminal-plains"
  | .forest => "filewood-forest"
  | .caves => "grep-caves"

/-- The name by which a zone is shown. -/
def name : Zone → String
  | .plains => "Terminal Plains"
  | .forest => "Filewood Forest"
  | .caves => "Grep Caves"

/-- The zone whose quests open this one. -/
def previous? : Zone → Option Zone
  | .plains => none
  | .forest => some .plains
  | .caves => some .forest

/-- The zone stored by that name. -/
def ofId? (s : String) : Option Zone := all.find? fun z => z.id == s

end Zone

/-- A skill of a player. -/
inductive Skill where
  | navigation
  | files
  | text
  deriving DecidableEq, Repr

namespace Skill

/-- All skills in the order in which they are shown. -/
def all : List Skill := [.navigation, .files, .text]

/-- The name by which a skill is stored. -/
def id : Skill → String
  | .navigation => "navigation"
  | .files => "files"
  | .text => "text"

/-- The name by which a skill is shown. -/
def name : Skill → String
  | .navigation => "Navigation"
  | .files => "Files"
  | .text => "Text"

/-- The skill stored by that name. -/
def ofId? (s : String) : Option Skill := all.find? fun k => k.id == s

end Skill

/-- A count for each zone. -/
structure ZoneCounts where
  plains : Option UInt32
  forest : Option UInt32
  caves : Option UInt32
  deriving DecidableEq, Inhabited, Repr

namespace ZoneCounts

/-- No count yet. -/
def empty : ZoneCounts := ⟨none, none, none⟩

/-- The count of a zone, if there is one. -/
def get? (c : ZoneCounts) : Zone → Option UInt32
  | .plains => c.plains
  | .forest => c.forest
  | .caves => c.caves

/-- The count of a zone; a missing one is zero. -/
def get (c : ZoneCounts) (z : Zone) : UInt32 := (c.get? z).getD 0

/-- The counts with another one for a zone. -/
def set (c : ZoneCounts) (z : Zone) (n : UInt32) : ZoneCounts :=
  match z with
  | .plains => { c with plains := some n }
  | .forest => { c with forest := some n }
  | .caves => { c with caves := some n }

@[simp] theorem get_set_self (c : ZoneCounts) (z : Zone) (n : UInt32) : (c.set z n).get z = n := by
  cases z <;> rfl

theorem get?_set_of_ne (c : ZoneCounts) {z y : Zone} (h : y ≠ z) (n : UInt32) :
    (c.set z n).get? y = c.get? y := by
  cases z <;> cases y <;> first | rfl | exact absurd rfl h

theorem get_set_of_ne (c : ZoneCounts) {z y : Zone} (h : y ≠ z) (n : UInt32) :
    (c.set z n).get y = c.get y :=
  congrArg (·.getD 0) (c.get?_set_of_ne h n)

end ZoneCounts

/-- A level for each skill. -/
structure SkillLevels where
  navigation : Option UInt32
  files : Option UInt32
  text : Option UInt32
  deriving DecidableEq, Inhabited, Repr

namespace SkillLevels

/-- No level at all. -/
def empty : SkillLevels := ⟨none, none, none⟩

/-- Every skill at level zero. -/
def zero : SkillLevels := ⟨some 0, some 0, some 0⟩

/-- The level of a skill, if there is one. -/
def get? (c : SkillLevels) : Skill → Option UInt32
  | .navigation => c.navigation
  | .files => c.files
  | .text => c.text

/-- The level of a skill; a missing one is zero. -/
def get (c : SkillLevels) (k : Skill) : UInt32 := (c.get? k).getD 0

/-- The levels with another one for a skill. -/
def set (c : SkillLevels) (k : Skill) (n : UInt32) : SkillLevels :=
  match k with
  | .navigation => { c with navigation := some n }
  | .files => { c with files := some n }
  | .text => { c with text := some n }

/-- The levels with zero for those that are missing. -/
def filled (c : SkillLevels) : SkillLevels :=
  ⟨some (c.get .navigation), some (c.get .files), some (c.get .text)⟩

@[simp] theorem get_set_self (c : SkillLevels) (k : Skill) (n : UInt32) : (c.set k n).get k = n := by
  cases k <;> rfl

theorem get?_set_of_ne (c : SkillLevels) {k j : Skill} (h : j ≠ k) (n : UInt32) :
    (c.set k n).get? j = c.get? j := by
  cases k <;> cases j <;> first | rfl | exact absurd rfl h

theorem get_set_of_ne (c : SkillLevels) {k j : Skill} (h : j ≠ k) (n : UInt32) :
    (c.set k n).get j = c.get j :=
  congrArg (·.getD 0) (c.get?_set_of_ne h n)

@[simp] theorem get_filled (c : SkillLevels) (k : Skill) : c.filled.get k = c.get k := by
  cases k <;> rfl

end SkillLevels

end Questline
