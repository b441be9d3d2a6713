import Questline.Proofs.Progress.Watch
import Questline.Sync.Record
set_option autoImplicit false

/-!
# What loading makes of a save

Nothing keeps a save that was edited by hand to the rules of the game: it can tell any level, any
experience, any number of commands and leave skills out.  Loading repairs it, and puts everything
in order, unless the levels run out before the experience does: then there is no word for the next
level, and a build that watches its words stops.
-/

namespace Questline

open Time (Instant)

namespace Player

/-- The level and the experience are those that the climb arrives at, with no number on the way
too large for its word, and they are in order. -/
structure Settles (raw p : Player) : Prop where
  level : 1 ≤ p.level
  xp : p.xp < xpThreshold p.level
  fits : ∃ gained, climb? (max raw.level 1).toNat raw.xp.toNat 0 =
    some (p.level.toNat, p.xp.toNat, gained)

/-- There is a level for all the experience, counted from the first level at the lowest. -/
def HasRoom (p : Player) : Prop := earned (max p.level 1).toNat + p.xp.toNat < earned UInt32.size

instance (p : Player) : Decidable p.HasRoom := inferInstanceAs (Decidable (_ < _))

theorem one_le_max (level : UInt32) : 1 ≤ max level 1 := by
  change 1 ≤ if level ≤ 1 then 1 else level
  split
  · exact UInt32.le_refl 1
  · rename_i h
    exact UInt32.le_of_lt (UInt32.not_le.1 h)

theorem max_ne_zero (level : UInt32) : max level 1 ≠ 0 := by
  intro h
  have hone := one_le_max level
  rw [h] at hone
  exact absurd hone (by decide)

/-- Climbing from the first level at the lowest settles a player who has room for it. -/
theorem settles_of_hasRoom {raw p : Player} (hroom : raw.HasRoom)
    (hlevel : p.level = (climb (max raw.level 1) raw.xp 0).1)
    (hxp : p.xp = (climb (max raw.level 1) raw.xp 0).2.1) : raw.Settles p := by
  have hfits := climb?_toNat (max raw.level 1) raw.xp 0 (max_ne_zero raw.level) (Nat.zero_le _)
  rw [UInt32.toNat_zero] at hfits
  change _ = if raw.HasRoom then _ else _ at hfits
  rw [if_pos hroom, ← hlevel, ← hxp] at hfits
  refine ⟨?_, ?_, _, hfits⟩
  · obtain ⟨-, hcount⟩ := earned_climb (max raw.level 1) raw.xp 0 (max_ne_zero raw.level)
      (Nat.zero_le _) hroom
    have hstart := UInt32.le_iff_toNat_le.1 (one_le_max raw.level)
    rw [hlevel, UInt32.le_iff_toNat_le]
    simp only [UInt32.toNat_zero, Nat.add_zero] at hcount
    omega
  · rw [hlevel, hxp]
    exact climb_lt ..

end Player

namespace Progress

/-- The log holds the newest commands, as many as are kept, and no skill is without a level. -/
structure Trims (raw p : Progress) : Prop where
  short : p.log.length ≤ logCapacity
  newest : ∃ dropped, raw.log = dropped ++ p.log ∧ (dropped = [] ∨ p.log.length = logCapacity)
  skills : ∀ k, (p.player.skills.get? k).isSome = true

/-- What is dropped from a log is older than all that is kept, and nothing is dropped unless the
log is full. -/
theorem exists_eq_append_newest (log : List LogEntry) :
    ∃ dropped, log = dropped ++ newest log ∧
      (dropped = [] ∨ (newest log).length = logCapacity) := by
  refine ⟨log.take (log.length - logCapacity), ?_, ?_⟩
  · rw [newest, List.take_append_drop]
  · by_cases hfull : log.length ≤ logCapacity
    · exact .inl (by rw [Nat.sub_eq_zero_of_le hfull, List.take_zero])
    · exact .inr (by rw [newest, List.length_drop]; omega)

theorem trims_repair (raw : Progress) : raw.Trims raw.repair := by
  refine ⟨?_, ?_, fun k => ?_⟩
  · rw [log_repair]
    exact length_newest_le raw.log
  · rw [log_repair]
    exact exists_eq_append_newest raw.log
  · rw [player_repair]
    cases k <;> rfl

/-- Repairing stops exactly if the player has no room for what was written. -/
theorem repair?_eq (raw : Progress) :
    raw.repair? = if raw.player.HasRoom then some raw.repair else none := by
  unfold repair?
  rw [Player.levelCheck?_eq (Player.max_ne_zero raw.player.level)]
  change ((if raw.player.HasRoom then _ else _) >>= _) = _
  split <;> rfl

theorem settles_repair {raw : Progress} (hroom : raw.player.HasRoom) :
    raw.player.Settles raw.repair.player := by
  rw [player_repair]
  exact Player.settles_of_hasRoom hroom rfl rfl

/-- What a game is loaded from: the text that the device keeps, or a record that travels. -/
inductive Source where
  | text (s : String)
  | record (r : SaveRecord)

namespace Source

/-- The game as it was written; the record's time counts. -/
def read? (clock : Instant) : Source → Option Progress
  | .text s => (Json.parse? s).bind (Progress.ofJson? clock 0)
  | .record r => (Progress.ofJson? clock 0 r.payload).map fun p => { p with updatedAt := r.updatedAt }

/-- What comes of loading the game where words are watched. -/
def load (clock : Instant) : Source → Loading
  | .text s => Progress.loadText clock s
  | .record r => r.load clock

/-- The game as it is loaded where words are not watched. -/
def load? (clock : Instant) : Source → Option Progress
  | .text s => Progress.ofText? clock s
  | .record r => r.progress? clock

theorem load?_eq (clock : Instant) (src : Source) :
    src.load? clock = (src.read? clock).map Progress.repair := by
  cases src with
  | text s =>
    change (Json.parse? s).bind (fun j => (Progress.ofJson? clock 0 j).bind fun p => some p.repair) =
      ((Json.parse? s).bind (Progress.ofJson? clock 0)).map Progress.repair
    cases Json.parse? s with
    | none => rfl
    | some j =>
      rw [Option.bind_some, Option.bind_some]
      cases Progress.ofJson? clock 0 j <;> rfl
  | record r =>
    change (Progress.ofJson? clock 0 r.payload).bind (fun p => some _) =
      ((Progress.ofJson? clock 0 r.payload).map _).map Progress.repair
    cases Progress.ofJson? clock 0 r.payload <;> rfl

/-- The text of a game tells what the game is. -/
theorem read?_toText {p : Progress} (h : p.Storable) (clock : Instant) :
    (Source.text p.toText).read? clock = some p := by
  rw [read?, Progress.toText, Json.parse?_print (Progress.tidy_toJson h), Option.bind_some]
  exact Progress.ofJson?_toJson .text h clock (by decide)

theorem load_eq (clock : Instant) (src : Source) :
    src.load clock = .ofWritten (src.read? clock) := by
  cases src <;> rfl

theorem load_of_read? {clock : Instant} {src : Source} {raw : Progress}
    (h : src.read? clock = some raw) :
    src.load clock = if raw.player.HasRoom then .loaded raw.repair else .stopped := by
  rw [load_eq, h, Loading.ofWritten, repair?_eq]
  by_cases hroom : raw.player.HasRoom
  · rw [if_pos hroom, if_pos hroom]
  · rw [if_neg hroom, if_neg hroom]

/-- A game that is loaded was read and had room for its experience. -/
theorem exists_of_load_eq_loaded {clock : Instant} {src : Source} {p : Progress}
    (h : src.load clock = .loaded p) :
    ∃ raw, src.read? clock = some raw ∧ raw.player.HasRoom ∧ p = raw.repair := by
  cases hread : src.read? clock with
  | none =>
    rw [load_eq, hread] at h
    cases h
  | some raw =>
    rw [load_of_read? hread] at h
    split at h
    · cases h
      exact ⟨raw, rfl, ‹_›, rfl⟩
    · cases h

/-- A save that can be read is loaded exactly if there is a level for all the experience that was
written; the game then has the newest commands, all skills, and the level and the rest that the
experience comes to.  If there is none, the next level does not fit its word. -/
theorem load_in_order_iff {clock : Instant} {src : Source} {raw : Progress}
    (h : src.read? clock = some raw) :
    ((∃ p, src.load clock = .loaded p ∧ raw.Trims p ∧ raw.player.Settles p.player) ↔
        raw.player.HasRoom) ∧
      (¬ raw.player.HasRoom → src.load clock = .stopped) := by
  rw [load_of_read? h]
  by_cases hroom : raw.player.HasRoom
  · rw [if_pos hroom]
    exact ⟨iff_of_true ⟨_, rfl, raw.trims_repair, settles_repair hroom⟩ hroom, absurd hroom⟩
  · rw [if_neg hroom]
    exact ⟨iff_of_false (fun ⟨p, hp, _⟩ => by cases hp) hroom, fun _ => rfl⟩

/-- The last level with just the experience for one more. -/
def lastLevel : Source :=
  .text "\x7b\"player\": \x7b\"level\": 4294967295, \"xp\": 107374182400\x7d\x7d"

/-- It can be read, but not be loaded: there is no level after the last one. -/
theorem load_lastLevel :
    ∃ raw, lastLevel.read? ⟨0, 0⟩ = some raw ∧ raw.player.level = 0xFFFFFFFF ∧
      raw.player.xp = 107374182400 ∧ lastLevel.load ⟨0, 0⟩ = .stopped ∧
      ¬ ∃ p, lastLevel.load ⟨0, 0⟩ = .loaded p ∧ raw.Trims p ∧ raw.player.Settles p.player := by
  have hread : lastLevel.read? ⟨0, 0⟩ = some
      { Progress.fresh ⟨0, 0⟩ with player := ⟨0xFFFFFFFF, 107374182400, 0, .zero⟩ } := by
    decide +kernel
  have hroom : ¬ Player.HasRoom ⟨0xFFFFFFFF, 107374182400, 0, .zero⟩ := by decide
  obtain ⟨hiff, hstops⟩ := load_in_order_iff hread
  exact ⟨_, hread, rfl, rfl, hstops hroom, fun h => hroom (hiff.1 h)⟩

end Source

end Progress

end Questline
