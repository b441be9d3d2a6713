import Questline.Proofs.Progress.Tally
set_option autoImplicit false

/-!
# What lasts

A game is on a device, among the snapshots, or in the cloud as the save of a profile, and it is
carried from one place to another as it stands.  `Place.Lasting` says of a kind of games, which
may depend on the place, that new games are of the kind, that no command, quest or return takes
a game out of it, and that a game is of the kind wherever it is carried for its account.

Four kinds last: the games that a save can hold, those in play, those that are in order, and
those that are where their account belongs.
-/

namespace Questline

open Time (Instant)

/-- Where a game is. -/
inductive Place where
  /-- It is being played on a device, or kept there to be played on. -/
  | device
  /-- It is a snapshot under this key. -/
  | snapshot (key : String)
  /-- It is the save of this profile in the cloud. -/
  | cloud (profileId : String)

namespace Place

/-- Games stay of a kind whatever happens to them, with quests being judged at some of the
thresholds. -/
structure Lasting (T : UInt32 → Prop) (K : Place → Progress → Prop) : Prop where
  storable : ∀ {place p}, K place p → p.Storable
  fresh : ∀ {now : Instant}, now.Valid → K .device (.fresh now)
  withAccount : ∀ {p} (account : Option Account), K .device p →
    K .device { p with account := account }
  touch : ∀ {p} {now : Instant}, K .device p → now.Valid → K .device (p.touch now)
  repair : ∀ {p}, K .device p → K .device p.repair
  logCommand : ∀ {p} {now : Instant} (command output : String), K .device p → now.Valid →
    K .device (p.logCommand command output now)
  purchase : ∀ {p p' id u}, K .device p → p.purchase id = .ok (u, p') → K .device p'
  evaluate : ∀ {p threshold} {now : Instant} (fs : FileSystem), K .device p → T threshold →
    now.Valid → K .device (p.evaluate threshold fs now).2
  accrueOffline : ∀ {p} {now : Instant} (rate : UInt32), K .device p → now.Valid →
    K .device (p.accrueOffline now rate).2
  updateStreak : ∀ {p} {now : Instant}, K .device p → now.Valid → K .device (p.updateStreak now)
  snapshot : ∀ {p a}, K .device p → p.account = some a → K (.snapshot a.cacheKey) p
  save : ∀ {p id}, K .device p → p.account.bind Account.profileId? = some id → K (.cloud id) p
  restore : ∀ {place p}, K place p → K .device p

/-! ## Games that a save can hold -/

/-- Every game that a save can hold, wherever it is. -/
abbrev Stored : Place → Progress → Prop := fun _ p => p.Storable

theorem lasting_stored : Lasting (fun _ => True) Stored where
  storable h := h
  fresh := .fresh
  withAccount account h := h.withAccount account
  touch h hnow := h.touch hnow
  repair h := h.repair
  logCommand command output h hnow := h.logCommand command output hnow
  purchase h hp := h.purchase hp
  evaluate fs h _ hnow := h.evaluate _ fs hnow
  accrueOffline rate h hnow := h.accrueOffline hnow rate
  updateStreak h hnow := h.updateStreak hnow
  snapshot h _ := h
  save h _ := h
  restore h := h

/-! ## Games in play -/

/-- Every game in play, wherever it is. -/
abbrev Played : Place → Progress → Prop := fun _ p => p.InPlay

theorem lasting_played : Lasting (fun _ => True) Played where
  storable h := h.toStorable
  fresh := .fresh
  withAccount account h := h.withAccount account
  touch h hnow := h.touch hnow
  repair h := h.repair
  logCommand command output h hnow := h.logCommand command output hnow
  purchase h hp := h.purchase hp
  evaluate fs h _ hnow := h.evaluate _ fs hnow
  accrueOffline rate h hnow := h.accrueOffline hnow rate
  updateStreak h hnow := h.updateStreak hnow
  snapshot h _ := h
  save h _ := h
  restore h := h

end Place

/-! ## Games in order -/

/-- The level is one, the experience is below what it needs, the log keeps to its capacity, and
the quests and their counts agree. -/
structure Progress.Consistent (threshold : UInt32) (p : Progress) : Prop
    extends p.Tallied threshold where
  level : 1 ≤ p.player.level
  xp : p.player.xp < xpThreshold p.player.level
  short : p.log.length ≤ logCapacity

/-- A game in play whose counts agree with its quests. -/
structure Progress.Orderly (threshold : UInt32) (p : Progress) : Prop
    extends p.InPlay, p.Tallied threshold

theorem Progress.Orderly.consistent {threshold : UInt32} {p : Progress} (h : p.Orderly threshold) :
    p.Consistent threshold where
  toTallied := h.toTallied
  level := by
    have hpos : p.player.level.toNat ≠ 0 := fun h0 => h.player.level (UInt32.toNat_inj.1 h0)
    rw [UInt32.le_iff_toNat_le]
    exact Nat.one_le_iff_ne_zero.2 hpos
  xp := h.player.xp
  short := h.short

namespace Place

/-- Where the threshold is always the same, every game is in order, wherever it is. -/
theorem lasting_orderly (threshold : UInt32) :
    Lasting (· = threshold) fun _ p => p.Orderly threshold where
  storable h := h.toStorable
  fresh hnow := ⟨.fresh hnow, .fresh threshold _⟩
  withAccount account h := ⟨h.toInPlay.withAccount account, h.toTallied.of_eq rfl rfl⟩
  touch h hnow := ⟨h.toInPlay.touch hnow, h.toTallied.of_eq rfl rfl⟩
  repair h := by
    rw [h.repair_eq_self]
    exact h
  logCommand command output h hnow :=
    ⟨h.toInPlay.logCommand command output hnow, h.toTallied.logCommand command output _⟩
  purchase h hp := ⟨h.toInPlay.purchase hp, h.toTallied.purchase hp⟩
  evaluate fs h hthreshold hnow := by
    rw [hthreshold]
    exact ⟨h.toInPlay.evaluate threshold fs hnow, h.toTallied.evaluate fs _⟩
  accrueOffline rate h hnow :=
    ⟨h.toInPlay.accrueOffline hnow rate, h.toTallied.accrueOffline _ rate⟩
  updateStreak h hnow := ⟨h.toInPlay.updateStreak hnow, h.toTallied.of_eq rfl rfl⟩
  snapshot h _ := h
  save h _ := h
  restore h := h

/-! ## Games where they belong -/

/-- The account belongs there: under its key among the snapshots, under its profile in the
cloud, and anywhere on a device. -/
def Owns : Place → Option Account → Prop
  | .device, _ => True
  | .snapshot key, account => ∃ a, account = some a ∧ a.cacheKey = key
  | .cloud profileId, account => ∃ username, account = some (.cloud username profileId)

theorem exists_cloud_of_profileId? {account : Option Account} {id : String}
    (h : account.bind Account.profileId? = some id) :
    ∃ username, account = some (.cloud username id) := by
  rcases account with _ | _ | ⟨username, id'⟩
  · cases h
  · cases h
  · exact ⟨username, by rw [← Option.some.inj h]⟩

/-- Every game is where its account belongs. -/
theorem lasting_owned :
    Lasting (fun _ => True) fun place p => p.Storable ∧ place.Owns p.account where
  storable h := h.1
  fresh hnow := ⟨.fresh hnow, trivial⟩
  withAccount account h := ⟨h.1.withAccount account, trivial⟩
  touch h hnow := ⟨h.1.touch hnow, trivial⟩
  repair h := ⟨h.1.repair, trivial⟩
  logCommand command output h hnow := ⟨h.1.logCommand command output hnow, trivial⟩
  purchase h hp := ⟨h.1.purchase hp, trivial⟩
  evaluate fs h _ hnow := ⟨h.1.evaluate _ fs hnow, trivial⟩
  accrueOffline rate h hnow := ⟨h.1.accrueOffline hnow rate, trivial⟩
  updateStreak h hnow := ⟨h.1.updateStreak hnow, trivial⟩
  snapshot h ha := ⟨h.1, _, ha, rfl⟩
  save h hid := ⟨h.1, exists_cloud_of_profileId? hid⟩
  restore h := ⟨h.1, trivial⟩

end Place

end Questline
