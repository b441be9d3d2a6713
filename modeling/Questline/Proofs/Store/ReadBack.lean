import Questline.Proofs.Progress.Sound
import Questline.Proofs.Store.Snapshots
set_option autoImplicit false

/-!
# Everything that is saved is read back

A game that is in order stands in four texts and records: the save on the device, the record
that travels, the text of that record in the cloud, and the snapshots of the accounts.  Each of
them gives back what was put into it, whatever the clock of the reader shows.
-/

namespace Questline

open Time (Instant)

/-- The boosts of a game are those that any number of purchases makes of none. -/
theorem Json.isBoost_iff {x : Float} :
    IsBoost x ↔ ∃ n, Nat.repeat Upgrade.raisedBoost n 0.0 = x := by
  constructor
  · rintro (rfl | rfl | rfl | rfl | rfl | rfl)
    · exact ⟨0, rfl⟩
    · exact ⟨1, by decide +kernel⟩
    · exact ⟨2, by decide +kernel⟩
    · exact ⟨3, by decide +kernel⟩
    · exact ⟨4, by decide +kernel⟩
    · exact ⟨5, by decide +kernel⟩
  · rintro ⟨n, rfl⟩
    induction n with
    | zero => exact .inl rfl
    | succ n ih => exact ih.raised

/-- Games that are in order are read back from their save, from their record, from the text of
their record and from the snapshots, with nothing lost and nothing repaired. -/
theorem Saves.read_back {p : Progress} {c : Keyed Progress} (hp : p.Sound)
    (hc : ∀ e ∈ c.entries, e.2.Sound) (clock : Instant) :
    Progress.ofText? clock p.toText = some p ∧
      (SaveRecord.ofProgress p).progress? clock = some p ∧
      SaveRecord.ofText? (SaveRecord.ofProgress p).toText = some (.ofProgress p) ∧
      cacheOfText? clock (cacheText c) = some c := by
  have hrepair : p.repair = p := hp.repair_eq_self
  refine ⟨?_, ?_, SaveRecord.ofText?_toText hp.toStorable, ?_⟩
  · rw [Progress.ofText?_toText hp.toStorable, hrepair]
  · rw [SaveRecord.progress?_ofProgress hp.toStorable, hrepair]
  · exact cacheOfText?_cacheText (fun e he => (hc e he).toStorable) clock

/-- A game with the largest counts, a boost that was raised three times, the first and the last
time of the years with four digits and texts that have to be escaped is read back by a clock that
shows another time. -/
theorem Saves.read_back_largest :
    ∃ (p : Progress) (c : Keyed Progress), p.player.level = 0xFFFFFFFF ∧
      p.player.coins = 0xFFFFFFFFFFFFFFFF ∧ p.upgrades.xpBoost = 0.30000000000000004 ∧
      p.account = some (.cloud "\x00\"ß" "profile-\u2028") ∧
      p.quests.get? "\\\n" = some ⟨true, ⟨253402300799, 999999999⟩⟩ ∧ c.get? "" = some p ∧
      p.Sound ∧ (∀ e ∈ c.entries, e.2.Sound) ∧ Progress.ofText? ⟨0, 0⟩ p.toText = some p ∧
      (SaveRecord.ofProgress p).progress? ⟨0, 0⟩ = some p ∧
      SaveRecord.ofText? (SaveRecord.ofProgress p).toText = some (.ofProgress p) ∧
      cacheOfText? ⟨0, 0⟩ (cacheText c) = some c := by
  let first : Instant := ⟨-62167219200, 0⟩
  let last : Instant := ⟨253402300799, 999999999⟩
  have hfirst : first.Valid := by decide
  have hlast : last.Valid := by decide
  let p : Progress := {
    player := ⟨0xFFFFFFFF, 0xFFFFFFFF, 0xFFFFFFFFFFFFFFFF, ⟨some 0xFFFFFFFF, some 0, some 1⟩⟩
    upgrades := ⟨0.30000000000000004, 0.5, 12, 20⟩
    quests := Keyed.empty.insert "\\\n" ⟨true, last⟩
    completedByZone := ⟨some 8, none, some 0⟩
    log := [⟨"echo \"é\" > 🐚", "\t\x7f", first⟩]
    streak := ⟨first, 0xFFFFFFFF⟩
    lastActive := last
    account := some (.cloud "\x00\"ß" "profile-\u2028")
    updatedAt := last }
  have hp : p.Sound := {
    xpBoost := .inr (.inr (.inr (.inl rfl)))
    coinBoost := .inr (.inr (.inr (.inr (.inr rfl))))
    quests := fun e he => by
      rw [List.mem_singleton.1 he]
      exact hlast
    log := fun e he => by
      rw [List.mem_singleton.1 he]
      exact hfirst
    streak := hfirst
    lastActive := hlast
    updatedAt := hlast
    player := ⟨by decide, by decide, rfl⟩
    short := by decide }
  have hc : ∀ e ∈ (Keyed.empty.insert "" p).entries, e.2.Sound := fun e he => by
    rw [List.mem_singleton.1 he]
    exact hp
  exact ⟨p, Keyed.empty.insert "" p, rfl, rfl, rfl, rfl, Keyed.get?_insert_self ..,
    Keyed.get?_insert_self .., hp, hc, Saves.read_back hp hc ⟨0, 0⟩⟩

end Questline
