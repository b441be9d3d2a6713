import Questline.Proofs.Store.Memory
import Questline.Proofs.Sync.Record
set_option autoImplicit false

/-!
# The snapshots on a device

The snapshots of accounts are one text.  It is read back as it was kept, so a device
always knows what it has kept for whom.
-/

namespace Questline

open Time (Instant)

/-- The snapshots are read back from their text. -/
theorem Saves.cacheOfText?_cacheText {c : Keyed Progress} (h : ∀ e ∈ c.entries, e.2.Storable)
    (clock : Instant) : cacheOfText? clock (cacheText c) = some c := by
  have htidy : Json.Tidy .text (.obj (c.entries.map fun e => (e.1, e.2.toJson .text))) :=
    Json.tidy_entries fun e he => Progress.tidy_toJson (h e he)
  rw [cacheOfText?, cacheText, Json.parse?_print htidy, Option.bind_some]
  exact Json.map?_entries fun e he => Progress.ofJson?_toJson .text (h e he) clock (by decide)

namespace Memory

/-- The device has these snapshots, each of a game that a save can hold. -/
structure Caches (m : Memory) (c : Keyed Progress) : Prop where
  storable : ∀ e ∈ c.entries, e.2.Storable
  text : m.entries.get? Saves.accountsKey = some (Saves.cacheText c) ∨
    m.entries.get? Saves.accountsKey = none ∧ c = .empty

theorem Caches.get? {m : Memory} {c : Keyed Progress} (h : m.Caches c) {key : String} {p : Progress}
    (hp : c.get? key = some p) : p.Storable :=
  h.storable (key, p) (Entries.mem_of_get?_eq_some hp)

/-- Another snapshot is kept. -/
theorem Caches.insert {m : Memory} {c : Keyed Progress} (h : m.Caches c) {p : Progress}
    (hp : p.Storable) (key : String) :
    Caches
      { m with entries := m.entries.insert Saves.accountsKey (Saves.cacheText (c.insert key p)) }
      (c.insert key p) := by
  refine ⟨fun e he => ?_, .inl (Keyed.get?_insert_self ..)⟩
  rcases Entries.mem_insert he with rfl | he
  · exact hp
  · exact h.storable e he

/-- The game that is being played is kept apart from the snapshots. -/
theorem Caches.put_state {p : Pair} {c : Keyed Progress} (h : p.device.Caches c) (text : String) :
    (p.put .device Saves.stateKey text).device.Caches c := by
  refine ⟨h.storable, ?_⟩
  rw [show (p.put .device Saves.stateKey text).device.entries.get? Saves.accountsKey =
    p.device.entries.get? Saves.accountsKey from Pair.get?_put_of_ne p .device (by decide) text]
  exact h.text

end Memory

/-- The snapshots that can be read on a device. -/
def Memory.snapshots (m : Memory) (clock : Instant) : Keyed Progress :=
  ((m.entries.get? Saves.accountsKey).bind (Saves.cacheOfText? clock)).getD .empty

theorem Memory.Caches.snapshots_eq {m : Memory} {c : Keyed Progress} (h : m.Caches c)
    (clock : Instant) : m.snapshots clock = c := by
  unfold Memory.snapshots
  rcases h.text with htext | ⟨hnone, rfl⟩
  · rw [htext, Option.bind_some, Saves.cacheOfText?_cacheText h.storable, Option.getD_some]
  · rw [hnone]
    rfl

namespace Progress

variable {p : Progress}

/-- The snapshots after the player of the game has been stashed. -/
def stashed (p : Progress) (c : Keyed Progress) : Keyed Progress :=
  match p.account with
  | some a => c.insert a.cacheKey p
  | none => c

theorem stashed_of_some {a : Account} (h : p.account = some a) (c : Keyed Progress) :
    p.stashed c = c.insert a.cacheKey p := by
  rw [stashed, h]

/-- A guest leaves nothing behind. -/
theorem stashed_of_none (h : p.account = none) (c : Keyed Progress) : p.stashed c = c := by
  rw [stashed, h]

theorem get?_stashed_self {a : Account} (h : p.account = some a) (c : Keyed Progress) :
    (p.stashed c).get? a.cacheKey = some p := by
  rw [stashed_of_some h]
  exact Keyed.get?_insert_self ..

theorem get?_stashed_of_cacheKey_ne {key : String}
    (h : ∀ a, p.account = some a → a.cacheKey ≠ key) (c : Keyed Progress) :
    (p.stashed c).get? key = c.get? key := by
  cases ha : p.account with
  | none => rw [stashed_of_none ha]
  | some a =>
    rw [stashed_of_some ha]
    exact Keyed.get?_insert_of_ne _ (fun heq => h a ha heq.symm) _

end Progress

namespace Saves

/-- A device that can be read knows its snapshots. -/
theorem cache_of_caches {p : Pair} {c : Keyed Progress} (h : p.device.Caches c) :
    (cache : Action StoreError Pair _) p =
      if p.device.failsRead then (.error (.io accountsKey .injected), p) else (.ok c, p) := by
  rw [cache_pair]
  rcases h.text with htext | ⟨htext, rfl⟩
  · simp only [htext, cacheOfText?_cacheText h.storable]
  · simp only [htext]

theorem cached_of_caches {p : Pair} {c : Keyed Progress} (h : p.device.Caches c) (key : String) :
    (cached key : Action StoreError Pair _) p =
      if p.device.failsRead then (.error (.io accountsKey .injected), p)
      else (.ok (c.get? key), p) := by
  rw [cached_apply, cache_of_caches h]
  by_cases hread : p.device.failsRead = true <;> simp [hread]

/-- A snapshot is added to those there are, unless the device fails. -/
theorem keep_of_caches {p : Pair} {c : Keyed Progress} (h : p.device.Caches c) (key : String)
    (q : Progress) :
    (keep key q : Action StoreError Pair Unit) p =
      if p.device.failsRead || p.device.failsWrite then (.error (.io accountsKey .injected), p)
      else (.ok (), p.put .device accountsKey (cacheText (c.insert key q))) := by
  rw [keep_pair, cache_of_caches h]
  by_cases hread : p.device.failsRead = true
  · simp [hread]
  · by_cases hwrite : p.device.failsWrite = true <;> simp [hread, hwrite]

end Saves

namespace Account

/-- Accounts of different profiles, or one that belongs to none, are kept under different
keys. -/
theorem cacheKey_ne_of_profileId? {a : Account} {username id : String}
    (h : a.profileId? ≠ some id) : a.cacheKey ≠ (Account.cloud username id).cacheKey := by
  intro heq
  cases a with
  | «local» name =>
    have := congrArg (fun s : String => s.toList[0]?) heq
    simp [cacheKey] at this
  | cloud name other =>
    have := congrArg String.toList heq
    refine h (congrArg some (String.toList_injective ?_))
    simpa [cacheKey] using this

end Account

end Questline
