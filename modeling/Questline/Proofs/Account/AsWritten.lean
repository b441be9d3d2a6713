import Questline.Proofs.Account.Switch
import Questline.Proofs.Progress.Repair
import Questline.Proofs.Store.Snapshots
set_option autoImplicit false

/-!
# Snapshots are taken as they were written

The same save can stand in two places on a device: alone, as the game that is being played, and
under the key of its account among the snapshots.  One reader reads both, and what it reads is
the same; but the game is repaired when it is loaded, and a snapshot is not.  So the two places
agree on the saves that need no repair, and a login goes on with a snapshot whatever is in it.
-/

namespace Questline

open Time (Instant)
open Questline.Action

variable {w : Type} [Depot w]

/-- What the one text says is what stands under the key in the object of the other. -/
def Json.StandsUnder (key text whole : String) : Prop :=
  ∃ j fields, parse? text = some j ∧ parse? whole = some (.obj fields) ∧
    field? key (.obj fields) = some j

/-- A guest's login on this device leaves nothing behind. -/
theorem Desk.loginLocal_of_guest {d : Desk w} {name : String} {snapshot : Progress}
    (hguest : d.progress.account = none)
    (hcached : (Saves.cached (Account.local name).cacheKey : Action StoreError w _) d.link.depot =
      (.ok (some snapshot), d.link.depot)) :
    loginLocal name d = (.ok [s!"Signed in as {name} (local)."],
      { d with progress := { snapshot with account := some (.local name) } }) := by
  have hfound : (onDepot (ExceptT.adapt .store (Saves.cached (Account.local name).cacheKey)) :
      Action AccountError (Desk w) _) d = (.ok (some snapshot), d) := by
    rw [onDepot_apply, adapt_apply, hcached]
  have hstash : (stash : Action AccountError (Desk w) Unit) d = (.ok (), d) := by
    unfold stash
    rw [bind_eq_of_ok (get_apply d)]
    rw [hguest]
    rfl
  unfold loginLocal
  rw [bind_eq_of_ok hfound]
  exact bind_eq_of_ok hstash

namespace Saves

/-- Among snapshots that can be read, the one under the key is the save as it was written. -/
theorem exists_read?_of_cacheOfText? {clock : Instant} {key text whole : String} {c : Keyed Progress}
    (hstands : Json.StandsUnder key text whole) (hc : cacheOfText? clock whole = some c) :
    ∃ raw, (Progress.Source.text text).read? clock = some raw ∧ c.get? key = some raw := by
  obtain ⟨j, fields, htext, hwhole, hj⟩ := hstands
  rw [cacheOfText?, hwhole, Option.bind_some] at hc
  obtain ⟨raw, hraw, hget⟩ := Json.get?_of_map?_eq_some hc hj
  refine ⟨raw, ?_, hget⟩
  rw [Progress.Source.read?, htext, Option.bind_some]
  exact Progress.ofJson?_of_deeper hraw

/-- What is kept for an account stands under its key. -/
theorem standsUnder_cacheText {c : Keyed Progress} (hc : ∀ e ∈ c.entries, e.2.Storable)
    {key : String} {p : Progress} (hp : c.get? key = some p) :
    Json.StandsUnder key p.toText (cacheText c) := by
  have htidy : ∀ e ∈ c.entries, Json.Tidy .text (e.2.toJson .text) := fun e he =>
    Progress.tidy_toJson (hc e he)
  refine ⟨p.toJson .text, _, Json.parse?_print (htidy (key, p) (Entries.mem_of_get?_eq_some hp)),
    Json.parse?_print (Json.tidy_entries htidy), ?_⟩
  rw [Json.field?, ← List.map_reverse, lookup_map, ← Keyed.get?_ofList, Keyed.ofList_entries, hp]
  rfl

section

variable {d : w} {key text whole : String}
  (hread : Depot.read .device accountsKey d = .ok (some whole))
  (hstands : Json.StandsUnder key text whole)
include hread hstands

theorem cached_of_standsUnder :
    (cached key : Action StoreError w _) d =
      if (cacheOfText? (Depot.clock d) whole).isSome then
        (.ok ((Progress.Source.text text).read? (Depot.clock d)), d)
      else (.error (Depot.refusal accountsKey (.text whole) d), d) := by
  rw [cached_apply, cache_apply, hread]
  cases hcache : cacheOfText? (Depot.clock d) whole with
  | none => simp only [hcache, Option.isSome_none, Bool.false_eq_true, if_false]
  | some c =>
    obtain ⟨raw, hraw, hget⟩ := exists_read?_of_cacheOfText? hstands hcache
    simp only [hcache, Option.isSome_some, if_true, hraw, hget]

/-- A save reads the same among the snapshots and alone exactly if it can be read in neither
place, or needs no repair and stands among snapshots that can all be read. -/
theorem cached_iff_ofText?_iff :
    (∀ p, ((cached key : Action StoreError w _) d).1 = .ok (some p) ↔
        Progress.ofText? (Depot.clock d) text = some p) ↔
      ∀ raw, (Progress.Source.text text).read? (Depot.clock d) = some raw →
        raw.Lawful ∧ (cacheOfText? (Depot.clock d) whole).isSome = true := by
  have hload := Progress.Source.load?_eq (Depot.clock d) (.text text)
  rw [show (Progress.Source.text text).load? _ = Progress.ofText? (Depot.clock d) text from rfl]
    at hload
  rw [cached_of_standsUnder hread hstands, hload]
  cases hcache : cacheOfText? (Depot.clock d) whole with
  | none =>
    -- Nothing is answered from the snapshots: they agree only on what is no save.
    cases hraw : (Progress.Source.text text).read? (Depot.clock d) with
    | none => simp
    | some raw => simp
  | some c =>
    obtain ⟨raw, hraw, -⟩ := exists_read?_of_cacheOfText? hstands hcache
    rw [hraw]
    simp only [Option.isSome_some, if_true, Option.map_some, Except.ok.injEq, Option.some.injEq,
      forall_eq', and_true]
    rw [← Progress.repair_eq_self_iff]
    exact ⟨fun h => (h raw).1 rfl, fun h p => by rw [h]⟩

/-- A login on the device goes on with the snapshot as it was written, in order or not. -/
theorem lawful_login_iff {desk desk' : Desk w} {input name : String} {now : Instant}
    {lines : List String} (hdepot : desk.link.depot = d) (hidentity : desk.identity = false)
    (hkey : key = (Account.local name).cacheKey) (hname : Username.valid? input = some name)
    (hother : desk.progress.account.map Account.username ≠ some name)
    (hlogin : Desk.login input now desk = (.ok lines, desk')) :
    ∃ raw, (Progress.Source.text text).read? (Depot.clock d) = some raw ∧
      desk'.progress = { raw with account := some (.local name) } ∧
      (desk'.progress.Lawful ↔ raw.Lawful) := by
  subst hdepot hkey
  rw [Desk.login_eq_loginLocal hname hother hidentity] at hlogin
  obtain ⟨raw, depot, hcached, hgame⟩ := Desk.exists_of_loginLocal_eq_ok hlogin
  rw [cached_of_standsUnder hread hstands] at hcached
  split at hcached
  · obtain ⟨hfound, -⟩ := Prod.mk.inj hcached
    refine ⟨raw, Except.ok.inj hfound, hgame, ?_⟩
    rw [hgame]
    exact ⟨fun h => ⟨h.player, h.short⟩, fun h => ⟨h.player, h.short⟩⟩
  · cases hcached

/-- What can be read of a save in the two places is the same exactly if it needs no repair and
stands among snapshots that can all be read.  A login on the device goes on with it as it was
written, and so with a game in order exactly if that is what was written. -/
theorem snapshot_agrees_iff :
    ((∀ p, ((cached key : Action StoreError w _) d).1 = .ok (some p) ↔
        Progress.ofText? (Depot.clock d) text = some p) ↔
      ∀ raw, (Progress.Source.text text).read? (Depot.clock d) = some raw →
        raw.Lawful ∧ (cacheOfText? (Depot.clock d) whole).isSome = true) ∧
    ∀ (desk desk' : Desk w) (input name : String) (now : Instant) (lines : List String),
      desk.link.depot = d → desk.identity = false → key = (Account.local name).cacheKey →
      Username.valid? input = some name → desk.progress.account.map Account.username ≠ some name →
      Desk.login input now desk = (.ok lines, desk') →
      ∃ raw, (Progress.Source.text text).read? (Depot.clock d) = some raw ∧
        desk'.progress = { raw with account := some (.local name) } ∧
        (desk'.progress.Lawful ↔ raw.Lawful) := by
  refine ⟨cached_iff_ofText?_iff hread hstands, ?_⟩
  intro desk desk' input name now lines hdepot hidentity hkey hname hother hlogin
  exact lawful_login_iff hread hstands hdepot hidentity hkey hname hother hlogin

end

/-- A snapshot that was edited to level zero: as the game that is played it would be repaired to
the second level, and a login goes on with it at level zero. -/
theorem not_snapshot_agrees_of_level_zero :
    ∃ (desk desk' : Desk Pair) (text whole : String) (raw : Progress) (lines : List String),
      Depot.read .device accountsKey desk.link.depot = .ok (some whole) ∧
      Json.StandsUnder (Account.local "hero").cacheKey text whole ∧
      ((cached (Account.local "hero").cacheKey : Action StoreError Pair _) desk.link.depot).1 =
        .ok (some raw) ∧ raw.player.level = 0 ∧ raw.player.xp = 60 ∧
      Progress.ofText? (Depot.clock desk.link.depot) text = some raw.repair ∧
      raw.repair.player.level = 2 ∧ raw.repair.player.xp = 10 ∧
      ¬ (∀ p, ((cached (Account.local "hero").cacheKey : Action StoreError Pair _)
          desk.link.depot).1 = .ok (some p) ↔
        Progress.ofText? (Depot.clock desk.link.depot) text = some p) ∧
      Desk.login "hero" ⟨0, 0⟩ desk = (.ok lines, desk') ∧ ¬ desk'.progress.Lawful := by
  obtain ⟨raw, hstorable, hplayer⟩ : ∃ raw : Progress, raw.Storable ∧
      raw.player = ⟨0, 60, 0, .zero⟩ :=
    ⟨{ Progress.fresh ⟨0, 0⟩ with player := ⟨0, 60, 0, .zero⟩, account := none },
      (Progress.Storable.fresh (by decide)).withPlayer _ _, rfl⟩
  let key := (Account.local "hero").cacheKey
  let kept : Keyed Progress := Keyed.empty.insert key raw
  let store : Memory := { Memory.empty with entries := Keyed.empty.insert accountsKey (cacheText kept) }
  let desk : Desk Pair := ⟨.fresh ⟨0, 0⟩, ⟨⟨store, .empty, ⟨0, 0⟩, .silent⟩, false, false⟩, false⟩
  have hkept : ∀ e ∈ kept.entries, e.2.Storable := fun e he => by
    rw [List.mem_singleton.1 he]
    exact hstorable
  have hget : kept.get? key = some raw := Keyed.get?_insert_self ..
  have hread : Depot.read .device accountsKey desk.link.depot = .ok (some (cacheText kept)) :=
    congrArg Except.ok (Keyed.get?_insert_self ..)
  have hstands : Json.StandsUnder key raw.toText (cacheText kept) := standsUnder_cacheText hkept hget
  have hcaches : store.Caches kept := ⟨hkept, .inl (Keyed.get?_insert_self ..)⟩
  have hcached : (cached key : Action StoreError Pair _) desk.link.depot =
      (.ok (some raw), desk.link.depot) := by
    rw [cached_of_caches hcaches, hget]
    rfl
  have hwritten := Progress.Source.read?_toText hstorable ⟨0, 0⟩
  have hunlawful : ¬ raw.Lawful := fun h => h.player.level (by rw [hplayer])
  have hrepaired : raw.repair.player.level = 2 ∧ raw.repair.player.xp = 10 := by
    rw [Progress.player_repair, hplayer]
    dsimp only
    rw [Player.climb, if_neg (by decide), Player.climb_of_lt _ (by decide)]
    exact ⟨by decide, by decide⟩
  have hname : Username.valid? "hero" = some "hero" := Username.valid?_eq_some_self (by decide)
  have hother : desk.progress.account.map Account.username ≠ some "hero" := by
    intro h
    cases h
  have hlogin := (Desk.login_eq_loginLocal (d := desk) hname hother rfl ⟨0, 0⟩).trans
    (Desk.loginLocal_of_guest rfl hcached)
  obtain ⟨hagrees, hinstalls⟩ := snapshot_agrees_iff (d := desk.link.depot) hread hstands
  obtain ⟨raw', hraw', -, hlawful⟩ :=
    hinstalls desk _ "hero" "hero" ⟨0, 0⟩ _ rfl rfl rfl hname hother hlogin
  cases hwritten.symm.trans hraw'
  exact ⟨desk, _, raw.toText, cacheText kept, raw, _, hread, hstands, congrArg Prod.fst hcached,
    by rw [hplayer], by rw [hplayer], Progress.ofText?_toText hstorable _, hrepaired.1, hrepaired.2,
    fun h => hunlawful (hagrees.1 h raw hwritten).1, hlogin, fun h => hunlawful (hlawful.1 h)⟩

end Saves

end Questline
