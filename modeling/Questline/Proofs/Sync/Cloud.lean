import Questline.Proofs.Store.Memory
import Questline.Proofs.Sync.Record
set_option autoImplicit false

/-!
# What the cloud has

The profiles of the cloud are read back from their text, as are its saves.
-/

namespace Questline

open Time (Instant)

/-! ## Profiles -/

theorem Profile.ofJson?_toJson (p : Profile) : ofJson? p.toJson = some p := by
  unfold ofJson? toJson
  refine (Json.Fields.bind_ofJson?_obj (by simp) (by simp) _).trans ?_
  refine (Json.Fields.bind_need rfl (Json.str?_str _) _).trans ?_
  exact Json.Fields.bind_need rfl (Json.str?_str _) _

theorem Profile.tidy_toJson (p : Profile) : Json.Tidy .text p.toJson :=
  ⟨nofun, trivial, trivial, trivial⟩

/-- The profiles of the cloud, by normalized name. -/
def Cloud.Lists (c : Cloud) (ps : Keyed Profile) : Prop :=
  c.store.entries.get? Remote.profilesKey = none ∧ ps = .empty ∨
    c.store.entries.get? Remote.profilesKey = some (Remote.profilesText ps)

namespace Remote

variable {p : Pair} {ps : Keyed Profile}

/-- What the profiles are is what the text under their key says. -/
theorem profiles_apply (p : Pair) :
    (profiles : Action StoreError Pair _) p =
      if p.cloud.store.failsRead then (.error (.io profilesKey .injected), p)
      else match p.cloud.store.entries.get? profilesKey with
        | none => (.ok .empty, p)
        | some text => match (Json.parse? text).bind (Json.map? Profile.ofJson?) with
          | some ps => (.ok ps, p)
          | none => (.error (Depot.refusal profilesKey (.text text) p), p) := by
  rw [profiles, Action.bind_apply, Depot.load_pair]
  by_cases hread : p.cloud.store.failsRead = true
  · simp [Pair.side, hread]
  · simp only [Pair.side, hread, if_false, Bool.false_eq_true]
    cases p.cloud.store.entries.get? profilesKey with
    | none => rfl
    | some text =>
      dsimp only
      cases (Json.parse? text).bind (Json.map? Profile.ofJson?) <;> rfl

theorem profiles_pair (hreads : p.cloud.store.failsRead = false) (hlists : p.cloud.Lists ps) :
    (profiles : Action StoreError Pair _) p = (.ok ps, p) := by
  have htidy : Json.Tidy .text (.obj (ps.entries.map fun e => (e.1, e.2.toJson))) :=
    Json.tidy_entries fun e _ => e.2.tidy_toJson
  have hread : (Json.parse? (profilesText ps)).bind (Json.map? Profile.ofJson?) = some ps := by
    rw [profilesText, Json.parse?_print htidy, Option.bind_some]
    exact Json.map?_entries fun e _ => e.2.ofJson?_toJson
  rw [profiles_apply, hreads]
  rcases hlists with ⟨hnone, rfl⟩ | htext
  · rw [hnone]
    rfl
  · simp only [htext, hread]
    rfl

theorem adapt_reach_pair (p : Pair) :
    (ExceptT.adapt .ofSync reach : Action AccountError Pair Unit) p =
      if p.cloud.online then (.ok (), p) else (.error (.syncFailed "remote offline"), p) := by
  rw [Action.adapt_apply, reach_pair]
  cases p.cloud.online <;> rfl

/-- The profile of a name, in a cloud whose profiles are these. -/
theorem fetchProfile_pair (honline : p.cloud.online = true)
    (hreads : p.cloud.store.failsRead = false) (hlists : p.cloud.Lists ps) (name : String) :
    (fetchProfile name : Action AccountError Pair _) p =
      (.ok (ps.get? (Username.normalize name)), p) := by
  rw [fetchProfile, Action.bind_eq_of_ok (by rw [adapt_reach_pair, if_pos honline]),
    Action.bind_eq_of_ok (t := p) (a := ps)
      (by rw [Action.adapt_apply, profiles_pair hreads hlists])]
  rfl

/-- A name gets a profile unless its normal form has one. -/
theorem createProfile_pair (honline : p.cloud.online = true)
    (hreads : p.cloud.store.failsRead = false) (hwrites : p.cloud.store.failsWrite = false)
    (hlists : p.cloud.Lists ps) (name : String) :
    (createProfile name : Action AccountError Pair _) p =
      if (ps.get? (Username.normalize name)).isSome then
        (.error (.usernameTaken (Username.normalize name)), p)
      else
        (.ok ⟨Depot.nextId p, Username.normalize name⟩,
          Depot.spendId (p.put .cloud profilesKey (profilesText
            (ps.insert (Username.normalize name) ⟨Depot.nextId p, Username.normalize name⟩)))) := by
  rw [createProfile, Action.bind_eq_of_ok (by rw [adapt_reach_pair, if_pos honline])]
  extract_lets
  rw [Action.bind_eq_of_ok (t := p) (a := ps)
      (by rw [Action.adapt_apply, profiles_pair hreads hlists])]
  have hsave : ∀ text, (ExceptT.adapt .store (Depot.save .cloud profilesKey text) :
      Action AccountError Pair Unit) p = (.ok (), p.put .cloud profilesKey text) := by
    intro text
    have hside : (p.side .cloud).failsWrite = false := hwrites
    rw [Action.adapt_apply, Depot.save_pair, hside]
    rfl
  dsimp only
  split
  · rfl
  · rw [Action.bind_eq_of_ok (Action.get_apply p), Action.bind_eq_of_ok (hsave _)]
    rfl

end Remote

/-! ## Saves -/

/-- The text of the save that the cloud has for a profile. -/
def Cloud.text? (c : Cloud) (id : String) : Option String :=
  c.store.entries.get? (Remote.saveKey id)

/-- The save that the cloud has for a profile. -/
def Cloud.record? (c : Cloud) (id : String) : Option SaveRecord :=
  (c.text? id).bind SaveRecord.ofText?

/-- The record of a game is read back as it was put into the cloud. -/
theorem Cloud.record?_of_text? {c : Cloud} {id : String} {q : Progress} (hq : q.Storable)
    (h : c.text? id = some (SaveRecord.ofProgress q).toText) :
    c.record? id = some (.ofProgress q) := by
  rw [record?, h, Option.bind_some, SaveRecord.ofText?_toText hq]

/-- The game that the cloud has for a profile. -/
def Cloud.game? (c : Cloud) (clock : Instant) (id : String) : Option Progress := do
  let text ← c.store.entries.get? (Remote.saveKey id)
  (← SaveRecord.ofText? text).progress? clock

/-- The game of a save that has been put into the cloud. -/
theorem Cloud.game?_of_get? {c : Cloud} {id : String} {q : Progress} (hq : q.Storable)
    (h : c.store.entries.get? (Remote.saveKey id) = some (SaveRecord.ofProgress q).toText)
    (clock : Instant) : c.game? clock id = some q.repair := by
  refine (Json.bind_of_eq_some h _).trans ?_
  refine (Json.bind_of_eq_some (SaveRecord.ofText?_toText hq) _).trans ?_
  exact SaveRecord.progress?_ofProgress hq clock

end Questline
