import Questline.Progress.Codec
import Questline.Proofs.Json.Canonical
import Questline.Proofs.Time.Stamp
set_option autoImplicit false

/-!
# Saves, written and read again

A game whose times the clock can show and whose boosts come from the shop is read back
from its save, whatever the clock of the reader shows and wherever the save stands.  In what
order the fields of a record stand does not matter to its reader, so that a save is read back
from either form in which it is written.
-/

namespace Questline

open Time (Instant)
open Json (Tidy TidyItems TidyFields)

/-! ## Fields -/

namespace Json

variable {form : Form}

/-- A course of reading whose next part succeeds. -/
theorem bind_of_eq_some {α β : Type} {x : Option α} {a : α} (h : x = some a) (f : α → Option β) :
    (x >>= f) = f a := by
  rw [h]
  rfl

namespace Fields

/-- An object that has only known names, each once, gives its fields. -/
theorem bind_ofJson?_obj {β : Type} {names : List String} {fields : List (String × Json)}
    (hknown : (fields.map Prod.fst).all names.contains = true)
    (hnodup : (fields.map Prod.fst).Nodup) (f : Fields → Option β) :
    (ofJson? names (.obj fields) >>= f) = f ⟨fields⟩ := by
  have hfilter : (fields.filter fun f => names.contains f.1) = fields := by
    refine List.filter_eq_self.2 fun f hf => ?_
    exact List.all_eq_true.1 hknown f.1 (List.mem_map_of_mem hf)
  refine bind_of_eq_some ?_ f
  rw [ofJson?]
  simp only [hfilter, if_pos hnodup]

/-- Reading that asks for fields by their names finds them in whatever order they stand. -/
theorem bind_ofJson?_of_perm {β : Type} {names : List String} {fields fields' : List (String × Json)}
    {f : Fields → Option β}
    (hf : ∀ fs fs' : Fields, (∀ name, fs.present.lookup name = fs'.present.lookup name) →
      f fs = f fs')
    (h : fields.Perm fields') :
    (ofJson? names (.obj fields) >>= f) = (ofJson? names (.obj fields') >>= f) := by
  have hknown := h.filter fun f => names.contains f.1
  have hnames := hknown.map Prod.fst
  rw [ofJson?, ofJson?]
  by_cases hnodup : ((fields.filter fun f => names.contains f.1).map Prod.fst).Nodup
  · rw [if_pos hnodup, if_pos (hnames.nodup_iff.1 hnodup)]
    exact hf _ _ fun name => Entries.lookup_eq_of_perm hknown hnodup name
  · rw [if_neg hnodup, if_neg (mt hnames.nodup_iff.2 hnodup)]

variable {α β : Type} {fs : Fields} {name : String} {read : Json → Option α} {j : Json} {a : α}

/-- A field that is there decides what is read, not its default. -/
theorem bind_getD {default : α} (h : fs.present.lookup name = some j) (hj : read j = some a)
    (f : α → Option β) : (fs.getD name read default >>= f) = f a := by
  refine bind_of_eq_some ?_ f
  rw [getD, h]
  exact hj

theorem bind_need (h : fs.present.lookup name = some j) (hj : read j = some a) (f : α → Option β) :
    (fs.need name read >>= f) = f a := by
  refine bind_of_eq_some ?_ f
  rw [need, h]
  exact hj

end Fields

theorem str?_str (s : String) : str? (.str s) = some s := rfl

theorem bool?_bool (b : Bool) : bool? (.bool b) = some b := rfl

theorem word32?_nat (n : UInt32) : word32? (.nat n.toNat) = some n := by
  have h := n.toNat_lt
  rw [word32?, if_pos (by simp; omega)]
  simp

theorem word64?_nat (n : UInt64) : word64? (.nat n.toNat) = some n := by
  have h := n.toNat_lt
  rw [word64?, if_pos (by simp; omega)]
  simp

theorem instant?_ofInstant {t : Instant} (h : t.Valid) : instant? (ofInstant t) = some t :=
  Time.ofStamp?_stamp h

theorem float?_ofFloat {x : Float} (h : x.isFinite = true) : float? (ofFloat x) = some x := by
  rw [ofFloat, if_pos h]
  rfl

theorem tidy_nat32 (n : UInt32) : Tidy form (.nat n.toNat) := by
  have h := n.toNat_lt
  exact ⟨by omega, by omega⟩

theorem tidy_nat64 (n : UInt64) : Tidy form (.nat n.toNat) := by
  have h := n.toNat_lt
  exact ⟨by omega, by omega⟩

theorem tidy_ofFloat {x : Float} (h : IsBoost x) : Tidy form (ofFloat x) := by
  rw [ofFloat, if_pos (isFinite_boost h)]
  exact h

/-- A list is read back if its items are. -/
theorem mapM_map_some {α β : Type} {read : β → Option α} {write : α → β} {l : List α}
    (h : ∀ a ∈ l, read (write a) = some a) : (l.map write).mapM read = some l := by
  induction l with
  | nil => rfl
  | cons a r ih =>
    simp [h a List.mem_cons_self, ih fun b hb => h b (List.mem_cons_of_mem _ hb)]

/-- A map is read back if its values are. -/
theorem map?_entries {α : Type} {read : Json → Option α} {write : α → Json} {m : Keyed α}
    (h : ∀ e ∈ m.entries, read (write e.2) = some e.2) :
    map? read (.obj (m.entries.map fun e => (e.1, write e.2))) = some m := by
  have hread : (m.entries.map fun e => (e.1, write e.2)).mapM
      (fun e : String × Json => (read e.2).map fun a => (e.1, a)) = some m.entries :=
    mapM_map_some fun e he => by simp [h e he]
  rw [map?]
  simp only [hread, Option.map_some, Keyed.ofList_entries]

theorem tidy_entries {α : Type} {write : α → Json} {m : Keyed α}
    (h : ∀ e ∈ m.entries, Tidy form (write e.2)) :
    Tidy form (.obj (m.entries.map fun e => (e.1, write e.2))) := by
  refine ⟨fun _ => m.sorted.map write, tidyFields_iff.2 fun e he => ?_⟩
  obtain ⟨a, ha, rfl⟩ := List.mem_map.1 he
  exact h a ha

end Json

/-! ## The parts of a save -/

variable {form : Json.Form}

section

variable {κ : Type} {l : List κ} {id : κ → String} (f : κ → Option UInt32)

/-- The names under which counts are listed are some of the names of all that may be counted. -/
theorem Json.pairwise_counts {r : String → String → Prop} (h : (l.map id).Pairwise r) :
    ((l.filterMap fun k => (f k).map fun n => (id k, Json.nat n.toNat)).map Prod.fst).Pairwise r := by
  refine List.pairwise_map.2 (List.pairwise_filterMap.2 ((List.pairwise_map.1 h).imp ?_))
  intro a b hab e he e' he'
  obtain ⟨n, -, rfl⟩ := Option.map_eq_some_iff.1 he
  obtain ⟨n', -, rfl⟩ := Option.map_eq_some_iff.1 he'
  exact hab

theorem Json.tidy_counts (hnodup : (l.map id).Nodup) :
    Tidy form (form.object (l.filterMap fun k => (f k).map fun n => (id k, .nat n.toNat))) := by
  refine Form.tidy_object (pairwise_counts f hnodup) (tidyFields_iff.2 fun e he => ?_)
  obtain ⟨k, -, hk⟩ := List.mem_filterMap.1 he
  obtain ⟨n, -, rfl⟩ := Option.map_eq_some_iff.1 hk
  exact tidy_nat32 n

theorem Json.depth_counts_le (hnodup : (l.map id).Nodup) :
    depth (form.object (l.filterMap fun k => (f k).map fun n => (id k, .nat n.toNat))) ≤ 1 := by
  refine Form.depth_object_le (pairwise_counts f hnodup) fun e he => ?_
  obtain ⟨k, -, hk⟩ := List.mem_filterMap.1 he
  obtain ⟨n, -, rfl⟩ := Option.map_eq_some_iff.1 hk
  exact Nat.le_refl 0

/-- Data lists counts in the order of the names. -/
theorem Json.counts_data {l' : List κ} (hperm : l.Perm l') (hsorted : (l'.map id).Pairwise (· < ·)) :
    Form.data.object (l.filterMap fun k => (f k).map fun n => (id k, .nat n.toNat)) =
      .obj (l'.filterMap fun k => (f k).map fun n => (id k, .nat n.toNat)) :=
  congrArg Json.obj (Keyed.entries_ofList_of_perm (hperm.filterMap _)
    (List.pairwise_map.1 (pairwise_counts f hsorted)))

end

theorem SkillLevels.ofJson?_toJson (c : SkillLevels) : ofJson? (c.toJson form) = some c := by
  cases form with
  | text =>
    rw [toJson, Json.Form.object]
    obtain ⟨_ | a, _ | b, _ | c⟩ := c <;>
      simp [ofJson?, Json.word32?_nat, get?, set, empty, Skill.id, Skill.ofId?, Skill.all]
  | data =>
    have hperm : Skill.all.Perm [.files, .navigation, .text] := by decide
    rw [toJson, Json.counts_data c.get? hperm (by decide)]
    obtain ⟨_ | a, _ | b, _ | c⟩ := c <;>
      simp [ofJson?, Json.word32?_nat, get?, set, empty, Skill.id, Skill.ofId?, Skill.all]

theorem ZoneCounts.ofJson?_toJson (c : ZoneCounts) : ofJson? (c.toJson form) = some c := by
  cases form with
  | text =>
    rw [toJson, Json.Form.object]
    obtain ⟨_ | a, _ | b, _ | c⟩ := c <;>
      simp [ofJson?, Json.word32?_nat, get?, set, empty, Zone.id, Zone.ofId?, Zone.all]
  | data =>
    have hperm : Zone.all.Perm [.forest, .caves, .plains] := by decide
    rw [toJson, Json.counts_data c.get? hperm (by decide)]
    obtain ⟨_ | a, _ | b, _ | c⟩ := c <;>
      simp [ofJson?, Json.word32?_nat, get?, set, empty, Zone.id, Zone.ofId?, Zone.all]

theorem SkillLevels.tidy_toJson (c : SkillLevels) : Tidy form (c.toJson form) :=
  Json.tidy_counts c.get? (by decide)

theorem ZoneCounts.tidy_toJson (c : ZoneCounts) : Tidy form (c.toJson form) :=
  Json.tidy_counts c.get? (by decide)

theorem Player.ofJson?_of_perm (fs fs' : List (String × Json)) (h : fs.Perm fs') :
    ofJson? (.obj fs) = ofJson? (.obj fs') :=
  Json.Fields.bind_ofJson?_of_perm (fun _ _ hfs => by simp only [Json.Fields.getD, hfs]) h

theorem Player.ofJson?_toJson (p : Player) : ofJson? (p.toJson form) = some p := by
  refine (Json.Form.read_object ofJson?_of_perm (by simp)).trans ?_
  unfold ofJson?
  -- The fields are read one by one: carried out as a whole, the course of reading would have
  -- the bounds of the words unfolded.
  refine (Json.Fields.bind_ofJson?_obj (by simp) (by simp) _).trans ?_
  refine (Json.Fields.bind_getD rfl (Json.word32?_nat _) _).trans ?_
  refine (Json.Fields.bind_getD rfl (Json.word64?_nat _) _).trans ?_
  refine (Json.Fields.bind_getD rfl (Json.word64?_nat _) _).trans ?_
  exact Json.Fields.bind_getD rfl p.skills.ofJson?_toJson _

theorem Player.tidy_toJson (p : Player) : Tidy form (p.toJson form) :=
  Json.Form.tidy_object (by simp)
    ⟨Json.tidy_nat32 _, Json.tidy_nat64 _, Json.tidy_nat64 _, p.skills.tidy_toJson, trivial⟩

theorem Upgrades.ofJson?_of_perm (fs fs' : List (String × Json)) (h : fs.Perm fs') :
    ofJson? (.obj fs) = ofJson? (.obj fs') :=
  Json.Fields.bind_ofJson?_of_perm (fun _ _ hfs => by simp only [Json.Fields.getD, hfs]) h

theorem Upgrades.ofJson?_toJson {u : Upgrades} (hx : Json.IsBoost u.xpBoost)
    (hc : Json.IsBoost u.coinBoost) : ofJson? (u.toJson form) = some u := by
  have hxpBoost := Json.float?_ofFloat (Json.isFinite_boost hx)
  have hcoinBoost := Json.float?_ofFloat (Json.isFinite_boost hc)
  refine (Json.Form.read_object ofJson?_of_perm (by simp)).trans ?_
  unfold ofJson?
  refine (Json.Fields.bind_ofJson?_obj (by simp) (by simp) _).trans ?_
  refine (Json.Fields.bind_getD rfl hxpBoost _).trans ?_
  refine (Json.Fields.bind_getD rfl hcoinBoost _).trans ?_
  refine (Json.Fields.bind_getD rfl (Json.word32?_nat _) _).trans ?_
  exact Json.Fields.bind_getD rfl (Json.word32?_nat _) _

theorem Upgrades.tidy_toJson {u : Upgrades} (hx : Json.IsBoost u.xpBoost)
    (hc : Json.IsBoost u.coinBoost) : Tidy form (u.toJson form) :=
  Json.Form.tidy_object (by simp)
    ⟨Json.tidy_ofFloat hx, Json.tidy_ofFloat hc, Json.tidy_nat32 _, Json.tidy_nat32 _, trivial⟩

theorem QuestStatus.ofJson?_of_perm (fs fs' : List (String × Json)) (h : fs.Perm fs') :
    ofJson? (.obj fs) = ofJson? (.obj fs') :=
  Json.Fields.bind_ofJson?_of_perm (fun _ _ hfs => by simp only [Json.Fields.need, hfs]) h

theorem QuestStatus.ofJson?_toJson {s : QuestStatus} (h : s.completedAt.Valid) :
    ofJson? (s.toJson form) = some s := by
  refine (Json.Form.read_object ofJson?_of_perm (by simp)).trans ?_
  unfold ofJson?
  refine (Json.Fields.bind_ofJson?_obj (by simp) (by simp) _).trans ?_
  refine (Json.Fields.bind_need rfl (Json.bool?_bool _) _).trans ?_
  exact Json.Fields.bind_need rfl (Json.instant?_ofInstant h) _

theorem QuestStatus.tidy_toJson (s : QuestStatus) : Tidy form (s.toJson form) :=
  Json.Form.tidy_object (by simp) ⟨trivial, trivial, trivial⟩

theorem LogEntry.ofJson?_of_perm (fs fs' : List (String × Json)) (h : fs.Perm fs') :
    ofJson? (.obj fs) = ofJson? (.obj fs') :=
  Json.Fields.bind_ofJson?_of_perm (fun _ _ hfs => by simp only [Json.Fields.need, hfs]) h

theorem LogEntry.ofJson?_toJson {e : LogEntry} (h : e.time.Valid) :
    ofJson? (e.toJson form) = some e := by
  refine (Json.Form.read_object ofJson?_of_perm (by simp)).trans ?_
  unfold ofJson?
  refine (Json.Fields.bind_ofJson?_obj (by simp) (by simp) _).trans ?_
  refine (Json.Fields.bind_need rfl (Json.str?_str _) _).trans ?_
  refine (Json.Fields.bind_need rfl (Json.str?_str _) _).trans ?_
  exact Json.Fields.bind_need rfl (Json.instant?_ofInstant h) _

theorem LogEntry.tidy_toJson (e : LogEntry) : Tidy form (e.toJson form) :=
  Json.Form.tidy_object (by simp) ⟨trivial, trivial, trivial, trivial⟩

theorem Streak.ofJson?_of_perm (clock : Instant) (fs fs' : List (String × Json))
    (h : fs.Perm fs') : ofJson? clock (.obj fs) = ofJson? clock (.obj fs') :=
  Json.Fields.bind_ofJson?_of_perm (fun _ _ hfs => by simp only [Json.Fields.getD, hfs]) h

theorem Streak.ofJson?_toJson {s : Streak} (h : s.lastCheck.Valid) (clock : Instant) :
    ofJson? clock (s.toJson form) = some s := by
  refine (Json.Form.read_object (ofJson?_of_perm clock) (by simp)).trans ?_
  unfold ofJson?
  refine (Json.Fields.bind_ofJson?_obj (by simp) (by simp) _).trans ?_
  refine (Json.Fields.bind_getD rfl (Json.instant?_ofInstant h) _).trans ?_
  exact Json.Fields.bind_getD rfl (Json.word32?_nat _) _

theorem Streak.tidy_toJson (s : Streak) : Tidy form (s.toJson form) :=
  Json.Form.tidy_object (by simp) ⟨trivial, Json.tidy_nat32 _, trivial⟩

/-! ### The account -/

theorem Account.tidy_toJson (a : Account) : Tidy form (a.toJson form) := by
  cases a with
  | «local» n => exact Json.Form.tidy_object (by simp) ⟨trivial, trivial, trivial⟩
  | cloud n id => exact Json.Form.tidy_object (by simp) ⟨trivial, trivial, trivial, trivial⟩

theorem Json.kept?_str {around : Nat} (h : around ≤ maxDepth) (s : String) :
    kept? around (.str s) = some (.str s) := by
  rw [kept?, if_pos (by simpa [depth] using h), canonical?]
  all_goals simp

/-- Whether all parts can be read does not depend on their order. -/
theorem mapM_bind_of_perm {α β γ : Type} {f : α → Option β} {l l' : List α} (h : l.Perm l')
    (x : Option γ) : (l.mapM f >>= fun _ => x) = (l'.mapM f >>= fun _ => x) := by
  induction h with
  | nil => rfl
  | cons a _ ih =>
    simp only [List.mapM_cons, bind_assoc, pure_bind]
    exact congrArg (f a >>= ·) (funext fun _ => ih)
  | swap a b l =>
    simp only [List.mapM_cons, bind_assoc, pure_bind]
    cases f a <;> cases f b <;> rfl
  | trans _ _ ih ih' => exact ih.trans ih'

theorem Account.ofParts?_of_perm (mode : String) {fs fs' : List (String × Json)}
    (h : fs.Perm fs') : ofParts? mode (.obj fs) = ofParts? mode (.obj fs') := by
  unfold ofParts?
  split
  · exact Json.Fields.bind_ofJson?_of_perm (fun _ _ hfs => by simp only [Json.Fields.need, hfs]) h
  · split
    · exact Json.Fields.bind_ofJson?_of_perm (fun _ _ hfs => by simp only [Json.Fields.need, hfs]) h
    · rfl

theorem Account.ofJson?_of_perm (around : Nat) (fs fs' : List (String × Json)) (h : fs.Perm fs') :
    ofJson? around (.obj fs) = ofJson? around (.obj fs') := by
  have hothers := h.filter fun f => f.1 != "mode"
  have htags := h.filter fun f => f.1 == "mode"
  unfold ofJson?
  dsimp only
  generalize fs.filter (fun f => f.1 == "mode") = tags at htags ⊢
  generalize fs'.filter (fun f => f.1 == "mode") = tags' at htags ⊢
  match tags, htags with
  | [], htags =>
    obtain rfl := htags.symm.eq_nil
    rfl
  | [(k, tag)], htags =>
    rw [List.perm_singleton.1 htags.symm]
    dsimp only
    refine (mapM_bind_of_perm hothers _).trans (congrArg (_ >>= ·) (funext fun _ => ?_))
    exact congrArg (tag.str? >>= ·) (funext fun mode => ofParts?_of_perm mode hothers)
  | _ :: _ :: _, htags =>
    match tags', htags.length_eq with
    | _ :: _ :: _, _ => rfl

theorem Account.ofParts?_local (n : String) :
    ofParts? "local" (.obj [("username", .str n)]) = some (.local n) := by
  rw [ofParts?, if_pos rfl]
  refine (Json.Fields.bind_ofJson?_obj (by simp) (by simp) _).trans ?_
  exact Json.Fields.bind_need rfl (Json.str?_str _) _

theorem Account.ofParts?_cloud (n id : String) :
    ofParts? "cloud" (.obj [("username", .str n), ("profileId", .str id)]) = some (.cloud n id) := by
  rw [ofParts?, if_neg (by decide), if_pos rfl]
  refine (Json.Fields.bind_ofJson?_obj (by simp) (by simp) _).trans ?_
  refine (Json.Fields.bind_need rfl (Json.str?_str _) _).trans ?_
  exact Json.Fields.bind_need rfl (Json.str?_str _) _

theorem Account.ofJson?_toJson (a : Account) {around : Nat} (h : around < Json.maxDepth) :
    ofJson? around (a.toJson form) = some a := by
  cases a with
  | «local» n =>
    refine (Json.Form.read_object (ofJson?_of_perm around) (by simp)).trans ?_
    rw [ofJson?]
    simp [Json.kept?_str h, Json.str?, ofParts?_local]
  | cloud n id =>
    refine (Json.Form.read_object (ofJson?_of_perm around) (by simp)).trans ?_
    rw [ofJson?]
    simp [Json.kept?_str h, Json.str?, ofParts?_cloud]

theorem Account.ofNullable?_ofOption (a : Option Account) {around : Nat}
    (h : around < Json.maxDepth) :
    ofNullable? around (Json.ofOption (Account.toJson form) a) = some a := by
  cases a with
  | none => rfl
  | some a =>
    obtain ⟨fs, hobj⟩ : ∃ fs, a.toJson form = .obj fs := by cases a <;> cases form <;> exact ⟨_, rfl⟩
    have hread : ofJson? around (a.toJson form) = some a := a.ofJson?_toJson h
    rw [Json.ofOption, hobj] at *
    exact congrArg (Option.map some) hread

/-! ## A whole save -/

/-- A game that its save can hold: the clock can show its times, and its boosts were
bought in the shop. -/
structure Progress.Storable (p : Progress) : Prop where
  xpBoost : Json.IsBoost p.upgrades.xpBoost
  coinBoost : Json.IsBoost p.upgrades.coinBoost
  quests : ∀ e ∈ p.quests.entries, e.2.completedAt.Valid
  log : ∀ e ∈ p.log, e.time.Valid
  streak : p.streak.lastCheck.Valid
  lastActive : p.lastActive.Valid
  updatedAt : p.updatedAt.Valid

namespace Progress

/-- A save is tidy in either form. -/
theorem tidy_toJson {p : Progress} (h : p.Storable) : Tidy form (p.toJson form) := by
  have haccount : Tidy form (Json.ofOption (Account.toJson form) p.account) := by
    cases p.account with
    | none => trivial
    | some a => exact a.tidy_toJson
  have hlog : Tidy form (.arr (p.log.map (LogEntry.toJson form))) := by
    refine Json.tidyItems_iff.2 fun j hj => ?_
    obtain ⟨e, -, rfl⟩ := List.mem_map.1 hj
    exact e.tidy_toJson
  have hquests : Tidy form (.obj (p.quests.entries.map fun e => (e.1, e.2.toJson form))) :=
    Json.tidy_entries fun e _ => e.2.tidy_toJson
  exact Json.Form.tidy_object (by simp) ⟨p.player.tidy_toJson,
    Upgrades.tidy_toJson h.xpBoost h.coinBoost, hquests, p.completedByZone.tidy_toJson, hlog,
    p.streak.tidy_toJson, trivial, haccount, trivial, trivial⟩

/-- What a save gives does not depend on the order in which its fields stand. -/
theorem ofJson?_of_perm (clock : Instant) (around : Nat) (fs fs' : List (String × Json))
    (h : fs.Perm fs') : ofJson? clock around (.obj fs) = ofJson? clock around (.obj fs') :=
  Json.Fields.bind_ofJson?_of_perm (fun _ _ hfs => by simp only [Json.Fields.getD, hfs]) h

/-- A game is read back from its save in either form. -/
theorem ofJson?_toJson (form : Json.Form) {p : Progress} (h : p.Storable) (clock : Instant)
    {around : Nat} (haround : around + 1 < Json.maxDepth) :
    ofJson? clock around (p.toJson form) = some p := by
  have hquests : Json.map? QuestStatus.ofJson?
      (.obj (p.quests.entries.map fun e => (e.1, e.2.toJson form))) = some p.quests :=
    Json.map?_entries fun e he => QuestStatus.ofJson?_toJson (h.quests e he)
  have hlog : Json.list? LogEntry.ofJson? (.arr (p.log.map (LogEntry.toJson form))) =
      some p.log :=
    Json.mapM_map_some fun e he => LogEntry.ofJson?_toJson (h.log e he)
  refine (Json.Form.read_object (ofJson?_of_perm clock around) (by simp)).trans ?_
  unfold ofJson?
  refine (Json.Fields.bind_ofJson?_obj (by simp) (by simp) _).trans ?_
  refine (Json.Fields.bind_getD rfl p.player.ofJson?_toJson _).trans ?_
  refine (Json.Fields.bind_getD rfl (Upgrades.ofJson?_toJson h.xpBoost h.coinBoost) _).trans ?_
  refine (Json.Fields.bind_getD rfl hquests _).trans ?_
  refine (Json.Fields.bind_getD rfl p.completedByZone.ofJson?_toJson _).trans ?_
  refine (Json.Fields.bind_getD rfl hlog _).trans ?_
  refine (Json.Fields.bind_getD rfl (Streak.ofJson?_toJson h.streak clock) _).trans ?_
  refine (Json.Fields.bind_getD rfl (Json.instant?_ofInstant h.lastActive) _).trans ?_
  refine (Json.Fields.bind_getD rfl (Account.ofNullable?_ofOption p.account haround) _).trans ?_
  exact Json.Fields.bind_getD rfl (Json.instant?_ofInstant h.updatedAt) _

/-- No save lies deep: the deepest parts are the entries of its lists. -/
theorem depth_toJson_le (p : Progress) : Json.depth (p.toJson form) ≤ 3 := by
  have hflat : ∀ {fields : List (String × Json)}, (fields.map Prod.fst).Nodup →
      (∀ e ∈ fields, Json.depth e.2 ≤ 0) → Json.depth (form.object fields) ≤ 1 :=
    fun hnodup h => Json.Form.depth_object_le hnodup h
  have hfloat : ∀ x, Json.depth (Json.ofFloat x) = 0 := fun x => by
    unfold Json.ofFloat
    split <;> rfl
  have haccount : Json.depth (Json.ofOption (Account.toJson form) p.account) ≤ 1 := by
    cases p.account with
    | none => exact Nat.zero_le 1
    | some a =>
      cases a <;> exact hflat (by simp) (by simp [Json.depth])
  have hlog : Json.depth (.arr (p.log.map (LogEntry.toJson form))) ≤ 2 := by
    refine Nat.succ_le_succ (Json.depthItems_le fun j hj => ?_)
    obtain ⟨e, -, rfl⟩ := List.mem_map.1 hj
    exact hflat (by simp) (by simp [Json.ofInstant, Json.depth])
  have hquests : Json.depth (.obj (p.quests.entries.map fun e => (e.1, e.2.toJson form))) ≤ 2 := by
    refine Nat.succ_le_succ (Json.depthFields_le fun e he => ?_)
    obtain ⟨q, -, rfl⟩ := List.mem_map.1 he
    exact hflat (by simp) (by simp [Json.ofInstant, Json.depth])
  have hzones : Json.depth (p.completedByZone.toJson form) ≤ 1 :=
    Json.depth_counts_le _ (by decide)
  have hskills : Json.depth (p.player.skills.toJson form) ≤ 1 :=
    Json.depth_counts_le _ (by decide)
  have hplayer : Json.depth (p.player.toJson form) ≤ 2 :=
    Json.Form.depth_object_le (by simp) (by simp [Json.depth, hskills])
  have hstreak : Json.depth (p.streak.toJson form) ≤ 1 :=
    hflat (by simp) (by simp [Json.ofInstant, Json.depth])
  have hupgrades : Json.depth (p.upgrades.toJson form) ≤ 1 :=
    hflat (by simp) (by simp [Json.depth, hfloat])
  refine Json.Form.depth_object_le (by simp) fun e he => ?_
  simp only [List.mem_cons, List.not_mem_nil, or_false] at he
  rcases he with rfl | rfl | rfl | rfl | rfl | rfl | rfl | rfl | rfl
  · exact hplayer
  · exact Nat.le_succ_of_le hupgrades
  · exact hquests
  · exact Nat.le_succ_of_le hzones
  · exact hlog
  · exact Nat.le_succ_of_le hstreak
  · exact Nat.zero_le 2
  · exact Nat.le_succ_of_le haccount
  · exact Nat.zero_le 2

/-- A game is read back from its text, repaired. -/
theorem ofText?_toText {p : Progress} (h : p.Storable) (clock : Instant) :
    ofText? clock p.toText = some p.repair := by
  unfold ofText? toText
  refine (Json.bind_of_eq_some (Json.parse?_print (tidy_toJson h)) _).trans ?_
  exact Json.bind_of_eq_some (ofJson?_toJson .text h clock (by decide)) _

end Progress

end Questline
