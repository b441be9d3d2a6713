import Questline.Proofs.Keyed
import Questline.Sync.Record
set_option autoImplicit false

/-!
# Progress: whether a save can be read

The clock only fills in the times that a save lacks.  Whether data is a save at
all is decided by the data, and by how deep inside other data it lies: where it
can be read, it reads the same as alone.
-/

namespace Questline

open Time (Instant)

/-- Two courses of reading agree on success if their parts do. -/
theorem isSome_bind_congr {α β γ δ : Type} {x : Option α} {y : Option β} {f : α → Option γ}
    {g : β → Option δ} (h : x.isSome = y.isSome) (hfg : ∀ a b, (f a).isSome = (g b).isSome) :
    (x.bind f).isSome = (y.bind g).isSome := by
  cases x <;> cases y <;> simp_all
  exact hfg _ _

theorem isSome_mapM_congr {α β γ : Type} {f : α → Option β} {g : α → Option γ}
    (h : ∀ a, (f a).isSome = (g a).isSome) (l : List α) :
    (l.mapM f).isSome = (l.mapM g).isSome := by
  induction l with
  | nil => rfl
  | cons a l ih =>
    rw [List.mapM_cons, List.mapM_cons]
    exact isSome_bind_congr (h a) fun _ _ => isSome_bind_congr ih fun _ _ => rfl

theorem Json.isSome_map? {α β : Type} {read : Json → Option α} {read' : Json → Option β}
    (h : ∀ j, (read j).isSome = (read' j).isSome) (j : Json) :
    (map? read j).isSome = (map? read' j).isSome := by
  cases j with
  | obj fields =>
    rw [map?, map?, Option.isSome_map, Option.isSome_map]
    refine isSome_mapM_congr (fun e => ?_) fields
    rw [Option.isSome_map, Option.isSome_map]
    exact h e.2
  | _ => rfl

/-- A default decides nothing about success. -/
theorem Json.Fields.isSome_getD {α : Type} (fs : Json.Fields) (name : String)
    {read read' : Json → Option α} (h : ∀ j, (read j).isSome = (read' j).isSome) (d d' : α) :
    (fs.getD name read d).isSome = (fs.getD name read' d').isSome := by
  unfold Json.Fields.getD
  split
  · exact h _
  · rfl

theorem Streak.isSome_ofJson? (clock clock' : Instant) (j : Json) :
    (Streak.ofJson? clock j).isSome = (Streak.ofJson? clock' j).isSome := by
  unfold Streak.ofJson?
  cases Json.Fields.ofJson? ["lastCheck", "days"] j with
  | none => rfl
  | some fs =>
    simp only [Option.bind_eq_bind, Option.bind_some]
    exact isSome_bind_congr (fs.isSome_getD "lastCheck" (fun _ => rfl) clock clock')
      fun _ _ => isSome_bind_congr rfl fun _ _ => rfl

theorem Progress.isSome_ofJson? (clock clock' : Instant) (around : Nat) (j : Json) :
    (Progress.ofJson? clock around j).isSome = (Progress.ofJson? clock' around j).isSome := by
  unfold Progress.ofJson?
  cases Json.Fields.ofJson? ["player", "upgrades", "quests", "completedByZone", "commandLog",
    "streak", "lastActive", "account", "updatedAt"] j with
  | none => rfl
  | some fs =>
    simp only [Option.bind_eq_bind, Option.bind_some]
    refine isSome_bind_congr rfl fun _ _ => ?_
    refine isSome_bind_congr rfl fun _ _ => ?_
    refine isSome_bind_congr rfl fun _ _ => ?_
    refine isSome_bind_congr rfl fun _ _ => ?_
    refine isSome_bind_congr rfl fun _ _ => ?_
    refine isSome_bind_congr (fs.isSome_getD "streak" (Streak.isSome_ofJson? clock clock') _ _)
      fun _ _ => ?_
    refine isSome_bind_congr (fs.isSome_getD "lastActive" (fun _ => rfl) _ _) fun _ _ => ?_
    refine isSome_bind_congr rfl fun _ _ => ?_
    exact isSome_bind_congr (fs.isSome_getD "updatedAt" (fun _ => rfl) _ _) fun _ _ => rfl

/-! ## Inside other data -/

theorem Json.kept?_of_deeper {around : Nat} {j kept : Json}
    (h : kept? (around + 1) j = some kept) : kept? around j = some kept := by
  unfold kept? at h ⊢
  split at h
  · rw [if_pos (by omega), h]
  · cases h

/-- A list of which every item can be read by one reader can be read by another that reads
whatever the first does. -/
theorem mapM_eq_some_mono {α β : Type} {f g : α → Option β} {l : List α} {bs : List β}
    (h : l.mapM f = some bs) (hfg : ∀ a b, f a = some b → g a = some b) : l.mapM g = some bs := by
  induction l generalizing bs with
  | nil => exact h
  | cons a l ih =>
    simp only [List.mapM_cons, Option.pure_def, Option.bind_eq_bind, Option.bind_eq_some_iff,
      Option.some.injEq] at h ⊢
    obtain ⟨b, hb, r, hr, rfl⟩ := h
    exact ⟨b, hfg a b hb, r, ih hr, rfl⟩

theorem Account.ofJson?_of_deeper {around : Nat} {j : Json} {a : Account}
    (h : ofJson? (around + 1) j = some a) : ofJson? around j = some a := by
  cases j with
  | obj fields =>
    unfold ofJson? at h ⊢
    dsimp only at h ⊢
    split at h
    · rename_i k tag htag
      simp only [Option.bind_eq_bind, Option.bind_eq_some_iff] at h ⊢
      obtain ⟨others, hothers, mode, hmode, h⟩ := h
      exact ⟨others, mapM_eq_some_mono hothers fun _ _ => Json.kept?_of_deeper, mode, hmode, h⟩
    · cases h
  | arr items =>
    cases items with
    | nil => cases h
    | cons tag items =>
      unfold ofJson? at h ⊢
      simp only [Option.bind_eq_bind, Option.bind_eq_some_iff] at h ⊢
      obtain ⟨others, hothers, mode, hmode, h⟩ := h
      exact ⟨others, mapM_eq_some_mono hothers fun _ _ => Json.kept?_of_deeper, mode, hmode, h⟩
  | _ => cases h

theorem Account.ofNullable?_of_deeper {around : Nat} {j : Json} {a : Option Account}
    (h : ofNullable? (around + 1) j = some a) : ofNullable? around j = some a := by
  unfold ofNullable? at h ⊢
  split at h
  · exact h
  · obtain ⟨account, haccount, rfl⟩ := Option.map_eq_some_iff.1 h
    simp only [Account.ofJson?_of_deeper haccount, Option.map_some]

theorem Json.Fields.getD_mono {α : Type} {fs : Json.Fields} {name : String}
    {read read' : Json → Option α} {d a : α} (h : fs.getD name read d = some a)
    (hread : ∀ j, read j = some a → read' j = some a) : fs.getD name read' d = some a := by
  unfold Json.Fields.getD at h ⊢
  split at h
  · exact hread _ h
  · exact h

/-- A save that can be read inside other data reads the same where less is around it. -/
theorem Progress.ofJson?_of_deeper {clock : Instant} {around : Nat} {j : Json} {p : Progress}
    (h : ofJson? clock (around + 1) j = some p) : ofJson? clock around j = some p := by
  unfold ofJson? at h ⊢
  simp only [Option.bind_eq_bind, Option.bind_eq_some_iff] at h ⊢
  obtain ⟨fs, hfs, player, hplayer, upgrades, hupgrades, quests, hquests, counts, hcounts, log, hlog,
    streak, hstreak, lastActive, hactive, account, hown, updatedAt, hupdated, h⟩ := h
  exact ⟨fs, hfs, player, hplayer, upgrades, hupgrades, quests, hquests, counts, hcounts, log, hlog,
    streak, hstreak, lastActive, hactive, account, Json.Fields.getD_mono hown fun _ => Account.ofNullable?_of_deeper,
    updatedAt, hupdated, h⟩

/-! ## Under a key -/

theorem lookup_map {α β γ : Type} [BEq α] (l : List (α × β)) (f : β → γ) (a : α) :
    (l.map fun e => (e.1, f e.2)).lookup a = (l.lookup a).map f := by
  induction l with
  | nil => rfl
  | cons e r ih =>
    obtain ⟨k, v⟩ := e
    rw [List.map_cons, List.lookup_cons, List.lookup_cons, ih]
    cases a == k <;> rfl

/-- The entries of a map that could be read are those of the object, each read. -/
theorem Json.map_entries_of_mapM {α : Type} {read : Json → Option α} {fields : List (String × Json)}
    {es : List (String × α)}
    (h : fields.mapM (fun e => (read e.2).map fun a => (e.1, a)) = some es) :
    es.map (fun e => (e.1, some e.2)) = fields.map fun e => (e.1, read e.2) := by
  induction fields generalizing es with
  | nil =>
    cases h
    rfl
  | cons e fields ih =>
    simp only [List.mapM_cons, Option.pure_def, Option.bind_eq_bind, Option.bind_eq_some_iff,
      Option.map_eq_some_iff, Option.some.injEq] at h
    obtain ⟨_, ⟨a, ha, rfl⟩, r, hr, rfl⟩ := h
    rw [List.map_cons, List.map_cons, ih hr, ha]

/-- What a map has under a key is what the last value there gives. -/
theorem Json.get?_of_map?_eq_some {α : Type} {read : Json → Option α}
    {fields : List (String × Json)} {m : Keyed α} (h : map? read (.obj fields) = some m)
    {key : String} {j : Json} (hj : field? key (.obj fields) = some j) :
    ∃ a, read j = some a ∧ m.get? key = some a := by
  rw [map?, Option.map_eq_some_iff] at h
  obtain ⟨es, hes, rfl⟩ := h
  have hlookup : (es.reverse.lookup key).map some = (fields.reverse.lookup key).map read := by
    rw [← lookup_map, ← lookup_map, List.map_reverse, List.map_reverse, map_entries_of_mapM hes]
  rw [show fields.reverse.lookup key = some j from hj, Option.map_some,
    Option.map_eq_some_iff] at hlookup
  obtain ⟨a, ha, hsome⟩ := hlookup
  rw [Keyed.get?_ofList]
  exact ⟨a, hsome.symm, ha⟩

/-! ## Records -/

/-- Whether a record holds a game does not depend on the clock. -/
theorem SaveRecord.isSome_progress? (clock clock' : Instant) (r : SaveRecord) :
    (r.progress? clock).isSome = (r.progress? clock').isSome :=
  isSome_bind_congr (Progress.isSome_ofJson? clock clock' 0 r.payload) fun _ _ => rfl

end Questline
