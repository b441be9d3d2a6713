import Questline.Proofs.Tree.Resolution
import Mathlib.Data.List.Flatten
import Mathlib.Data.List.Nodup
set_option autoImplicit false

/-!
# The paths below the current directory

Below a directory there is a place for every way down, and each of them is listed once, before
the places below it.  The list is made of names joined by slashes; since every name can be
spelled, no two of these paths are the same, and each leads from the current directory to the
place that it stands for.
-/

namespace Questline

namespace Node

/-- A tree is gone through from its files up: a directory comes after its children. -/
theorem induct {motive : Node → Prop} (file : ∀ content, motive (.file content))
    (dir : ∀ cs : List (String × Node), (∀ e ∈ cs, motive e.2) → motive (.dir cs)) :
    ∀ n, motive n
  | .file content => file content
  | .dir cs => dir cs fun e he =>
      have hlt : sizeOf e.2 < sizeOf (Node.dir cs) := by
        obtain ⟨name, c⟩ := e
        have hmem := List.sizeOf_lt_of_mem he
        simp only [Prod.mk.sizeOf_spec, Node.dir.sizeOf_spec] at hmem ⊢
        omega
      induct file dir e.2
  termination_by n => sizeOf n
  decreasing_by exact hlt

theorem Named.at? {n m : Node} (h : n.Named) {place : List String} (hm : n.at? place = some m) :
    m.Named := by
  intro rest hrest name hname
  refine h (place ++ rest) ?_ name (List.mem_append_right place hname)
  rwa [at?_append, hm]

mutual

/-- The places below a node, each before those below it. -/
def placesBelow : Node → List (List String)
  | .file _ => []
  | .dir cs => placesAmong cs

/-- The places of these children and those below them. -/
def placesAmong : List (String × Node) → List (List String)
  | [] => []
  | (name, c) :: r => [name] :: (placesBelow c).map (name :: ·) ++ placesAmong r

end

/-- The place of a child and those below it. -/
def branch (e : String × Node) : List (List String) := [e.1] :: (placesBelow e.2).map (e.1 :: ·)

theorem placesBelow_dir (cs : List (String × Node)) :
    placesBelow (.dir cs) = cs.flatMap branch := by
  rw [placesBelow]
  induction cs with
  | nil => rfl
  | cons e r ih => rw [placesAmong, List.flatMap_cons, ← ih]; rfl

theorem mem_branch {e : String × Node} {place : List String} :
    place ∈ branch e ↔ ∃ rest, place = e.1 :: rest ∧ (rest = [] ∨ rest ∈ placesBelow e.2) := by
  constructor
  · intro h
    rcases List.mem_cons.1 h with rfl | h
    · exact ⟨[], rfl, .inl rfl⟩
    · obtain ⟨rest, hrest, rfl⟩ := List.mem_map.1 h
      exact ⟨rest, rfl, .inr hrest⟩
  · rintro ⟨rest, rfl, rfl | hrest⟩
    · exact List.mem_cons_self
    · exact List.mem_cons_of_mem _ (List.mem_map_of_mem hrest)

theorem nil_notMem_placesBelow (n : Node) : [] ∉ placesBelow n := by
  cases n with
  | file _ => exact List.not_mem_nil
  | dir cs =>
    intro h
    rw [placesBelow_dir] at h
    obtain ⟨e, -, he⟩ := List.mem_flatMap.1 h
    obtain ⟨rest, hrest, -⟩ := mem_branch.1 he
    cases hrest

/-- What is listed are the places where there is something. -/
theorem mem_placesBelow_iff {n : Node} (h : n.WellFormed) {place : List String} :
    place ∈ placesBelow n ↔ place ≠ [] ∧ (n.at? place).isSome := by
  induction place generalizing n with
  | nil => simp [nil_notMem_placesBelow]
  | cons name r ih =>
    cases n with
    | file _ => simp [placesBelow, at?, child?]
    | dir cs =>
      obtain ⟨hsorted, hall⟩ := wellFormed_dir_iff.1 h
      have hbelow : ∀ c, (name, c) ∈ cs → (r = [] ∨ r ∈ placesBelow c ↔ (c.at? r).isSome) := by
        intro c hc
        rw [ih (hall _ hc)]
        cases r <;> simp [at?]
      calc name :: r ∈ placesBelow (.dir cs)
          ↔ ∃ c, (name, c) ∈ cs ∧ (r = [] ∨ r ∈ placesBelow c) := by
            rw [placesBelow_dir, List.mem_flatMap]
            constructor
            · rintro ⟨⟨_, c⟩, he, hmem⟩
              obtain ⟨rest, heq, hrest⟩ := mem_branch.1 hmem
              cases heq
              exact ⟨c, he, hrest⟩
            · rintro ⟨c, he, hrest⟩
              exact ⟨_, he, mem_branch.2 ⟨r, rfl, hrest⟩⟩
        _ ↔ ∃ c, Entries.get? name cs = some c ∧ (c.at? r).isSome := by
            simp only [Entries.get?_eq_some_iff hsorted]
            exact exists_congr fun c => and_congr_right fun hc => hbelow c hc
        _ ↔ name :: r ≠ [] ∧ ((dir cs).at? (name :: r)).isSome := by
            simp only [at?, child?, ne_eq, reduceCtorEq, not_false_eq_true, true_and]
            cases Entries.get? name cs <;> simp

/-- No place is listed twice. -/
theorem nodup_placesBelow (n : Node) : n.WellFormed → (placesBelow n).Nodup := by
  induction n using Node.induct with
  | file _ => exact fun _ => List.nodup_nil
  | dir cs ih =>
    intro h
    obtain ⟨hsorted, hall⟩ := wellFormed_dir_iff.1 h
    rw [placesBelow_dir, List.nodup_flatMap]
    refine ⟨fun e he => List.nodup_cons.2 ⟨fun hmem => ?_, ?_⟩, hsorted.imp fun {a b} hlt => ?_⟩
    · obtain ⟨rest, hrest, heq⟩ := List.mem_map.1 hmem
      rw [List.tail_eq_of_cons_eq heq] at hrest
      exact nil_notMem_placesBelow e.2 hrest
    · exact (ih e he (hall e he)).map fun _ _ heq => List.tail_eq_of_cons_eq heq
    · -- Places of different children begin with different names.
      intro place ha hb
      obtain ⟨rest, rfl, -⟩ := mem_branch.1 ha
      obtain ⟨rest', heq, -⟩ := mem_branch.1 hb
      exact String.lt_irrefl b.1 (List.head_eq_of_cons_eq heq ▸ hlt)

theorem Named.child {cs : List (String × Node)} (h : (dir cs).Named) (hformed : (dir cs).WellFormed)
    {e : String × Node} (he : e ∈ cs) : Path.Spells e.1 ∧ e.2.Named := by
  obtain ⟨name, c⟩ := e
  have hc : (dir cs).at? [name] = some c := by
    simp [Node.at?, child?, (Entries.get?_eq_some_iff (wellFormed_dir_iff.1 hformed).1).2 he]
  exact ⟨h [name] (Option.isSome_of_eq_some hc) name List.mem_cons_self, h.at? hc⟩

/-- A place is listed before those below it. -/
theorem sublist_placesBelow {n : Node} {place rest : List String} (hplace : place ≠ [])
    (hrest : rest ≠ []) (h : place ++ rest ∈ placesBelow n) :
    [place, place ++ rest].Sublist (placesBelow n) := by
  induction place generalizing n with
  | nil => exact absurd rfl hplace
  | cons name r ih =>
    cases n with
    | file _ => cases h
    | dir cs =>
      rw [placesBelow_dir] at h ⊢
      obtain ⟨e, he, hmem⟩ := List.mem_flatMap.1 h
      have hbranch : (branch e).Sublist (cs.flatMap branch) := by
        simpa using (List.singleton_sublist.2 he).flatMap branch
      refine List.Sublist.trans ?_ hbranch
      obtain ⟨_, heq, hbelow⟩ := mem_branch.1 hmem
      cases heq
      have hbelow : r ++ rest ∈ placesBelow e.2 :=
        hbelow.resolve_left fun hnil => hrest (List.append_eq_nil_iff.1 hnil).2
      cases r with
      | nil => exact (List.singleton_sublist.2 (List.mem_map_of_mem hbelow)).cons_cons _
      | cons next r => exact ((ih (by simp) hbelow).map (e.1 :: ·)).cons _

end Node

namespace FileSystem

variable {fs : FileSystem}

/-! ## Places as paths -/

theorem pathsAmong_eq_flatMap (above : String) (cs : List (String × Node)) :
    pathsAmong above cs = cs.flatMap fun e =>
      (if above.isEmpty then e.1 else above ++ "/" ++ e.1) ::
        pathsBelow (if above.isEmpty then e.1 else above ++ "/" ++ e.1) e.2 := by
  induction cs with
  | nil => rfl
  | cons e r ih => rw [pathsAmong, ih]; rfl

/-- One more name behind names that are not empty. -/
theorem intercalate_concat {names : List String} (h : ∀ name ∈ names, name ≠ "") (name : String) :
    "/".intercalate (names ++ [name]) =
      if ("/".intercalate names).isEmpty then name else "/".intercalate names ++ "/" ++ name := by
  cases names with
  | nil => simp
  | cons first r =>
    have hne : "/".intercalate (first :: r) ≠ "" := by
      have hfirst := h first List.mem_cons_self
      cases r <;> simp [hfirst]
    rw [String.intercalate_append_of_ne_nil (by simp) (by simp), String.intercalate_singleton,
      if_neg (by simpa using hne)]

/-- The paths below a node are the places below it, each behind the way to the node. -/
theorem pathsBelow_eq_map (n : Node) : ∀ {above : List String}, (∀ name ∈ above, name ≠ "") →
    n.WellFormed → n.Named → pathsBelow ("/".intercalate above) n =
      n.placesBelow.map fun place => "/".intercalate (above ++ place) := by
  induction n using Node.induct with
  | file _ => exact fun _ _ _ => rfl
  | dir cs ih =>
    intro above habove hformed hnamed
    rw [pathsBelow, pathsAmong_eq_flatMap, Node.placesBelow_dir, List.map_flatMap]
    refine List.flatMap_congr fun e he => ?_
    obtain ⟨hname, hbelow⟩ := hnamed.child hformed he
    have hway : ∀ name ∈ above ++ [e.1], name ≠ "" := by
      simpa [or_imp, forall_and] using ⟨habove, hname.ne_empty⟩
    have hsub := (Node.wellFormed_dir_iff.1 hformed).2 e he
    rw [← intercalate_concat habove, ih e he hway hsub hbelow, Node.branch, List.map_cons,
      List.map_map]
    exact congrArg _ (List.map_congr_left fun place _ => by simp)

/-! ## The list -/

/-- The places below the current directory, as paths. -/
theorem pathsBelowCwd_eq_map (hformed : fs.root.WellFormed) (hnamed : fs.root.Named) {n : Node}
    (hn : fs.node? fs.cwd = some n) :
    fs.pathsBelowCwd = n.placesBelow.map ("/".intercalate ·) := by
  have hnil : ∀ name ∈ ([] : List String), name ≠ "" := by simp
  rw [pathsBelowCwd, hn]
  exact pathsBelow_eq_map n hnil (hformed.at? hn) (hnamed.at? hn)

/-- No path in the list is empty. -/
theorem ne_empty_of_mem_pathsBelowCwd (hformed : fs.root.WellFormed) (hnamed : fs.root.Named)
    {path : String} (h : path ∈ fs.pathsBelowCwd) : path ≠ "" := by
  cases hn : fs.node? fs.cwd with
  | none =>
    rw [pathsBelowCwd, hn] at h
    cases h
  | some n =>
    rw [pathsBelowCwd_eq_map hformed hnamed hn] at h
    obtain ⟨place, hplace, rfl⟩ := List.mem_map.1 h
    obtain ⟨hne, hsome⟩ := (Node.mem_placesBelow_iff (hformed.at? hn)).1 hplace
    obtain ⟨name, r, rfl⟩ := List.exists_cons_of_ne_nil hne
    have hname := (hnamed.at? hn) _ hsome name List.mem_cons_self
    cases r <;> simp [hname.ne_empty]

theorem Reached.named (h : fs.Reached fun root => root.WellFormed ∧ root.Named) :
    fs.root.WellFormed ∧ fs.root.Named := by
  refine h.induct (P := fun fs => fs.root.WellFormed ∧ fs.root.Named)
    ⟨wellFormed_starter, named_starterTree⟩ (fun root hroot => ?_) named_perform
  cases root with
  | dir cs => exact hroot
  | file _ =>
    exact ⟨Node.wellFormed_dir_iff.2 ⟨List.Pairwise.nil, by simp⟩, Node.named_dir (by simp)⟩

/-- In any file system that is reached from trees whose names can be spelled: the paths below the
current directory are what the places where there is something below it are written as, each is
listed once and leads there, and a directory is listed before everything below it. -/
theorem pathsBelowCwd_lists_places (h : fs.Reached fun root => root.WellFormed ∧ root.Named) :
    fs.pathsBelowCwd.Nodup ∧
    (∀ path, path ∈ fs.pathsBelowCwd ↔ ∃ place, place ≠ [] ∧
      (fs.node? (fs.cwd ++ place)).isSome ∧ path = "/".intercalate place) ∧
    (∀ place, place ≠ [] → (fs.node? (fs.cwd ++ place)).isSome →
      fs.resolve ("/".intercalate place) = fs.cwd ++ place ∧
        fs.lookup? ("/".intercalate place) = fs.node? (fs.cwd ++ place)) ∧
    (∀ place rest, place ≠ [] → rest ≠ [] → (fs.node? (fs.cwd ++ place ++ rest)).isSome →
      ["/".intercalate place, "/".intercalate (place ++ rest)].Sublist fs.pathsBelowCwd) := by
  obtain ⟨hformed, hnamed⟩ := h.named
  obtain ⟨cs, hcs⟩ := look?_eq_dir_iff.1 h.atDirectory
  have hdir : (Node.dir cs).WellFormed := hformed.at? hcs
  have hlist := pathsBelowCwd_eq_map hformed hnamed hcs
  have hnode : ∀ place, fs.node? (fs.cwd ++ place) = (Node.dir cs).at? place := fun place => by
    rw [node?_append, hcs, Option.bind_some]
  have hmem : ∀ place, place ∈ (Node.dir cs).placesBelow ↔
      place ≠ [] ∧ (fs.node? (fs.cwd ++ place)).isSome := fun place => by
    rw [hnode, Node.mem_placesBelow_iff hdir]
  -- What a path is made of is found where it leads.
  have hresolve : ∀ place, (fs.node? (fs.cwd ++ place)).isSome →
      fs.resolve ("/".intercalate place) = fs.cwd ++ place := fun place hplace =>
    Path.resolve_intercalate fs.cwd fun name hname =>
      hnamed (fs.cwd ++ place) hplace name (List.mem_append_right _ hname)
  refine ⟨?_, fun path => ?_, fun place _ hplace => ?_, fun place rest hplace hrest hsome => ?_⟩
  · rw [hlist]
    refine (Node.nodup_placesBelow _ hdir).map_on fun place hplace other hother heq => ?_
    have hsame := (hresolve place ((hmem place).1 hplace).2).symm.trans
      ((congrArg fs.resolve heq).trans (hresolve other ((hmem other).1 hother).2))
    exact List.append_cancel_left hsame
  · simp only [hlist, List.mem_map, hmem, and_assoc, eq_comm (a := path)]
  · have heq := hresolve place hplace
    exact ⟨heq, congrArg fs.node? heq⟩
  · rw [hlist]
    rw [List.append_assoc] at hsome
    have hlisted := (hmem (place ++ rest)).2 ⟨by simp [hplace], hsome⟩
    exact (Node.sublist_placesBelow hplace hrest hlisted).map ("/".intercalate ·)

/-- In a tree with a blank and with three dots for names, which are names like any other. -/
theorem pathsBelowCwd_lists_places_dots :
    let fs := ofTree (.dir [(" ", .dir [("...", .file "lost")])])
    fs.Reached (fun root => root.WellFormed ∧ root.Named) ∧ fs.pathsBelowCwd.Nodup ∧
      " /..." ∈ fs.pathsBelowCwd ∧ fs.resolve " /..." = [" ", "..."] ∧
      fs.lookup? " /..." = some (.file "lost") ∧ [" ", " /..."].Sublist fs.pathsBelowCwd := by
  intro fs
  have hnames : Path.Spells " " ∧ Path.Spells "..." := by decide
  have hkind : fs.root.WellFormed ∧ fs.root.Named := by
    refine ⟨by simp [fs, ofTree, Node.WellFormed, Node.WellFormedAll, Entries.Sorted], ?_⟩
    exact Node.named_dir (by simp [Node.named_dir, Node.named_file, hnames])
  have hreached : fs.Reached fun root => root.WellFormed ∧ root.Named :=
    @Reached.ofTree _ fs.root hkind []
  obtain ⟨hnodup, hmem, hleads, hbefore⟩ := pathsBelowCwd_lists_places hreached
  have hplace : (fs.node? (fs.cwd ++ [" ", "..."])).isSome := rfl
  obtain ⟨hresolve, hlookup⟩ := hleads [" ", "..."] (by simp) hplace
  exact ⟨hreached, hnodup, (hmem " /...").2 ⟨[" ", "..."], by simp, hplace, rfl⟩, hresolve,
    hlookup, hbefore [" "] ["..."] (by simp) (by simp) hplace⟩

end FileSystem

end Questline
