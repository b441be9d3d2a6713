import Questline.Proofs.Tree.Course
set_option autoImplicit false

/-!
# The names in a tree

Whatever is put into a tree is put there under a name that a path ends in.  So from a tree
whose names all can be spelled in a path, no course of operations leads to one with another
name: none is empty, holds a slash, or is made of the dots that lead elsewhere.
-/

namespace Questline

namespace Path

/-- A name that a path can spell as one of its pieces. -/
def Spells (name : String) : Prop := isName name.toList = true ∧ '/' ∉ name.toList

instance (name : String) : Decidable (Spells name) := inferInstanceAs (Decidable (_ ∧ _))

theorem Spells.ne_empty {name : String} (h : Spells name) : name ≠ "" := by
  rintro rfl
  exact absurd h.1 (by decide)

theorem slash_notMem_of_mem_pieces {cs p : List Char} (h : p ∈ pieces cs) : '/' ∉ p := by
  induction cs generalizing p with
  | nil =>
    rw [List.mem_singleton.1 h]
    exact List.not_mem_nil
  | cons c r ih =>
    rw [pieces] at h
    split at h
    · rcases List.mem_cons.1 h with rfl | h
      · exact List.not_mem_nil
      · exact ih h
    · next hc =>
      cases hr : pieces r with
      | nil => exact absurd hr (pieces_ne_nil r)
      | cons q qs =>
        rw [hr] at h ih
        rcases List.mem_cons.1 h with rfl | h
        · simpa [Ne.symm hc] using ih List.mem_cons_self
        · exact ih (List.mem_cons_of_mem _ h)

/-- What a path is cut into at its end is a name. -/
theorem spells_of_splitLeaf? {path parent : List Char} {name : String}
    (h : splitLeaf? path = some (parent, name)) : Spells name := by
  cases hname : isName (leaf path) with
  | false =>
    rw [splitLeaf?_of_not_isName hname] at h
    cases h
  | true =>
    obtain ⟨parent', hcut, -⟩ := splitLeaf?_of_isName hname
    cases hcut.symm.trans h
    refine ⟨by simpa using hname, ?_⟩
    rw [String.toList_ofList]
    exact slash_notMem_of_mem_pieces (List.getLast_mem (pieces_ne_nil (bare path)))

/-- A name is a path by itself, and is put where it leads to. -/
theorem splitLeaf?_of_spells {name : String} (h : Spells name) :
    splitLeaf? name.toList = some ([], name) := by
  have hbare : (name.toList.reverse.dropWhile (· = '/')).reverse = name.toList := by
    rw [List.reverse_eq_iff]
    cases hcs : name.toList.reverse with
    | nil => rfl
    | cons c r =>
      have hc : c ∈ name.toList := List.mem_reverse.1 (hcs ▸ List.mem_cons_self)
      exact List.dropWhile_cons_of_neg (by simpa using fun heq : c = '/' => h.2 (heq ▸ hc))
  rw [splitLeaf?, hbare, Text.cutLast_eq_none_iff.2 h.2]
  simp [h.1]

theorem resolve_of_spells (cwd : List String) {name : String} (h : Spells name) :
    resolve cwd name.toList = cwd ++ [name] := by
  have hhead : name.toList.head? ≠ some '/' := fun hs => h.2 (List.mem_of_head? hs)
  rw [resolve, if_neg hhead, pieces_of_notMem h.2, List.foldl_cons, List.foldl_nil,
    follow_name cwd h.1, String.ofList_toList]

end Path

namespace Node

/-- Every name on the way to anything in the tree can be spelled. -/
def Named (n : Node) : Prop :=
  ∀ place, (n.at? place).isSome → ∀ name ∈ place, Path.Spells name

theorem named_file (content : String) : (file content).Named := by
  intro place hplace
  cases place with
  | nil => simp
  | cons _ _ => cases hplace

theorem named_dir {cs : List (String × Node)} (h : ∀ e ∈ cs, Path.Spells e.1 ∧ e.2.Named) :
    (dir cs).Named := by
  intro place hplace
  cases place with
  | nil => simp
  | cons name r =>
    obtain ⟨m, hm⟩ := Option.isSome_iff_exists.1 hplace
    obtain ⟨_, c, hdir, hc, hrest⟩ := exists_child_of_at? hm
    cases hdir
    obtain ⟨hname, hnamed⟩ := h _ (Entries.mem_of_get?_eq_some hc)
    exact List.forall_mem_cons.2 ⟨hname, hnamed r (Option.isSome_of_eq_some hrest)⟩

end Node

namespace FileSystem

variable {fs fs' : FileSystem} {path : String} {place : List String} {leaf : String}

theorem spells_of_target? (h : fs.target? path = some (place, leaf)) : Path.Spells leaf := by
  obtain ⟨⟨parent, name⟩, hcut, heq⟩ := Option.map_eq_some_iff.1 h
  cases heq
  exact Path.spells_of_splitLeaf? hcut

/-- A name that can be spelled leads to what is under it in the current directory. -/
theorem target?_of_spells (fs : FileSystem) {name : String} (h : Path.Spells name) :
    fs.target? name = some (fs.cwd, name) := by
  rw [target?, Path.splitLeaf?_of_spells h]
  rfl

/-- A file is read by its name in the current directory. -/
theorem cat_eq_ok_iff {name content : String} (h : Path.Spells name) :
    fs.cat name = .ok content ↔ fs.look? (fs.cwd ++ [name]) = some (.file content) := by
  rw [look?_eq_file_iff, cat, lookup?, resolve, Path.resolve_of_spells fs.cwd h]
  match fs.node? (fs.cwd ++ [name]) with
  | none => simp
  | some (.dir _) => simp [Node.content?]
  | some (.file _) => simp [Node.content?]

/-- An operation on a name in the current directory works there and nowhere else. -/
theorem of_edit_of_spells {name : String} {e : Edit} (hfs : fs.root.WellFormed)
    (h : Path.Spells name) (hedit : fs.edit name e = .ok fs') :
    fs'.cwd = fs.cwd ∧
      fs'.node? (fs.cwd ++ [name]) = e.leaves (fs.node? (fs.cwd ++ [name])) ∧
      ∀ other ≠ fs.cwd ++ [name], fs'.look? other = fs.look? other := by
  obtain ⟨cs, hcs, hadmits, rfl⟩ := (edit_eq_ok_iff (target?_of_spells fs h)).1 hedit
  refine ⟨cwd_applied e cs, ?_, fun other hother => look?_applied_of_ne hfs hcs hadmits hother⟩
  rw [node?_applied hfs hcs hadmits, node?_child hcs]

/-- A file in the current directory can be removed. -/
theorem exists_rm_of_file {name content : String} (h : Path.Spells name)
    (hfile : fs.look? (fs.cwd ++ [name]) = some (.file content)) : ∃ fs', fs.rm name = .ok fs' := by
  obtain ⟨cs, hcs, hleaf⟩ := exists_dir_of_node?_child (look?_eq_file_iff.1 hfile)
  exact ⟨_, (edit_eq_ok_iff (e := .rm) (target?_of_spells fs h)).2
    ⟨cs, hcs, ⟨by simp, _, hleaf, trivial⟩, rfl⟩⟩

theorem named_edit {e : Edit} (hfs : fs.root.WellFormed) (h : fs.root.Named)
    (hedit : fs.edit path e = .ok fs') : fs'.root.Named := by
  obtain rfl | ⟨place, leaf, cs, htarget, hcs, hadmits, rfl⟩ := edit_cases hedit
  · exact h
  intro other hother name hname
  by_cases hself : other = place ++ [leaf]
  · -- The one place that is new: the way to its directory was there before.
    rw [hself] at hname
    rcases List.mem_append.1 hname with hname | hname
    · exact h place (Option.isSome_of_eq_some hcs) name hname
    · rw [List.mem_singleton.1 hname]
      exact spells_of_target? htarget
  · have hsame := look?_applied_of_ne hfs hcs hadmits hself
    refine h other ?_ name hname
    simpa [look?, node?] using (congrArg Option.isSome hsame).symm.trans
      (by simpa [look?, node?] using hother)

theorem named_starterTree : starterTree.Named := by
  have hnames : ∀ name ∈ ["home", "adventurer", "caves", "echo.txt", "forest", "trail.txt",
      "notes.txt", "tutorials"], Path.Spells name := by decide
  simp only [List.forall_mem_cons] at hnames
  have hhome : (Node.dir [("caves", .dir [("echo.txt", .file "echo echo echo")]),
      ("forest", .dir [("trail.txt", .file "Watch the roots.")]),
      ("notes.txt", .file "Welcome to ShellQuest!"), ("tutorials", .dir [])]).Named :=
    Node.named_dir (by simp [Node.named_dir, Node.named_file, hnames])
  exact Node.named_dir (by simp [Node.named_dir, hhome, hnames])

theorem named_perform {op : Operation} (h : fs.root.WellFormed ∧ fs.root.Named)
    (hop : fs.perform op = .ok fs') : fs'.root.WellFormed ∧ fs'.root.Named := by
  cases op with
  | cd path =>
    rw [perform, cd] at hop
    split at hop <;> cases hop
    exact h
  | edit path e => exact ⟨wellFormed_edit h.1 hop, named_edit h.1 h.2 hop⟩

/-- No course of operations puts anything under a name that no path can spell. -/
theorem named_course {fs : FileSystem} (hfs : fs.root.WellFormed) (h : fs.root.Named)
    (ops : List Operation) : (fs.course ops).root.Named :=
  (course_of_perform named_perform ⟨hfs, h⟩ ops).2

end FileSystem

end Questline
