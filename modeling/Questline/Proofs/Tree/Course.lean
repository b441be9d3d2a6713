import Questline.Proofs.Tree.FlatMap
import Questline.Shell.Scene
set_option autoImplicit false

/-!
# A file system over a course of operations

Whatever is tried, the current directory stays a directory of the tree and the
directories stay in order.  Only two operations could take the current directory
away: `rm`, which refuses it by its place and everything above it for not being
empty, and `echo`, which writes over files only.
-/

namespace Questline

namespace FileSystem

/-- What may be tried on a file system. -/
inductive Operation where
  | cd (path : String)
  | edit (path : String) (e : Edit)

/-- Carries out an operation. -/
def perform (fs : FileSystem) : Operation → Except FileError FileSystem
  | .cd path => fs.cd path
  | .edit path e => fs.edit path e

/-- The file system after operations were tried one after the other. -/
def course (fs : FileSystem) (ops : List Operation) : FileSystem :=
  ops.foldl (fun fs op => fs.after (fs.perform op)) fs

/-- A change made from the shell that is refused leaves the file system as it was. -/
theorem fs_change {w : Type} (s : Scene w) (command : String) (shown : FileSystem → Outcome)
    (result : Except FileError FileSystem) :
    (s.change command shown result).2.fs = s.fs.after result := by
  cases result <;> rfl

/-- What every operation keeps holds after any course of them. -/
theorem course_of_perform {P : FileSystem → Prop}
    (hstep : ∀ {fs fs' op}, P fs → fs.perform op = .ok fs' → P fs') {fs : FileSystem} (h : P fs)
    (ops : List Operation) : P (fs.course ops) := by
  induction ops generalizing fs with
  | nil => exact h
  | cons op r ih =>
    have hafter : P (fs.after (fs.perform op)) := by
      cases hop : fs.perform op with
      | ok fs' => exact hstep h hop
      | error _ => exact h
    exact ih hafter

/-! ## The current directory -/

/-- One is at a directory of the tree. -/
def AtDirectory (fs : FileSystem) : Prop := fs.look? fs.cwd = some .dir

/-- Where a directory is, or below it, nothing is put in the place of anything. -/
theorem not_below_of_admits {fs : FileSystem} {place : List String} {leaf : String}
    {cs : List (String × Node)} (hfs : fs.AtDirectory) (hcs : fs.node? place = some (.dir cs))
    (hold : ∀ n, Entries.get? leaf cs = some n →
      n.Bare ∧ (n.entry = .dir → place ++ [leaf] ≠ fs.cwd)) :
    ¬ place ++ [leaf] <+: fs.cwd := by
  rintro ⟨rest, hrest⟩
  obtain ⟨es, hes⟩ := look?_eq_dir_iff.1 hfs
  rw [← hrest, node?_append, node?_child hcs] at hes
  obtain ⟨n, hn, hend⟩ := Option.bind_eq_some_iff.1 hes
  obtain ⟨hbare, hcwd⟩ := hold n hn
  cases rest with
  | nil =>
    cases hend
    exact hcwd rfl (by rw [← hrest, List.append_nil])
  | cons name r =>
    rw [hbare.at?] at hend
    cases hend

theorem AtDirectory.edit {fs fs' : FileSystem} {path : String} {e : Edit} (hfs : fs.AtDirectory)
    (h : fs.edit path e = .ok fs') : fs'.AtDirectory := by
  obtain rfl | ⟨place, leaf, cs, -, hcs, hadmits, rfl⟩ := edit_cases h
  · exact hfs
  rcases applied_cases fs hadmits with ⟨happ, -⟩ | ⟨happ, hold, -⟩
  · rwa [happ]
  · rw [happ]
    exact (look?_withChildren_of_not_below hcs
      (fun name hname => Entries.get?_put_of_ne hname _ cs)
      (not_below_of_admits hfs hcs hold)).trans hfs

theorem cd_eq_ok_iff {fs fs' : FileSystem} {path : String} : fs.cd path = .ok fs' ↔
    (∃ cs, fs.lookup? path = some (.dir cs)) ∧ fs' = { fs with cwd := fs.resolve path } := by
  rw [cd]
  match fs.lookup? path with
  | none => simp
  | some (.file _) => simp
  | some (.dir _) => simp [eq_comm]

theorem atDirectory_cd {fs fs' : FileSystem} {path : String} (h : fs.cd path = .ok fs') :
    fs'.AtDirectory := by
  obtain ⟨hlookup, rfl⟩ := cd_eq_ok_iff.1 h
  exact look?_eq_dir_iff.2 hlookup

theorem AtDirectory.perform {fs fs' : FileSystem} {op : Operation} (hfs : fs.AtDirectory)
    (h : fs.perform op = .ok fs') : fs'.AtDirectory := by
  cases op with
  | cd _ => exact atDirectory_cd h
  | edit _ _ => exact hfs.edit h

theorem atDirectory_starter : starter.AtDirectory := rfl

theorem atDirectory_ofTree (root : Node) : (ofTree root).AtDirectory := by
  cases root <;> rfl

/-- From the first tree, or from any other seen from its root, no course of operations
leads to where there is no directory. -/
theorem cwd_never_dangles (ops : List Operation) :
    (starter.course ops).AtDirectory ∧ ∀ root, ((ofTree root).course ops).AtDirectory :=
  ⟨course_of_perform AtDirectory.perform atDirectory_starter ops,
    fun root => course_of_perform AtDirectory.perform (atDirectory_ofTree root) ops⟩

/-! ## Order -/

theorem wellFormed_edit {fs fs' : FileSystem} {path : String} {e : Edit}
    (hfs : fs.root.WellFormed) (h : fs.edit path e = .ok fs') : fs'.root.WellFormed := by
  obtain rfl | ⟨place, leaf, cs, -, hcs, hadmits, rfl⟩ := edit_cases h
  · exact hfs
  rcases applied_cases fs hadmits with ⟨happ, -⟩ | ⟨happ, -, hnew⟩
  · rwa [happ]
  · rw [happ]
    refine hfs.graft ((hfs.at? hcs).put leaf _ fun n hn => ?_)
    -- What is put there has nothing below it that could be out of order.
    cases n with
    | file _ => trivial
    | dir es =>
      cases hnew _ hn
      exact Node.wellFormed_dir_iff.2 ⟨List.Pairwise.nil, by simp⟩

theorem wellFormed_course {fs : FileSystem} (hfs : fs.root.WellFormed) (ops : List Operation) :
    (fs.course ops).root.WellFormed := by
  refine course_of_perform (P := fun fs => fs.root.WellFormed) (fun {fs fs' op} hfs h => ?_) hfs ops
  cases op with
  | cd path =>
    rw [perform, cd] at h
    split at h <;> cases h
    exact hfs
  | edit _ _ => exact wellFormed_edit hfs h

end FileSystem

end Questline
