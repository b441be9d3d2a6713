import Questline.Proofs.Tree.Names
set_option autoImplicit false

/-!
# One path after another

A path is followed piece by piece, so that going to a directory and following a path from there
leads to where the two paths do in one, with a slash between them.  A place has only names that a
path can spell, whichever way it was come to: what is written of it leads back to it.
-/

namespace Questline

namespace Path

/-! ## Two paths in one -/

theorem resolve_append_slash (cwd : List String) {p : List Char} (hp : p ≠ []) (q : List Char) :
    resolve cwd (p ++ '/' :: q) = (pieces q).foldl follow (resolve cwd p) := by
  obtain ⟨c, r, rfl⟩ := List.exists_cons_of_ne_nil hp
  rw [resolve, pieces_append_slash, List.foldl_append]
  rfl

/-- What does not begin at the root goes on from where the path before it has led. -/
theorem resolve_resolve (cwd : List String) {p q : List Char} (hp : p ≠ [])
    (hq : q.head? ≠ some '/') : resolve (resolve cwd p) q = resolve cwd (p ++ '/' :: q) := by
  rw [resolve_append_slash cwd hp, resolve, if_neg hq]

/-! ## Names, written and read -/

/-- The names that stand between slashes are the pieces of the path. -/
theorem pieces_intercalate {names : List (List Char)} (hne : names ≠ [])
    (h : ∀ name ∈ names, '/' ∉ name) : pieces (['/'].intercalate names) = names := by
  induction names with
  | nil => exact absurd rfl hne
  | cons name r ih =>
    have hname := pieces_of_notMem (h name List.mem_cons_self)
    cases r with
    | nil => simpa [List.intercalate] using hname
    | cons next r =>
      have hrest := ih (by simp) fun other hother => h other (List.mem_cons_of_mem _ hother)
      rw [List.intercalate_cons_cons, List.append_assoc, List.singleton_append,
        pieces_append_slash, hname, hrest]
      rfl

theorem foldl_follow_toList (place : List String) {names : List String}
    (h : ∀ name ∈ names, Spells name) :
    (names.map String.toList).foldl follow place = place ++ names := by
  induction names generalizing place with
  | nil => simp
  | cons name r ih =>
    obtain ⟨hname, hr⟩ := List.forall_mem_cons.1 h
    rw [List.map_cons, List.foldl_cons, follow_name place hname.1, String.ofList_toList, ih _ hr,
      List.append_assoc, List.singleton_append]

/-- Names between slashes lead from a place down by these names. -/
theorem foldl_follow_intercalate (place : List String) {names : List String}
    (h : ∀ name ∈ names, Spells name) :
    (pieces ("/".intercalate names).toList).foldl follow place = place ++ names := by
  cases names with
  | nil => simp [pieces, follow]
  | cons name r =>
    have hslash : ∀ cs ∈ (name :: r).map String.toList, '/' ∉ cs := by
      intro cs hcs
      obtain ⟨other, hother, rfl⟩ := List.mem_map.1 hcs
      exact (h other hother).2
    rw [String.toList_intercalate, show "/".toList = ['/'] from rfl,
      pieces_intercalate (by simp) hslash, foldl_follow_toList place h]

theorem head?_intercalate_ne {names : List String} (h : ∀ name ∈ names, Spells name) :
    ("/".intercalate names).toList.head? ≠ some '/' := by
  cases names with
  | nil => simp
  | cons name r =>
    have hname := h name List.mem_cons_self
    obtain ⟨c, cs, hcs⟩ := List.exists_cons_of_ne_nil (show name.toList ≠ [] by
      simpa using hname.ne_empty)
    have hc : c ≠ '/' := fun heq => hname.2 (by rw [hcs, heq]; exact List.mem_cons_self)
    cases r with
    | nil => simpa [hcs] using hc
    | cons next r => simpa [List.intercalate_cons_cons, hcs] using hc

/-- A path that is made of names leads to them from where one is. -/
theorem resolve_intercalate (cwd : List String) {names : List String}
    (h : ∀ name ∈ names, Spells name) :
    resolve cwd ("/".intercalate names).toList = cwd ++ names := by
  rw [resolve, if_neg (head?_intercalate_ne h), foldl_follow_intercalate cwd h]

/-- What is written of a place leads there, wherever one is. -/
theorem resolve_render (cwd : List String) {place : List String}
    (h : ∀ name ∈ place, Spells name) : resolve cwd (render place).toList = place := by
  have hpath : (render place).toList = '/' :: ("/".intercalate place).toList := by simp [render]
  have hstart : pieces (render place).toList = [] :: pieces ("/".intercalate place).toList := by
    rw [hpath, pieces, if_pos rfl]
  rw [resolve, hstart, List.foldl_cons, hpath, List.head?_cons, if_pos rfl,
    foldl_follow_intercalate _ h]
  rfl

/-! ## The names on the way -/

theorem spells_follow {place : List String} (h : ∀ name ∈ place, Spells name) {piece : List Char}
    (hpiece : '/' ∉ piece) : ∀ name ∈ follow place piece, Spells name := by
  by_cases hname : isName piece = true
  · rw [follow_name place hname]
    intro name hmem
    rcases List.mem_append.1 hmem with hmem | hmem
    · exact h name hmem
    · rw [List.mem_singleton.1 hmem]
      exact ⟨by simpa using hname, by simpa using hpiece⟩
  · -- A piece that is no name leads nowhere or one up.
    unfold follow
    split
    · exact h
    · split
      · exact fun name hmem => h name (List.dropLast_subset place hmem)
      · next hblank hup => exact absurd (by simp_all [isName]) hname

/-- From a place whose names can be spelled every path leads to such a place. -/
theorem spells_resolve {cwd : List String} (h : ∀ name ∈ cwd, Spells name) (path : List Char) :
    ∀ name ∈ resolve cwd path, Spells name := by
  have hfold : ∀ (ps : List (List Char)) (place : List String), (∀ p ∈ ps, '/' ∉ p) →
      (∀ name ∈ place, Spells name) → ∀ name ∈ ps.foldl follow place, Spells name := by
    intro ps
    induction ps with
    | nil => exact fun _ _ hplace => hplace
    | cons p r ih =>
      intro place hps hplace
      obtain ⟨hp, hr⟩ := List.forall_mem_cons.1 hps
      exact ih _ hr (spells_follow hplace hp)
  refine hfold _ _ (fun p hp => slash_notMem_of_mem_pieces hp) ?_
  split
  · simp
  · exact h

end Path

namespace FileSystem

variable {fs : FileSystem}

/-- The file systems to which operations lead, tried one after the other on the first tree or,
from its root, on another tree of some kind. -/
inductive Reached (Kind : Node → Prop) : FileSystem → Prop where
  | ofStarter (ops : List Operation) : Reached Kind (starter.course ops)
  | ofTree {root : Node} (h : Kind root) (ops : List Operation) :
    Reached Kind ((ofTree root).course ops)

/-- What holds at first and is kept by every operation that succeeds holds of all that is
reached. -/
theorem Reached.induct {Kind : Node → Prop} {P : FileSystem → Prop} (h : fs.Reached Kind)
    (hstarter : P starter) (htree : ∀ root, Kind root → P (FileSystem.ofTree root))
    (hstep : ∀ {fs fs' op}, P fs → fs.perform op = .ok fs' → P fs') : P fs := by
  cases h with
  | ofStarter ops => exact course_of_perform hstep hstarter ops
  | ofTree hroot ops => exact course_of_perform hstep (htree _ hroot) ops

/-- Wherever one gets, a path can spell the way there. -/
theorem Reached.spells_cwd {Kind : Node → Prop} (h : fs.Reached Kind) :
    ∀ name ∈ fs.cwd, Path.Spells name := by
  refine h.induct (P := fun fs => ∀ name ∈ fs.cwd, Path.Spells name) (by decide)
    (fun root _ => ?_) fun {fs fs' op} hfs hop => ?_
  · cases root <;> simp [FileSystem.ofTree]
  · cases op with
    | cd path =>
      obtain ⟨-, rfl⟩ := cd_eq_ok_iff.1 hop
      exact Path.spells_resolve hfs path.toList
    | edit path e => rwa [cwd_edit hop]

theorem Reached.atDirectory {Kind : Node → Prop} (h : fs.Reached Kind) : fs.AtDirectory :=
  h.induct atDirectory_starter (fun root _ => atDirectory_ofTree root) AtDirectory.perform

/-- In any file system that is reached: going to a directory and following a path from there
leads to the place, and to what is there, to which the two paths lead as one; what is written of
the place that a path leads to leads there too; and going to where one is changes nothing. -/
theorem resolution_composes (h : fs.Reached fun _ => True) :
    (∀ p q fs', p ≠ "" → q.toList.head? ≠ some '/' → fs.cd p = .ok fs' →
      fs'.resolve q = fs.resolve (p ++ "/" ++ q) ∧ fs'.lookup? q = fs.lookup? (p ++ "/" ++ q)) ∧
    (∀ p, fs.resolve (Path.render (fs.resolve p)) = fs.resolve p ∧
      fs.lookup? (Path.render (fs.resolve p)) = fs.lookup? p) ∧
    fs.cd fs.pwd = .ok fs := by
  refine ⟨fun p q fs' hp hq hcd => ?_, fun p => ?_, ?_⟩
  · obtain ⟨-, rfl⟩ := cd_eq_ok_iff.1 hcd
    have hplace : ({ fs with cwd := fs.resolve p } : FileSystem).resolve q =
        fs.resolve (p ++ "/" ++ q) := by
      simp only [resolve]
      rw [Path.resolve_resolve fs.cwd (by simpa using hp) hq]
      simp
    exact ⟨hplace, congrArg fs.node? hplace⟩
  · have hplace : fs.resolve (Path.render (fs.resolve p)) = fs.resolve p :=
      Path.resolve_render fs.cwd (Path.spells_resolve h.spells_cwd p.toList)
    exact ⟨hplace, congrArg fs.node? hplace⟩
  · have hplace : fs.resolve fs.pwd = fs.cwd := Path.resolve_render fs.cwd h.spells_cwd
    obtain ⟨cs, hcs⟩ := look?_eq_dir_iff.1 h.atDirectory
    refine cd_eq_ok_iff.2 ⟨⟨cs, ?_⟩, by rw [hplace]⟩
    rw [lookup?, hplace]
    exact hcs

/-- On the first tree: over a directory in a roundabout way, and from there above the place one
has come from. -/
theorem resolution_composes_forest :
    starter.Reached (fun _ => True) ∧ ∃ fs', starter.cd "../adventurer//forest/." = .ok fs' ∧
      fs'.resolve "../../guest/" = starter.resolve "../adventurer//forest/./../../guest/" ∧
      fs'.resolve "../../guest/" = ["home", "guest"] ∧
      starter.resolve (Path.render (starter.resolve "..//guest/")) = ["home", "guest"] ∧
      starter.cd starter.pwd = .ok starter := by
  have hreached : starter.Reached fun _ => True := .ofStarter []
  obtain ⟨hcompose, hrender, hpwd⟩ := resolution_composes hreached
  have hforest : starter.resolve "../adventurer//forest/." = ["home", "adventurer", "forest"] := by
    decide +kernel
  have hboth : starter.resolve "../adventurer//forest/./../../guest/" = ["home", "guest"] := by
    decide +kernel
  have hguest : starter.resolve "..//guest/" = ["home", "guest"] := by decide +kernel
  have hcd : starter.cd "../adventurer//forest/." =
      .ok { starter with cwd := starter.resolve "../adventurer//forest/." } :=
    cd_eq_ok_iff.2 ⟨⟨_, by rw [lookup?, hforest]; rfl⟩, rfl⟩
  obtain ⟨hplace, -⟩ := hcompose "../adventurer//forest/." "../../guest/" _ (by decide)
    (by decide +kernel) hcd
  refine ⟨hreached, _, hcd, hplace, hplace.trans hboth, ?_, hpwd⟩
  rw [(hrender "..//guest/").1, hguest]

end FileSystem

end Questline
