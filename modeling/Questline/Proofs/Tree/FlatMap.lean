import Questline.Proofs.Tree.Graft
import Questline.Proofs.Tree.Path
import Questline.Tree.FileSystem
set_option autoImplicit false

/-!
# The file system as a map of places

Seen from outside a file system says of every place whether there is a directory,
a file with its content, or nothing.  Each operation that changes the tree is
allowed or refused by what this map says of the place its path leads to and of the
place above, and when it is allowed it changes the map at that place only.
-/

namespace Questline

namespace FileSystem

/-- What there is at a place. -/
def look? (fs : FileSystem) (place : List String) : Option Node.Entry :=
  (fs.node? place).map Node.entry

/-- The operations that change the tree. -/
inductive Edit where
  | mkdir
  | touch
  | rm
  | echo (content : String)

/-- Carries out an operation that changes the tree. -/
def edit (fs : FileSystem) (path : String) : Edit → Except FileError FileSystem
  | .mkdir => fs.mkdir path
  | .touch => fs.touch path
  | .rm => fs.rm path
  | .echo content => fs.echo content path

/-- The file system after an operation that may have been refused. -/
def after (fs : FileSystem) (result : Except FileError FileSystem) : FileSystem :=
  match result with
  | .ok new => new
  | .error _ => fs

/-- The map `entries`, with `cwd` as the current directory, allows the operation at
`place`. -/
def Edit.Allowed (entries : List String → Option Node.Entry) (cwd place : List String) :
    Edit → Prop
  | .mkdir => entries place.dropLast = some .dir ∧ entries place = none
  | .touch => entries place.dropLast = some .dir
  | .rm => place ≠ cwd ∧ ((∃ content, entries place = some (.file content)) ∨
      (entries place = some .dir ∧ ∀ name, entries (place ++ [name]) = none))
  | .echo _ => entries place.dropLast = some .dir ∧ entries place ≠ some .dir

/-- What the operation leaves where there was `old`. -/
def Edit.leaves (old : Option Node) : Edit → Option Node
  | .mkdir => some (.dir [])
  | .touch => some (old.getD (.file ""))
  | .rm => none
  | .echo content => some (.file content)

/-! ## The map and the tree -/

theorem look?_eq_none_iff {fs : FileSystem} {place : List String} :
    fs.look? place = none ↔ fs.node? place = none :=
  Option.map_eq_none_iff

theorem look?_eq_dir_iff {fs : FileSystem} {place : List String} :
    fs.look? place = some .dir ↔ ∃ cs, fs.node? place = some (.dir cs) := by
  rw [look?]
  match fs.node? place with
  | none => simp
  | some (.dir cs) => simp [Node.entry]
  | some (.file _) => simp [Node.entry]

theorem look?_eq_file_iff {fs : FileSystem} {place : List String} {content : String} :
    fs.look? place = some (.file content) ↔ fs.node? place = some (.file content) := by
  rw [look?]
  match fs.node? place with
  | none => simp
  | some (.dir _) => simp [Node.entry]
  | some (.file _) => simp [Node.entry]

theorem node?_append (fs : FileSystem) (place rest : List String) :
    fs.node? (place ++ rest) = (fs.node? place).bind (Node.at? rest) :=
  Node.at?_append ..

theorem node?_child {fs : FileSystem} {place : List String} {cs : List (String × Node)}
    (h : fs.node? place = some (.dir cs)) (name : String) :
    fs.node? (place ++ [name]) = Entries.get? name cs := by
  rw [node?_append, h]
  cases hc : Entries.get? name cs <;> simp [Node.at?, Node.child?, hc]

/-- Whatever has something at a name in it is a directory. -/
theorem exists_dir_of_node?_child {fs : FileSystem} {place : List String} {name : String} {n : Node}
    (h : fs.node? (place ++ [name]) = some n) :
    ∃ cs, fs.node? place = some (.dir cs) ∧ Entries.get? name cs = some n := by
  rw [node?_append] at h
  obtain ⟨m, hm, hn⟩ := Option.bind_eq_some_iff.1 h
  obtain ⟨cs, c, rfl, hc, hcn⟩ := Node.exists_child_of_at? hn
  cases hcn
  exact ⟨cs, hm, hc⟩

/-- A directory is empty when the map has nothing at any name in it. -/
theorem eq_nil_iff_look? {fs : FileSystem} {place : List String} {cs : List (String × Node)}
    (h : fs.node? place = some (.dir cs)) :
    cs = [] ↔ ∀ name, fs.look? (place ++ [name]) = none := by
  refine ⟨fun hnil name => ?_, fun hnone => ?_⟩
  · rw [look?_eq_none_iff, node?_child h, hnil]
    rfl
  · cases cs with
    | nil => rfl
    | cons e r =>
      have hfirst := look?_eq_none_iff.1 (hnone e.1)
      rw [node?_child h, Entries.get?, if_pos rfl] at hfirst
      cases hfirst

theorem childrenAt_eq_ok_iff {fs : FileSystem} {place : List String} {cs : List (String × Node)} :
    fs.childrenAt place = .ok cs ↔ fs.node? place = some (.dir cs) := by
  rw [childrenAt]
  match fs.node? place with
  | none => simp
  | some (.file _) => simp [Node.children?]
  | some (.dir _) => simp [Node.children?]

/-! ## Other children in one directory -/

section

variable {fs : FileSystem} {place : List String} {cs cs' : List (String × Node)} {leaf : String}

theorem node?_withChildren_self (h : fs.node? place = some (.dir cs)) :
    (fs.withChildren place cs').node? place = some (.dir cs') :=
  Node.at?_graft_self _ _ _ (by rw [show fs.root.at? place = _ from h]; rfl)

/-- Children that differ at one name only leave every place that is not at or below
that name as it is. -/
theorem look?_withChildren_of_not_below (h : fs.node? place = some (.dir cs))
    (hsame : ∀ name ≠ leaf, Entries.get? name cs' = Entries.get? name cs)
    {other : List String} (hother : ¬ place ++ [leaf] <+: other) :
    (fs.withChildren place cs').look? other = fs.look? other := by
  refine Node.entry_at?_graft h fun rest hrest => ?_
  cases rest with
  | nil => rfl
  | cons name r =>
    have hname : name ≠ leaf := fun heq => hother ⟨r, by rw [hrest, heq]; simp⟩
    rw [Node.at?, Node.at?, Node.child?, Node.child?, hsame name hname]

/-- If there was and is nothing below that name, only its own place differs. -/
theorem look?_withChildren_of_ne (h : fs.node? place = some (.dir cs))
    (hsame : ∀ name ≠ leaf, Entries.get? name cs' = Entries.get? name cs)
    (hold : ∀ n, Entries.get? leaf cs = some n → n.Bare)
    (hnew : ∀ n, Entries.get? leaf cs' = some n → n.Bare)
    {other : List String} (hother : other ≠ place ++ [leaf]) :
    (fs.withChildren place cs').look? other = fs.look? other := by
  by_cases hbelow : place ++ [leaf] <+: other
  · obtain ⟨rest, rfl⟩ := hbelow
    have hrest : rest ≠ [] := fun hnil => hother (by simp [hnil])
    obtain ⟨name, r, rfl⟩ := List.exists_cons_of_ne_nil hrest
    have hempty : ∀ {gs : FileSystem} {es : List (String × Node)},
        gs.node? place = some (.dir es) → (∀ n, Entries.get? leaf es = some n → n.Bare) →
        gs.look? (place ++ [leaf] ++ name :: r) = none := by
      intro gs es hgs hbare
      rw [look?_eq_none_iff, node?_append, node?_child hgs, Option.bind_eq_none_iff]
      exact fun n hn => (hbare n hn).at? name r
    rw [hempty h hold, hempty (node?_withChildren_self h) hnew]
  · exact look?_withChildren_of_not_below h hsame hbelow

end

/-! ## One operation -/

/-- What an operation at a place asks of what is there; `cwd` is the current
directory. -/
def Edit.Admits (cwd place : List String) (old : Option Node) : Edit → Prop
  | .mkdir => old = none
  | .touch => True
  | .rm => place ≠ cwd ∧ ∃ n, old = some n ∧ n.Bare
  | .echo _ => ∀ cs, old ≠ some (.dir cs)

/-- The file system in which the operation has left at the name `leaf` of a directory
with the children `cs` what it is to leave there. -/
def Edit.applied (fs : FileSystem) (place : List String) (leaf : String)
    (cs : List (String × Node)) (e : Edit) : FileSystem :=
  match e, Entries.get? leaf cs with
  | .touch, some _ => fs
  | e, old => fs.withChildren place (Entries.put leaf (e.leaves old) cs)

section

variable {fs fs' : FileSystem} {path : String} {place : List String} {leaf : String}

@[local simp]
private theorem throw_eq_error {α : Type} (e : FileError) :
    (throw e : Except FileError α) = .error e := rfl

@[local simp]
private theorem pure_eq_ok {α : Type} (a : α) : (pure a : Except FileError α) = .ok a := rfl

@[local simp]
private theorem bind_ok {α β : Type} (a : α) (f : α → Except FileError β) :
    (Except.ok a >>= f) = f a := rfl

@[local simp]
private theorem bind_error {α β : Type} (e : FileError) (f : α → Except FileError β) :
    (Except.error e >>= f) = .error e := rfl

/-- An operation succeeds where it finds a directory and is admitted, and then it is
applied there. -/
theorem edit_eq_ok_iff {e : Edit} (hpath : fs.target? path = some (place, leaf)) :
    fs.edit path e = .ok fs' ↔ ∃ cs, fs.node? place = some (.dir cs) ∧
      e.Admits fs.cwd (place ++ [leaf]) (Entries.get? leaf cs) ∧
      fs' = e.applied fs place leaf cs := by
  simp only [← childrenAt_eq_ok_iff]
  cases e with
  | mkdir =>
    simp only [edit, mkdir, hpath]
    cases fs.childrenAt place with
    | error _ => simp
    | ok cs =>
      cases hold : Entries.get? leaf cs <;>
        simp [hold, Edit.Admits, Edit.applied, Edit.leaves, Entries.put, eq_comm (a := fs')]
  | touch =>
    simp only [edit, touch, hpath]
    cases fs.childrenAt place with
    | error _ => simp
    | ok cs =>
      cases hold : Entries.get? leaf cs <;>
        simp [hold, Edit.Admits, Edit.applied, Edit.leaves, Entries.put, eq_comm (a := fs')]
  | rm =>
    simp only [edit, rm, hpath]
    by_cases hcwd : fs.cwd = place ++ [leaf]
    · simp [hcwd, Edit.Admits]
    cases fs.childrenAt place with
    | error _ => simp [hcwd]
    | ok cs =>
      match hold : Entries.get? leaf cs with
      | none => simp [hold, hcwd, Edit.Admits]
      | some (.dir (_ :: _)) => simp [hold, hcwd, Edit.Admits, Node.Bare]
      | some (.dir []) =>
        simp [hold, hcwd, Ne.symm hcwd, Edit.Admits, Node.Bare, Edit.applied, Edit.leaves,
          Entries.put, eq_comm (a := fs')]
      | some (.file _) =>
        simp [hold, hcwd, Ne.symm hcwd, Edit.Admits, Node.Bare, Edit.applied, Edit.leaves,
          Entries.put, eq_comm (a := fs')]
  | echo content =>
    simp only [edit, echo, hpath]
    cases fs.childrenAt place with
    | error _ => simp
    | ok cs =>
      match hold : Entries.get? leaf cs with
      | some (.dir _) => simp [hold, Edit.Admits]
      | none =>
        simp [hold, Edit.Admits, Edit.applied, Edit.leaves, Entries.put, eq_comm (a := fs')]
      | some (.file _) =>
        simp [hold, Edit.Admits, Edit.applied, Edit.leaves, Entries.put, eq_comm (a := fs')]

/-- Without a name to work at, only `touch` succeeds, and it does nothing. -/
theorem eq_of_edit_of_target?_eq_none {e : Edit} (hpath : fs.target? path = none)
    (h : fs.edit path e = .ok fs') : fs' = fs := by
  cases e with
  | mkdir => simp [edit, mkdir, hpath] at h
  | touch => simpa [edit, touch, hpath, eq_comm] using h
  | rm => simp [edit, rm, hpath] at h
  | echo _ => simp [edit, echo, hpath] at h

/-- An operation that succeeds did nothing, or it was due at the place that the path names. -/
theorem edit_cases {e : Edit} (h : fs.edit path e = .ok fs') :
    fs' = fs ∨ ∃ place leaf cs, fs.target? path = some (place, leaf) ∧
      fs.node? place = some (.dir cs) ∧
      e.Admits fs.cwd (place ++ [leaf]) (Entries.get? leaf cs) ∧
      fs' = e.applied fs place leaf cs := by
  cases hpath : fs.target? path with
  | none => exact .inl (eq_of_edit_of_target?_eq_none hpath h)
  | some target =>
    obtain ⟨place, leaf⟩ := target
    obtain ⟨cs, hcs, hadmits, happ⟩ := (edit_eq_ok_iff hpath).1 h
    exact .inr ⟨place, leaf, cs, rfl, hcs, hadmits, happ⟩

/-- Either nothing has to be done, or what the operation leaves is put under the name.
Neither this nor what was there has anything below it then, and it was not the
directory one is in. -/
theorem applied_cases (fs : FileSystem) {e : Edit} {cwd : List String} {cs : List (String × Node)}
    (h : e.Admits cwd (place ++ [leaf]) (Entries.get? leaf cs)) :
    (e.applied fs place leaf cs = fs ∧
      e.leaves (Entries.get? leaf cs) = Entries.get? leaf cs) ∨
    (e.applied fs place leaf cs =
        fs.withChildren place (Entries.put leaf (e.leaves (Entries.get? leaf cs)) cs) ∧
      (∀ n, Entries.get? leaf cs = some n →
        n.Bare ∧ (n.entry = .dir → place ++ [leaf] ≠ cwd)) ∧
      ∀ n, e.leaves (Entries.get? leaf cs) = some n → n.Bare) := by
  cases e with
  | mkdir =>
    rw [Edit.Admits] at h
    exact .inr ⟨rfl, by simp [h], by simp [Edit.leaves, Node.Bare]⟩
  | touch =>
    cases hold : Entries.get? leaf cs with
    | none =>
      exact .inr ⟨by simp [Edit.applied, hold], by simp, by simp [Edit.leaves, Node.Bare]⟩
    | some n => exact .inl ⟨by simp [Edit.applied, hold], rfl⟩
  | rm =>
    obtain ⟨hcwd, n, hold, hbare⟩ := h
    refine .inr ⟨rfl, fun m hm => ?_, by simp [Edit.leaves]⟩
    cases hold.symm.trans hm
    exact ⟨hbare, fun _ => hcwd⟩
  | echo content =>
    refine .inr ⟨rfl, fun n hn => ?_, by simp [Edit.leaves, Node.Bare]⟩
    cases n with
    | dir es => exact absurd hn (h es)
    | file _ => exact ⟨trivial, nofun⟩

theorem cwd_applied (e : Edit) (cs : List (String × Node)) :
    (e.applied fs place leaf cs).cwd = fs.cwd := by
  unfold Edit.applied
  split <;> rfl

/-- Only going elsewhere changes where one is. -/
theorem cwd_edit {e : Edit} (h : fs.edit path e = .ok fs') : fs'.cwd = fs.cwd := by
  obtain rfl | ⟨place, leaf, cs, -, -, -, rfl⟩ := edit_cases h
  · rfl
  · exact cwd_applied e cs

/-- The operation leaves at its place what it is to leave. -/
theorem node?_applied {e : Edit} {cs : List (String × Node)} (hfs : fs.root.WellFormed)
    (hcs : fs.node? place = some (.dir cs))
    (h : e.Admits fs.cwd (place ++ [leaf]) (Entries.get? leaf cs)) :
    (e.applied fs place leaf cs).node? (place ++ [leaf]) = e.leaves (Entries.get? leaf cs) := by
  rcases applied_cases fs h with ⟨happ, hsame⟩ | ⟨happ, -, -⟩
  · rw [happ, hsame, node?_child hcs]
  · have hsorted : Entries.Sorted cs := (Node.wellFormed_dir_iff.1 (hfs.at? hcs)).1
    rw [happ, node?_child (node?_withChildren_self hcs), Entries.get?_put_self hsorted]

/-- Of every other place the map says what it said before. -/
theorem look?_applied_of_ne {e : Edit} {cs : List (String × Node)} (hfs : fs.root.WellFormed)
    (hcs : fs.node? place = some (.dir cs))
    (h : e.Admits fs.cwd (place ++ [leaf]) (Entries.get? leaf cs)) {other : List String}
    (hother : other ≠ place ++ [leaf]) :
    (e.applied fs place leaf cs).look? other = fs.look? other := by
  rcases applied_cases fs h with ⟨happ, -⟩ | ⟨happ, hold, hnew⟩
  · rw [happ]
  · have hsorted : Entries.Sorted cs := (Node.wellFormed_dir_iff.1 (hfs.at? hcs)).1
    rw [happ]
    refine look?_withChildren_of_ne hcs (fun name hname => Entries.get?_put_of_ne hname _ cs)
      (fun n hn => (hold n hn).1) (fun n hn => hnew n ?_) hother
    rwa [Entries.get?_put_self hsorted] at hn

/-- What the map allows is what the directory admits. -/
theorem allowed_iff {e : Edit} :
    e.Allowed fs.look? fs.cwd (place ++ [leaf]) ↔ ∃ cs, fs.node? place = some (.dir cs) ∧
      e.Admits fs.cwd (place ++ [leaf]) (Entries.get? leaf cs) := by
  cases e with
  | mkdir =>
    simp only [Edit.Allowed, Edit.Admits, List.dropLast_concat, look?_eq_dir_iff,
      look?_eq_none_iff, exists_and_right.symm]
    exact exists_congr fun cs => and_congr_right fun hcs => by rw [node?_child hcs]
  | touch =>
    simp only [Edit.Allowed, Edit.Admits, List.dropLast_concat, look?_eq_dir_iff, and_true]
  | echo content =>
    simp only [Edit.Allowed, Edit.Admits, List.dropLast_concat, look?_eq_dir_iff, ne_eq,
      not_exists, exists_and_right.symm]
    exact exists_congr fun cs => and_congr_right fun hcs => by rw [node?_child hcs]
  | rm =>
    constructor
    · rintro ⟨hcwd, ⟨content, hfile⟩ | ⟨hdir, hempty⟩⟩
      · obtain ⟨cs, hcs, hleaf⟩ := exists_dir_of_node?_child (look?_eq_file_iff.1 hfile)
        exact ⟨cs, hcs, hcwd, _, hleaf, trivial⟩
      · obtain ⟨es, hes⟩ := look?_eq_dir_iff.1 hdir
        obtain ⟨cs, hcs, hleaf⟩ := exists_dir_of_node?_child hes
        exact ⟨cs, hcs, hcwd, _, hleaf, (eq_nil_iff_look? hes).2 hempty⟩
    · rintro ⟨cs, hcs, hcwd, n, hleaf, hbare⟩
      rw [← node?_child hcs] at hleaf
      refine ⟨hcwd, ?_⟩
      cases n with
      | file content => exact .inl ⟨content, look?_eq_file_iff.2 hleaf⟩
      | dir es =>
        exact .inr ⟨look?_eq_dir_iff.2 ⟨es, hleaf⟩, (eq_nil_iff_look? hleaf).1 hbare⟩

/-! ## The refinement -/

/-- A path that ends in a name leads to that name in the directory it is cut at. -/
theorem target?_of_isName (fs : FileSystem) (h : Path.isName (Path.leaf path.toList) = true) :
    ∃ place leaf, fs.target? path = some (place, leaf) ∧ fs.resolve path = place ++ [leaf] := by
  obtain ⟨parent, hsplit, hresolve⟩ := Path.splitLeaf?_of_isName h
  exact ⟨Path.resolve fs.cwd parent, _, by rw [target?, hsplit]; rfl, hresolve fs.cwd⟩

/-- On a path that ends in a name an operation succeeds exactly when the map allows it
at the place the path leads to.  Then it leaves there what it is to leave, every other
place has the kind and content it had, and one stays where one is; when it is refused,
the file system is what it was. -/
theorem edit_refines_map (hfs : fs.root.WellFormed)
    (hpath : Path.isName (Path.leaf path.toList) = true) (e : Edit) :
    ((∃ fs', fs.edit path e = .ok fs') ↔ e.Allowed fs.look? fs.cwd (fs.resolve path)) ∧
    (∀ fs', fs.edit path e = .ok fs' →
      fs'.node? (fs.resolve path) = e.leaves (fs.node? (fs.resolve path)) ∧
      (∀ other, other ≠ fs.resolve path → fs'.look? other = fs.look? other) ∧
      fs'.cwd = fs.cwd) ∧
    (∀ error, fs.edit path e = .error error → fs.after (fs.edit path e) = fs) := by
  obtain ⟨place, leaf, htarget, hresolve⟩ := target?_of_isName fs hpath
  rw [hresolve]
  refine ⟨?_, fun fs' h => ?_, fun error h => by rw [h]; rfl⟩
  · rw [allowed_iff]
    constructor
    · rintro ⟨fs', h⟩
      obtain ⟨cs, hcs, hadmits, -⟩ := (edit_eq_ok_iff htarget).1 h
      exact ⟨cs, hcs, hadmits⟩
    · rintro ⟨cs, hcs, hadmits⟩
      exact ⟨_, (edit_eq_ok_iff htarget).2 ⟨cs, hcs, hadmits, rfl⟩⟩
  · obtain ⟨cs, hcs, hadmits, rfl⟩ := (edit_eq_ok_iff htarget).1 h
    refine ⟨?_, fun other hother => look?_applied_of_ne hfs hcs hadmits hother, cwd_applied e cs⟩
    rw [node?_applied hfs hcs hadmits, node?_child hcs]

theorem wellFormed_starter : starter.root.WellFormed := by
  simp only [starter, starterTree, Node.WellFormed, Node.WellFormedAll, Entries.Sorted]
  decide

/-- On the first tree: a new directory, named in a roundabout way. -/
theorem edit_refines_map_starter :
    starter.root.WellFormed ∧ Path.isName (Path.leaf "../adventurer/./lair//".toList) = true ∧
    ∃ fs', starter.edit "../adventurer/./lair//" .mkdir = .ok fs' ∧
      fs'.node? ["home", "adventurer", "lair"] = some (.dir []) ∧
      fs'.look? ["home", "adventurer", "notes.txt"] = some (.file "Welcome to ShellQuest!") ∧
      fs'.cwd = ["home", "adventurer"] := by
  have hname : Path.isName (Path.leaf "../adventurer/./lair//".toList) = true := by decide +kernel
  have hplace : starter.resolve "../adventurer/./lair//" = ["home", "adventurer", "lair"] := by
    decide +kernel
  obtain ⟨hiff, hok, -⟩ := edit_refines_map wellFormed_starter hname .mkdir
  rw [hplace] at hiff hok
  obtain ⟨fs', h⟩ := hiff.2 ⟨rfl, rfl⟩
  obtain ⟨hnode, hother, hcwd⟩ := hok fs' h
  exact ⟨wellFormed_starter, hname, fs', h, hnode,
    (hother ["home", "adventurer", "notes.txt"] (by decide)).trans rfl, hcwd⟩

end

end FileSystem

end Questline
