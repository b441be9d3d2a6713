import Questline.Proofs.Tree.FlatMap
set_option autoImplicit false

/-!
# What touch and mkdir say of a path

A touch that succeeds and a mkdir that finds its name taken both say that there is
something where the path leads.  They are right about every path that ends in a
name.  A path that ends in `.` or `..` they take for a directory without a look at
the way there, and they are right about it only if the way exists.
-/

namespace Questline

namespace FileSystem

variable {fs fs' : FileSystem} {path : String} {place : List String} {leaf : String}

theorem target?_of_not_isName (h : Path.isName (Path.leaf path.toList) = false) :
    fs.target? path = none := by
  rw [target?, Path.splitLeaf?_of_not_isName h]
  rfl

theorem touch_of_target?_eq_none (h : fs.target? path = none) : fs.touch path = .ok fs := by
  rw [touch, h]
  rfl

theorem mkdir_of_target?_eq_none (h : fs.target? path = none) :
    fs.mkdir path = .error .alreadyExists := by
  rw [mkdir, h]
  rfl

/-- What is put under a name of a directory is there. -/
theorem node?_withChildren_insert {cs : List (String × Node)}
    (h : fs.node? place = some (.dir cs)) (new : Node) :
    (fs.withChildren place (Entries.insert leaf new cs)).node? (place ++ [leaf]) = some new := by
  rw [node?_child (node?_withChildren_self h), Entries.get?_insert_self]

/-- A touch at a name leaves something there. -/
theorem isSome_node?_touch (htarget : fs.target? path = some (place, leaf))
    (h : fs.touch path = .ok fs') : (fs'.node? (place ++ [leaf])).isSome := by
  obtain ⟨cs, hcs, -, rfl⟩ := (edit_eq_ok_iff (e := .touch) htarget).1 h
  unfold Edit.applied
  split
  · next n hn => rw [node?_child hcs, hn]; rfl
  · next hne =>
    cases hold : Entries.get? leaf cs with
    | none => exact Option.isSome_of_eq_some (node?_withChildren_insert hcs _)
    | some n => exact (hne n rfl hold).elim

/-- A directory that cannot be opened is not taken for a name that is. -/
theorem childrenAt_ne_alreadyExists (fs : FileSystem) (place : List String) :
    fs.childrenAt place ≠ .error .alreadyExists := by
  unfold childrenAt
  split
  · simp
  · split <;> simp

theorem mkdir_of_target?_eq_some (htarget : fs.target? path = some (place, leaf)) :
    fs.mkdir path = match fs.childrenAt place with
      | .error e => .error e
      | .ok cs =>
        if (Entries.get? leaf cs).isSome then .error .alreadyExists
        else .ok (fs.withChildren place (Entries.insert leaf (.dir []) cs)) := by
  rw [mkdir, htarget]
  cases hcs : fs.childrenAt place with
  | error e => simp [hcs, bind, Except.bind]
  | ok cs =>
    by_cases hold : (Entries.get? leaf cs).isSome = true
    · simp [hcs, hold, bind, Except.bind, throw, throwThe, MonadExceptOf.throw]
    · simp [hcs, hold, bind, Except.bind, pure, Except.pure]

/-- A mkdir at a name is refused as taken only if something is there. -/
theorem isSome_node?_mkdir (htarget : fs.target? path = some (place, leaf))
    (h : fs.mkdir path = .error .alreadyExists) : (fs.node? (place ++ [leaf])).isSome := by
  rw [mkdir_of_target?_eq_some htarget] at h
  cases hcs : fs.childrenAt place with
  | error e =>
    rw [hcs] at h
    cases h
    exact (childrenAt_ne_alreadyExists fs place hcs).elim
  | ok cs =>
    rw [hcs] at h
    dsimp only at h
    rw [node?_child (childrenAt_eq_ok_iff.1 hcs)]
    cases hold : (Entries.get? leaf cs).isSome with
    | true => rfl
    | false =>
      rw [hold] at h
      cases h

/-- What touch and mkdir say of a path is so exactly if the path ends in a name or leads
to something already. -/
theorem isSome_lookup?_of_answer_iff (fs : FileSystem) (path : String) :
    ((∀ fs', fs.touch path = .ok fs' → (fs'.lookup? path).isSome) ↔
      Path.isName (Path.leaf path.toList) = true ∨ (fs.lookup? path).isSome) ∧
    ((fs.mkdir path = .error .alreadyExists → (fs.lookup? path).isSome) ↔
      Path.isName (Path.leaf path.toList) = true ∨ (fs.lookup? path).isSome) := by
  cases hname : Path.isName (Path.leaf path.toList) with
  | false =>
    have htarget : fs.target? path = none := target?_of_not_isName hname
    rw [touch_of_target?_eq_none htarget, mkdir_of_target?_eq_none htarget]
    simp
  | true =>
    obtain ⟨place, leaf, htarget, hresolve⟩ := target?_of_isName fs hname
    have htouch : ∀ fs', fs.touch path = .ok fs' → (fs'.lookup? path).isSome := by
      intro fs' h
      have hcwd : fs'.cwd = fs.cwd := cwd_edit (e := .touch) h
      rw [lookup?, resolve, hcwd, show Path.resolve fs.cwd path.toList = place ++ [leaf] from hresolve]
      exact isSome_node?_touch htarget h
    have hmkdir : fs.mkdir path = .error .alreadyExists → (fs.lookup? path).isSome := by
      intro h
      rw [lookup?, hresolve]
      exact isSome_node?_mkdir htarget h
    exact ⟨⟨fun _ => .inl rfl, fun _ => htouch⟩, ⟨fun _ => .inl rfl, fun _ => hmkdir⟩⟩

/-- On the first tree, a way through a directory that is not there: touch succeeds and mkdir
finds its name taken, and there is nothing. -/
theorem not_isSome_lookup?_of_dot :
    starter.touch "ghost/." = .ok starter ∧ starter.mkdir "ghost/." = .error .alreadyExists ∧
      (starter.lookup? "ghost/.").isSome = false ∧
      ¬ (∀ fs', starter.touch "ghost/." = .ok fs' → (fs'.lookup? "ghost/.").isSome) ∧
      ¬ (starter.mkdir "ghost/." = .error .alreadyExists → (starter.lookup? "ghost/.").isSome) := by
  have hname : Path.isName (Path.leaf "ghost/.".toList) = false := by decide +kernel
  have hplace : starter.resolve "ghost/." = ["home", "adventurer", "ghost"] := by decide +kernel
  have hnone : (starter.lookup? "ghost/.").isSome = false := by
    rw [lookup?, hplace]
    rfl
  have hneither : ¬ (Path.isName (Path.leaf "ghost/.".toList) = true ∨
      (starter.lookup? "ghost/.").isSome) := by
    rw [hname, hnone]
    decide
  obtain ⟨htouch, hmkdir⟩ := isSome_lookup?_of_answer_iff starter "ghost/."
  have htarget : starter.target? "ghost/." = none := target?_of_not_isName hname
  exact ⟨touch_of_target?_eq_none htarget, mkdir_of_target?_eq_none htarget, hnone,
    fun h => hneither (htouch.1 h), fun h => hneither (hmkdir.1 h)⟩

end FileSystem

end Questline
