import Questline.Proofs.Tree.Graft
import Questline.Store.Disk
set_option autoImplicit false

/-!
# A directory of a disk

What the operations on a disk do where a directory stands at a place: a file is found by its name,
put in and taken out, and the directory is there again whatever was changed in it.  Where nothing
stands, making the directories on the way leaves an empty one.
-/

namespace Questline

namespace Disk

variable {place : List String} {disk disk' n : Node} {cs : List (String × Node)} {name : String}

/-! ## Paths -/

theorem pathBytes_concat (place : List String) (name : String) :
    pathBytes (place ++ [name]) = pathBytes place + 1 + name.utf8ByteSize := by
  induction place with
  | nil => rw [List.nil_append, pathBytes, pathBytes, pathBytes, Nat.add_zero, Nat.zero_add]
  | cons s r ih =>
    rw [List.cons_append, pathBytes, pathBytes, ih]
    omega

theorem pathFault?_eq_none_iff :
    pathFault? place = none ↔ (∀ s ∈ place, '\x00' ∉ s.toList) ∧ pathBytes place ≤ 4095 := by
  rw [pathFault?]
  split
  · rename_i hnul
    obtain ⟨s, hs, hc⟩ := List.any_eq_true.1 hnul
    obtain ⟨c, hc, heq⟩ := List.any_eq_true.1 hc
    exact iff_of_false nofun fun h => h.1 s hs (of_decide_eq_true heq ▸ hc)
  · rename_i hnul
    have hplace : ∀ s ∈ place, '\x00' ∉ s.toList := fun s hs hc => hnul
      (List.any_eq_true.2 ⟨s, hs, List.any_eq_true.2 ⟨_, hc, decide_eq_true rfl⟩⟩)
    split
    · rename_i hlong
      exact iff_of_false nofun fun h => Nat.not_lt.2 h.2 hlong
    · rename_i hshort
      exact iff_of_true rfl ⟨hplace, Nat.not_lt.1 hshort⟩

/-- What a directory can hold can be spoken of, if its own path leaves the room for a name. -/
theorem pathFault?_concat (hplace : pathFault? place = none) (hshort : pathBytes place ≤ 3839)
    (hname : '\x00' ∉ name.toList) (hfits : fits name = true) :
    pathFault? (place ++ [name]) = none := by
  rw [pathFault?_eq_none_iff] at hplace ⊢
  rw [fits, decide_eq_true_eq] at hfits
  rw [pathBytes_concat]
  refine ⟨fun s hs => ?_, by omega⟩
  rcases List.mem_append.1 hs with hs | hs
  · exact hplace.1 s hs
  · rwa [List.mem_singleton.1 hs]

/-! ## Walking -/

theorem find_append (above below : List String) (disk : Node) :
    find (above ++ below) disk = match find above disk with
      | .node n => find below n
      | f => f := by
  induction above generalizing disk with
  | nil => rfl
  | cons s r ih =>
    cases disk with
    | file _ => rfl
    | dir cs =>
      rw [List.cons_append, find, find]
      split
      · cases Entries.get? s cs with
        | none => rfl
        | some c => exact ih c
      · rfl

theorem at?_of_find (h : find place disk = .node n) : disk.at? place = some n := by
  induction place generalizing disk with
  | nil =>
    cases h
    rfl
  | cons s r ih =>
    cases disk with
    | file _ => cases h
    | dir cs =>
      rw [find] at h
      split at h
      · cases hc : Entries.get? s cs with
        | none => rw [hc] at h; cases h
        | some c =>
          rw [hc] at h
          rw [Node.at?, Node.child?, hc]
          exact ih h
      · cases h

theorem find_of_at? (hfits : ∀ name ∈ place, fits name = true) (h : disk.at? place = some n) :
    find place disk = .node n := by
  induction place generalizing disk with
  | nil =>
    cases h
    rfl
  | cons s r ih =>
    obtain ⟨hs, hr⟩ := List.forall_mem_cons.1 hfits
    obtain ⟨cs, c, rfl, hc, hrest⟩ := Node.exists_child_of_at? h
    rw [find, if_pos hs, hc]
    exact ih hr hrest

/-- Directories can be made only where the disk can hold their names. -/
theorem fits_of_makeDirs (h : makeDirs place disk = .ok disk') : ∀ name ∈ place, fits name = true := by
  induction place generalizing disk disk' with
  | nil => exact fun _ => nofun
  | cons s r ih =>
    cases disk with
    | file _ => cases h
    | dir cs =>
      rw [makeDirs] at h
      split at h
      · rename_i hs
        cases hc : makeDirs r ((Entries.get? s cs).getD (.dir [])) with
        | error e => rw [hc] at h; cases h
        | ok c => exact List.forall_mem_cons.2 ⟨hs, ih hc⟩
      · cases h

/-! ## The directory at a place -/

/-- The directory at the place has these children, and the disk can hold the names on the way. -/
structure Lists (place : List String) (cs : List (String × Node)) (disk : Node) : Prop where
  dir : disk.at? place = some (.dir cs)
  fits : ∀ name ∈ place, fits name = true
  wellFormed : disk.WellFormed

theorem Lists.children (h : Lists place cs disk) : (Node.dir cs).WellFormed :=
  h.wellFormed.at? h.dir

theorem Lists.find (h : Lists place cs disk) : find place disk = .node (.dir cs) :=
  find_of_at? h.fits h.dir

/-- What is found under a name in the directory. -/
theorem Lists.find_child (h : Lists place cs disk) (hname : Disk.fits name = true) :
    Disk.find (place ++ [name]) disk = match Entries.get? name cs with
      | some c => .node c
      | none => .nothing := by
  rw [find_append, h.find]
  dsimp only
  rw [Disk.find, if_pos hname]
  cases Entries.get? name cs <;> rfl

/-- Nothing has to be made where the directory stands. -/
theorem Lists.makeDirs (h : Lists place cs disk) : makeDirs place disk = .ok disk := by
  obtain ⟨hdir, hfits, hwell⟩ := h
  induction place generalizing disk with
  | nil =>
    cases hdir
    rfl
  | cons s r ih =>
    obtain ⟨hs, hr⟩ := List.forall_mem_cons.1 hfits
    obtain ⟨cs', c, rfl, hc, hrest⟩ := Node.exists_child_of_at? hdir
    rw [Disk.makeDirs, if_pos hs, hc, Option.getD_some, ih hrest hr (hwell.get? hc)]
    change Except.ok (Node.dir (Entries.insert s c cs')) = _
    rw [Entries.insert_eq_self (Node.wellFormed_dir_iff.1 hwell).1 hc]

theorem Lists.graft (h : Lists place cs disk) {cs' : List (String × Node)}
    (hchildren : (Node.dir cs').WellFormed) : Lists place cs' (Node.graft (.dir cs') place disk) where
  dir := Node.at?_graft_self _ _ _ (by rw [h.dir]; rfl)
  fits := h.fits
  wellFormed := h.wellFormed.graft hchildren

/-- A file can be put where no directory has its name. -/
theorem Lists.putFile (h : Lists place cs disk) (hname : Disk.fits name = true)
    (hnone : ∀ c, Entries.get? name cs = some c → c.isDir = false) (text : String) :
    ∃ disk', putFile place name text disk = .ok disk' ∧
      Lists place (Entries.insert name (.file text) cs) disk' := by
  refine ⟨_, ?_, h.graft (h.children.put name (some (.file text)) ?_)⟩
  · rw [Disk.putFile, h.find]
    dsimp only
    rw [if_pos hname]
    split
    · rename_i hdir
      exact absurd (hnone _ hdir) (by simp [Node.isDir])
    · rfl
  · rintro _ ⟨⟩
    trivial

theorem Lists.dropFile (h : Lists place cs disk) (name : String) :
    Lists place (Entries.erase name cs) (dropFile place name disk) := by
  rw [Disk.dropFile, h.dir]
  exact h.graft (h.children.put name none nofun)

/-- A directory that is made where nothing stands is empty. -/
theorem lists_of_makeDirs (hwell : disk.WellFormed)
    (hnew : find place disk = .nothing ∨ disk = .dir []) (h : makeDirs place disk = .ok disk') :
    Lists place [] disk' := by
  have hfits := fits_of_makeDirs h
  induction place generalizing disk disk' with
  | nil =>
    rcases hnew with hnew | rfl
    · cases hnew
    · cases h
      exact ⟨rfl, hfits, hwell⟩
  | cons s r ih =>
    obtain ⟨hs, hr⟩ := List.forall_mem_cons.1 hfits
    cases disk with
    | file _ => cases h
    | dir cs =>
      rw [makeDirs, if_pos hs] at h
      cases hc : makeDirs r ((Entries.get? s cs).getD (.dir [])) with
      | error e => rw [hc] at h; cases h
      | ok c =>
        rw [hc] at h
        cases h
        have hlists : Lists r [] c := by
          cases hget : Entries.get? s cs with
          | none =>
            rw [hget, Option.getD_none] at hc
            exact ih (Node.wellFormed_dir_iff.2 ⟨.nil, nofun⟩) (.inr rfl) hc hr
          | some old =>
            rw [hget, Option.getD_some] at hc
            refine ih (hwell.get? hget) (.inl ?_) hc hr
            rcases hnew with hnew | hempty
            · rwa [find, if_pos hs, hget] at hnew
            · cases hempty
              cases hget
        refine ⟨?_, hfits, hwell.put s (some c) ?_⟩
        · rw [Node.at?, Node.child?, Entries.get?_insert_self]
          exact hlists.dir
        · rintro _ ⟨⟩
          exact hlists.wellFormed

end Disk

end Questline
