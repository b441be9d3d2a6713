import Questline.Tree.Path
set_option autoImplicit false

/-!
# Where a path leads and where it is written

Whoever reads follows a path from piece to piece; whoever writes cuts it into the
path of a directory and a name first.  Both mean the same place.
-/

namespace Questline.Path

/-- The path without the slashes at its end. -/
def bare (path : List Char) : List Char := (path.reverse.dropWhile (· = '/')).reverse

/-- The last piece of a path, where slashes at the end do not count. -/
def leaf (path : List Char) : List Char := (pieces (bare path)).getLast (pieces_ne_nil _)

/-! ## Pieces -/

theorem pieces_append_slash (a b : List Char) : pieces (a ++ '/' :: b) = pieces a ++ pieces b := by
  induction a with
  | nil => simp [pieces]
  | cons c r ih =>
    by_cases hc : c = '/'
    · simp [pieces, hc, ih]
    · cases hr : pieces r with
      | nil => exact absurd hr (pieces_ne_nil r)
      | cons p ps => simp [pieces, hc, ih, hr]

theorem pieces_of_notMem {cs : List Char} (h : '/' ∉ cs) : pieces cs = [cs] := by
  induction cs with
  | nil => rfl
  | cons c r ih =>
    obtain ⟨hc, hr⟩ := not_or.1 (mt List.mem_cons.2 h)
    simp [pieces, Ne.symm hc, ih hr]

theorem follow_name (place : List String) {piece : List Char} (h : isName piece = true) :
    follow place piece = place ++ [.ofList piece] := by
  simp only [isName, Bool.and_eq_true, bne_iff_ne, ne_eq] at h
  obtain ⟨⟨hempty, hdot⟩, hdots⟩ := h
  simp [follow, hempty, hdot, hdots]

/-! ## Slashes at the end -/

theorem foldl_follow_slash (place : List String) (cs : List Char) :
    (pieces (cs ++ ['/'])).foldl follow place = (pieces cs).foldl follow place := by
  rw [pieces_append_slash, List.foldl_append]
  simp [pieces, follow]

theorem resolve_slash (cwd : List String) {cs : List Char} (h : cs ≠ []) :
    resolve cwd (cs ++ ['/']) = resolve cwd cs := by
  obtain ⟨c, r, rfl⟩ := List.exists_cons_of_ne_nil h
  rw [resolve, resolve, foldl_follow_slash]
  rfl

theorem resolve_slashes (cwd : List String) {cs : List Char} (h : cs ≠ []) (n : Nat) :
    resolve cwd (cs ++ List.replicate n '/') = resolve cwd cs := by
  induction n with
  | zero => simp
  | succ n ih =>
    rw [List.replicate_succ', ← List.append_assoc, resolve_slash cwd (by simp [h]), ih]

theorem exists_slashes (path : List Char) : ∃ n, path = bare path ++ List.replicate n '/' := by
  let slashes := path.reverse.takeWhile (· = '/')
  have hall : slashes = List.replicate slashes.length '/' :=
    List.eq_replicate_of_mem fun c hc => by
      simpa using List.all_eq_true.1 List.all_takeWhile c hc
  have hcut : path.reverse = slashes ++ path.reverse.dropWhile (· = '/') :=
    (List.takeWhile_append_dropWhile ..).symm
  refine ⟨slashes.length, ?_⟩
  rw [← List.reverse_inj, hcut, bare, List.reverse_append, List.reverse_reverse,
    List.reverse_replicate, ← hall]

theorem resolve_bare (cwd : List String) {path : List Char} (h : bare path ≠ []) :
    resolve cwd path = resolve cwd (bare path) := by
  obtain ⟨n, hn⟩ := exists_slashes path
  calc resolve cwd path = resolve cwd (bare path ++ List.replicate n '/') := by rw [← hn]
    _ = resolve cwd (bare path) := resolve_slashes cwd h n

/-! ## The directory and the name -/

/-- The last piece is what stands after the last slash that counts. -/
theorem leaf_eq (path : List Char) : leaf path = match Text.cutLast '/' (bare path) with
    | some (_, b) => b
    | none => bare path := by
  cases hcut : Text.cutLast '/' (bare path) with
  | none => simp [leaf, pieces_of_notMem (Text.cutLast_eq_none_iff.1 hcut)]
  | some cut =>
    obtain ⟨hbare, hmem⟩ := Text.cutLast_eq_some hcut
    simp [leaf, hbare, pieces_append_slash, pieces_of_notMem hmem]

/-- A path that does not end in a name cannot be cut. -/
theorem splitLeaf?_of_not_isName {path : List Char} (h : isName (leaf path) = false) :
    splitLeaf? path = none := by
  rw [leaf_eq] at h
  simp only [splitLeaf?]
  rw [show (path.reverse.dropWhile (· = '/')).reverse = bare path from rfl]
  cases hcut : Text.cutLast '/' (bare path) with
  | none => simp [show isName (bare path) = false by simpa [hcut] using h]
  | some cut => simp [show isName cut.2 = false by simpa [hcut] using h]

/-- A path that ends in a name is cut there, and what stands before leads to the
directory of the place that the path leads to. -/
theorem splitLeaf?_of_isName {path : List Char} (h : isName (leaf path) = true) :
    ∃ parent, splitLeaf? path = some (parent, .ofList (leaf path)) ∧
      ∀ cwd, resolve cwd path = resolve cwd parent ++ [.ofList (leaf path)] := by
  have hne : bare path ≠ [] := fun hnil => by simp [leaf, hnil, pieces, isName] at h
  cases hcut : Text.cutLast '/' (bare path) with
  | none =>
    -- There is one piece only, so the directory is the current one.
    have hmem : '/' ∉ bare path := Text.cutLast_eq_none_iff.1 hcut
    have hleaf : leaf path = bare path := by simp [leaf, pieces_of_notMem hmem]
    have hhead : (bare path).head? ≠ some '/' := fun hs => hmem (List.mem_of_head? hs)
    rw [hleaf] at h ⊢
    refine ⟨[], ?_, fun cwd => ?_⟩
    · simp only [splitLeaf?]
      rw [show (path.reverse.dropWhile (· = '/')).reverse = bare path from rfl, hcut]
      simp [h]
    · rw [resolve_bare cwd hne, resolve, if_neg hhead, pieces_of_notMem hmem, List.foldl_cons,
        List.foldl_nil, follow_name cwd h]
      rfl
  | some cut =>
    obtain ⟨a, b⟩ := cut
    obtain ⟨hbare, hmem⟩ := Text.cutLast_eq_some hcut
    have hleaf : leaf path = b := by
      simp [leaf, hbare, pieces_append_slash, pieces_of_notMem hmem]
    have hhead : (a ++ '/' :: b).head? = (a ++ ['/']).head? := by cases a <;> rfl
    rw [hleaf] at h ⊢
    refine ⟨a ++ ['/'], ?_, fun cwd => ?_⟩
    · simp only [splitLeaf?]
      rw [show (path.reverse.dropWhile (· = '/')).reverse = bare path from rfl, hcut]
      simp [h]
    · rw [resolve_bare cwd hne, hbare, resolve, hhead, pieces_append_slash, List.foldl_append,
        pieces_of_notMem hmem, List.foldl_cons, List.foldl_nil, follow_name _ h, resolve,
        foldl_follow_slash]

end Questline.Path
