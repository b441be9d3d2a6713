import Questline.Proofs.Json.RoundTrip
import Questline.Proofs.Keyed
set_option autoImplicit false

/-!
# Tidy data is kept as it is
-/

namespace Questline.Json

mutual

/-- Tidy data is kept as it is. -/
theorem canonical?_of_tidy : ∀ j : Json, Tidy .data j → canonical? j = some j
  | .null, _ => rfl
  | .bool _, _ => rfl
  | .num _, _ => rfl
  | .str _, _ => rfl
  | .arr items, h => by
    rw [canonical?, canonicalItems?_of_tidy items h, Option.map_some]
  | .obj fields, h => by
    rw [canonical?, canonicalFields?_of_tidy fields h.2, Option.map_some,
      Keyed.entries_ofList (h.1 rfl)]
  | .broken, h => h.elim

theorem canonicalItems?_of_tidy : ∀ items : List Json, TidyItems .data items →
    canonicalItems? items = some items
  | [], _ => rfl
  | j :: r, h => by
    rw [canonicalItems?, canonical?_of_tidy j h.1, canonicalItems?_of_tidy r h.2]
    rfl

theorem canonicalFields?_of_tidy : ∀ fields : List (String × Json), TidyFields .data fields →
    canonicalFields? fields = some fields
  | [], _ => rfl
  | (k, j) :: r, h => by
    rw [canonicalFields?, canonical?_of_tidy j h.1, canonicalFields?_of_tidy r h.2]
    rfl

end

theorem kept?_of_tidy {around : Nat} {j : Json} (h : Tidy .data j)
    (hdepth : around + depth j ≤ maxDepth) : kept? around j = some j := by
  rw [kept?, if_pos hdepth, canonical?_of_tidy j h]

theorem depthItems_le {items : List Json} {n : Nat} (h : ∀ j ∈ items, depth j ≤ n) :
    depthItems items ≤ n := by
  induction items with
  | nil => exact Nat.zero_le n
  | cons j r ih =>
    rw [depthItems]
    exact Nat.max_le.2 ⟨h j List.mem_cons_self, ih fun k hk => h k (List.mem_cons_of_mem _ hk)⟩

theorem depthFields_le {fields : List (String × Json)} {n : Nat} (h : ∀ e ∈ fields, depth e.2 ≤ n) :
    depthFields fields ≤ n := by
  induction fields with
  | nil => exact Nat.zero_le n
  | cons e r ih =>
    rw [depthFields]
    exact Nat.max_le.2 ⟨h e List.mem_cons_self, ih fun k hk => h k (List.mem_cons_of_mem _ hk)⟩

/-! ## Forms -/

namespace Form

variable {form : Form} {fields : List (String × Json)}

/-- An object that is written has the fields it is made of, in some order. -/
theorem exists_object_eq (form : Form) (hnodup : (fields.map Prod.fst).Nodup) :
    ∃ written, form.object fields = .obj written ∧ written.Perm fields ∧
      (form = .data → Entries.Sorted written) := by
  cases form with
  | text => exact ⟨fields, rfl, .refl _, nofun⟩
  | data =>
    exact ⟨_, rfl, Keyed.perm_entries_ofList hnodup, fun _ => (Keyed.ofList fields).sorted⟩

theorem tidy_object (hnodup : (fields.map Prod.fst).Nodup) (h : TidyFields form fields) :
    Tidy form (form.object fields) := by
  obtain ⟨written, heq, hperm, hsorted⟩ := form.exists_object_eq hnodup
  rw [heq]
  exact ⟨hsorted, tidyFields_iff.2 fun e he => tidyFields_iff.1 h e (hperm.mem_iff.1 he)⟩

theorem depth_object_le {n : Nat} (hnodup : (fields.map Prod.fst).Nodup)
    (h : ∀ e ∈ fields, depth e.2 ≤ n) : depth (form.object fields) ≤ n + 1 := by
  obtain ⟨written, heq, hperm, -⟩ := form.exists_object_eq hnodup
  rw [heq, depth]
  exact Nat.succ_le_succ (depthFields_le fun e he => h e (hperm.mem_iff.1 he))

/-- A reader to which the order of fields does not matter reads what was given. -/
theorem read_object {α : Type} {read : Json → α}
    (hread : ∀ fs fs' : List (String × Json), fs.Perm fs' → read (.obj fs) = read (.obj fs'))
    (hnodup : (fields.map Prod.fst).Nodup) : read (form.object fields) = read (.obj fields) := by
  obtain ⟨written, heq, hperm, -⟩ := form.exists_object_eq hnodup
  rw [heq]
  exact hread _ _ hperm

end Form

end Questline.Json
