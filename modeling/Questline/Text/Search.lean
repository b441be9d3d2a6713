set_option autoImplicit false

/-!
# Text: finding and cutting

Occurrence of one text in another, and the two ways to cut a text at a
character: at its first and at its last occurrence.
-/

namespace Questline.Text

/-- `part` occurs somewhere in the text. -/
def occurs (part : List Char) : List Char → Bool
  | [] => part.isEmpty
  | c :: r => part.isPrefixOf (c :: r) || occurs part r

/-- The text contains `part`, letter case counting. -/
def contains (s part : String) : Bool := occurs part.toList s.toList

/-- The text begins with `start`. -/
def startsWith (s start : String) : Bool := start.toList.isPrefixOf s.toList

theorem occurs_iff {part cs : List Char} : occurs part cs = true ↔ part <:+: cs := by
  induction cs with
  | nil => simp [occurs]
  | cons c r ih => simp [occurs, ih, List.infix_cons_iff]

/-- What stands before and after the first `c`. -/
def cutFirst (c : Char) : List Char → Option (List Char × List Char)
  | [] => none
  | d :: r => if d = c then some ([], r) else (cutFirst c r).map fun (a, b) => (d :: a, b)

/-- What stands before and after the last `c`. -/
def cutLast (c : Char) : List Char → Option (List Char × List Char)
  | [] => none
  | d :: r =>
    match cutLast c r with
    | some (a, b) => some (d :: a, b)
    | none => if d = c then some ([], r) else none

theorem cutFirst_eq_some {c : Char} {cs a b : List Char} (h : cutFirst c cs = some (a, b)) :
    cs = a ++ c :: b ∧ c ∉ a := by
  induction cs generalizing a b with
  | nil => simp [cutFirst] at h
  | cons d r ih =>
    by_cases hd : d = c
    · simp [cutFirst, hd] at h
      obtain ⟨rfl, rfl⟩ := h
      simp [hd]
    · simp only [cutFirst, hd, if_false, Option.map_eq_some_iff, Prod.mk.injEq] at h
      obtain ⟨⟨a', b'⟩, h', rfl, rfl⟩ := h
      obtain ⟨rfl, hc⟩ := ih h'
      exact ⟨rfl, by simpa [hc] using Ne.symm hd⟩

theorem cutLast_eq_none_iff {c : Char} {cs : List Char} : cutLast c cs = none ↔ c ∉ cs := by
  induction cs with
  | nil => simp [cutLast]
  | cons d r ih =>
    match h : cutLast c r with
    | some (a, b) => simp [cutLast, h, ← ih]
    | none =>
      have : c ∉ r := ih.1 h
      by_cases hd : d = c
      · simp [cutLast, h, hd]
      · simp [cutLast, h, hd, this, Ne.symm hd]

theorem cutLast_eq_some {c : Char} {cs a b : List Char} (h : cutLast c cs = some (a, b)) :
    cs = a ++ c :: b ∧ c ∉ b := by
  induction cs generalizing a b with
  | nil => simp [cutLast] at h
  | cons d r ih =>
    rw [cutLast] at h
    split at h
    · next a' b' h' =>
      injection h with h
      injection h with ha hb
      subst ha hb
      obtain ⟨rfl, hc⟩ := ih h'
      exact ⟨rfl, hc⟩
    · next h' =>
      by_cases hd : d = c
      · simp [hd] at h
        obtain ⟨rfl, rfl⟩ := h
        exact ⟨by simp [hd], cutLast_eq_none_iff.1 h'⟩
      · simp [hd] at h

end Questline.Text
