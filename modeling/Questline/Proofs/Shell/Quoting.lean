import Questline.Shell.Token
import Questline.Text.Search
set_option autoImplicit false

/-!
# The shape of a word

A word is put together from bare characters and quoted stretches.  The word that
is read from the front of a text is the longest one there, and it stops in front
of a separator, a pipe, or a quote without a partner.
-/

namespace Questline.Token

open Text (bytes)

/-- Bare characters and quoted stretches, one after the other. -/
inductive IsPieces : List Char → Prop
  | nil : IsPieces []
  | bare {c : Char} {w : List Char} (hsep : isSeparator c = false) (hpipe : c ≠ '|')
      (hquote : c ≠ '"') (h : IsPieces w) : IsPieces (c :: w)
  | quoted {u w : List Char} (hu : '"' ∉ u) (h : IsPieces w) :
      IsPieces ('"' :: (u ++ '"' :: w))

/-- The text is over, or goes on with a character that is never part of a bare word. -/
def Stops (cs : List Char) : Prop := ∀ c ∈ cs.head?, isSeparator c = true ∨ c = '|'

/-- The text, cut before its last quote if the number of its quotes is odd. -/
def evened (cs : List Char) : List Char :=
  if cs.count '"' % 2 = 0 then cs
  else match Text.cutLast '"' cs with
    | some (front, _) => front
    | none => cs

/-! ## Characters -/

theorem utf8Size_of_isSeparator {c : Char} (h : isSeparator c = true) : c.utf8Size = 1 := by
  simp only [isSeparator, Bool.or_eq_true, decide_eq_true_eq] at h
  rcases h with (((rfl | rfl) | rfl) | rfl) | rfl <;> rfl

theorem ne_quote_of_isSeparator {c : Char} (h : isSeparator c = true) : c ≠ '"' := by
  rintro rfl
  simp [isSeparator] at h

theorem ne_pipe_of_isSeparator {c : Char} (h : isSeparator c = true) : c ≠ '|' := by
  rintro rfl
  simp [isSeparator] at h

theorem Stops.ne_quote {c : Char} {r : List Char} (h : Stops (c :: r)) : c ≠ '"' := by
  rcases h c rfl with hc | rfl
  · exact ne_quote_of_isSeparator hc
  · decide

/-! ## The number of quotes -/

theorem IsPieces.count_even {w : List Char} (h : IsPieces w) : w.count '"' % 2 = 0 := by
  induction h with
  | nil => rfl
  | bare _ _ hquote _ ih => simpa [hquote] using ih
  | quoted hu _ ih =>
    simp only [List.count_cons, List.count_append, List.count_eq_zero.2 hu]
    simp
    omega

theorem evened_of_even {cs : List Char} (h : cs.count '"' % 2 = 0) : evened cs = cs := by
  simp [evened, h]

theorem evened_of_cut {cs a b : List Char} (hodd : cs.count '"' % 2 = 1)
    (hcut : Text.cutLast '"' cs = some (a, b)) : evened cs = a := by
  simp [evened, hodd, hcut]

theorem cutLast_append {c : Char} {a b p q : List Char} (h : Text.cutLast c b = some (p, q)) :
    Text.cutLast c (a ++ b) = some (a ++ p, q) := by
  induction a with
  | nil => exact h
  | cons d r ih => simp [Text.cutLast, ih]

/-- A front with an even number of quotes is not touched. -/
theorem evened_append {a : List Char} (h : a.count '"' % 2 = 0) (b : List Char) :
    evened (a ++ b) = a ++ evened b := by
  by_cases hb : b.count '"' % 2 = 0
  · rw [evened_of_even hb, evened_of_even (by rw [List.count_append]; omega)]
  · cases hcut : Text.cutLast '"' b with
    | none =>
      rw [Text.cutLast_eq_none_iff] at hcut
      simp [List.count_eq_zero.2 hcut] at hb
    | some cut =>
      rw [evened_of_cut (by omega) hcut,
        evened_of_cut (by rw [List.count_append]; omega) (cutLast_append hcut)]

theorem evened_cons {c : Char} (h : c ≠ '"') (r : List Char) : evened (c :: r) = c :: evened r :=
  evened_append (a := [c]) (by simp [h]) r

theorem evened_lone {r : List Char} (h : '"' ∉ r) : evened ('"' :: r) = [] := by
  have hcount : ('"' :: r).count '"' = 1 := by simp [List.count_eq_zero.2 h]
  refine evened_of_cut (b := r) (by rw [hcount]) ?_
  simp [Text.cutLast, Text.cutLast_eq_none_iff.2 h]

theorem evened_isPrefix (cs : List Char) : evened cs <+: cs := by
  rw [evened]
  split
  · exact List.prefix_refl cs
  · split
    · next front back hcut =>
      obtain ⟨rfl, -⟩ := Text.cutLast_eq_some hcut
      exact List.prefix_append ..
    · exact List.prefix_refl cs

/-! ## The longest word -/

theorem longestWord_quoted {u : List Char} (hu : '"' ∉ u) (v : List Char) :
    longestWord true (u ++ '"' :: v)
      = (u ++ '"' :: (longestWord false v).1, (longestWord false v).2) := by
  induction u with
  | nil => simp [longestWord]
  | cons c r ih =>
    obtain ⟨hc, hr⟩ := not_or.1 (mt List.mem_cons.2 hu)
    have hquoted : (c != '"') = true := by simpa using Ne.symm hc
    simp [longestWord, hquoted, ih hr]

/-- What is read is a word, and it stops where no word can go on. -/
theorem isPieces_longestWord (cs : List Char) :
    IsPieces (longestWord false cs).1 ∧
      (Stops (longestWord false cs).2 ∨
        ∃ r, (longestWord false cs).2 = '"' :: r ∧ '"' ∉ r) := by
  match cs with
  | [] => exact ⟨.nil, .inl (by simp [longestWord, Stops])⟩
  | c :: r =>
    by_cases hquote : c = '"'
    · subst hquote
      by_cases hr : '"' ∈ r
      · obtain ⟨u, v, rfl, hu⟩ := List.eq_append_cons_of_mem hr
        have hread : longestWord false ('"' :: (u ++ '"' :: v))
            = ('"' :: (u ++ '"' :: (longestWord false v).1), (longestWord false v).2) := by
          simp [longestWord, longestWord_quoted hu]
        rw [hread]
        obtain ⟨hw, hstop⟩ := isPieces_longestWord v
        exact ⟨.quoted hu hw, hstop⟩
      · have hread : longestWord false ('"' :: r) = ([], '"' :: r) := by simp [longestWord, hr]
        rw [hread]
        exact ⟨.nil, .inr ⟨r, rfl, hr⟩⟩
    · by_cases hstop : c = '|' ∨ isSeparator c = true
      · have hread : longestWord false (c :: r) = ([], c :: r) := by
          simp [longestWord, hquote, hstop]
        rw [hread]
        exact ⟨.nil, .inl (by simpa [Stops] using hstop.symm)⟩
      · obtain ⟨hpipe, hsep⟩ := not_or.1 hstop
        have hread : longestWord false (c :: r)
            = (c :: (longestWord false r).1, (longestWord false r).2) := by
          simp [longestWord, hquote, hpipe, hsep]
        rw [hread]
        obtain ⟨hw, hrest⟩ := isPieces_longestWord r
        exact ⟨.bare (by simpa using hsep) hpipe hquote hw, hrest⟩
termination_by cs.length
decreasing_by all_goals (subst_vars; simp; try omega)

end Questline.Token
