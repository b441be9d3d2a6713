import Questline.Keyed
set_option autoImplicit false

/-!
# Entries in order, listed and put together again

A list of entries that stands in order is that of the map made from it.
-/

namespace Questline

variable {β γ : Type}

namespace Entries

theorem Sorted.map {es : List (String × β)} (h : Sorted es) (f : β → γ) :
    Sorted (es.map fun e => (e.1, f e.2)) :=
  List.pairwise_map.2 h

theorem Sorted.nodup {es : List (String × β)} (h : Sorted es) : (es.map Prod.fst).Nodup :=
  List.pairwise_map.2 (List.Pairwise.imp String.ne_of_lt h)

/-- The same entries can be put in order in one way only. -/
theorem Sorted.eq_of_perm {es es' : List (String × β)} (h : Sorted es) (h' : Sorted es')
    (hperm : es.Perm es') : es = es' :=
  List.Perm.eq_of_pairwise (fun _ _ _ _ hlt hgt => absurd hgt (String.lt_asymm hlt)) h h' hperm

/-- A new key is put among the others. -/
theorem perm_insert {es : List (String × β)} {key : String} (h : key ∉ es.map Prod.fst)
    (value : β) : (insert key value es).Perm ((key, value) :: es) := by
  induction es with
  | nil => exact .refl _
  | cons e r ih =>
    obtain ⟨k, v⟩ := e
    obtain ⟨hne, hr⟩ := not_or.1 (mt List.mem_cons.2 h)
    rw [insert]
    split
    · exact .refl _
    · rw [if_neg (Ne.symm hne)]
      exact ((ih hr).cons (k, v)).trans (.swap ..)

/-- In what order entries stand does not matter where one looks, if each key is given once. -/
theorem lookup_eq_of_perm {es es' : List (String × β)} (h : es.Perm es')
    (hnodup : (es.map Prod.fst).Nodup) (key : String) : es.lookup key = es'.lookup key := by
  induction h with
  | nil => rfl
  | cons e _ ih =>
    obtain ⟨k, v⟩ := e
    rw [List.lookup_cons, List.lookup_cons, ih (List.nodup_cons.1 hnodup).2]
  | swap e e' _ =>
    obtain ⟨k, v⟩ := e
    obtain ⟨k', v'⟩ := e'
    have hne : k' ≠ k := fun heq => (List.nodup_cons.1 hnodup).1 (heq ▸ List.mem_cons_self)
    simp only [List.lookup_cons]
    by_cases hk : key = k
    · rw [hk, beq_false_of_ne (Ne.symm hne)]
    · rw [beq_false_of_ne hk]
  | trans h _ ih ih' => exact (ih hnodup).trans (ih' ((h.map Prod.fst).nodup_iff.1 hnodup))

theorem mem_of_get?_eq_some {es : List (String × β)} {key : String} {value : β}
    (h : get? key es = some value) : (key, value) ∈ es := by
  induction es with
  | nil => cases h
  | cons e r ih =>
    obtain ⟨k, v⟩ := e
    rw [get?] at h
    split at h
    · rename_i heq
      cases h
      exact heq ▸ List.mem_cons_self
    · exact List.mem_cons_of_mem _ (ih h)

theorem get?_eq_some_iff {es : List (String × β)} {key : String} {value : β} (h : Sorted es) :
    get? key es = some value ↔ (key, value) ∈ es := by
  refine ⟨mem_of_get?_eq_some, fun hmem => ?_⟩
  induction es with
  | nil => cases hmem
  | cons e r ih =>
    obtain ⟨k, v⟩ := e
    obtain ⟨hk, hr⟩ := List.pairwise_cons.1 h
    rcases List.mem_cons.1 hmem with heq | hmem
    · cases heq
      rw [get?, if_pos rfl]
    · have hne : k ≠ key := fun heq => String.lt_irrefl key (heq ▸ hk _ hmem)
      rw [get?, if_neg hne, ih hr hmem]

/-- Putting in place what is there already changes nothing. -/
theorem insert_eq_self {es : List (String × β)} {key : String} {value : β} (h : Sorted es)
    (hget : get? key es = some value) : insert key value es = es := by
  induction es with
  | nil => cases hget
  | cons e r ih =>
    obtain ⟨k, v⟩ := e
    obtain ⟨hk, hr⟩ := List.pairwise_cons.1 h
    rw [get?] at hget
    split at hget
    · rename_i heq
      cases hget
      rw [insert, if_neg (heq ▸ String.lt_irrefl key), if_pos heq, heq]
    · rename_i hne
      have hlt : k < key := hk _ (mem_of_get?_eq_some hget)
      have hnot : ¬ key < k := fun hgt => String.lt_irrefl key (String.lt_trans hgt hlt)
      rw [insert, if_neg hnot, if_neg hne, ih hr hget]

/-- Nothing is taken away where nothing stands. -/
theorem erase_eq_self {es : List (String × β)} {key : String} (h : get? key es = none) :
    erase key es = es := by
  induction es with
  | nil => rfl
  | cons e r ih =>
    obtain ⟨k, v⟩ := e
    rw [get?] at h
    split at h
    · cases h
    · rename_i hne
      rw [erase, if_neg hne, ih h]

end Entries

namespace Keyed

theorem erase_eq_self {m : Keyed β} {key : String} (h : m.get? key = none) : m.erase key = m :=
  ext (Entries.erase_eq_self h)

theorem perm_foldl_insert {es : List (String × β)} :
    ∀ m : Keyed β, ((m.entries ++ es).map Prod.fst).Nodup →
      (es.foldl (fun m e => m.insert e.1 e.2) m).entries.Perm (m.entries ++ es) := by
  induction es with
  | nil => intro m _; simp
  | cons e r ih =>
    intro m h
    have hnew : e.1 ∉ m.entries.map Prod.fst := by
      rw [List.map_append, List.nodup_append] at h
      exact fun hmem => h.2.2 _ hmem _ List.mem_cons_self rfl
    have hperm : ((m.insert e.1 e.2).entries ++ r).Perm (m.entries ++ e :: r) :=
      ((Entries.perm_insert hnew e.2).append_right r).trans List.perm_middle.symm
    rw [List.foldl_cons]
    exact (ih _ ((hperm.map Prod.fst).nodup_iff.2 h)).trans hperm

/-- A map made from entries with different keys has these entries. -/
theorem perm_entries_ofList {es : List (String × β)} (h : (es.map Prod.fst).Nodup) :
    (ofList es).entries.Perm es :=
  perm_foldl_insert empty h

/-- A map made from entries has them in order. -/
theorem entries_ofList_of_perm {es es' : List (String × β)} (hperm : es.Perm es')
    (h : Entries.Sorted es') : (ofList es).entries = es' :=
  have hnodup : (es.map Prod.fst).Nodup := (hperm.map Prod.fst).nodup_iff.2 h.nodup
  (ofList es).sorted.eq_of_perm h ((perm_entries_ofList hnodup).trans hperm)

theorem entries_ofList {es : List (String × β)} (h : Entries.Sorted es) :
    (ofList es).entries = es :=
  entries_ofList_of_perm (.refl es) h

/-- Of a key that is given more than once the last value counts. -/
theorem get?_ofList (es : List (String × β)) (key : String) :
    (ofList es).get? key = es.reverse.lookup key := by
  rw [ofList, List.foldl_eq_foldr_reverse]
  induction es.reverse with
  | nil => rfl
  | cons e r ih =>
    obtain ⟨k, v⟩ := e
    rw [List.foldr_cons, List.lookup_cons]
    by_cases hk : key = k
    · subst hk
      rw [get?_insert_self, beq_self_eq_true]
    · rw [get?_insert_of_ne _ hk, ih, beq_false_of_ne hk]

@[simp] theorem ofList_entries (m : Keyed β) : ofList m.entries = m :=
  ext (entries_ofList m.sorted)

end Keyed

end Questline
