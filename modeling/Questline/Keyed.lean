set_option autoImplicit false

/-!
# Keyed: entries in the order of their keys

Directories, saved maps and environments list their entries by key, each key
once.  `Keyed` is such a map as a list of pairs; the order of keys is the order
of their characters.  The three operations are given on plain lists of pairs,
where a tree of directories can use them too, and keep that order; `Keyed`
carries the order with it, so that two of them with the same entries are equal.
-/

namespace Questline

namespace Entries

variable {β : Type}

/-- The value under `key`. -/
def get? (key : String) : List (String × β) → Option β
  | [] => none
  | (k, v) :: r => if k = key then some v else get? key r

/-- Puts `value` under `key`, in place of what was there. -/
def insert (key : String) (value : β) : List (String × β) → List (String × β)
  | [] => [(key, value)]
  | (k, v) :: r =>
    if key < k then (key, value) :: (k, v) :: r
    else if k = key then (key, value) :: r
    else (k, v) :: insert key value r

/-- Takes away what is under `key`. -/
def erase (key : String) : List (String × β) → List (String × β)
  | [] => []
  | (k, v) :: r => if k = key then r else (k, v) :: erase key r

/-- Every key comes before all later ones. -/
def Sorted (es : List (String × β)) : Prop := es.Pairwise fun a b => a.1 < b.1

theorem get?_insert_self (key : String) (value : β) (es : List (String × β)) :
    get? key (insert key value es) = some value := by
  induction es with
  | nil => simp [insert, get?]
  | cons e r ih =>
    obtain ⟨k, v⟩ := e
    rw [insert]
    split
    · simp [get?]
    · split
      · simp [get?]
      · next h => simp [get?, h, ih]

theorem get?_insert_of_ne {key other : String} (h : other ≠ key) (value : β)
    (es : List (String × β)) : get? other (insert key value es) = get? other es := by
  induction es with
  | nil => simp [insert, get?, Ne.symm h]
  | cons e r ih =>
    obtain ⟨k, v⟩ := e
    rw [insert]
    split
    · simp [get?, Ne.symm h]
    · split
      · next hk => subst hk; simp [get?, Ne.symm h]
      · simp [get?, ih]

theorem get?_erase_of_ne {key other : String} (h : other ≠ key) (es : List (String × β)) :
    get? other (erase key es) = get? other es := by
  induction es with
  | nil => rfl
  | cons e r ih =>
    obtain ⟨k, v⟩ := e
    rw [erase]
    split
    · next hk => subst hk; simp [get?, Ne.symm h]
    · simp [get?, ih]

theorem mem_insert {e : String × β} {key : String} {value : β} {es : List (String × β)}
    (h : e ∈ insert key value es) : e = (key, value) ∨ e ∈ es := by
  induction es with
  | nil => simpa [insert] using h
  | cons a r ih =>
    obtain ⟨k, v⟩ := a
    rw [insert] at h
    split at h
    · simpa using h
    · split at h
      · rcases List.mem_cons.1 h with h | h
        · exact .inl h
        · exact .inr (List.mem_cons_of_mem _ h)
      · rcases List.mem_cons.1 h with h | h
        · exact .inr (h ▸ List.mem_cons_self)
        · exact (ih h).imp id (List.mem_cons_of_mem _)

theorem mem_of_mem_erase {e : String × β} {key : String} {es : List (String × β)}
    (h : e ∈ erase key es) : e ∈ es := by
  induction es with
  | nil => exact h
  | cons a r ih =>
    obtain ⟨k, v⟩ := a
    rw [erase] at h
    split at h
    · exact List.mem_cons_of_mem _ h
    · rcases List.mem_cons.1 h with h | h
      · exact h ▸ List.mem_cons_self
      · exact List.mem_cons_of_mem _ (ih h)

theorem Sorted.insert {es : List (String × β)} (h : Sorted es) (key : String) (value : β) :
    Sorted (insert key value es) := by
  induction es with
  | nil => simp [Entries.insert, Sorted]
  | cons a r ih =>
    obtain ⟨k, v⟩ := a
    obtain ⟨hk, hr⟩ := List.pairwise_cons.1 h
    rw [Entries.insert]
    split
    · next hlt =>
      refine List.pairwise_cons.2 ⟨fun e he => ?_, h⟩
      rcases List.mem_cons.1 he with rfl | he
      · exact hlt
      · exact String.lt_trans hlt (hk e he)
    · next hnlt =>
      split
      · next heq => subst heq; exact List.pairwise_cons.2 ⟨hk, hr⟩
      · next hne =>
        refine List.pairwise_cons.2 ⟨fun e he => ?_, ih hr⟩
        rcases mem_insert he with rfl | he
        · exact Decidable.byContradiction fun hc =>
            hne (String.le_antisymm (String.not_lt.1 hnlt) (String.not_lt.1 hc))
        · exact hk e he

theorem Sorted.erase {es : List (String × β)} (h : Sorted es) (key : String) :
    Sorted (erase key es) := by
  induction es with
  | nil => exact h
  | cons a r ih =>
    obtain ⟨k, v⟩ := a
    obtain ⟨hk, hr⟩ := List.pairwise_cons.1 h
    rw [Entries.erase]
    split
    · exact hr
    · exact List.pairwise_cons.2 ⟨fun e he => hk e (mem_of_mem_erase he), ih hr⟩

theorem get?_erase_self {es : List (String × β)} (h : Sorted es) (key : String) :
    get? key (erase key es) = none := by
  induction es with
  | nil => rfl
  | cons a r ih =>
    obtain ⟨k, v⟩ := a
    obtain ⟨hk, hr⟩ := List.pairwise_cons.1 h
    rw [Entries.erase]
    split
    · next heq =>
      subst heq
      have aux : ∀ l : List (String × β), (∀ e ∈ l, k < e.1) → get? k l = none := by
        intro l hl
        induction l with
        | nil => rfl
        | cons b l ihl =>
          have hb := hl b List.mem_cons_self
          have hne : b.1 ≠ k := fun hbk => String.lt_irrefl k (hbk ▸ hb)
          obtain ⟨bk, bv⟩ := b
          simp only [get?, if_neg hne]
          exact ihl fun e he => hl e (List.mem_cons_of_mem _ he)
      exact aux r hk
    · next hne => simp only [get?, if_neg hne]; exact ih hr

end Entries

/-- A finite map from texts, listed by key. -/
structure Keyed (β : Type) where
  entries : List (String × β)
  sorted : Entries.Sorted entries

namespace Keyed

variable {β : Type}

instance [DecidableEq β] : DecidableEq (Keyed β) := fun a b =>
  if h : a.entries = b.entries then
    isTrue (by cases a; cases b; simp_all)
  else isFalse fun hab => h (hab ▸ rfl)

theorem ext {a b : Keyed β} (h : a.entries = b.entries) : a = b := by
  cases a; cases b; simp_all

/-- The map with nothing in it. -/
def empty : Keyed β := ⟨[], List.Pairwise.nil⟩

instance : Inhabited (Keyed β) := ⟨empty⟩

/-- The value under `key`. -/
def get? (m : Keyed β) (key : String) : Option β := Entries.get? key m.entries

/-- Puts `value` under `key`, in place of what was there. -/
def insert (m : Keyed β) (key : String) (value : β) : Keyed β :=
  ⟨Entries.insert key value m.entries, m.sorted.insert key value⟩

/-- Takes away what is under `key`. -/
def erase (m : Keyed β) (key : String) : Keyed β :=
  ⟨Entries.erase key m.entries, m.sorted.erase key⟩

/-- The map of the pairs, where the last pair of a key counts. -/
def ofList (es : List (String × β)) : Keyed β :=
  es.foldl (fun m e => m.insert e.1 e.2) empty

/-- The keys in order. -/
def keys (m : Keyed β) : List String := m.entries.map (·.1)

@[simp] theorem get?_empty (key : String) : (empty : Keyed β).get? key = none := rfl

@[simp] theorem get?_insert_self (m : Keyed β) (key : String) (value : β) :
    (m.insert key value).get? key = some value := Entries.get?_insert_self ..

theorem get?_insert_of_ne (m : Keyed β) {key other : String} (h : other ≠ key) (value : β) :
    (m.insert key value).get? other = m.get? other := Entries.get?_insert_of_ne h ..

@[simp] theorem get?_erase_self (m : Keyed β) (key : String) : (m.erase key).get? key = none :=
  Entries.get?_erase_self m.sorted key

theorem get?_erase_of_ne (m : Keyed β) {key other : String} (h : other ≠ key) :
    (m.erase key).get? other = m.get? other := Entries.get?_erase_of_ne h ..

end Keyed

end Questline
