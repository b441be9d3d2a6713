import Questline.Proofs.Keyed
import Questline.Tree.Node
set_option autoImplicit false

/-!
# What a change at one place leaves alone

Putting another node at one place of a tree changes nothing that stands beside
the way there, and nothing on the way there as far as kind and content go.
-/

namespace Questline

/-! ## One entry of a list -/

namespace Entries

variable {β : Type}

/-- Makes `value?` what is under `key`: puts it there, or takes away what was there. -/
def put (key : String) (value? : Option β) (es : List (String × β)) : List (String × β) :=
  match value? with
  | some value => insert key value es
  | none => erase key es

theorem get?_put_self {es : List (String × β)} (h : Sorted es) (key : String) (value? : Option β) :
    get? key (put key value? es) = value? := by
  cases value? with
  | none => exact get?_erase_self h key
  | some value => exact get?_insert_self key value es

theorem get?_put_of_ne {key other : String} (h : other ≠ key) (value? : Option β)
    (es : List (String × β)) : get? other (put key value? es) = get? other es := by
  cases value? with
  | none => exact get?_erase_of_ne h es
  | some value => exact get?_insert_of_ne h value es

theorem Sorted.put {es : List (String × β)} (h : Sorted es) (key : String) (value? : Option β) :
    Sorted (put key value? es) := by
  cases value? with
  | none => exact h.erase key
  | some value => exact h.insert key value

theorem mem_put {e : String × β} {key : String} {value? : Option β} {es : List (String × β)}
    (h : e ∈ put key value? es) : some e.2 = value? ∨ e ∈ es := by
  cases value? with
  | none => exact .inr (mem_of_mem_erase h)
  | some value =>
    rcases mem_insert h with rfl | hmem
    · exact .inl rfl
    · exact .inr hmem

end Entries

namespace Node

/-! ## Kind and content -/

/-- What a node is by itself: its kind, and the content of a file. -/
inductive Entry where
  | dir
  | file (content : String)
  deriving DecidableEq, Repr

/-- What the node is by itself. -/
def entry : Node → Entry
  | .dir _ => .dir
  | .file content => .file content

/-- Nothing is below the node: it is a file or an empty directory. -/
def Bare : Node → Prop
  | .dir cs => cs = []
  | .file _ => True

theorem Bare.at? {n : Node} (h : n.Bare) (name : String) (rest : List String) :
    n.at? (name :: rest) = none := by
  cases n with
  | dir cs => cases h; rfl
  | file _ => rfl

/-! ## Beside the place of a change -/

theorem exists_child_of_at? {n m : Node} {name : String} {rest : List String}
    (h : n.at? (name :: rest) = some m) :
    ∃ cs c, n = .dir cs ∧ Entries.get? name cs = some c ∧ c.at? rest = some m := by
  obtain ⟨c, hc, hm⟩ := Option.bind_eq_some_iff.1 h
  cases n with
  | dir cs => exact ⟨cs, c, rfl, hc, hm⟩
  | file _ => cases hc

/-- Where the new node shows what the old one shows, so does the whole tree. -/
theorem entry_at?_graft {new old n : Node} {place other : List String}
    (h : n.at? place = some old)
    (hbelow : ∀ rest, other = place ++ rest →
      (new.at? rest).map entry = (old.at? rest).map entry) :
    ((graft new place n).at? other).map entry = (n.at? other).map entry := by
  induction place generalizing n other with
  | nil => cases h; exact hbelow other rfl
  | cons name r ih =>
    obtain ⟨cs, c, rfl, hc, hold⟩ := exists_child_of_at? h
    rw [graft, hc]
    cases other with
    | nil => rfl
    | cons q qs =>
      by_cases hq : q = name
      · subst hq
        rw [at?, at?, child?, child?, Entries.get?_insert_self, hc]
        exact ih hold fun rest hrest => hbelow rest (by rw [hrest]; rfl)
      · rw [at?, at?, child?, child?, Entries.get?_insert_of_ne hq]

/-! ## Order -/

theorem wellFormedAll_iff {cs : List (String × Node)} :
    WellFormedAll cs ↔ ∀ e ∈ cs, e.2.WellFormed := by
  induction cs with
  | nil => simp [WellFormedAll]
  | cons e r ih => simp [WellFormedAll, ih]

theorem wellFormed_dir_iff {cs : List (String × Node)} :
    (dir cs).WellFormed ↔ Entries.Sorted cs ∧ ∀ e ∈ cs, e.2.WellFormed := by
  rw [WellFormed, wellFormedAll_iff]

theorem WellFormed.get? {cs : List (String × Node)} {name : String} {c : Node}
    (h : (dir cs).WellFormed) (hc : Entries.get? name cs = some c) : c.WellFormed :=
  (wellFormed_dir_iff.1 h).2 _ (Entries.mem_of_get?_eq_some hc)

theorem WellFormed.at? {n m : Node} {place : List String} (h : n.WellFormed)
    (hm : n.at? place = some m) : m.WellFormed := by
  induction place generalizing n with
  | nil => cases hm; exact h
  | cons name r ih =>
    obtain ⟨cs, c, rfl, hc, hrest⟩ := exists_child_of_at? hm
    exact ih (h.get? hc) hrest

theorem WellFormed.put {cs : List (String × Node)} (h : (dir cs).WellFormed) (name : String)
    (new? : Option Node) (hnew : ∀ n, new? = some n → n.WellFormed) :
    (dir (Entries.put name new? cs)).WellFormed := by
  obtain ⟨hsorted, hall⟩ := wellFormed_dir_iff.1 h
  refine wellFormed_dir_iff.2 ⟨hsorted.put name new?, fun e he => ?_⟩
  rcases Entries.mem_put he with hself | hmem
  · exact hnew e.2 hself.symm
  · exact hall e hmem

theorem WellFormed.graft {new n : Node} {place : List String} (h : n.WellFormed)
    (hnew : new.WellFormed) : (graft new place n).WellFormed := by
  induction place generalizing n with
  | nil => exact hnew
  | cons name r ih =>
    cases n with
    | file _ => exact h
    | dir cs =>
      rw [Node.graft]
      split
      · next c hc =>
        have hsome : ∀ m, some (Node.graft new r c) = some m → m.WellFormed := by
          rintro _ ⟨⟩
          exact ih (h.get? hc)
        exact h.put name _ hsome
      · exact h

end Node

end Questline
