import Questline.Json.Canonical
import Questline.Proofs.Json.Numbers
import Questline.Proofs.Json.Strings
set_option autoImplicit false

/-!
# Values, written and read again

A value that is tidy is read back from its text.  The reader's bound, twice the length
of the text, is enough: every array and every object takes two steps for its brackets
and two for every comma.
-/

namespace Questline.Json

/-- A number as it occurs in saves: one that fits into 64 bits, or a boost. -/
def Number.Tidy : Number → Prop
  | .int n => 0 ≤ n ∧ n < 0x10000000000000000
  | .real x => IsBoost x

mutual

/-- A value as it is written in a form: nothing is broken, numbers are those of saves, and
where the form asks for it the fields of objects stand in order. -/
def Tidy (form : Form) : Json → Prop
  | .num n => Number.Tidy n
  | .arr items => TidyItems form items
  | .obj fields => (form = .data → Entries.Sorted fields) ∧ TidyFields form fields
  | .broken => False
  | _ => True

/-- All items are tidy. -/
def TidyItems (form : Form) : List Json → Prop
  | [] => True
  | j :: r => Tidy form j ∧ TidyItems form r

/-- The values of all fields are tidy. -/
def TidyFields (form : Form) : List (String × Json) → Prop
  | [] => True
  | (_, j) :: r => Tidy form j ∧ TidyFields form r

end

variable {form : Form}

theorem tidyItems_iff {items : List Json} :
    TidyItems form items ↔ ∀ j ∈ items, Tidy form j := by
  induction items with
  | nil => simp [TidyItems]
  | cons j r ih => simp [TidyItems, ih]

theorem tidyFields_iff {fields : List (String × Json)} :
    TidyFields form fields ↔ ∀ e ∈ fields, Tidy form e.2 := by
  induction fields with
  | nil => simp [TidyFields]
  | cons e r ih => simp [TidyFields, ih]

/-! ## How a value begins -/

/-- The character is neither blank nor one that stands between or after values. -/
def Opens (c : Char) : Prop :=
  c ≠ ' ' ∧ c ≠ '\n' ∧ c ≠ '\t' ∧ c ≠ '\r' ∧ c ≠ ',' ∧ c ≠ ']' ∧ c ≠ '}'

instance (c : Char) : Decidable (Opens c) := inferInstanceAs (Decidable (_ ∧ _))

theorem opens_of_isDigit {c : Char} (h : Decimal.isDigit c = true) : Opens c := by
  refine ⟨?_, ?_, ?_, ?_, ?_, ?_, ?_⟩ <;> rintro rfl <;> cases h

theorem Opens.skip {c : Char} (h : Opens c) (r : List Char) : skip (c :: r) = c :: r :=
  List.dropWhile_cons_of_neg (by simp [h.1, h.2.1, h.2.2.1, h.2.2.2.1])

theorem write_int {n : Int} (h : 0 ≤ n) : Number.write (.int n) = Nat.toDigits 10 n.toNat := by
  rw [Number.write, if_neg (by omega), List.nil_append]
  congr 1
  omega

/-- The text of a number is a run of digits, or one with a point in it. -/
theorem exists_write_number {n : Number} (h : Number.Tidy n) :
    ∃ c r, Number.write n = c :: r ∧ Decimal.isDigit c = true := by
  cases n with
  | int n =>
    rw [write_int h.1]
    cases hd : Nat.toDigits 10 n.toNat with
    | nil => exact absurd hd Nat.toDigits_ne_nil
    | cons c r => exact ⟨c, r, rfl, Decimal.isDigit_of_mem_toDigits (hd ▸ List.mem_cons_self)⟩
  | real x =>
    obtain ⟨fs, hx, -⟩ := exists_shortest_boost h
    exact ⟨'0', _, hx, rfl⟩

theorem exists_write_eq_cons {j : Json} (h : Tidy form j) : ∃ c r, write j = c :: r ∧ Opens c := by
  cases j with
  | null => exact ⟨_, _, rfl, by decide⟩
  | bool b => cases b <;> exact ⟨_, _, rfl, by decide⟩
  | num n =>
    obtain ⟨c, r, hw, hc⟩ := exists_write_number h
    exact ⟨c, r, hw, opens_of_isDigit hc⟩
  | str s => exact ⟨_, _, rfl, by decide⟩
  | arr items => exact ⟨_, _, rfl, by decide⟩
  | obj fields => exact ⟨_, _, rfl, by decide⟩
  | broken => exact h.elim

theorem number?_write {n : Number} (h : Number.Tidy n) {rest : List Char} (hrest : Ends rest) :
    number? (Number.write n ++ rest) = some (.num n, rest) := by
  cases n with
  | int n =>
    have hn : n.toNat < 0x10000000000000000 := by have := h.2; omega
    rw [write_int h.1, number?_toDigits hn hrest]
    have hcast : ((n.toNat : Nat) : Int) = n := Int.toNat_of_nonneg h.1
    rw [hcast]
  | real x => exact number?_boost h hrest

/-! ## Reading back -/

theorem objectOf_map_some (fields : List (String × Json)) :
    objectOf (fields.map fun e => (some e.1, e.2)) = .obj fields := by
  have hnames : (fields.map fun e => (some e.1, e.2)).mapM
      (fun e : Option String × Json => e.1.map fun n => (n, e.2)) = some fields := by
    induction fields with
    | nil => rfl
    | cons e r ih => simp [ih]
  rw [objectOf]
  simp only [hnames]

theorem length_write_pos {j : Json} (h : Tidy form j) : 0 < (write j).length := by
  obtain ⟨c, r, hw, -⟩ := exists_write_eq_cons h
  rw [hw]
  exact Nat.succ_pos _

/-- What stands between brackets does not begin with the closing one. -/
theorem skip_append {j : Json} (h : Tidy form j) (rest : List Char) :
    skip (write j ++ rest) = write j ++ rest := by
  obtain ⟨c, r, hw, hc⟩ := exists_write_eq_cons h
  rw [hw, List.cons_append, hc.skip]

/-- A number is told by its first digit. -/
theorem value?_write_num {n : Number} (h : Number.Tidy n) (fuel : Nat) {rest : List Char}
    (hrest : Ends rest) : value? (fuel + 1) (write (.num n) ++ rest) = some (.num n, rest) := by
  have hskip := skip_append (show Tidy .text (.num n) from h) rest
  have hread := number?_write h hrest
  obtain ⟨c, r, hw, hc⟩ := exists_write_number h
  have hw' : write (.num n) = c :: r := hw
  rw [hw', List.cons_append] at hskip ⊢
  rw [hw, List.cons_append] at hread
  rw [value?, hskip]
  split <;> first | exact hread | (rename_i heq; cases heq <;> cases hc)

theorem exists_writeItems_eq_cons {j : Json} (h : Tidy form j) (r : List Json) :
    ∃ c t, writeItems (j :: r) = c :: t ∧ Opens c := by
  obtain ⟨c, t, hw, hc⟩ := exists_write_eq_cons h
  cases r with
  | nil => exact ⟨c, t, hw, hc⟩
  | cons k r => exact ⟨c, t ++ ',' :: writeItems (k :: r), by rw [writeItems, hw]; rfl, hc⟩

theorem exists_writeFields_eq_cons (e : String × Json) (r : List (String × Json)) :
    ∃ t, writeFields (e :: r) = '"' :: t := by
  cases r with
  | nil => exact ⟨_, rfl⟩
  | cons f r => exact ⟨_, rfl⟩

/-- A bound that allows for the text of a value is not zero. -/
theorem exists_of_length_write_le {j : Json} (h : Tidy form j) (fuel : Nat)
    (hf : 2 * (write j).length ≤ fuel) : ∃ f, fuel = f + 1 :=
  ⟨fuel - 1, by have := length_write_pos h; omega⟩

/-! ## Brackets -/

theorem value?_empty_arr (fuel : Nat) (rest : List Char) :
    value? (fuel + 1) ('[' :: ']' :: rest) = some (.arr [], rest) := by
  rw [value?, Opens.skip (by decide)]
  rfl

theorem value?_arr (fuel : Nat) {c : Char} (h : Opens c) (t : List Char) :
    value? (fuel + 1) ('[' :: c :: t) =
      (items? fuel (c :: t)).map fun read => (.arr read.1, read.2) := by
  rw [value?, Opens.skip (by decide)]
  simp only [h.skip]
  split
  · rename_i heq
    cases heq
    exact absurd rfl h.2.2.2.2.2.1
  · cases items? fuel (c :: t) <;> rfl

theorem value?_empty_obj (fuel : Nat) (rest : List Char) :
    value? (fuel + 1) ('{' :: '}' :: rest) = some (.obj [], rest) := by
  rw [value?, Opens.skip (by decide)]
  rfl

theorem value?_obj (fuel : Nat) (t : List Char) :
    value? (fuel + 1) ('{' :: '"' :: t) =
      (fields? fuel ('"' :: t)).map fun read => (objectOf read.1, read.2) := by
  rw [value?, Opens.skip (by decide)]
  simp only [Opens.skip (c := '"') (by decide)]
  split
  · rename_i heq
    cases heq
  · cases fields? fuel ('"' :: t) <;> rfl

theorem items?_last (fuel : Nat) {cs rest : List Char} {j : Json}
    (h : value? fuel cs = some (j, ']' :: rest)) : items? (fuel + 1) cs = some ([j], rest) := by
  rw [items?, h]
  rfl

theorem items?_comma (fuel : Nat) {cs r rest : List Char} {j : Json} {js : List Json}
    (h : value? fuel cs = some (j, ',' :: r)) (hr : items? fuel r = some (js, rest)) :
    items? (fuel + 1) cs = some (j :: js, rest) := by
  rw [items?, h]
  simp only [Option.bind_eq_bind, Option.bind_some]
  have hskip : skip (',' :: r) = ',' :: r := rfl
  simp only [hskip, hr, Option.bind_some]

theorem fields?_last (fuel : Nat) (name : String) {r rest : List Char} {j : Json}
    (h : value? fuel r = some (j, '}' :: rest)) :
    fields? (fuel + 1) (quoted name ++ ':' :: r) = some ([(some name, j)], rest) := by
  rw [quoted_append, fields?, Opens.skip (by decide)]
  simp only [string?_escaped, Option.bind_eq_bind, Option.bind_some]
  have hskip : skip (':' :: r) = ':' :: r := rfl
  simp only [hskip, h, Option.bind_some]
  rfl

theorem fields?_comma (fuel : Nat) (name : String) {r r' rest : List Char} {j : Json}
    {fs : List (Option String × Json)} (h : value? fuel r = some (j, ',' :: r'))
    (hr : fields? fuel r' = some (fs, rest)) :
    fields? (fuel + 1) (quoted name ++ ':' :: r) = some ((some name, j) :: fs, rest) := by
  rw [quoted_append, fields?, Opens.skip (by decide)]
  simp only [string?_escaped, Option.bind_eq_bind, Option.bind_some]
  have hskip : skip (':' :: r) = ':' :: r := rfl
  have hskip' : skip (',' :: r') = ',' :: r' := rfl
  simp only [hskip, h, hskip', hr, Option.bind_some]

/-! ## The descent -/

mutual

/-- A tidy value is read back, and the reader stops behind it. -/
theorem value?_write : ∀ (j : Json) (fuel : Nat) (rest : List Char), Tidy form j →
    2 * (write j).length ≤ fuel + 1 → Ends rest →
      value? (fuel + 1) (write j ++ rest) = some (j, rest)
  | .null, fuel, rest, _, _, _ => by
    rw [write, value?]
    simp [Opens.skip (c := 'n') (by decide), expect?]
  | .bool true, fuel, rest, _, _, _ => by
    rw [write, value?]
    simp [Opens.skip (c := 't') (by decide), expect?]
  | .bool false, fuel, rest, _, _, _ => by
    rw [write, value?]
    simp [Opens.skip (c := 'f') (by decide), expect?]
  | .num n, fuel, rest, hj, _, hrest => value?_write_num hj fuel hrest
  | .str s, fuel, rest, _, _, _ => by
    rw [write, quoted_append, value?, Opens.skip (c := '"') (by decide)]
    simp [string?_escaped]
  | .arr [], fuel, rest, _, _, _ => value?_empty_arr fuel rest
  | .arr (k :: r), fuel, rest, hj, hf, _ => by
    rw [write, List.length_append, List.length_cons, List.length_singleton] at hf
    obtain ⟨fuel, rfl⟩ : ∃ f, fuel = f + 1 := ⟨fuel - 1, by omega⟩
    have hitems := items?_write (k :: r) fuel rest hj (List.cons_ne_nil k r) (by omega)
    obtain ⟨c, t, hw, hc⟩ := exists_writeItems_eq_cons hj.1 r
    rw [write, List.append_assoc, List.cons_append, List.singleton_append]
    rw [hw, List.cons_append] at hitems ⊢
    rw [value?_arr _ hc, hitems]
    rfl
  | .obj [], fuel, rest, _, _, _ => value?_empty_obj fuel rest
  | .obj (e :: r), fuel, rest, hj, hf, _ => by
    rw [write, List.length_append, List.length_cons, List.length_singleton] at hf
    obtain ⟨fuel, rfl⟩ : ∃ f, fuel = f + 1 := ⟨fuel - 1, by omega⟩
    have hfields := fields?_write (e :: r) fuel rest hj.2 (List.cons_ne_nil e r) (by omega)
    obtain ⟨t, hw⟩ := exists_writeFields_eq_cons e r
    rw [write, List.append_assoc, List.cons_append, List.singleton_append]
    rw [hw, List.cons_append] at hfields ⊢
    rw [value?_obj, hfields, Option.map_some, objectOf_map_some]
  | .broken, _, _, hj, _, _ => hj.elim

/-- So are items up to their bracket. -/
theorem items?_write : ∀ (items : List Json) (fuel : Nat) (rest : List Char), TidyItems form items →
    items ≠ [] → 2 * (writeItems items).length ≤ fuel →
    items? (fuel + 1) (writeItems items ++ ']' :: rest) = some (items, rest)
  | [], _, _, _, hne, _ => absurd rfl hne
  | [j], fuel, rest, hitems, _, hf => by
    rw [writeItems] at hf ⊢
    obtain ⟨fuel, rfl⟩ := exists_of_length_write_le hitems.1 fuel hf
    exact items?_last _ (value?_write j fuel _ hitems.1 hf (ends_cons (by simp) rest))
  | j :: k :: r, fuel, rest, hitems, _, hf => by
    rw [writeItems, List.length_append, List.length_cons] at hf
    obtain ⟨fuel, rfl⟩ := exists_of_length_write_le hitems.1 fuel (by omega)
    rw [writeItems, List.append_assoc]
    exact items?_comma _ (value?_write j fuel _ hitems.1 (by omega) (ends_cons (by simp) _))
      (items?_write (k :: r) fuel rest hitems.2 (List.cons_ne_nil k r) (by omega))

/-- So are fields up to their brace. -/
theorem fields?_write : ∀ (fields : List (String × Json)) (fuel : Nat) (rest : List Char),
    TidyFields form fields → fields ≠ [] → 2 * (writeFields fields).length ≤ fuel →
    fields? (fuel + 1) (writeFields fields ++ '}' :: rest) =
      some (fields.map fun e => (some e.1, e.2), rest)
  | [], _, _, _, hne, _ => absurd rfl hne
  | [(n, j)], fuel, rest, hfields, _, hf => by
    rw [writeFields, List.length_append, List.length_cons] at hf
    obtain ⟨fuel, rfl⟩ := exists_of_length_write_le hfields.1 fuel (by omega)
    rw [writeFields, List.append_assoc, List.cons_append]
    exact fields?_last _ n (value?_write j fuel _ hfields.1 (by omega) (ends_cons (by simp) rest))
  | (n, j) :: e :: r, fuel, rest, hfields, _, hf => by
    rw [writeFields] at hf ⊢
    simp only [List.length_append, List.length_cons, List.append_assoc, List.cons_append] at hf ⊢
    obtain ⟨fuel, rfl⟩ := exists_of_length_write_le hfields.1 fuel (by omega)
    exact fields?_comma _ n (value?_write j fuel _ hfields.1 (by omega) (ends_cons (by simp) _))
      (fields?_write (e :: r) fuel rest hfields.2 (List.cons_ne_nil e r) (by omega))

end

/-- A tidy value is what its text gives. -/
theorem parse?_print {j : Json} (h : Tidy form j) : parse? (print j) = some j := by
  have hread := value?_write j (2 * (write j).length + 1) [] h (by omega) ends_nil
  rw [List.append_nil] at hread
  rw [parse?, print, String.toList_ofList]
  simp only [hread]
  rfl

end Questline.Json
