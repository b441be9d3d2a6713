import Questline.Account.Basic
set_option autoImplicit false

/-!
# Usernames

A name that an account can have stays as it is when it is given again: there is
nothing to trim, and small letters, digits and underscores are their own lower case.
-/

namespace Questline

namespace Text

/-- Below 128 there is one run of capitals, the Latin ones. -/
theorem Case.bounds_of_mem_runs {r : Case.Run} (h : r ∈ Case.runs) :
    0x41 ≤ r.first ∧ r.last ≤ 0x5A ∨ 0x80 ≤ r.first := by
  have hall : (Case.runs.all fun r =>
      (0x41 ≤ r.first && r.last ≤ 0x5A) || 0x80 ≤ r.first) = true := by
    decide +kernel
  simpa using List.all_eq_true.1 hall r h

/-- Below 128 only the Latin capitals have another lower case. -/
theorem lowerChar_eq_self {c : Char} (hc : c.toNat < 0x80)
    (hcap : c.toNat < 0x41 ∨ 0x5A < c.toNat) : lowerChar c = c := by
  unfold lowerChar
  extract_lets n
  split
  · rename_i r hr
    have hmem := List.mem_of_find?_eq_some hr
    have hfits := List.find?_some hr
    have := Case.bounds_of_mem_runs hmem
    simp only [Bool.and_eq_true, decide_eq_true_eq] at hfits
    omega
  · rfl

/-- Text without blanks at its ends needs no trimming. -/
theorem trim_eq_self {cs : List Char} (h : ∀ c ∈ cs, isBlank c = false) : trim cs = cs := by
  have htrim : ∀ l : List Char, (∀ c ∈ l, isBlank c = false) → trimStart l = l := by
    intro l hl
    cases l with
    | nil => rfl
    | cons c r => exact List.dropWhile_cons_of_neg (by simp [hl c List.mem_cons_self])
  rw [trim, trimEnd, htrim cs h, htrim _ fun c hc => h c (List.mem_reverse.1 hc),
    List.reverse_reverse]

end Text

namespace Username

/-- The characters of names are small letters, digits and the underscore. -/
theorem isFurther_bounds {c : Char} (h : isFurther c = true) :
    0x30 ≤ c.toNat ∧ c.toNat ≤ 0x7A ∧ (c.toNat < 0x41 ∨ 0x5A < c.toNat) := by
  simp only [isFurther, isLetter, Bool.or_eq_true, Bool.and_eq_true, decide_eq_true_eq,
    Char.le_def, UInt32.le_iff_toNat_le] at h
  rcases h with (⟨h, h'⟩ | ⟨h, h'⟩) | rfl
  · have : (97 : Nat) ≤ c.toNat ∧ c.toNat ≤ 122 := ⟨h, h'⟩
    omega
  · have : (48 : Nat) ≤ c.toNat ∧ c.toNat ≤ 57 := ⟨h, h'⟩
    omega
  · decide

theorem forall_isFurther_of_isValid {cs : List Char} (h : isValid cs = true) :
    ∀ c ∈ cs, isFurther c = true := by
  cases cs with
  | nil => exact fun _ => nofun
  | cons c r =>
    simp only [isValid, Bool.and_eq_true] at h
    intro d hd
    rcases List.mem_cons.1 hd with rfl | hd
    · simp [isFurther, h.1.1.1]
    · exact List.all_eq_true.1 h.1.1.2 d hd

theorem lowerFrom_eq_self {cs : List Char} (h : ∀ c ∈ cs, isFurther c = true)
    (before : List Char) : Text.lowerFrom before cs = cs := by
  induction cs generalizing before with
  | nil => rfl
  | cons c r ih =>
    have hc := isFurther_bounds (h c List.mem_cons_self)
    have hsigma : c ≠ 'Σ' := fun he => absurd hc.2.1 (he ▸ by decide)
    have hdotted : c ≠ 'İ' := fun he => absurd hc.2.1 (he ▸ by decide)
    rw [Text.lowerFrom, ih fun d hd => h d (List.mem_cons_of_mem _ hd)]
    simp [hsigma, hdotted, Text.lowerChar_eq_self (by omega : c.toNat < 0x80) hc.2.2]

theorem isBlank_eq_false {c : Char} (h : isFurther c = true) : Text.isBlank c = false := by
  have hc := isFurther_bounds h
  simp only [Text.isBlank, Bool.or_eq_false_iff, Bool.and_eq_false_iff, decide_eq_false_iff_not,
    beq_eq_false_iff_ne]
  omega

theorem normalize_eq_self {name : String} (h : isValid name.toList = true) :
    normalize name = name := by
  have hfurther := forall_isFurther_of_isValid h
  rw [normalize, Text.trimmed, Text.trim_eq_self fun c hc => isBlank_eq_false (hfurther c hc),
    String.ofList_toList, Text.lowercase, lowerFrom_eq_self hfurther, String.ofList_toList]

/-- A name that an account can have is read as itself. -/
theorem valid?_eq_some_self {name : String} (h : isValid name.toList = true) :
    valid? name = some name := by
  simp only [valid?, normalize_eq_self h, h, if_true]

theorem isValid_of_valid? {raw name : String} (h : valid? raw = some name) :
    isValid name.toList = true := by
  unfold valid? at h
  dsimp only at h
  generalize normalize raw = normal at h
  split at h
  · rename_i hvalid
    cases h
    exact hvalid
  · cases h

theorem normalize_of_valid? {raw name : String} (h : valid? raw = some name) :
    normalize raw = name := by
  unfold valid? at h
  dsimp only at h
  generalize normalize raw = normal at h
  split at h
  · exact Option.some.inj h
  · cases h

end Username

end Questline
