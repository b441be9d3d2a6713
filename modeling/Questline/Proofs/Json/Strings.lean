import Questline.Json.Printer
import Questline.Json.Reader
set_option autoImplicit false

/-!
# Strings, written and read again

Every character of a written string is read back from its escape, so that the string
is read back whole, and the reader stops behind its closing quote.
-/

namespace Questline.Json

/-- The four digits by which a control character is escaped. -/
theorem hexNumber?_control : ∀ n < 32,
    Text.hexNumber? ['0', '0', hexDigit (n / 16), hexDigit (n % 16)] = some n := by
  decide

theorem unitOf_control {c : Char} (h : c.toNat < 32) : unitOf c.toNat = .char c := by
  unfold unitOf
  rw [if_neg (by simp; omega), if_neg (by simp; omega), Char.ofNat_toNat]

/-- A character that stands for itself. -/
theorem units?_plain {c : Char} (hquote : c ≠ '"') (hslash : c ≠ '\\') (hcontrol : ¬ c.toNat < 32)
    (tail : List Char) :
    units? (c :: tail) = (units? tail).map fun (us, r) => (.char c :: us, r) := by
  rw [units?]
  · rw [if_neg hcontrol]
    cases units? tail <;> rfl
  · exact hquote
  · intro a b c' d r h
    exact absurd h hslash
  · intro c' r h
    exact absurd h hslash

/-- A character that is escaped by a letter. -/
theorem units?_letter {c e : Char} (he : escaped? e = some c) (hu : e ≠ 'u') (tail : List Char) :
    units? ('\\' :: e :: tail) = (units? tail).map fun (us, r) => (.char c :: us, r) := by
  rw [units?]
  · rw [he]
    cases units? tail <;> rfl
  · intro a b c' d r h
    exact absurd h hu

/-- A character is read back from its escape. -/
theorem units?_escape (c : Char) (tail : List Char) :
    units? (escape c ++ tail) = (units? tail).map fun (us, r) => (.char c :: us, r) := by
  by_cases hquote : c = '"'
  · exact hquote ▸ units?_letter (by decide) (by decide) tail
  by_cases hslash : c = '\\'
  · exact hslash ▸ units?_letter (by decide) (by decide) tail
  by_cases hn : c = '\n'
  · exact hn ▸ units?_letter (by decide) (by decide) tail
  by_cases hr : c = '\r'
  · exact hr ▸ units?_letter (by decide) (by decide) tail
  by_cases ht : c = '\t'
  · exact ht ▸ units?_letter (by decide) (by decide) tail
  by_cases hb : c.toNat = 8
  · obtain rfl : c = '\x08' := Char.toNat_inj.1 hb
    exact units?_letter (by decide) (by decide) tail
  by_cases hf : c.toNat = 12
  · obtain rfl : c = '\x0c' := Char.toNat_inj.1 hf
    exact units?_letter (by decide) (by decide) tail
  unfold escape
  rw [if_neg hquote, if_neg hslash, if_neg hn, if_neg hr, if_neg ht, if_neg hb, if_neg hf]
  by_cases hcontrol : c.toNat < 32
  · rw [if_pos hcontrol]
    simp only [List.cons_append, List.nil_append]
    rw [units?, hexNumber?_control _ hcontrol]
    simp only [Option.bind_eq_bind, Option.bind_some, unitOf_control hcontrol]
    cases units? tail <;> rfl
  · rw [if_neg hcontrol]
    exact units?_plain hquote hslash hcontrol tail

theorem units?_flatMap_escape (cs tail : List Char) :
    units? (cs.flatMap escape ++ '"' :: tail) = some (cs.map .char, tail) := by
  induction cs with
  | nil => rw [List.flatMap_nil, List.nil_append, units?]; rfl
  | cons c r ih =>
    rw [List.flatMap_cons, List.append_assoc, units?_escape, ih]
    rfl

theorem assemble?_map_char (cs : List Char) : assemble? (cs.map .char) = some cs := by
  induction cs with
  | nil => rfl
  | cons c r ih => rw [List.map_cons, assemble?, ih]; rfl

/-- A string is read back up to its closing quote. -/
theorem string?_escaped (s : String) (tail : List Char) :
    string? (s.toList.flatMap escape ++ '"' :: tail) = some (some s, tail) := by
  rw [string?, units?_flatMap_escape]
  simp [assemble?_map_char]

theorem quoted_append (s : String) (tail : List Char) :
    quoted s ++ tail = '"' :: (s.toList.flatMap escape ++ '"' :: tail) := by
  simp [quoted]

end Questline.Json
