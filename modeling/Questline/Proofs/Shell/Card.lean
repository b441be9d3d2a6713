import Questline.Shell.Card
import Mathlib.Data.List.Basic
import Mathlib.Data.List.TakeDrop
import Mathlib.Data.List.TakeWhile
set_option autoImplicit false

/-!
# Cards keep their text

Wrapping a line drops blanks at the breaks and nothing else, and every round of it makes
the rest of the line shorter.  The frame around the rows is a rectangle: each row is filled
up with spaces to the width of the longest.
-/

namespace Questline

namespace Text

/-- The characters of a text that are not blank, in their order. -/
def ink (cs : List Char) : List Char := cs.filter fun c => !isBlank c

@[simp] theorem ink_append (a b : List Char) : ink (a ++ b) = ink a ++ ink b :=
  List.filter_append ..

@[simp] theorem ink_spaces (n : Nat) : ink (List.replicate n ' ') = [] := by
  have hspace : isBlank ' ' = true := by decide
  rw [ink, List.filter_replicate_of_neg (by simp [hspace])]

@[simp] theorem ink_trimStart (cs : List Char) : ink (trimStart cs) = ink cs := by
  induction cs with
  | nil => rfl
  | cons c r ih =>
    cases hc : isBlank c with
    | true =>
      rw [trimStart, List.dropWhile_cons_of_pos hc, ink, ink,
        List.filter_cons_of_neg (by simp [hc])]
      exact ih
    | false => rw [trimStart, List.dropWhile_cons_of_neg (by simp [hc])]

theorem ink_reverse (cs : List Char) : ink cs.reverse = (ink cs).reverse := List.filter_reverse ..

@[simp] theorem ink_trimEnd (cs : List Char) : ink (trimEnd cs) = ink cs := by
  rw [trimEnd, ink_reverse, ink_trimStart, ink_reverse, List.reverse_reverse]

@[simp] theorem ink_trim (cs : List Char) : ink (trim cs) = ink cs := by
  rw [trim, ink_trimEnd, ink_trimStart]

theorem length_trimStart_le (cs : List Char) : (trimStart cs).length ≤ cs.length :=
  (List.dropWhile_suffix _).length_le

theorem length_trimEnd_le (cs : List Char) : (trimEnd cs).length ≤ cs.length := by
  have h := length_trimStart_le cs.reverse
  rw [List.length_reverse] at h
  rw [trimEnd, List.length_reverse]
  exact h

end Text

namespace Card

/-! ## The rounds of wrapping -/

theorem lastSpace?_lt {cs : List Char} {i : Nat} (h : lastSpace? cs = some i) : i < cs.length := by
  rw [lastSpace?, Option.map_eq_some_iff] at h
  obtain ⟨j, hj, rfl⟩ := h
  have hlt : j < cs.reverse.length := (List.findIdx?_eq_some_iff_findIdx_eq.1 hj).1
  rw [List.length_reverse] at hlt
  omega

/-- A row is cut inside its width. -/
theorem cut_le (width : Nat) (cs : List Char) : cut width cs ≤ width := by
  unfold cut
  split
  · next i hi =>
    have hlt := lastSpace?_lt hi
    have hshort := List.length_take_le width cs
    split <;> omega
  · exact Nat.le_refl width

/-- A row is never cut before its first character. -/
theorem cut_pos {width : Nat} (h : 0 < width) (cs : List Char) : 0 < cut width cs := by
  unfold cut
  split
  · split
    · next hi => exact Nat.lt_of_le_of_lt (Nat.zero_le _) hi
    · exact h
  · exact h

/-- Wrapping `cs` comes to an end with these rows: what fits is the last row, and from a
longer text a row is cut off and the rest is wrapped. -/
inductive Wraps (width : Nat) : List Char → List (List Char) → Prop
  | last {cs : List Char} : cs.length ≤ width → Wraps width cs [cs]
  | cut {cs : List Char} {rows : List (List Char)} : width < cs.length →
      Wraps width (Text.trimStart (cs.drop (cut width cs))) rows →
      Wraps width cs (Text.trimEnd (cs.take (cut width cs)) :: rows)

/-- One row for each character is enough, since every cut takes a character away. -/
theorem wraps_wrapRows {width : Nat} (h : 0 < width) {fuel : Nat} {cs : List Char}
    (hfuel : cs.length ≤ fuel) : Wraps width cs (wrapRows width fuel cs) := by
  induction fuel generalizing cs with
  | zero => exact .last (by omega)
  | succ fuel ih =>
    rw [wrapRows]
    split
    · next hlong =>
      have hpos := cut_pos h cs
      have hrest := Text.length_trimStart_le (cs.drop (Card.cut width cs))
      rw [List.length_drop] at hrest
      exact .cut hlong (ih (by omega))
    · next hfits => exact .last (by omega)

theorem wraps_wrap {width : Nat} (h : 0 < width) (line : String) :
    Wraps width (Text.trim line.toList) (wrap width line) :=
  wraps_wrapRows h (Nat.le_refl _)

namespace Wraps

variable {width : Nat} {cs : List Char} {rows : List (List Char)}

theorem length_le (h : Wraps width cs rows) : ∀ r ∈ rows, r.length ≤ width := by
  induction h with
  | last hfits => simpa using hfits
  | @cut cs rows hlong hrest ih =>
    intro r hr
    rcases List.mem_cons.1 hr with rfl | hr
    · calc (Text.trimEnd (cs.take (Card.cut width cs))).length
          ≤ (cs.take (Card.cut width cs)).length := Text.length_trimEnd_le _
        _ ≤ Card.cut width cs := List.length_take_le _ _
        _ ≤ width := cut_le width cs
    · exact ih r hr

/-- Only blanks get lost at a break. -/
theorem ink_flatten (h : Wraps width cs rows) : Text.ink rows.flatten = Text.ink cs := by
  induction h with
  | last hfits => simp
  | @cut cs rows hlong hrest ih =>
    rw [List.flatten_cons, Text.ink_append, ih, Text.ink_trimEnd, Text.ink_trimStart,
      ← Text.ink_append, List.take_append_drop]

end Wraps

/-! ## The frame -/

/-- A row with nothing but its borders around it. -/
def framed (cs : List Char) : String := .ofList ('│' :: ' ' :: cs ++ [' ', '│'])

/-- A text filled up to the inner width of the card. -/
def filled (width : Nat) (cs : List Char) : List Char :=
  cs ++ List.replicate (width - 4 - cs.length) ' '

theorem length_filled {width : Nat} {cs : List Char} (h : cs.length ≤ width - 4) :
    (filled width cs).length = width - 4 := by
  rw [filled, List.length_append, List.length_replicate]
  omega

@[simp] theorem ink_filled (width : Nat) (cs : List Char) :
    Text.ink (filled width cs) = Text.ink cs := by
  rw [filled, Text.ink_append, Text.ink_spaces, List.append_nil]

/-- The lines a card wraps: the title, and each item behind its bullet. -/
def lines (title : String) (items : List String) : List String :=
  title :: items.map ("• " ++ ·)

/-- The rows of a card before they are filled up and framed. -/
def texts (title : String) (items : List String) : List (List Char) :=
  (lines title items).flatMap (wrap (maxWidth - 4))

/-- The width of a card. -/
def breadth (title : String) (items : List String) : Nat :=
  max minWidth (min maxWidth ((texts title items).foldl (fun w r => max w (r.length + 4)) 0))

/-- The rule at the top or the bottom of a card. -/
def rule (left right : Char) (width : Nat) : String :=
  .ofList (left :: List.replicate (width - 2) '─' ++ [right])

theorem render_eq (title : String) (items : List String) :
    render title items = rule '╭' '╮' (breadth title items) ::
      ((texts title items).map (filled (breadth title items))).map framed ++
        [rule '╰' '╯' (breadth title items)] := by
  rw [List.map_map]
  rfl

theorem length_rule (left right : Char) {width : Nat} (h : 2 ≤ width) :
    (rule left right width).toList.length = width := by
  simp only [rule, String.toList_ofList, List.length_append, List.length_cons, List.length_nil,
    List.length_replicate]
  omega

theorem length_framed (cs : List Char) : (framed cs).toList.length = cs.length + 4 := by
  simp [framed]

/-- No row is longer than the longest one the fold has met. -/
theorem le_foldl_max {rows : List (List Char)} {r : List Char} (h : r ∈ rows) (w : Nat) :
    r.length + 4 ≤ rows.foldl (fun w r => max w (r.length + 4)) w := by
  have hmono : ∀ (rows : List (List Char)) (w : Nat),
      w ≤ rows.foldl (fun w r => max w (r.length + 4)) w := by
    intro rows
    induction rows with
    | nil => exact fun w => Nat.le_refl w
    | cons r rest ih => exact fun w => Nat.le_trans (Nat.le_max_left _ _) (ih _)
  induction rows generalizing w with
  | nil => cases h
  | cons first rest ih =>
    rcases List.mem_cons.1 h with rfl | h
    · exact Nat.le_trans (Nat.le_max_right _ _) (hmono rest _)
    · exact ih h _

theorem length_le_of_mem_texts {title : String} {items : List String} {r : List Char}
    (h : r ∈ texts title items) : r.length ≤ maxWidth - 4 := by
  obtain ⟨line, -, hr⟩ := List.mem_flatMap.1 h
  exact (wraps_wrap (by decide) line).length_le r hr

/-- The card is broad enough for each of its rows. -/
theorem length_le_breadth {title : String} {items : List String} {r : List Char}
    (h : r ∈ texts title items) : r.length ≤ breadth title items - 4 := by
  have hfits : r.length ≤ 40 := length_le_of_mem_texts h
  have hcounted := le_foldl_max h 0
  have hbreadth : breadth title items = max 18 (min 44
    ((texts title items).foldl (fun w r => max w (r.length + 4)) 0)) := rfl
  omega

theorem ink_texts (title : String) (items : List String) :
    Text.ink (texts title items).flatten =
      Text.ink (title.toList ++ items.flatMap fun item => '•' :: item.toList) := by
  have hwrap : ∀ line : String,
      Text.ink (wrap (maxWidth - 4) line).flatten = Text.ink line.toList := by
    intro line
    rw [(wraps_wrap (by decide) line).ink_flatten, Text.ink_trim]
  have hitems : Text.ink ((items.map ("• " ++ ·)).flatMap (wrap (maxWidth - 4))).flatten =
      Text.ink (items.flatMap fun item => '•' :: item.toList) := by
    induction items with
    | nil => rfl
    | cons item rest ih =>
      have hbullet : Text.ink ("• " ++ item).toList = Text.ink ('•' :: item.toList) := by
        rw [String.toList_append, Text.ink_append]
        rfl
      rw [List.map_cons, List.flatMap_cons, List.flatten_append, Text.ink_append, hwrap, ih,
        hbullet, List.flatMap_cons, Text.ink_append]
  rw [texts, lines, List.flatMap_cons, List.flatten_append, Text.ink_append, hwrap, hitems,
    ← Text.ink_append]

theorem ink_flatten_map_filled (width : Nat) (rows : List (List Char)) :
    Text.ink (rows.map (filled width)).flatten = Text.ink rows.flatten := by
  induction rows with
  | nil => rfl
  | cons r rest ih => simp [ih]

/-- A card is a frame of one width, from eighteen to forty-four characters, around rows that
show the title and then each item behind a bullet: blanks apart, no character is lost, doubled
or moved.  The wrapping of every line comes to an end. -/
theorem render_keeps_text (title : String) (items : List String) :
    ∃ (width : Nat) (rows : List (List Char)),
      render title items = rule '╭' '╮' width :: rows.map framed ++ [rule '╰' '╯' width] ∧
      18 ≤ width ∧ width ≤ 44 ∧
      (∀ row ∈ render title items, row.toList.length = width) ∧
      Text.ink rows.flatten =
        Text.ink (title.toList ++ items.flatMap fun item => '•' :: item.toList) ∧
      ∀ line : String, Wraps 40 (Text.trim line.toList) (wrap 40 line) := by
  have hbreadth : 18 ≤ breadth title items ∧ breadth title items ≤ 44 := by
    simp only [breadth, minWidth, maxWidth]
    omega
  refine ⟨breadth title items, (texts title items).map (filled (breadth title items)),
    render_eq title items, hbreadth.1, hbreadth.2, ?_, ?_, wraps_wrap (by decide)⟩
  · intro row hrow
    rw [render_eq, List.mem_append, List.mem_cons, List.mem_singleton] at hrow
    rcases hrow with (rfl | hrow) | rfl
    · exact length_rule _ _ (by omega)
    · obtain ⟨r, hr, rfl⟩ := List.mem_map.1 hrow
      obtain ⟨text, htext, rfl⟩ := List.mem_map.1 hr
      rw [length_framed, length_filled (length_le_breadth htext)]
      omega
    · exact length_rule _ _ (by omega)
  · rw [ink_flatten_map_filled, ink_texts]

end Card

end Questline
