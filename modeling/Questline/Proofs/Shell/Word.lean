import Questline.Proofs.Shell.Splitting
import Mathlib.Data.List.Basic
set_option autoImplicit false

/-!
# The words of a line

What a word can say: never a quote, and in a line without quotes no separator and no pipe
either.  Such a line ends in a word exactly if what it ends in, but for separators, is the
text of that word and stands where a word can begin.
-/

namespace Questline.Token

open Text (bytes)

/-- A character that a word has outside quotes. -/
def IsBare (c : Char) : Prop := isSeparator c = false ∧ c ≠ '|' ∧ c ≠ '"'

instance (c : Char) : Decidable (IsBare c) := inferInstanceAs (Decidable (_ ∧ _))

/-- The text is over, or ends where a word can begin. -/
def Ends (cs : List Char) : Prop := ∀ c ∈ cs.getLast?, isSeparator c = true ∨ c = '|'

/-- The text of the last token, if that is a word. -/
def lastWord (ts : List Token) : Option String := ts.getLast?.bind word?

/-! ## What a word says -/

theorem quote_notMem_unquoted (w : List Char) : '"' ∉ (unquoted w).toList := by
  simp [unquoted]

theorem unquoted_of_notMem {w : List Char} (h : '"' ∉ w) : unquoted w = .ofList w := by
  rw [unquoted, List.filter_eq_self.2]
  intro c hc
  simpa using fun heq : c = '"' => h (heq ▸ hc)

/-- No word of any line holds a quote. -/
theorem quote_notMem_of_word {start : Nat} {cs : List Char} {t : Token} {text : String}
    (ht : t ∈ scan start cs) (h : t.kind = .word text) : '"' ∉ text.toList := by
  obtain ⟨-, w, -, -, -, -, -, ⟨hpipe, -⟩ | ⟨hword, -⟩⟩ := (tiles_scan start cs).standsIn t ht
  · cases hpipe.symm.trans h
  · cases hword.symm.trans h
    exact quote_notMem_unquoted w

theorem isPieces_of_isBare {w : List Char} (h : ∀ c ∈ w, IsBare c) : IsPieces w := by
  induction w with
  | nil => exact .nil
  | cons c r ih =>
    obtain ⟨⟨hsep, hpipe, hquote⟩, hr⟩ := List.forall_mem_cons.1 h
    exact .bare hsep hpipe hquote (ih hr)

theorem IsPieces.isBare {w : List Char} (h : IsPieces w) (hquotes : '"' ∉ w) :
    ∀ c ∈ w, IsBare c := by
  induction h with
  | nil => simp
  | bare hsep hpipe hquote _ ih =>
    exact List.forall_mem_cons.2
      ⟨⟨hsep, hpipe, hquote⟩, ih fun hmem => hquotes (List.mem_cons_of_mem _ hmem)⟩
  | quoted _ _ _ => exact absurd List.mem_cons_self hquotes

theorem not_stops_of_isBare {w r : List Char} (hne : w ≠ []) (h : ∀ c ∈ w, IsBare c) :
    ¬ Stops (w ++ r) := by
  obtain ⟨c, v, rfl⟩ := List.exists_cons_of_ne_nil hne
  intro hstops
  obtain ⟨hsep, hpipe, -⟩ := h c List.mem_cons_self
  rcases hstops c rfl with hc | hc
  · rw [hc] at hsep
    cases hsep
  · exact hpipe hc

/-! ## Reading from the front -/

theorem scan_pieces (start : Nat) {w r : List Char} (hne : w ≠ []) (hw : IsPieces w)
    (hr : Stops r) : scan start (w ++ r)
      = ⟨.word (unquoted w), start, start + bytes w⟩ :: scan (start + bytes w) r := by
  rw [scan_eq_split, evened_append hw.count_even]
  exact (Tiles.word hne hw (stops_evened (.inl hr)) (tiles_scan _ r)).eq_split.symm

theorem scan_separators (start : Nat) {seps : List Char} (h : ∀ c ∈ seps, isSeparator c = true) :
    scan start seps = [] := by
  induction seps generalizing start with
  | nil => rw [scan]
  | cons c r ih =>
    obtain ⟨hc, hr⟩ := List.forall_mem_cons.1 h
    rw [scan_separator start hc, ih _ hr]

theorem Tiles.separators_of_nil {start : Nat} {cs : List Char} (h : Tiles start cs []) :
    ∀ c ∈ cs, isSeparator c = true := by
  generalize hts : ([] : List Token) = ts at h
  induction h with
  | nil => simp
  | separator hc _ ih => exact List.forall_mem_cons.2 ⟨hc, ih hts⟩
  | pipe _ _ => cases hts
  | word _ _ _ _ _ => cases hts

/-! ## The last word -/

theorem lastWord_append {us : List Token} (h : us ≠ []) (ts : List Token) :
    lastWord (ts ++ us) = lastWord us := by
  rw [lastWord, List.getLast?_append_of_ne_nil ts h, lastWord]

theorem lastWord_cons {us : List Token} (h : us ≠ []) (t : Token) :
    lastWord (t :: us) = lastWord us :=
  lastWord_append h [t]

theorem Ends.append {a : List Char} (h : Ends a) (hne : a ≠ []) (b : List Char) :
    Ends (b ++ a) := by
  rw [Ends, List.getLast?_append_of_ne_nil b hne]
  exact h

/-- The text without quotes ends in the word, but for separators. -/
def EndsIn (cs : List Char) (text : String) : Prop :=
  ∃ a seps, cs = a ++ (text.toList ++ seps) ∧ Ends a ∧ text ≠ "" ∧
    (∀ c ∈ text.toList, IsBare c) ∧ ∀ c ∈ seps, isSeparator c = true

theorem EndsIn.append {cs : List Char} {text : String} (h : EndsIn cs text) {b : List Char}
    (hb : Ends b ∨ Stops cs) : EndsIn (b ++ cs) text := by
  obtain ⟨a, seps, rfl, ha, hne, hbare, hseps⟩ := h
  refine ⟨b ++ a, seps, by simp, ?_, hne, hbare, hseps⟩
  by_cases hnil : a = []
  · subst hnil
    rcases hb with hb | hstops
    · simpa using hb
    · rw [List.nil_append] at hstops
      exact absurd hstops (not_stops_of_isBare (by simpa using hne) hbare)
  · exact ha.append hnil b

theorem Tiles.endsIn {start : Nat} {cs : List Char} {ts : List Token} (h : Tiles start cs ts)
    (hquotes : '"' ∉ cs) {text : String} (hlast : lastWord ts = some text) : EndsIn cs text := by
  induction h with
  | nil => cases hlast
  | @separator start c r ts hc _ ih =>
    have hends : Ends [c] := by simpa [Ends] using .inl hc
    exact (ih (fun hmem => hquotes (List.mem_cons_of_mem _ hmem)) hlast).append (.inl hends)
  | @pipe start r ts _ ih =>
    have hne : ts ≠ [] := fun hnil => by simp [hnil, lastWord, word?] at hlast
    rw [lastWord_cons hne] at hlast
    have hends : Ends ['|'] := by simp [Ends]
    exact (ih (fun hmem => hquotes (List.mem_cons_of_mem _ hmem)) hlast).append (.inl hends)
  | @word start w r ts hne hw hstop htiles ih =>
    obtain ⟨hwquotes, hrquotes⟩ := not_or.1 (mt List.mem_append.2 hquotes)
    by_cases hnil : ts = []
    · subst hnil
      have htext : unquoted w = text := by simpa [lastWord, word?] using hlast
      rw [unquoted_of_notMem hwquotes] at htext
      subst htext
      refine ⟨[], r, by simp, by simp [Ends], by simpa using hne, ?_, htiles.separators_of_nil⟩
      simpa using hw.isBare hwquotes
    · rw [lastWord_cons hnil] at hlast
      exact (ih hrquotes hlast).append (.inr hstop)

/-- A text that does not end in a separator ends in the word itself. -/
theorem EndsIn.exists_eq_append {cs : List Char} {text : String} (h : EndsIn cs text)
    (hlast : ∀ c ∈ cs.getLast?, isSeparator c = false) : ∃ a, cs = a ++ text.toList ∧ Ends a := by
  obtain ⟨a, seps, rfl, ha, -, -, hseps⟩ := h
  rcases List.eq_nil_or_concat' seps with rfl | ⟨front, s, rfl⟩
  · exact ⟨a, by simp, ha⟩
  · have hsep : isSeparator s = false := hlast s (by simp [← List.append_assoc])
    rw [hseps s (by simp)] at hsep
    cases hsep

theorem mem_of_lastWord {ts : List Token} {text : String} (h : lastWord ts = some text) :
    ∃ t ∈ ts, t.kind = .word text := by
  obtain ⟨t, ht, hword⟩ := Option.bind_eq_some_iff.1 h
  refine ⟨t, List.mem_of_getLast? ht, ?_⟩
  cases hkind : t.kind with
  | pipe => simp [word?, hkind] at hword
  | word _ => simpa [word?, hkind] using hword

theorem quote_notMem_of_lastWord {start : Nat} {cs : List Char} {text : String}
    (h : lastWord (scan start cs) = some text) : '"' ∉ text.toList := by
  obtain ⟨t, ht, hkind⟩ := mem_of_lastWord h
  exact quote_notMem_of_word ht hkind

/-- In a text without quotes the last token is a word exactly if the text ends in it. -/
theorem lastWord_scan_iff (start : Nat) {cs : List Char} (hquotes : '"' ∉ cs) {text : String} :
    lastWord (scan start cs) = some text ↔ EndsIn cs text := by
  have hcount : ∀ {a b : List Char}, cs = a ++ b → a.count '"' % 2 = 0 := by
    rintro a b rfl
    rw [List.count_eq_zero.2 fun hmem => hquotes (List.mem_append_left _ hmem)]
  constructor
  · intro hlast
    have htiles := tiles_scan start cs
    rw [evened_of_even (hcount (List.append_nil cs).symm)] at htiles
    exact htiles.endsIn hquotes hlast
  · rintro ⟨a, seps, rfl, ha, hne, hbare, hseps⟩
    have hstops : Stops seps := fun c hc => .inl (hseps c (List.mem_of_mem_head? hc))
    have hword : ∀ start, lastWord (scan start (text.toList ++ seps)) = some text ∧
        scan start (text.toList ++ seps) ≠ [] := by
      intro start
      rw [scan_pieces start (by simpa using hne) (isPieces_of_isBare hbare) hstops,
        scan_separators _ hseps, unquoted_of_notMem fun hmem => (hbare _ hmem).2.2 rfl]
      simp [lastWord, word?]
    -- The word is read from its first character on, wherever a word can begin.
    rcases List.eq_nil_or_concat' a with rfl | ⟨b, s, rfl⟩
    · exact (hword start).1
    · rw [List.append_assoc, List.singleton_append] at hcount ⊢
      rcases ha s (by simp) with hsep | rfl
      · rw [scan_append start (hcount rfl) (by simpa [Stops] using .inl hsep),
          scan_separator _ hsep, lastWord_append (hword _).2]
        exact (hword _).1
      · rw [scan_append start (hcount rfl) (by simp [Stops]), scan_pipe,
          lastWord_append (by simp), lastWord_cons (hword _).2]
        exact (hword _).1

end Questline.Token
