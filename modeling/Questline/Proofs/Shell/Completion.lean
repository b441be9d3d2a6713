import Questline.Proofs.Shell.Pipeline
import Questline.Proofs.Shell.Word
import Questline.Proofs.Tree.Listing
import Questline.Shell.Completion
set_option autoImplicit false

/-!
# What a completed line says

Completion takes what follows the last blank for the token to complete and puts the path in
its place as it is.  The line means that path only if the scanner cuts it at the same blank
and nowhere in the path: every name can hold a separator, a pipe or a quote, and blanks of
other alphabets are no separators.
-/

namespace Questline

namespace Text

theorem ne_quote_of_isBlank {c : Char} (h : isBlank c = true) : c ≠ '"' := by
  rintro rfl
  exact absurd h (by decide)

theorem ne_pipe_of_isBlank {c : Char} (h : isBlank c = true) : c ≠ '|' := by
  rintro rfl
  exact absurd h (by decide)

theorem trimStart_append {cs : List Char} (h : isBlankText cs = false) (r : List Char) :
    trimStart (cs ++ r) = trimStart cs ++ r := by
  have hne : trimStart cs ≠ [] := fun hnil => by
    rw [trimStart_eq_nil_iff.1 hnil] at h
    cases h
  rw [trimStart, List.dropWhile_append, if_neg (by simpa [trimStart] using hne)]
  rfl

theorem trim_isPrefix {cs : List Char} (h : ∀ c ∈ cs.head?, isBlank c = false) :
    trim cs <+: cs := by
  rw [trim, trimStart_eq_self h, trimEnd]
  rw [← List.reverse_suffix, List.reverse_reverse]
  exact List.dropWhile_suffix _

theorem isBlank_getLast?_trim (cs : List Char) : ∀ c ∈ (trim cs).getLast?, isBlank c = false := by
  intro c hc
  rw [trim, trimEnd, List.getLast?_reverse] at hc
  have := List.head?_dropWhile_not isBlank (trimStart cs).reverse
  rw [show (trimStart cs).reverse.dropWhile isBlank = trimStart (trimStart cs).reverse from rfl,
    Option.mem_def.1 hc] at this
  simpa using this

end Text

namespace Catalog

variable {catalog : Catalog} {front active : List Char} {b : Char} {line c : String}

/-! ## The token to complete -/

theorem afterLastBlank_of_forall {cs : List Char} (h : ∀ c ∈ cs, Text.isBlank c = false) :
    afterLastBlank cs = none := by
  induction cs with
  | nil => rfl
  | cons c r ih =>
    obtain ⟨hc, hr⟩ := List.forall_mem_cons.1 h
    rw [afterLastBlank, ih hr]
    simp [hc]

theorem afterLastBlank_append (front : List Char) (hb : Text.isBlank b = true)
    (hactive : ∀ c ∈ active, Text.isBlank c = false) :
    afterLastBlank (front ++ b :: active) = some active := by
  induction front with
  | nil =>
    rw [List.nil_append, afterLastBlank, afterLastBlank_of_forall hactive]
    simp [hb]
  | cons c r ih => rw [List.cons_append, afterLastBlank, ih]

/-- An argument is completed if one path goes on from it, and that path takes its place. -/
theorem complete_argument_iff (hfront : Text.isBlankText front = false)
    (hb : Text.isBlank b = true) (hactive : ∀ c ∈ active, Text.isBlank c = false) :
    catalog.complete (.ofList (front ++ b :: active)) = .complete line [c] ↔
      catalog.paths.filter (fun p => active.isPrefixOf p.toList) = [c] ∧
        line.toList = Text.trimStart front ++ b :: c.toList := by
  have hlast : afterLastBlank (Text.trimStart (front ++ b :: active)) = some active := by
    rw [Text.trimStart_append hfront, afterLastBlank_append _ hb hactive]
  have hbefore : (front ++ b :: active).take ((front ++ b :: active).length - active.length)
      = front ++ [b] := by
    have hcut : front ++ b :: active = front ++ [b] ++ active := by simp
    rw [hcut, List.length_append, Nat.add_sub_cancel]
    exact List.take_left
  have hcandidates : catalog.candidates (.ofList (front ++ b :: active)) =
      (front ++ [b], active, catalog.paths.filter fun p => active.isPrefixOf p.toList) := by
    simp only [candidates, String.toList_ofList, hlast, hbefore]
  rw [complete, hcandidates]
  generalize catalog.paths.filter (fun p => active.isPrefixOf p.toList) = pool
  match pool with
  | [] => simp
  | _ :: _ :: _ => simp
  | [only] =>
    have hline : Text.trimStart (front ++ [b]) ++ only.toList
        = Text.trimStart front ++ b :: only.toList := by
      rw [Text.trimStart_append hfront]
      simp
    dsimp only
    rw [hline, Completion.complete.injEq, and_comm]
    refine and_congr_right fun honly => ?_
    rw [List.singleton_inj.1 honly, eq_comm, ← String.toList_inj, String.toList_ofList]

end Catalog

namespace Token

variable {front : List Char} {b : Char} {c : String}

/-! ## The last word of the completed line -/

/-- What is written behind a blank is the last word if the blank separates and nothing in it
does, nor is a pipe or a quote. -/
theorem lastWord_argument_iff (hfront : '"' ∉ front) (hb : Text.isBlank b = true) (hc : c ≠ "") :
    lastWord (scan 0 (front ++ b :: c.toList)) = some c ↔
      isSeparator b = true ∧ ∀ d ∈ c.toList, IsBare d := by
  have hquotes : '"' ∉ c.toList → '"' ∉ front ++ b :: c.toList := fun hcquote => by
    simp [hfront, hcquote, Ne.symm (Text.ne_quote_of_isBlank hb)]
  have hcut : front ++ b :: c.toList = front ++ [b] ++ c.toList := by simp
  constructor
  · intro hlast
    have hends := (lastWord_scan_iff 0 (hquotes (quote_notMem_of_lastWord hlast))).1 hlast
    have hbare : ∀ d ∈ c.toList, IsBare d := by
      obtain ⟨-, -, -, -, -, hbare, -⟩ := hends
      exact hbare
    obtain ⟨a, heq, ha⟩ := hends.exists_eq_append fun d hd => by
      rw [hcut, List.getLast?_append_of_ne_nil _ (by simpa using hc)] at hd
      exact (hbare d (List.mem_of_getLast? hd)).1
    obtain rfl : front ++ [b] = a := List.append_cancel_right (hcut.symm.trans heq)
    exact ⟨(ha b (by simp)).resolve_right (Text.ne_pipe_of_isBlank hb), hbare⟩
  · rintro ⟨hsep, hbare⟩
    refine (lastWord_scan_iff 0 (hquotes fun hmem => (hbare _ hmem).2.2 rfl)).2
      ⟨front ++ [b], [], by simp, ?_, hc, hbare, by simp⟩
    simpa [Ends] using .inl hsep

/-- A line is run without the blanks at its ends, and so it ends in the word unless the word
ends in a blank. -/
theorem lastWord_trim_iff (hfront : '"' ∉ front) (hne : front ≠ [])
    (hhead : ∀ d ∈ front.head?, Text.isBlank d = false) (hb : Text.isBlank b = true)
    (hc : c ≠ "") :
    lastWord (scan 0 (Text.trim (front ++ b :: c.toList))) = some c ↔
      lastWord (scan 0 (front ++ b :: c.toList)) = some c ∧
        ∀ d ∈ c.toList.getLast?, Text.isBlank d = false := by
  have hlineHead : ∀ d ∈ (front ++ b :: c.toList).head?, Text.isBlank d = false := by
    rwa [List.head?_append_of_ne_nil _ hne]
  have hlineLast : (front ++ b :: c.toList).getLast? = c.toList.getLast? := by
    have hcut : front ++ b :: c.toList = front ++ [b] ++ c.toList := by simp
    rw [hcut, List.getLast?_append_of_ne_nil _ (by simpa using hc)]
  have htrim : (∀ d ∈ c.toList.getLast?, Text.isBlank d = false) →
      Text.trim (front ++ b :: c.toList) = front ++ b :: c.toList := fun hlast =>
    Text.trim_of_ends hlineHead (by rwa [hlineLast])
  refine ⟨fun h => ?_, fun ⟨h, hlast⟩ => by rwa [htrim hlast]⟩
  have hcquote := quote_notMem_of_lastWord h
  have hquotes : '"' ∉ Text.trim (front ++ b :: c.toList) := fun hmem => by
    simpa [hfront, hcquote, Ne.symm (Text.ne_quote_of_isBlank hb)] using
      (Text.trim_isPrefix hlineHead).mem hmem
  have hblank := Text.isBlank_getLast?_trim (front ++ b :: c.toList)
  obtain ⟨a, heq, -⟩ := ((lastWord_scan_iff 0 hquotes).1 h).exists_eq_append fun d hd => by
    by_contra hsep
    have := Text.isBlank_of_isSeparator (by simpa using hsep)
    rw [hblank d hd] at this
    cases this
  rw [heq, List.getLast?_append_of_ne_nil _ (by simpa using hc)] at hblank
  rw [htrim hblank] at h
  exact ⟨h, hblank⟩

end Token

namespace Catalog

open FileSystem (Operation starter)

/-- A line that completion has completed with the only path that goes on from its last token
ends in that path as one word exactly if the blank before it is a separator and the path holds
no separator, pipe or quote; so does what is run of it, unless the path ends in a blank. -/
theorem lastWord_complete_iff (ops : List Operation) {front active : List Char} {b : Char}
    {line c : String} (hfront : Text.isBlankText front = false) (hb : Text.isBlank b = true)
    (hactive : ∀ d ∈ active, Text.isBlank d = false)
    (hplain : ∀ d ∈ front ++ b :: active, d ≠ '"' ∧ d ≠ '|')
    (h : (ofFileSystem (starter.course ops)).complete (.ofList (front ++ b :: active))
      = .complete line [c]) :
    (Token.lastWord (Token.tokenize line) = some c ↔
      Token.isSeparator b = true ∧ ∀ d ∈ c.toList, Token.IsBare d) ∧
    (Token.lastWord (Token.tokenize (Text.trimmed line)) = some c ↔
      (Token.isSeparator b = true ∧ ∀ d ∈ c.toList, Token.IsBare d) ∧
        ∀ d ∈ c.toList.getLast?, Text.isBlank d = false) := by
  obtain ⟨honly, hline⟩ := (complete_argument_iff hfront hb hactive).1 h
  have hpath : c ∈ (starter.course ops).pathsBelowCwd := by
    have hmem : c ∈ (ofFileSystem (starter.course ops)).paths.filter
        fun p => active.isPrefixOf p.toList := by simp [honly]
    exact (List.mem_filter.1 hmem).1
  have hc : c ≠ "" := FileSystem.ne_empty_of_mem_pathsBelowCwd
    (FileSystem.wellFormed_course FileSystem.wellFormed_starter ops)
    (FileSystem.named_course FileSystem.wellFormed_starter FileSystem.named_starterTree ops) hpath
  have hquotes : '"' ∉ Text.trimStart front := fun hmem =>
    (hplain _ (List.mem_append_left _ ((List.dropWhile_suffix _).mem hmem))).1 rfl
  have hne : Text.trimStart front ≠ [] := fun hnil => by
    rw [Text.trimStart_eq_nil_iff.1 hnil] at hfront
    cases hfront
  have hhead : ∀ d ∈ (Text.trimStart front).head?, Text.isBlank d = false := by
    intro d hd
    have := List.head?_dropWhile_not Text.isBlank front
    rw [show front.dropWhile Text.isBlank = Text.trimStart front from rfl, Option.mem_def.1 hd]
      at this
    simpa using this
  have htokens : ∀ s : String, Token.tokenize s = Token.scan 0 s.toList := fun _ => rfl
  have hword := Token.lastWord_argument_iff hquotes hb hc
  rw [htokens, htokens, Text.trimmed, String.toList_ofList, hline,
    Token.lastWord_trim_iff hquotes hne hhead hb hc, hword]
  exact ⟨Iff.rfl, Iff.rfl⟩

/-- With a file of the name `a b`, the line that completion makes of `cat a` says `cat`, `a` and
`b`: it asks for a file `a`, which there is not. -/
theorem not_lastWord_complete_of_space :
    let fs := starter.course [Operation.edit "a b" .touch]
    (ofFileSystem fs).complete "cat a" = .complete "cat a b" ["a b"] ∧
      Token.lastWord (Token.tokenize "cat a b") ≠ some "a b" ∧
      Token.lastWord (Token.tokenize (Text.trimmed "cat a b")) ≠ some "a b" ∧
      Command.parse "cat a b" = .simple (.cat "a") ∧
      (fs.lookup? "a").isSome = false ∧ (fs.lookup? "a b").isSome = true := by
  intro fs
  have hcomplete : (ofFileSystem fs).complete "cat a" = .complete "cat a b" ["a b"] := by
    decide +kernel
  obtain ⟨hline, hrun⟩ := @lastWord_complete_iff [Operation.edit "a b" .touch] "cat".toList ['a']
    ' ' "cat a b" "a b" (by decide) (by decide) (by simp [Text.isBlank]) (by simp) hcomplete
  have hbare : ¬ ∀ d ∈ "a b".toList, Token.IsBare d := by simp [Token.IsBare, Token.isSeparator]
  exact ⟨hcomplete, fun h => hbare (hline.1 h).2, fun h => hbare (hrun.1 h).1.2, by decide +kernel,
    by decide +kernel, by decide +kernel⟩

end Catalog

end Questline
