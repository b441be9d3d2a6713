import Questline.Proofs.Shell.Pipeline
import Questline.Proofs.Shell.Word
import Questline.Proofs.Tree.Course
set_option autoImplicit false

/-!
# Arguments

A line is a command word and the arguments behind it, each behind a space.  A text without
quotes is passed as one argument if it is typed in quotes, whatever else is in it.  Here is what
such lines are read as, alone and in front of a filter, and what becomes of them: the pipes and
blanks in quotes do not count, and the command gets the text as it is.
-/

namespace Questline

open Time (Instant)

namespace Token

open Text (bytes)

/-- A word as it is typed: bare characters and quoted stretches, with no blank at its end. -/
structure IsArgument (w : String) : Prop where
  ne_empty : w ≠ ""
  pieces : IsPieces w.toList
  last : ∀ c ∈ w.toList.getLast?, Text.isBlank c = false

theorem isArgument_of_isBare {w : String} (hne : w ≠ "")
    (h : ∀ c ∈ w.toList, IsBare c ∧ Text.isBlank c = false) : IsArgument w :=
  ⟨hne, isPieces_of_isBare fun c hc => (h c hc).1, fun c hc => (h c (List.mem_of_getLast? hc)).2⟩

/-- Arguments, each behind a space. -/
def spaced (args : List String) : List Char := args.flatMap fun w => ' ' :: w.toList

@[simp] theorem spaced_nil : spaced [] = [] := rfl

theorem spaced_cons (w : String) (args : List String) :
    spaced (w :: args) = ' ' :: (w.toList ++ spaced args) := rfl

theorem stops_spaced (args : List String) : Stops (spaced args) := by
  cases args <;> simp [spaced_cons, Stops, isSeparator]

/-! ## What arguments are read as -/

section

variable {args : List String} (h : ∀ w ∈ args, IsArgument w)
include h

/-- Each argument is a word without its quotes. -/
theorem filterMap_word?_scan_spaced (start : Nat) :
    (scan start (spaced args)).filterMap word? = args.map fun w => unquoted w.toList := by
  induction args generalizing start with
  | nil => rw [spaced_nil, scan]; rfl
  | cons w args ih =>
    obtain ⟨hw, hargs⟩ := List.forall_mem_cons.1 h
    rw [spaced_cons, scan_separator start (by decide),
      scan_pieces _ (by simpa using hw.ne_empty) hw.pieces (stops_spaced args)]
    simp [word?, ih hargs]

theorem count_spaced : (spaced args).count '"' % 2 = 0 := by
  induction args with
  | nil => rfl
  | cons w args ih =>
    obtain ⟨hw, hargs⟩ := List.forall_mem_cons.1 h
    have hcount := hw.pieces.count_even
    have hrest := ih hargs
    rw [spaced_cons, List.count_cons, List.count_append]
    simp
    omega

theorem not_isBlank_of_getLast?_spaced {front : List Char}
    (hfront : ∀ c ∈ front.getLast?, Text.isBlank c = false) :
    ∀ c ∈ (front ++ spaced args).getLast?, Text.isBlank c = false := by
  rcases List.eq_nil_or_concat' args with rfl | ⟨init, w, rfl⟩
  · simpa using hfront
  · have hw : IsArgument w := h w (by simp)
    have hcut : front ++ spaced (init ++ [w]) = front ++ spaced init ++ [' '] ++ w.toList := by
      simp [spaced]
    rw [hcut, List.getLast?_append_of_ne_nil _ (by simpa using hw.ne_empty)]
    exact hw.last

end

end Token

namespace Command

open Token (IsArgument spaced)

/-! ## Texts in quotes -/

/-- The text in quotes, as a line has it that means it for one word. -/
def quoted (text : String) : String := "\"" ++ text ++ "\""

theorem toList_quoted (text : String) : (quoted text).toList = '"' :: (text.toList ++ ['"']) := by
  simp [quoted]

theorem isArgument_quoted {text : String} (h : '"' ∉ text.toList) : IsArgument (quoted text) := by
  refine ⟨by simp [quoted], ?_, ?_⟩
  · rw [toList_quoted]
    exact .quoted h .nil
  · rw [toList_quoted, ← List.cons_append, List.getLast?_concat]
    rintro c ⟨⟩
    decide

theorem unquoted_quoted {text : String} (h : '"' ∉ text.toList) :
    Token.unquoted (quoted text).toList = text := by
  rw [toList_quoted, ← String.ofList_toList (s := text), ← Token.unquoted_of_notMem h]
  simp [Token.unquoted]

/-! ## Lines without pipes -/

theorem hasNoPipe_of_notMem {cs : List Char} (h : '|' ∉ cs) : HasNoPipe cs :=
  fun a b hcut => absurd (by simp [hcut]) h

theorem hasNoPipe_quoted {u : List Char} (h : '"' ∉ u) : HasNoPipe ('"' :: (u ++ ['"'])) := by
  intro a b hcut
  cases a with
  | nil => cases hcut
  | cons c a =>
    obtain ⟨rfl, hrest⟩ := List.cons.inj hcut
    rcases List.append_eq_append_iff.1 hrest with ⟨x, rfl, hx⟩ | ⟨x, rfl, -⟩
    · cases x with
      | nil => cases hx
      | cons _ x => simp at hx
    · have hfront : '"' ∉ a := fun hmem => h (List.mem_append_left _ hmem)
      simp [List.count_eq_zero.2 hfront]

theorem HasNoPipe.append {a b : List Char} (ha : HasNoPipe a) (heven : a.count '"' % 2 = 0)
    (hb : HasNoPipe b) : HasNoPipe (a ++ b) := by
  intro p q hcut
  rcases List.append_eq_append_iff.1 hcut with ⟨x, rfl, hx⟩ | ⟨x, rfl, hx⟩
  · have := hb x q hx
    rw [List.count_append]
    omega
  · cases x with
    | nil => exact absurd (hb [] q hx.symm) (by simp)
    | cons c x =>
      obtain ⟨rfl, -⟩ := List.cons.inj hx
      exact ha p x rfl

theorem hasNoPipe_of_isPieces {w : List Char} (h : Token.IsPieces w) : HasNoPipe w := by
  induction h with
  | nil => exact hasNoPipe_of_notMem List.not_mem_nil
  | @bare c w _ hpipe hquote _ ih =>
    have hc : HasNoPipe [c] := hasNoPipe_of_notMem (by simpa using Ne.symm hpipe)
    exact hc.append (by simp [hquote]) ih
  | @quoted u w hu _ ih =>
    have hcut : '"' :: (u ++ '"' :: w) = '"' :: (u ++ ['"']) ++ w := by simp
    rw [hcut]
    exact (hasNoPipe_quoted hu).append (Token.IsPieces.quoted hu .nil).count_even ih

theorem hasNoPipe_spaced {args : List String} (h : ∀ w ∈ args, IsArgument w) :
    HasNoPipe (spaced args) := by
  induction args with
  | nil => exact hasNoPipe_of_notMem List.not_mem_nil
  | cons w args ih =>
    obtain ⟨hw, hargs⟩ := List.forall_mem_cons.1 h
    have hspace : HasNoPipe [' '] := hasNoPipe_of_notMem (by decide)
    exact hspace.append (by decide)
      ((hasNoPipe_of_isPieces hw.pieces).append hw.pieces.count_even (ih hargs))

/-! ## What lines ask for -/

/-- The line has no blanks at its ends and asks for the command. -/
structure Asks (line : String) (c : Command) : Prop where
  ne_empty : line ≠ ""
  trimmed : Text.trimmed line = line
  parse : Command.parse line = c

/-- A word that can name a command. -/
structure IsName (name : String) : Prop where
  ne_empty : name ≠ ""
  bare : ∀ c ∈ name.toList, Token.IsBare c ∧ Text.isBlank c = false

/-- A command word, and what it makes of the arguments. -/
structure Takes (name : String) (read : List String → Simple) : Prop extends IsName name where
  reads : ∀ cs start stop ts, parseSimple cs (⟨.word name, start, stop⟩ :: ts)
    = read (ts.filterMap Token.word?)

theorem takes_cat : Takes "cat" fun args => .cat args[0]? where
  ne_empty := by decide
  bare := by simp [Token.IsBare, Token.isSeparator, Text.isBlank]
  reads _ _ _ _ := rfl

theorem takes_rm : Takes "rm" fun args => .rm args[0]? where
  ne_empty := by decide
  bare := by simp [Token.IsBare, Token.isSeparator, Text.isBlank]
  reads _ _ _ _ := rfl

theorem takes_grep : Takes "grep" fun args => .grep args[0]? args[1]? where
  ne_empty := by decide
  bare := by simp [Token.IsBare, Token.isSeparator, Text.isBlank]
  reads _ _ _ _ := rfl

namespace IsName

variable {name : String} (h : IsName name)
include h

theorem isArgument : IsArgument name := Token.isArgument_of_isBare h.ne_empty h.bare

/-- The command word is read as it stands, and the rest from behind it on. -/
theorem scan {cs : List Char} (hcs : Token.Stops cs) : Token.scan 0 (name.toList ++ cs)
    = ⟨.word name, 0, Text.bytes name.toList⟩ :: Token.scan (Text.bytes name.toList) cs := by
  have hquotes : '"' ∉ name.toList := fun hmem => (h.bare _ hmem).1.2.2 rfl
  rw [Token.scan_pieces 0 (by simpa using h.ne_empty) h.isArgument.pieces hcs, Nat.zero_add,
    Token.unquoted_of_notMem hquotes, String.ofList_toList]

/-- A line that begins with a command word and does not end in a blank is parsed as it is. -/
theorem asks {line : String} {cs : List Char} {c : Command}
    (hline : line.toList = name.toList ++ cs)
    (hlast : ∀ c ∈ (name.toList ++ cs).getLast?, Text.isBlank c = false)
    (hparse : Text.trimmed line = line → Command.parse line = c) : Asks line c := by
  have hne : name.toList ≠ [] := by simpa using h.ne_empty
  have htrim : Text.trim (name.toList ++ cs) = name.toList ++ cs := by
    refine Text.trim_of_ends (fun c hc => ?_) hlast
    rw [List.head?_append_of_ne_nil _ hne] at hc
    exact (h.bare c (List.mem_of_mem_head? hc)).2
  have htrimmed : Text.trimmed line = line := by
    rw [← String.toList_inj, Text.trimmed, String.toList_ofList, hline, htrim]
  refine ⟨?_, htrimmed, hparse htrimmed⟩
  rintro rfl
  exact hne (List.append_eq_nil_iff.1 hline.symm).1

/-- With no pipe in what follows the command word, the line asks for one command. -/
theorem asks_simple {line : String} {cs : List Char} (hline : line.toList = name.toList ++ cs)
    (hlast : ∀ c ∈ (name.toList ++ cs).getLast?, Text.isBlank c = false)
    (hquotes : cs.count '"' % 2 = 0) (hpipe : HasNoPipe cs) (hstops : Token.Stops cs) :
    Asks line (.simple (parseSimple (name.toList ++ cs)
      (⟨.word name, 0, Text.bytes name.toList⟩ :: Token.scan (Text.bytes name.toList) cs))) := by
  have hname := h.isArgument.pieces.count_even
  refine h.asks hline hlast fun htrim => ?_
  rw [← h.scan hstops, ← hline]
  refine parse_of_hasNoPipe htrim ?_ ?_
  · rw [hline, List.count_append]
    omega
  · rw [hline]
    exact (hasNoPipe_of_isPieces h.isArgument.pieces).append hname hpipe

end IsName

section

variable {name line : String} {args : List String} {read : List String → Simple}
  (h : Takes name read) (hargs : ∀ w ∈ args, IsArgument w)
include h hargs


/-- A line of a command word and arguments asks for what the word makes of them. -/
theorem asks_words (hline : line.toList = name.toList ++ spaced args) :
    Asks line (.simple (read (args.map fun w => Token.unquoted w.toList))) := by
  have hasks := h.asks_simple hline
    (Token.not_isBlank_of_getLast?_spaced hargs h.isArgument.last) (Token.count_spaced hargs)
    (hasNoPipe_spaced hargs) (Token.stops_spaced args)
  rwa [h.reads, Token.filterMap_word?_scan_spaced hargs] at hasks

/-- With a filter behind it, it asks for that and the words of the filter. -/
theorem asks_filtered {words : List String} (hwords : ∀ w ∈ words, IsArgument w)
    (hline : line.toList = name.toList ++ spaced args ++ (" | grep".toList ++ spaced words)) :
    Asks line (.pipeline (read (args.map fun w => Token.unquoted w.toList))
      (" ".intercalate (words.map fun w => Token.unquoted w.toList))) := by
  have hcut : line.toList = name.toList ++ (spaced args ++ (" | grep".toList ++ spaced words)) := by
    rw [hline, List.append_assoc]
  have hlast : ∀ c ∈ line.toList.getLast?, Text.isBlank c = false := by
    rw [hline, ← List.append_assoc]
    refine Token.not_isBlank_of_getLast?_spaced hwords ?_
    rw [List.getLast?_append_of_ne_nil _ (by decide)]
    rintro c ⟨⟩
    decide
  have hname := h.isArgument.pieces.count_even
  have hcount := Token.count_spaced hargs
  have hfilter : ∀ t ∈ Token.scan 0 (spaced words), t.kind ≠ .pipe := fun t ht =>
    kind_ne_pipe (hasNoPipe_spaced hwords) (standsIn_of_even (Token.count_spaced hwords) t ht)
  refine h.asks hcut (hcut ▸ hlast) fun htrim => ?_
  rw [parse_grep hline (by simpa [Text.trimmed] using congrArg String.toList htrim)
    (by rw [List.count_append]; omega)
    ((hasNoPipe_of_isPieces h.isArgument.pieces).append hname (hasNoPipe_spaced hargs))
    (Token.stops_spaced words) hfilter, h.scan (Token.stops_spaced args), h.reads,
    Token.filterMap_word?_scan_spaced hargs, Token.filterMap_word?_scan_spaced hwords]

end

/-- An echo gets what follows the command word as it is. -/
theorem asks_echo {rest : String} (hne : rest ≠ "") (htrim : Text.trim rest.toList = rest.toList)
    (hquotes : rest.toList.count '"' % 2 = 0) (hpipe : HasNoPipe rest.toList) :
    Asks ("echo " ++ rest) (.simple (.echo rest)) := by
  have hname : IsName "echo" :=
    ⟨by decide, by simp [Token.IsBare, Token.isSeparator, Text.isBlank]⟩
  have hspace : HasNoPipe [' '] := hasNoPipe_of_notMem (by decide)
  have hline : ("echo " ++ rest).toList = "echo".toList ++ ' ' :: rest.toList := by simp
  have hlast : ∀ c ∈ ("echo".toList ++ ' ' :: rest.toList).getLast?, Text.isBlank c = false := by
    intro c hc
    have hcut : "echo".toList ++ ' ' :: rest.toList = "echo ".toList ++ rest.toList := rfl
    rw [hcut, List.getLast?_append_of_ne_nil _ (by simpa using hne)] at hc
    exact (Text.ends_of_trim htrim).2 c hc
  have hasks := hname.asks_simple hline hlast (by simpa using hquotes)
    (hspace.append (by decide) hpipe) (by simp [Token.Stops, Token.isSeparator])
  have hargument : Text.trim (' ' :: rest.toList) = rest.toList := htrim
  simpa only [parseSimple, afterBytes_append, hargument, String.ofList_toList] using hasks

theorem asks_cat {path : String} (h : IsArgument path) :
    Asks ("cat " ++ path) (.simple (.cat (some (Token.unquoted path.toList)))) :=
  asks_words takes_cat (List.forall_mem_singleton.2 h) (by simp [Token.spaced_cons])

theorem asks_rm {path : String} (h : IsArgument path) :
    Asks ("rm " ++ path) (.simple (.rm (some (Token.unquoted path.toList)))) :=
  asks_words takes_rm (List.forall_mem_singleton.2 h) (by simp [Token.spaced_cons])

theorem asks_grep {pattern path : String} (h : IsArgument pattern) (h' : IsArgument path) :
    Asks ("grep " ++ pattern ++ " " ++ path) (.simple (.grep
      (some (Token.unquoted pattern.toList)) (some (Token.unquoted path.toList)))) :=
  asks_words takes_grep (List.forall_mem_cons.2 ⟨h, List.forall_mem_singleton.2 h'⟩)
    (by simp [Token.spaced_cons])

theorem asks_cat_filtered {pattern path : String} (h : IsArgument pattern) (h' : IsArgument path) :
    Asks ("cat " ++ path ++ " | grep " ++ pattern) (.pipeline
      (.cat (some (Token.unquoted path.toList))) (Token.unquoted pattern.toList)) := by
  have hline : ("cat " ++ path ++ " | grep " ++ pattern).toList
      = "cat".toList ++ spaced [path] ++ (" | grep".toList ++ spaced [pattern]) := by
    simp [Token.spaced_cons]
  have hasks := asks_filtered takes_cat (List.forall_mem_singleton.2 h')
    (List.forall_mem_singleton.2 h) hline
  simpa using hasks

end Command

namespace Scene

open Command (quoted)

variable {w : Type} [Depot w] (s : Scene w) (threshold : UInt32) (now : Instant)

/-! ## Executing the line -/

theorem status_fileOutcome {α : Type} {command : String} {shown : α → Outcome}
    {result : Except FileError α} (h : (fileOutcome command shown result).status = .ok) :
    ∃ a, result = .ok a := by
  cases result with
  | ok a => exact ⟨a, rfl⟩
  | error e => cases h

/-- A line that asks for a command answers what the command does, and leaves its files. -/
theorem execute_of_asks {line : String} {c : Command} (h : Command.Asks line c) :
    (s.execute threshold line now).1 = (s.perform threshold line now c).1 ∧
      (s.execute threshold line now).2.fs = (s.perform threshold line now c).2.fs := by
  have hsome : (Text.trimmed line).isEmpty = false := by
    rw [h.trimmed]
    simpa using h.ne_empty
  have hexecute := s.execute_eq threshold now hsome ((congrArg Command.parse h.trimmed).trans h.parse)
  rw [h.trimmed] at hexecute
  dsimp only at hexecute
  rw [hexecute]
  exact ⟨rfl, fs_withProgress ..⟩

theorem execute_cat_quoted {name : String} (h : '"' ∉ name.toList) :
    (s.execute threshold ("cat " ++ quoted name) now).1
        = fileOutcome "cat" (fun c => .success (Text.lines c)) (s.fs.cat name) ∧
      (s.execute threshold ("cat " ++ quoted name) now).2.fs = s.fs := by
  have hasks := Command.asks_cat (Command.isArgument_quoted h)
  rw [Command.unquoted_quoted h] at hasks
  exact s.execute_of_asks threshold now hasks

theorem execute_rm_quoted {name : String} (h : '"' ∉ name.toList) :
    (s.execute threshold ("rm " ++ quoted name) now).1
        = fileOutcome "rm" (fun _ => .line s!"Removed {name}") (s.fs.rm name) ∧
      (s.execute threshold ("rm " ++ quoted name) now).2.fs = s.fs.after (s.fs.rm name) := by
  have hasks := Command.asks_rm (Command.isArgument_quoted h)
  rw [Command.unquoted_quoted h] at hasks
  obtain ⟨houtcome, hfs⟩ := s.execute_of_asks threshold now hasks
  exact ⟨houtcome, hfs.trans (FileSystem.fs_change ..)⟩

end Scene

end Questline
