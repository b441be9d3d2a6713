import Questline.Proofs.Session.Turn
import Questline.Proofs.Shell.Splitting
import Questline.Store.Memory
import Mathlib.Data.List.Basic
import Mathlib.Data.List.TakeDrop
import Mathlib.Data.List.TakeWhile
set_option autoImplicit false

/-!
# A command and its filter

A line `C | grep W` asks for what `C` asks for, and then keeps the lines in which
the words of `W` occur.  The command is read off the tokens before the pipe and the
bytes they stand in, which are those of `C` and a space.
-/

namespace Questline

open Time (Instant)

namespace Text

theorem isBlank_of_isSeparator {c : Char} (h : Token.isSeparator c = true) : isBlank c = true := by
  simp only [Token.isSeparator, Bool.or_eq_true, decide_eq_true_eq] at h
  rcases h with (((rfl | rfl) | rfl) | rfl) | rfl <;> decide

/-! ## Trimming -/

theorem trimStart_eq_self {cs : List Char} (h : ∀ c ∈ cs.head?, isBlank c = false) :
    trimStart cs = cs := by
  cases cs with
  | nil => rfl
  | cons c r => exact List.dropWhile_cons_of_neg (by simp [h c rfl])

theorem trim_of_ends {cs : List Char} (hhead : ∀ c ∈ cs.head?, isBlank c = false)
    (hlast : ∀ c ∈ cs.getLast?, isBlank c = false) : trim cs = cs := by
  rw [trim, trimStart_eq_self hhead, trimEnd, trimStart_eq_self (by simpa using hlast),
    List.reverse_reverse]

theorem ends_of_trim {cs : List Char} (h : trim cs = cs) :
    (∀ c ∈ cs.head?, isBlank c = false) ∧ ∀ c ∈ cs.getLast?, isBlank c = false := by
  have hshort : ∀ l, (trimStart l).length ≤ l.length :=
    fun l => (List.dropWhile_suffix _).length_le
  have hlen : (trimStart (trimStart cs).reverse).length = cs.length := by
    simpa [trim, trimEnd] using congrArg List.length h
  have hstart : trimStart cs = cs := by
    refine (List.dropWhile_suffix _).eq_of_length ?_
    have := hshort (trimStart cs).reverse
    have := hshort cs
    rw [List.length_reverse] at *
    show (trimStart cs).length = cs.length
    omega
  have hend : trimStart cs.reverse = cs.reverse := by
    rw [trim, hstart, trimEnd] at h
    exact List.reverse_eq_iff.1 h
  have hfirst : ∀ l, trimStart l = l → ∀ c ∈ l.head?, isBlank c = false := by
    intro l hl c hc
    have := List.head?_dropWhile_not isBlank l
    rw [show l.dropWhile isBlank = l from hl, Option.mem_def.1 hc] at this
    simpa using this
  exact ⟨hfirst cs hstart, by simpa using hfirst cs.reverse hend⟩

/-- A blank at the end is trimmed away. -/
theorem trim_concat {c : Char} (h : isBlank c = true) (cs : List Char) :
    trim (cs ++ [c]) = trim cs := by
  have hend : ∀ l : List Char, trimEnd (l ++ [c]) = trimEnd l := by
    intro l
    simp [trimEnd, trimStart, h]
  rw [trim, trim, trimStart, List.dropWhile_append]
  split
  · next hnone =>
    have hnone : trimStart cs = [] := by simpa [trimStart] using hnone
    simp [hnone, h]
  · exact hend _

end Text

namespace Command

/-! ## Reading the line -/

theorem afterBytes_append (a b : List Char) : afterBytes (Text.bytes a) (a ++ b) = b := by
  induction a with
  | nil => cases b <;> simp [Text.bytes, afterBytes]
  | cons c r ih =>
    have hpos : c.utf8Size ≠ 0 := Nat.ne_of_gt c.utf8Size_pos
    simp [Text.bytes, afterBytes, hpos, ih]

theorem firstBytes_append (a b : List Char) : firstBytes (Text.bytes a) (a ++ b) = a := by
  induction a with
  | nil => cases b <;> simp [Text.bytes, firstBytes]
  | cons c r ih =>
    have hpos : c.utf8Size ≠ 0 := Nat.ne_of_gt c.utf8Size_pos
    simp [Text.bytes, firstBytes, hpos, ih]

/-- A space behind the text a command is read from does not change the command. -/
theorem parseSimple_space {cs : List Char} {tokens : List Token}
    (h : ∀ t ∈ tokens, Token.StandsIn 0 cs t) :
    parseSimple (cs ++ [' ']) tokens = parseSimple cs tokens := by
  have hblank : Text.isBlank ' ' = true := by decide
  cases tokens with
  | nil => rfl
  | cons first rest =>
    obtain ⟨a, w, b, rfl, -, -, hstop, -⟩ := h first List.mem_cons_self
    have hrest : Text.trim (afterBytes first.stop (a ++ w ++ b ++ [' ']))
        = Text.trim (afterBytes first.stop (a ++ w ++ b)) := by
      rw [hstop, Nat.zero_add, List.append_assoc (a ++ w), afterBytes_append, afterBytes_append,
        Text.trim_concat hblank]
    simp only [parseSimple, hrest, Text.trim_concat hblank]

/-- The text is free of pipes outside quotes. -/
def HasNoPipe (cs : List Char) : Prop := ∀ a b, cs = a ++ '|' :: b → a.count '"' % 2 = 1

theorem kind_ne_pipe {cs : List Char} (h : HasNoPipe cs) {t : Token} (ht : Token.StandsIn 0 cs t) :
    t.kind ≠ .pipe := by
  obtain ⟨a, w, b, rfl, heven, -, -, ⟨-, rfl⟩ | ⟨hkind, -⟩⟩ := ht
  · have hodd := h a b (by simp)
    omega
  · simp [hkind]

theorem standsIn_of_even {cs : List Char} (h : cs.count '"' % 2 = 0) :
    ∀ t ∈ Token.scan 0 cs, Token.StandsIn 0 cs t := by
  have htiles := Token.tiles_scan 0 cs
  rw [Token.evened_of_even h] at htiles
  exact htiles.standsIn

/-- A text without pipes asks for one command. -/
theorem parse_of_hasNoPipe {c : String} (htrim : Text.trimmed c = c)
    (hquotes : c.toList.count '"' % 2 = 0) (hpipe : HasNoPipe c.toList) :
    parse c = .simple (parseSimple c.toList (Token.scan 0 c.toList)) := by
  have hcs : Text.trim c.toList = c.toList := by
    simpa [Text.trimmed] using congrArg String.toList htrim
  have hwords : ∀ t ∈ Token.scan 0 c.toList, (t.kind != .pipe) = true := fun t ht => by
    simpa using kind_ne_pipe hpipe (standsIn_of_even hquotes t ht)
  simp only [parse, hcs, List.span_eq_takeWhile_dropWhile, List.takeWhile_eq_self_iff.2 hwords,
    List.dropWhile_eq_nil_iff.2 hwords]

theorem scan_grep (start : Nat) {v : List Char} (hv : Token.Stops v) :
    Token.scan start (" | grep".toList ++ v) =
      ⟨.pipe, start + 1, start + 2⟩ :: ⟨.word "grep", start + 3, start + 7⟩ ::
        Token.scan (start + 7) v := by
  rw [Token.scan_append start (by decide) hv]
  have hgrep : Token.scan start " | grep".toList
      = [⟨.pipe, start + 1, start + 2⟩, ⟨.word "grep", start + 3, start + 7⟩] := by
    rw [Token.scan_eq_split, Token.evened_of_even (by decide)]
    simp [Token.split, Token.endWord, Token.isSeparator, Text.bytes, Token.unquoted, Char.utf8Size]
  rw [hgrep]
  rfl

theorem filterMap_word?_of_map_kind {ts us : List Token}
    (h : ts.map Token.kind = us.map Token.kind) :
    ts.filterMap Token.word? = us.filterMap Token.word? := by
  have hword : Token.word? = (fun k => Token.word? ⟨k, 0, 0⟩) ∘ Token.kind := rfl
  rw [hword, ← List.filterMap_map, ← List.filterMap_map, h]

theorem all_word_of_map_kind {ts us : List Token} (h : ts.map Token.kind = us.map Token.kind)
    (hus : ∀ t ∈ us, t.kind ≠ .pipe) : ∀ t ∈ ts, t.kind ≠ .pipe := by
  intro t ht hkind
  have hmem : t.kind ∈ us.map Token.kind := h ▸ List.mem_map_of_mem ht
  obtain ⟨u, hu, hukind⟩ := List.mem_map.1 hmem
  exact hus u hu (hukind.trans hkind)

/-- The line without the blanks at its ends: only the space behind `grep` can be lost, and
only if nothing follows it. -/
theorem trim_grep {cs ds : List Char} (hne : cs ≠ []) (hcs : Text.trim cs = cs)
    (hds : Text.trim ds = ds) :
    ∃ v, Text.trim (cs ++ " | grep ".toList ++ ds) = cs ++ (" | grep".toList ++ v) ∧
      Text.trim (cs ++ (" | grep".toList ++ v)) = cs ++ (" | grep".toList ++ v) ∧
      Token.Stops v ∧ (Token.scan 0 v).map Token.kind = (Token.scan 0 ds).map Token.kind := by
  have hhead : ∀ x, ∀ c ∈ (cs ++ x).head?, Text.isBlank c = false := by
    intro x c hc
    rw [List.head?_append_of_ne_nil _ hne] at hc
    exact (Text.ends_of_trim hcs).1 c hc
  have hspace : " | grep ".toList = " | grep".toList ++ [' '] := rfl
  cases ds with
  | nil =>
    have htrim : Text.trim (cs ++ " | grep".toList) = cs ++ " | grep".toList := by
      refine Text.trim_of_ends (hhead _) fun c hc => ?_
      rw [List.getLast?_append_of_ne_nil _ (by decide)] at hc
      obtain rfl : 'p' = c := by simpa using hc
      decide
    refine ⟨[], ?_, by simpa using htrim, by simp [Token.Stops], rfl⟩
    rw [List.append_nil, List.append_nil, hspace, ← List.append_assoc,
      Text.trim_concat (by decide), htrim]
  | cons d ds =>
    have htrim : Text.trim (cs ++ (" | grep".toList ++ ' ' :: d :: ds))
        = cs ++ (" | grep".toList ++ ' ' :: d :: ds) := by
      refine Text.trim_of_ends (hhead _) fun c hc => ?_
      refine (Text.ends_of_trim hds).2 c ?_
      rwa [List.getLast?_append_of_ne_nil _ (by simp), List.getLast?_append_of_ne_nil _ (by simp),
        List.getLast?_cons_cons] at hc
    refine ⟨' ' :: d :: ds, ?_, htrim, by simp [Token.Stops, Token.isSeparator], ?_⟩
    · rw [← htrim, hspace]
      simp
    · rw [Token.scan_separator 0 (by decide)]
      exact Token.map_kind_scan ..

/-- What stands before a filter is read as if it stood alone. -/
theorem parse_grep {line : String} {cs v : List Char}
    (hline : line.toList = cs ++ (" | grep".toList ++ v))
    (htrim : Text.trim line.toList = line.toList) (hquotes : cs.count '"' % 2 = 0)
    (hpipe : HasNoPipe cs) (hv : Token.Stops v)
    (hwords : ∀ t ∈ Token.scan 0 v, t.kind ≠ .pipe) :
    parse line = .pipeline (parseSimple cs (Token.scan 0 cs))
      (" ".intercalate ((Token.scan 0 v).filterMap Token.word?)) := by
  have hcut : Token.scan 0 line.toList
      = Token.scan 0 cs ++ ⟨.pipe, Text.bytes cs + 1, Text.bytes cs + 2⟩ ::
        ⟨.word "grep", Text.bytes cs + 3, Text.bytes cs + 7⟩ ::
          Token.scan (Text.bytes cs + 7) v := by
    rw [hline, Token.scan_append 0 hquotes (by simp [Token.Stops, Token.isSeparator]),
      Nat.zero_add, scan_grep _ hv]
  have hleft : ∀ t ∈ Token.scan 0 cs, (t.kind != .pipe) = true := fun t ht => by
    simpa using kind_ne_pipe hpipe (standsIn_of_even hquotes t ht)
  have hright : ((Token.scan (Text.bytes cs + 7) v).all fun t => t.kind != .pipe) = true :=
    List.all_eq_true.2 fun t ht => by
      simpa using all_word_of_map_kind (Token.map_kind_scan ..) hwords t ht
  have hfront : firstBytes (Text.bytes cs + 1) line.toList = cs ++ [' '] := by
    have hbytes : Text.bytes (cs ++ [' ']) = Text.bytes cs + 1 := Text.bytes_append cs [' ']
    have hspace : cs ++ (" | grep".toList ++ v) = (cs ++ [' ']) ++ ("| grep".toList ++ v) := by
      simp
    rw [hline, ← hbytes, hspace, firstBytes_append]
  simp only [parse, htrim, hcut, List.span_eq_takeWhile_dropWhile,
    List.takeWhile_append_of_pos hleft, List.dropWhile_append_of_pos hleft]
  simp [hright, hfront, parseSimple_space (standsIn_of_even hquotes),
    filterMap_word?_of_map_kind (Token.map_kind_scan _ 0 v)]

end Command

namespace Outcome

/-! ## Filtering -/

@[simp] theorem clear_filter (pattern : String) (o : Outcome) :
    (o.filter pattern).clear = o.clear := by
  unfold filter
  split <;> rfl

/-- The lines in which the pattern occurs stay; without one, a line says so. -/
theorem lines_filter (pattern : String) (o : Outcome) :
    (o.filter pattern).lines =
      if o.lines.filter (Text.contains · pattern) = [] then [noMatches]
      else o.lines.filter (Text.contains · pattern) := by
  have hkept : (o.lines.filter fun l => Text.occurs pattern.toList l.toList)
      = o.lines.filter (Text.contains · pattern) := rfl
  unfold filter
  rw [hkept]
  split
  · next hnone => rw [if_pos hnone]
  · next hsome => rw [if_neg hsome]

end Outcome

namespace Scene

variable {w : Type} [Depot w]

/-! ## Executing the line -/

/-- Only the history looks at the line it is asked for on. -/
theorem dispatch_line (s : Scene w) (threshold : UInt32) (line line' : String) (now : Instant)
    {c : Command.Simple} (h : c ≠ .history) :
    s.dispatch threshold line now c = s.dispatch threshold line' now c := by
  cases c with
  | history => exact absurd rfl h
  | buy id => cases id <;> rfl
  | cat path => cases path <;> rfl
  | touch path => cases path <;> rfl
  | mkdir path => cases path <;> rfl
  | rm path => cases path <;> rfl
  | grep pattern path => cases pattern <;> cases path <;> rfl
  | signup name => cases name <;> rfl
  | login name => cases name <;> rfl
  | _ => rfl

theorem execute_eq (s : Scene w) (threshold : UInt32) {line : String} (now : Instant)
    {c : Command} (hne : (Text.trimmed line).isEmpty = false)
    (hparse : Command.parse (Text.trimmed line) = c) :
    let (o, after) := s.perform threshold (Text.trimmed line) now c
    s.execute threshold line now =
      (o, after.withProgress (after.progress.logCommand (Text.trimmed line) o.text now)) := by
  unfold execute
  extract_lets trimmed
  rw [if_neg (by simp [trimmed, hne]), hparse]

/-- A line with a filter does what its command does, and shows those of its lines in
which the words of the filter occur; only the entry in the log is another one. -/
theorem execute_filtered (s : Scene w) (threshold : UInt32) (now : Instant) {c filter : String}
    (hblank : Text.isBlankText c.toList = false) (hc : Text.trimmed c = c)
    (hquotes : c.toList.count '"' % 2 = 0) (hpipe : Command.HasNoPipe c.toList)
    (hhistory : Command.parse c ≠ .simple .history) (hfilter : Text.trimmed filter = filter)
    (hwords : ∀ t ∈ Token.tokenize filter, t.kind ≠ .pipe) :
    let pattern := " ".intercalate ((Token.tokenize filter).filterMap Token.word?)
    let line := c ++ " | grep " ++ filter
    let plain := s.execute threshold c now
    let piped := s.execute threshold line now
    let kept := plain.1.lines.filter (Text.contains · pattern)
    piped.1.status = plain.1.status ∧ piped.1.clear = plain.1.clear ∧
    piped.1.lines = (if kept = [] then ["(no matches)"] else kept) ∧
    ∃ after : Scene w,
      plain.2 = after.withProgress (after.progress.logCommand c plain.1.text now) ∧
      piped.2 = after.withProgress
        (after.progress.logCommand (Text.trimmed line) piped.1.text now) := by
  have hcs : Text.trim c.toList = c.toList := by
    simpa [Text.trimmed] using congrArg String.toList hc
  have hds : Text.trim filter.toList = filter.toList := by
    simpa [Text.trimmed] using congrArg String.toList hfilter
  have hne : c.toList ≠ [] := by
    intro hnil
    simp [hnil, Text.isBlankText] at hblank
  obtain ⟨v, hcut, htrim, hstops, hkinds⟩ := Command.trim_grep hne hcs hds
  generalize hwhole : c ++ " | grep " ++ filter = line
  have hline : (Text.trimmed line).toList = c.toList ++ (" | grep".toList ++ v) := by
    rw [← hcut, ← hwhole]
    simp [Text.trimmed]
  -- what the two lines ask for
  have hplain := Command.parse_of_hasNoPipe hc hquotes hpipe
  have hpiped := Command.parse_grep hline (by rw [hline, htrim]) hquotes hpipe hstops
    (Command.all_word_of_map_kind hkinds hwords)
  rw [Command.filterMap_word?_of_map_kind hkinds] at hpiped
  have hquiet : Command.parseSimple c.toList (Token.scan 0 c.toList) ≠ .history :=
    fun h => hhistory (by rw [hplain, h])
  -- what they do
  generalize Command.parseSimple c.toList (Token.scan 0 c.toList) = command at hplain hpiped hquiet
  generalize hpattern : " ".intercalate ((Token.tokenize filter).filterMap Token.word?) = pattern
  rw [show " ".intercalate ((Token.scan 0 filter.toList).filterMap Token.word?) = pattern
    from hpattern] at hpiped
  rcases hdispatch : s.dispatch threshold c now command with ⟨o, after⟩
  have hplainly : s.execute threshold c now =
      (o, after.withProgress (after.progress.logCommand c o.text now)) := by
    have hsome : (Text.trimmed c).isEmpty = false := by simpa [hc] using hne
    have h := s.execute_eq threshold now hsome (by rw [hc, hplain])
    simpa only [perform, hc, hdispatch] using h
  have hfiltered : s.execute threshold line now = (o.filter pattern, after.withProgress
      (after.progress.logCommand (Text.trimmed line) (o.filter pattern).text now)) := by
    have hsome : (Text.trimmed line).isEmpty = false := by
      rw [String.isEmpty_eq_false_iff]
      intro hnil
      simp [hnil, hne] at hline
    have h := s.execute_eq threshold now hsome hpiped
    rw [dispatch_line s threshold c (Text.trimmed line) now hquiet] at hdispatch
    simpa only [perform, hdispatch] using h
  dsimp only
  rw [hplainly, hfiltered]
  exact ⟨Outcome.status_filter .., Outcome.clear_filter .., Outcome.lines_filter .., after,
    rfl, rfl⟩

/-- In a new game, with a filter of one quoted word. -/
theorem execute_filtered_note :
    let depot : Pair := ⟨.empty, .empty, ⟨0, 0⟩, .silent⟩
    let s := (Session.start .initial ⟨false, false⟩ depot (.fresh ⟨0, 0⟩)).scene
    let piped := s.execute 6 "cat notes.txt | grep \"to Shell\"" ⟨0, 0⟩
    Text.isBlankText "cat notes.txt".toList = false ∧
    Command.parse "cat notes.txt" ≠ .simple .history ∧
    piped.1.status = .ok ∧ piped.1.lines = ["Welcome to ShellQuest!"] := by
  intro depot s piped
  have hpipe : Command.HasNoPipe "cat notes.txt".toList := by
    intro a b h
    have hmem : '|' ∈ "cat notes.txt".toList := by simp [h]
    exact absurd hmem (by decide)
  have hhistory : Command.parse "cat notes.txt" ≠ .simple .history := by decide +kernel
  have hblank : Text.isBlankText "cat notes.txt".toList = false := by decide
  have hfilter : Text.trimmed "\"to Shell\"" = "\"to Shell\"" := by decide
  obtain ⟨hstatus, -, hlines, -⟩ := s.execute_filtered 6 ⟨0, 0⟩ hblank (by decide) (by decide)
    hpipe hhistory hfilter (by decide +kernel)
  have hplain : (s.execute 6 "cat notes.txt" ⟨0, 0⟩).1
      = ⟨.ok, ["Welcome to ShellQuest!"], false⟩ := by decide +kernel
  have hpattern : " ".intercalate ((Token.tokenize "\"to Shell\"").filterMap Token.word?)
      = "to Shell" := by decide +kernel
  rw [hplain] at hstatus hlines
  rw [hpattern] at hlines
  exact ⟨hblank, hhistory, hstatus, hlines.trans (by decide)⟩

end Scene

end Questline
