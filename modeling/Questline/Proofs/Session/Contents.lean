import Questline.Proofs.Shell.Redirection
import Questline.Proofs.Tree.Presence
set_option autoImplicit false

/-!
# What a file holds

A text that an echo has written to a path is what a cat of that path reads, whatever is in the
text and however the path goes: the writer cuts the path into a directory and a name and the
reader follows it piece by piece, and both come to the same place.  And a file can be searched
in two ways, by a grep of the file and by a filter behind a cat; both find the same lines.
-/

namespace Questline

open Time (Instant)

/-- A path that needs no quotes in a line, and can stand behind a `>`. -/
def Path.IsPlain (path : String) : Prop :=
  path ≠ "" ∧ ∀ c ∈ path.toList, Text.isBlank c = false ∧ c ≠ '"' ∧ c ≠ '|' ∧ c ≠ '>'

instance (path : String) : Decidable (Path.IsPlain path) :=
  @instDecidableAnd _ _ _ (List.decidableBAll _ _)

namespace Path.IsPlain

variable {path : String} (h : Path.IsPlain path)
include h

theorem isArgument : Token.IsArgument path := by
  refine Token.isArgument_of_isBare h.1 fun c hc => ?_
  obtain ⟨hblank, hquote, hpipe, -⟩ := h.2 c hc
  have hsep : Token.isSeparator c = false := Bool.eq_false_iff.2 fun hsep => by
    rw [Text.isBlank_of_isSeparator hsep] at hblank
    cases hblank
  exact ⟨⟨hsep, hpipe, hquote⟩, hblank⟩

theorem unquoted : Token.unquoted path.toList = path := by
  rw [Token.unquoted_of_notMem fun hmem => (h.2 _ hmem).2.1 rfl, String.ofList_toList]

theorem trim_space : Text.trim (' ' :: path.toList) = path.toList :=
  Text.trim_of_ends (fun c hc => (h.2 c (List.mem_of_mem_head? hc)).1)
    fun c hc => (h.2 c (List.mem_of_getLast? hc)).1

end Path.IsPlain

namespace FileSystem

variable {fs fs' : FileSystem} {path content : String}

/-- A file is read as what it holds. -/
theorem cat_of_lookup? (h : fs.lookup? path = some (.file content)) :
    fs.cat path = .ok content := by
  rw [cat, h]
  rfl

/-- What was written to a path is read from it. -/
theorem cat_of_echo (h : fs.echo content path = .ok fs') : fs'.cat path = .ok content := by
  cases hname : Path.isName (Path.leaf path.toList) with
  | false =>
    -- Without a name at its end nothing can be written to the path.
    rw [echo, target?_of_not_isName hname] at h
    cases h
  | true =>
    obtain ⟨place, leaf, htarget, hresolve⟩ := target?_of_isName fs hname
    obtain ⟨cs, hcs, -, hwritten⟩ := (edit_eq_ok_iff (e := .echo content) htarget).1 h
    replace hwritten : fs' = fs.withChildren place (Entries.insert leaf (.file content) cs) :=
      hwritten
    have hplace : fs'.resolve path = place ++ [leaf] := by
      rw [hwritten]
      exact hresolve
    have hread : fs'.lookup? path = some (.file content) := by
      rw [lookup?, hplace, hwritten, node?_withChildren_insert hcs]
    exact cat_of_lookup? hread

/-- A grep keeps the lines of the file in which the pattern occurs. -/
theorem grep_eq_map (fs : FileSystem) (pattern path : String) : fs.grep pattern path
    = (fs.cat path).map fun content => (Text.lines content).filter (Text.contains · pattern) := by
  have hlines : ∀ content : String,
      ((Text.linesFrom [] content.toList).filter (Text.occurs pattern.toList)).map String.ofList
        = (Text.lines content).filter (Text.contains · pattern) := by
    intro content
    rw [Text.lines, List.filter_map]
    congr 2
    funext cs
    simp [Text.contains]
  simp only [grep, hlines]

end FileSystem

/-- A filter behind lines that are shown. -/
theorem Outcome.filter_success (pattern : String) (lines : List String) :
    (success lines).filter pattern =
      if (lines.filter (Text.contains · pattern)).isEmpty then line noMatches
      else success (lines.filter (Text.contains · pattern)) := by
  have hkept : (lines.filter fun l => Text.occurs pattern.toList l.toList)
      = lines.filter (Text.contains · pattern) := rfl
  unfold filter
  rw [show (success lines).lines = lines from rfl, hkept]
  cases lines.filter (Text.contains · pattern) <;> rfl

namespace Scene

open Command (quoted)

variable {w : Type} [Depot w] (s : Scene w) (threshold : UInt32) (now : Instant)

/-- An echo of a text in quotes to a plain path writes that text there. -/
theorem execute_echo {text path : String} (htext : '"' ∉ text.toList) (hpath : Path.IsPlain path) :
    (s.execute threshold ("echo " ++ quoted text ++ " > " ++ path) now).1
        = fileOutcome "echo" (fun _ => .line text) (s.fs.echo text path) ∧
      (s.execute threshold ("echo " ++ quoted text ++ " > " ++ path) now).2.fs
        = s.fs.after (s.fs.echo text path) := by
  have hcs : (quoted text ++ " > " ++ path).toList
      = (quoted text).toList ++ ' ' :: '>' :: ' ' :: path.toList := by
    simp
  have harrow : '>' ∉ ' ' :: path.toList := by
    simpa using fun hmem => (hpath.2 _ hmem).2.2.2 rfl
  have hsplit := Command.splitRedirect?_quoted text harrow
  rw [hpath.trim_space, ← hcs] at hsplit
  have hexecute := s.execute_redirection threshold now htext hpath.isArgument hpath.1 hsplit
  rwa [String.ofList_toList] at hexecute

theorem execute_cat {path : String} (h : Path.IsPlain path) :
    (s.execute threshold ("cat " ++ path) now).1
      = fileOutcome "cat" (fun c => .success (Text.lines c)) (s.fs.cat path) := by
  have hasks := Command.asks_cat h.isArgument
  rw [h.unquoted] at hasks
  exact (s.execute_of_asks threshold now hasks).1

/-- A grep of a file is a filter behind what the file holds, but for the name that an error is
told under. -/
theorem execute_grep {pattern path : String} (hpattern : '"' ∉ pattern.toList)
    (hpath : '"' ∉ path.toList) :
    (s.execute threshold ("grep " ++ quoted pattern ++ " " ++ quoted path) now).1
        = fileOutcome "grep" (fun content => (Outcome.success (Text.lines content)).filter pattern)
            (s.fs.cat path) ∧
      (s.execute threshold ("grep " ++ quoted pattern ++ " " ++ quoted path) now).2.fs = s.fs := by
  have hasks := Command.asks_grep (Command.isArgument_quoted hpattern)
    (Command.isArgument_quoted hpath)
  rw [Command.unquoted_quoted hpattern, Command.unquoted_quoted hpath] at hasks
  obtain ⟨houtcome, hfs⟩ := s.execute_of_asks threshold now hasks
  refine ⟨houtcome.trans ?_, hfs⟩
  show fileOutcome "grep"
    (fun ls => if ls.isEmpty then .line Outcome.noMatches else .success ls)
    (s.fs.grep pattern path) = _
  rw [FileSystem.grep_eq_map]
  cases s.fs.cat path with
  | error e => rfl
  | ok content => exact (Outcome.filter_success ..).symm

/-- A filter behind a cat of a file. -/
theorem execute_cat_filtered {pattern path : String} (hpattern : '"' ∉ pattern.toList)
    (hpath : '"' ∉ path.toList) :
    (s.execute threshold ("cat " ++ quoted path ++ " | grep " ++ quoted pattern) now).1
        = (fileOutcome "cat" (fun content => .success (Text.lines content))
            (s.fs.cat path)).filter pattern ∧
      (s.execute threshold ("cat " ++ quoted path ++ " | grep " ++ quoted pattern) now).2.fs
        = s.fs := by
  have hasks := Command.asks_cat_filtered (Command.isArgument_quoted hpattern)
    (Command.isArgument_quoted hpath)
  rw [Command.unquoted_quoted hpattern, Command.unquoted_quoted hpath] at hasks
  exact s.execute_of_asks threshold now hasks

end Scene

namespace Session

open Command (quoted)

variable {w : Type} [Depot w]

/-- What follows a command leaves the files as the command has left them. -/
theorem fs_execute (s : Session w) (line : String) (now : Instant) (moment : Moment) :
    (s.execute line now moment).2.scene.fs =
      (s.scene.execute s.settings.threshold line now).2.fs := by
  cases hblank : Text.isBlankText line.toList with
  | true => rw [execute_snd_of_blank s now moment hblank]
  | false => rw [execute_snd s now moment hblank, fs_settle, fs_withProgress]

/-- If a text in quotes was written to a plain path, it is what was shown, and a cat of the path
shows its lines. -/
theorem lines_cat_of_echo (s : Session w) {text path : String} (htext : '"' ∉ text.toList)
    (hpath : Path.IsPlain path) (now now' : Instant) (moment moment' : Moment) :
    let written := s.execute ("echo " ++ quoted text ++ " > " ++ path) now moment
    let read := written.2.execute ("cat " ++ path) now' moment'
    written.1.outcome.status = .ok →
      written.1.outcome.lines = [text] ∧
      read.1.outcome.status = .ok ∧ read.1.outcome.lines = Text.lines text := by
  obtain ⟨hechoed, hfiles⟩ := s.scene.execute_echo s.settings.threshold now htext hpath
  have hwritten := (s.outcome_execute _ now moment).trans hechoed
  have hfs := (s.fs_execute _ now moment).trans hfiles
  generalize s.execute ("echo " ++ quoted text ++ " > " ++ path) now moment = written
    at hwritten hfs ⊢
  have hread := (written.2.outcome_execute _ now' moment').trans
    (written.2.scene.execute_cat written.2.settings.threshold now' hpath)
  dsimp only
  generalize written.2.execute ("cat " ++ path) now' moment' = read at hread ⊢
  rw [hwritten, hread, hfs]
  intro hok
  obtain ⟨fs', hecho⟩ := Scene.status_fileOutcome hok
  rw [hecho, FileSystem.after, FileSystem.cat_of_echo hecho]
  exact ⟨rfl, rfl, rfl⟩

/-- A new game. -/
def newcomer : Session Pair :=
  .start .initial ⟨false, false⟩ ⟨.empty, .empty, ⟨0, 0⟩, .silent⟩ (.fresh ⟨0, 0⟩)

/-- A text with all that means something to a shell, and a path that goes a long way round. -/
theorem lines_cat_of_echo_hard :
    let written := newcomer.execute
      "echo \"  a > b | c\n d \" > ../../home//adventurer/./caves/x" ⟨1, 0⟩ ⟨0, 0⟩
    let read := written.2.execute "cat ../../home//adventurer/./caves/x" ⟨2, 0⟩ ⟨0, 0⟩
    written.1.outcome.status = .ok ∧ written.1.outcome.lines = ["  a > b | c\n d "] ∧
      read.1.outcome.status = .ok ∧ read.1.outcome.lines = ["  a > b | c", " d "] := by
  have hwritten : "echo " ++ quoted "  a > b | c\n d " ++ " > " ++
      "../../home//adventurer/./caves/x"
      = "echo \"  a > b | c\n d \" > ../../home//adventurer/./caves/x" := by decide
  have hread : "cat " ++ "../../home//adventurer/./caves/x"
      = "cat ../../home//adventurer/./caves/x" := by decide
  have hlines : Text.lines "  a > b | c\n d " = ["  a > b | c", " d "] := by decide
  have hok : (newcomer.execute "echo \"  a > b | c\n d \" > ../../home//adventurer/./caves/x"
      ⟨1, 0⟩ ⟨0, 0⟩).1.outcome.status = .ok := by decide +kernel
  have htext : '"' ∉ "  a > b | c\n d ".toList := by decide
  have hpath : Path.IsPlain "../../home//adventurer/./caves/x" := by decide
  have hmain := newcomer.lines_cat_of_echo htext hpath ⟨1, 0⟩ ⟨2, 0⟩ ⟨0, 0⟩ ⟨0, 0⟩
  rw [hwritten, hread, hlines] at hmain
  exact ⟨hok, hmain hok⟩

/-- A grep of a file and a filter behind a cat of it succeed and fail together, and find the same
lines if there is a file.  Neither changes any. -/
theorem grep_agrees_with_filter (s : Session w) {pattern path : String}
    (hpattern : '"' ∉ pattern.toList) (hpath : '"' ∉ path.toList) (now now' : Instant)
    (moment moment' : Moment) :
    let direct := s.execute ("grep " ++ quoted pattern ++ " " ++ quoted path) now moment
    let piped := s.execute ("cat " ++ quoted path ++ " | grep " ++ quoted pattern) now' moment'
    direct.1.outcome.status = piped.1.outcome.status ∧
    (∀ content, s.scene.fs.lookup? path = some (.file content) →
      let kept := (Text.lines content).filter (Text.contains · pattern)
      direct.1.outcome.status = .ok ∧
      direct.1.outcome.lines = (if kept = [] then ["(no matches)"] else kept) ∧
      piped.1.outcome.lines = direct.1.outcome.lines) ∧
    direct.2.scene.fs = s.scene.fs ∧ piped.2.scene.fs = s.scene.fs := by
  obtain ⟨hgrep, hgrepFs⟩ := s.scene.execute_grep s.settings.threshold now hpattern hpath
  obtain ⟨hcat, hcatFs⟩ := s.scene.execute_cat_filtered s.settings.threshold now' hpattern hpath
  have hdirect := (s.outcome_execute _ now moment).trans hgrep
  have hpiped := (s.outcome_execute _ now' moment').trans hcat
  have hdirectFs := (s.fs_execute _ now moment).trans hgrepFs
  have hpipedFs := (s.fs_execute _ now' moment').trans hcatFs
  dsimp only
  generalize s.execute ("grep " ++ quoted pattern ++ " " ++ quoted path) now moment = direct
    at hdirect hdirectFs ⊢
  generalize s.execute ("cat " ++ quoted path ++ " | grep " ++ quoted pattern) now' moment' = piped
    at hpiped hpipedFs ⊢
  rw [hdirect, hpiped]
  refine ⟨?_, fun content hfile => ?_, hdirectFs, hpipedFs⟩
  · rw [Outcome.status_filter]
    cases s.scene.fs.cat path with
    | error e => rfl
    | ok content => exact Outcome.status_filter ..
  · rw [FileSystem.cat_of_lookup? hfile]
    exact ⟨Outcome.status_filter .., Outcome.lines_filter .., rfl⟩

/-- In a new game, with blanks in the pattern. -/
theorem grep_agrees_with_filter_notes :
    let direct := newcomer.execute "grep \"to Shell\" \"./notes.txt\"" ⟨1, 0⟩ ⟨0, 0⟩
    let piped := newcomer.execute "cat \"./notes.txt\" | grep \"to Shell\"" ⟨2, 0⟩ ⟨0, 0⟩
    direct.1.outcome.status = .ok ∧ direct.1.outcome.lines = ["Welcome to ShellQuest!"] ∧
      piped.1.outcome.status = .ok ∧ piped.1.outcome.lines = ["Welcome to ShellQuest!"] := by
  have hgrep : "grep " ++ quoted "to Shell" ++ " " ++ quoted "./notes.txt"
      = "grep \"to Shell\" \"./notes.txt\"" := by decide
  have hcat : "cat " ++ quoted "./notes.txt" ++ " | grep " ++ quoted "to Shell"
      = "cat \"./notes.txt\" | grep \"to Shell\"" := by decide
  have hfile : newcomer.scene.fs.lookup? "./notes.txt" = some (.file "Welcome to ShellQuest!") := by
    rfl
  have hkept : (Text.lines "Welcome to ShellQuest!").filter (Text.contains · "to Shell")
      = ["Welcome to ShellQuest!"] := by decide
  have hpattern : '"' ∉ "to Shell".toList := by decide
  have hpath : '"' ∉ "./notes.txt".toList := by decide
  obtain ⟨hstatus, hlines, -⟩ :=
    newcomer.grep_agrees_with_filter hpattern hpath ⟨1, 0⟩ ⟨2, 0⟩ ⟨0, 0⟩ ⟨0, 0⟩
  obtain ⟨hok, hdirect, hpiped⟩ := hlines _ hfile
  rw [hgrep] at hstatus hok hdirect hpiped
  rw [hcat] at hstatus hpiped
  rw [hkept, if_neg (by simp)] at hdirect
  exact ⟨hok, hdirect, hstatus.symm.trans hok, hpiped.trans hdirect⟩

end Session

end Questline
