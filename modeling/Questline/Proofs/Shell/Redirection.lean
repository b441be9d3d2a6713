import Questline.Proofs.Shell.Argument
import Questline.Proofs.Tree.Names
set_option autoImplicit false

/-!
# Where a redirection writes

Every command but one takes the paths it works on from the words of its line, in which there
are no quotes.  A redirection takes its target from the text of the line behind the last `>`
and leaves the quotes in it: what is written to a name in quotes is not what is read or removed
under that name.
-/

namespace Questline

open Time (Instant)

namespace Text

/-- At the end of what is trimmed stands the last character that is not blank. -/
theorem trim_concat_of_not_blank {c : Char} (h : isBlank c = false) (cs : List Char) :
    trim (cs ++ [c]) = trimStart cs ++ [c] := by
  have hstart : trimStart (cs ++ [c]) = trimStart cs ++ [c] := by
    rw [trimStart, List.dropWhile_append]
    split
    · next hnil => simp [trimStart, List.isEmpty_iff.1 hnil, h]
    · rfl
  rw [trim, hstart, trimEnd, List.reverse_concat, trimStart_eq_self (by simpa using h)]
  simp

/-- What stands behind the last `c` stands behind every other one too. -/
theorem isSuffix_of_cutLast {c : Char} {a b front back : List Char}
    (h : cutLast c (a ++ c :: b) = some (front, back)) : back <:+ b := by
  cases hb : cutLast c b with
  | none =>
    have hcut : cutLast c (c :: b) = some ([], b) := by simp [cutLast, hb]
    cases (Token.cutLast_append (a := a) hcut).symm.trans h
    exact List.suffix_refl _
  | some cut =>
    obtain ⟨p, q⟩ := cut
    have hcut : cutLast c (c :: b) = some (c :: p, q) := by simp [cutLast, hb]
    cases (Token.cutLast_append (a := a) hcut).symm.trans h
    rw [(cutLast_eq_some hb).1]
    exact ⟨p ++ [c], by simp⟩

/-- The last character of a text stands behind the last `c`, unless it is that `c`. -/
theorem exists_of_cutLast_concat {c d : Char} (hd : d ≠ c) {a b front back : List Char}
    (h : cutLast c (a ++ c :: (b ++ [d])) = some (front, back)) :
    ∃ x, back = x ++ [d] ∧ x <:+ b := by
  rcases List.eq_nil_or_concat' back with rfl | ⟨x, e, rfl⟩
  · have hlast := congrArg List.getLast? (cutLast_eq_some h).1
    rw [← List.cons_append, ← List.append_assoc, List.getLast?_concat,
      List.getLast?_concat] at hlast
    exact absurd (Option.some.inj hlast) hd
  · obtain ⟨y, hy⟩ := isSuffix_of_cutLast h
    rw [← List.append_assoc] at hy
    obtain ⟨hx, he⟩ := List.append_inj' hy rfl
    exact ⟨x, by rw [List.singleton_inj.1 he], y, hx⟩

end Text

/-- What holds a quote and no slash is a name. -/
theorem Path.spells_of_quote {name : String} (hquote : '"' ∈ name.toList)
    (hslash : '/' ∉ name.toList) : Path.Spells name := by
  have hne : ∀ dots : List Char, '"' ∉ dots → (name.toList != dots) = true := fun dots hdots => by
    simpa using fun heq : name.toList = dots => hdots (heq ▸ hquote)
  refine ⟨?_, hslash⟩
  rw [Path.isName, hne [] (by decide), hne ['.'] (by decide), hne ['.', '.'] (by decide)]
  rfl

namespace Command

/-! ## The line -/

/-- A line that redirects a text in quotes asks for an echo of all that follows the command
word. -/
theorem asks_redirection {text target : String} (htext : '"' ∉ text.toList)
    (htarget : Token.IsArgument target) : Asks ("echo " ++ quoted text ++ " > " ++ target)
      (.simple (.echo (quoted text ++ " > " ++ target))) := by
  have hline : "echo " ++ quoted text ++ " > " ++ target
      = "echo " ++ (quoted text ++ " > " ++ target) := by
    simp only [String.append_assoc]
  have hcs : (quoted text ++ " > " ++ target).toList
      = (quoted text).toList ++ (" > ".toList ++ target.toList) := by simp
  have htextCount := (isArgument_quoted htext).pieces.count_even
  have htargetCount := htarget.pieces.count_even
  have harrow : HasNoPipe " > ".toList := hasNoPipe_of_notMem (by decide)
  rw [hline]
  refine asks_echo (by simp [quoted]) (Text.trim_of_ends ?_ ?_) ?_ ?_
  · simp [toList_quoted, Text.isBlank]
  · rw [hcs, ← List.append_assoc,
      List.getLast?_append_of_ne_nil _ (by simpa using htarget.ne_empty)]
    exact htarget.last
  · have harrowCount : " > ".toList.count '"' = 0 := by decide
    rw [hcs, List.count_append, List.count_append]
    omega
  · rw [hcs]
    exact (hasNoPipe_of_isPieces (isArgument_quoted htext).pieces).append htextCount
      (harrow.append (by decide) (hasNoPipe_of_isPieces htarget.pieces))

/-! ## Content and target -/

/-- With no `>` in the target the content is what stands in the quotes. -/
theorem splitRedirect?_quoted (text : String) {after : List Char} (h : '>' ∉ after) :
    Scene.splitRedirect? ((quoted text).toList ++ ' ' :: '>' :: after)
      = some (text.toList, Text.trim after) := by
  have hcut : Text.cutLast '>' ('>' :: after) = some ([], after) := by
    simp [Text.cutLast, Text.cutLast_eq_none_iff.2 h]
  have hwhole : (quoted text).toList ++ ' ' :: '>' :: after
      = (quoted text).toList ++ [' '] ++ '>' :: after := by simp
  have hcontent : Text.trim ((quoted text).toList ++ [' ']) = '"' :: (text.toList ++ ['"']) := by
    rw [Text.trim_concat (by decide), toList_quoted]
    refine Text.trim_of_ends (by simp [Text.isBlank]) ?_
    rw [← List.cons_append, List.getLast?_concat]
    simp [Text.isBlank]
  rw [hwhole, Scene.splitRedirect?, Token.cutLast_append hcut]
  simp [hcontent]

/-- The target of a redirection to a name in quotes is a name that ends in a quote. -/
theorem exists_splitRedirect?_quoted (text : String) {target : String}
    (hslash : '/' ∉ target.toList) : ∃ (name : String) (content : List Char),
      Scene.splitRedirect? (quoted text ++ " > " ++ quoted target).toList
        = some (content, name.toList) ∧
      Path.Spells name ∧ '"' ∈ name.toList ∧
      ('>' ∉ target.toList → content = text.toList ∧ name = quoted target) := by
  have hcs : (quoted text ++ " > " ++ quoted target).toList
      = (quoted text).toList ++ ' ' :: '>' :: ' ' :: '"' :: (target.toList ++ ['"']) := by
    simp [toList_quoted]
  have hquote : Text.isBlank '"' = false := by decide
  by_cases hmem : '>' ∈ target.toList
  · have hcut : (quoted text ++ " > " ++ quoted target).toList = (quoted text).toList ++ [' ']
        ++ '>' :: (' ' :: '"' :: target.toList ++ ['"']) := by simp [hcs]
    cases hlast : Text.cutLast '>' (quoted text ++ " > " ++ quoted target).toList with
    | none => exact absurd (by simp [hcs]) (Text.cutLast_eq_none_iff.1 hlast)
    | some cut =>
      obtain ⟨x, hback, hx⟩ := Text.exists_of_cutLast_concat (by decide) (hcut ▸ hlast)
      have hname : '/' ∉ Text.trimStart x := fun hd => by
        simpa [hslash] using hx.mem ((List.dropWhile_suffix _).mem hd)
      have htarget : Text.trim cut.2 = (String.ofList (Text.trimStart x ++ ['"'])).toList := by
        rw [hback, Text.trim_concat_of_not_blank hquote, String.toList_ofList]
      obtain ⟨content, hsplit⟩ : ∃ content, Scene.splitRedirect?
          (quoted text ++ " > " ++ quoted target).toList = some (content, Text.trim cut.2) :=
        ⟨_, by rw [Scene.splitRedirect?, hlast]; rfl⟩
      exact ⟨_, content, htarget ▸ hsplit, Path.spells_of_quote (by simp) (by simpa using hname),
        by simp, fun hnot => absurd hmem hnot⟩
  · refine ⟨quoted target, text.toList, ?_, ?_, by simp [toList_quoted], fun _ => ⟨rfl, rfl⟩⟩
    · rw [hcs, splitRedirect?_quoted text (by simpa using hmem), ← List.cons_append,
        ← List.cons_append, Text.trim_concat_of_not_blank hquote, toList_quoted]
      rfl
    · exact Path.spells_of_quote (by simp [toList_quoted]) (by simp [toList_quoted, hslash])

end Command

namespace FileSystem

/-! ## One file written, another one asked for -/

/-- Beside a file that was written another one is as it was: it can be read and removed only if
it was there, and the one that was written stays. -/
theorem read_beside_iff {fs fs' : FileSystem} {name other content : String}
    (hfs : fs.root.WellFormed) (hname : Path.Spells name) (hother : Path.Spells other)
    (hne : name ≠ other) (hecho : fs.echo content name = .ok fs') {P : String → Prop} :
    fs'.look? (fs.cwd ++ [name]) = some (.file content) ∧
    (fs'.after (fs'.rm other)).look? (fs.cwd ++ [name]) = some (.file content) ∧
    ((∃ old, fs'.cat other = .ok old ∧ P old) ↔
      ∃ old, fs.look? (fs.cwd ++ [other]) = some (.file old) ∧ P old) ∧
    ((∃ old, fs'.cat other = .ok old) → ∃ fs'', fs'.rm other = .ok fs'' ∧
      fs''.look? (fs.cwd ++ [other]) = none) := by
  have hplace : fs.cwd ++ [name] ≠ fs.cwd ++ [other] := by simpa using hne
  obtain ⟨hcwd, hself, hrest⟩ := of_edit_of_spells (e := .echo content) hfs hname hecho
  have hfs' : fs'.root.WellFormed := wellFormed_edit (e := .echo content) hfs hecho
  have hfile : fs'.look? (fs.cwd ++ [name]) = some (.file content) := look?_eq_file_iff.2 hself
  refine ⟨hfile, ?_, ?_, ?_⟩
  · cases hrm : fs'.rm other with
    | error _ => exact hfile
    | ok fs'' =>
      obtain ⟨-, -, hkept⟩ := of_edit_of_spells (e := .rm) hfs' hother hrm
      exact (hkept _ (by rwa [hcwd])).trans hfile
  · simp only [cat_eq_ok_iff hother, hcwd, hrest _ hplace.symm]
  · rintro ⟨old, hold⟩
    obtain ⟨fs'', hrm⟩ := exists_rm_of_file hother ((cat_eq_ok_iff hother).1 hold)
    obtain ⟨-, hgone, -⟩ := of_edit_of_spells (e := .rm) hfs' hother hrm
    exact ⟨fs'', hrm, look?_eq_none_iff.2 (hcwd ▸ hgone)⟩

end FileSystem

namespace Scene

open Command (quoted)

variable {w : Type} [Depot w] (s : Scene w) (threshold : UInt32) (now : Instant)

/-- A redirection writes the content that its line is split into to the target. -/
theorem execute_redirection {text target name : String} {content : List Char}
    (htext : '"' ∉ text.toList) (htarget : Token.IsArgument target) (hname : name ≠ "")
    (hsplit : splitRedirect? (quoted text ++ " > " ++ target).toList
      = some (content, name.toList)) :
    (s.execute threshold ("echo " ++ quoted text ++ " > " ++ target) now).1
        = fileOutcome "echo" (fun _ => .line (.ofList content))
            (s.fs.echo (.ofList content) name) ∧
      (s.execute threshold ("echo " ++ quoted text ++ " > " ++ target) now).2.fs
        = s.fs.after (s.fs.echo (.ofList content) name) := by
  obtain ⟨houtcome, hfs⟩ :=
    s.execute_of_asks threshold now (Command.asks_redirection htext htarget)
  have hecho : s.echo (quoted text ++ " > " ++ target) = s.change "echo"
      (fun _ => .line (.ofList content)) (s.fs.echo (.ofList content) name) := by
    rw [echo, hsplit]
    simp [hname]
  have hperform : ∀ line, s.perform threshold line now
      (.simple (.echo (quoted text ++ " > " ++ target))) = _ := fun _ => hecho
  rw [hperform] at houtcome hfs
  exact ⟨houtcome, hfs.trans (FileSystem.fs_change ..)⟩

/-- A redirection in quotes writes to a name that ends in a quote. -/
theorem exists_execute_redirection {text target : String} (htext : '"' ∉ text.toList)
    (htarget : '"' ∉ target.toList) (hslash : '/' ∉ target.toList) :
    ∃ name content : String, Path.Spells name ∧ '"' ∈ name.toList ∧
      ('>' ∉ target.toList → content = text ∧ name = quoted target) ∧
      (s.execute threshold ("echo " ++ quoted text ++ " > " ++ quoted target) now).1
        = fileOutcome "echo" (fun _ => .line content) (s.fs.echo content name) ∧
      (s.execute threshold ("echo " ++ quoted text ++ " > " ++ quoted target) now).2.fs
        = s.fs.after (s.fs.echo content name) := by
  obtain ⟨name, content, hsplit, hspells, hquote, hplain⟩ :=
    Command.exists_splitRedirect?_quoted text hslash
  obtain ⟨houtcome, hfs⟩ := s.execute_redirection threshold now htext
    (Command.isArgument_quoted htarget) hspells.ne_empty hsplit
  refine ⟨name, .ofList content, hspells, hquote, fun h => ?_, houtcome, hfs⟩
  obtain ⟨rfl, hname⟩ := hplain h
  exact ⟨by simp, hname⟩

/-! ## The file that was written -/

/-- After a successful redirection to a name in quotes the file it wrote has another name, with
a quote in it, and outlasts the removal of the name that was typed.  That name can be read as
what was written, and removed, only if there was a file with these lines before. -/
theorem redirected_iff {text target : String} (hfs : s.fs.root.WellFormed)
    (htext : '"' ∉ text.toList) (htarget : '"' ∉ target.toList) (hname : Path.Spells target)
    (hok : (s.execute threshold ("echo " ++ quoted text ++ " > " ++ quoted target) now).1.status
      = .ok) :
    let echoed := s.execute threshold ("echo " ++ quoted text ++ " > " ++ quoted target) now
    let shown := echoed.2.execute threshold ("cat " ++ quoted target) now
    let removed := shown.2.execute threshold ("rm " ++ quoted target) now
    (∃ name content : String, '"' ∈ name.toList ∧
      ('>' ∉ target.toList → content = text ∧ name = quoted target) ∧
      echoed.2.fs.look? (s.fs.cwd ++ [name]) = some (.file content) ∧
      removed.2.fs.look? (s.fs.cwd ++ [name]) = some (.file content)) ∧
    (shown.1.status = .ok ∧ shown.1.lines = Text.lines text ∧ removed.1.status = .ok ∧
        removed.2.fs.look? (s.fs.cwd ++ [target]) = none ↔
      ∃ old, s.fs.look? (s.fs.cwd ++ [target]) = some (.file old) ∧
        Text.lines old = Text.lines text) := by
  obtain ⟨name, content, hspells, hquote, hplain, houtcome, hwritten⟩ :=
    s.exists_execute_redirection threshold now htext htarget hname.2
  generalize s.execute threshold ("echo " ++ quoted text ++ " > " ++ quoted target) now = echoed
    at hok houtcome hwritten ⊢
  obtain ⟨hcat, hshown⟩ := echoed.2.execute_cat_quoted threshold now htarget
  dsimp only
  generalize echoed.2.execute threshold ("cat " ++ quoted target) now = shown at hcat hshown ⊢
  obtain ⟨hrm, hremoved⟩ := shown.2.execute_rm_quoted threshold now htarget
  generalize shown.2.execute threshold ("rm " ++ quoted target) now = removed at hrm hremoved ⊢
  -- From here on it is about the file system alone.
  rw [houtcome] at hok
  obtain ⟨fs', hecho⟩ := status_fileOutcome hok
  rw [hecho] at hwritten
  replace hwritten : echoed.2.fs = fs' := hwritten
  rw [hwritten] at hcat hshown
  rw [hshown] at hrm hremoved
  have hne : name ≠ target := fun heq => htarget (heq ▸ hquote)
  obtain ⟨hfile, hkept, hread, hgone⟩ := FileSystem.read_beside_iff hfs hspells hname hne hecho
    (P := fun old => Text.lines old = Text.lines text)
  rw [hwritten, hremoved, hcat, hrm, ← hread]
  refine ⟨⟨name, content, hquote, hplain, hfile, hkept⟩, ?_, ?_⟩
  · rintro ⟨hcatOk, hlines, -, -⟩
    obtain ⟨old, hold⟩ := status_fileOutcome hcatOk
    rw [hold] at hlines
    exact ⟨old, hold, hlines⟩
  · rintro ⟨old, hold, hlines⟩
    obtain ⟨fs'', hremove, hnone⟩ := hgone ⟨old, hold⟩
    rw [hold, hremove]
    exact ⟨rfl, hlines, rfl, hnone⟩

/-- In a new game a text is written to `my file`: there is no such file to read, and the one that
was written has the quotes in its name and stays. -/
theorem redirected_to_quotes :
    let depot : Pair := ⟨.empty, .empty, ⟨0, 0⟩, .silent⟩
    let s := (Session.start .initial ⟨false, false⟩ depot (.fresh ⟨0, 0⟩)).scene
    let echoed := s.execute 6 "echo \"hello\" > \"my file\"" ⟨0, 0⟩
    let shown := echoed.2.execute 6 "cat \"my file\"" ⟨0, 0⟩
    let removed := shown.2.execute 6 "rm \"my file\"" ⟨0, 0⟩
    echoed.1 = ⟨.ok, ["hello"], false⟩ ∧
      shown.1 = ⟨.error, ["cat: Not found"], false⟩ ∧
      removed.1 = ⟨.error, ["rm: Not found"], false⟩ ∧
      ¬ (shown.1.status = .ok ∧ shown.1.lines = Text.lines "hello" ∧ removed.1.status = .ok ∧
        removed.2.fs.look? (s.fs.cwd ++ ["my file"]) = none) ∧
      removed.2.fs.look? ["home", "adventurer", "\"my file\""] = some (.file "hello") := by
  intro depot s echoed shown removed
  have hline : "echo " ++ quoted "hello" ++ " > " ++ quoted "my file"
      = "echo \"hello\" > \"my file\"" := by decide
  have hcat : "cat " ++ quoted "my file" = "cat \"my file\"" := by decide
  have hrm : "rm " ++ quoted "my file" = "rm \"my file\"" := by decide
  have hechoed : echoed.1 = ⟨.ok, ["hello"], false⟩ := by decide +kernel
  have hshown : shown.1 = ⟨.error, ["cat: Not found"], false⟩ := by decide +kernel
  have hremoved : removed.1 = ⟨.error, ["rm: Not found"], false⟩ := by decide +kernel
  have hok : (s.execute 6 ("echo " ++ quoted "hello" ++ " > " ++ quoted "my file") ⟨0, 0⟩).1.status
      = .ok := by
    rw [hline]
    exact congrArg Outcome.status hechoed
  have hmain := s.redirected_iff 6 ⟨0, 0⟩ FileSystem.wellFormed_starter (by decide) (by decide)
    (by decide) hok
  rw [hline, hcat, hrm] at hmain
  obtain ⟨⟨name, content, -, hplain, -, hkept⟩, hiff⟩ := hmain
  obtain ⟨rfl, rfl⟩ := hplain (by decide)
  refine ⟨hechoed, hshown, hremoved, fun hread => ?_, hkept⟩
  obtain ⟨old, hold, -⟩ := hiff.1 hread
  cases hold

end Scene

end Questline
