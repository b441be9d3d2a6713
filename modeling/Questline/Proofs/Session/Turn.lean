import Questline.Proofs.Action
import Questline.Session.Basic
set_option autoImplicit false

/-!
# A turn and a return, in their parts

A line that is not blank is carried out, entered into the log and judged; what is
kept and handed to the courier after that leaves the game alone.  Coming back settles with the
cloud first, and what follows does not ask it again.
-/

namespace Questline

open Time (Instant)

variable {w : Type} [Depot w]

/-- The command whose success is that of the line. -/
def Command.first : Command → Command.Simple
  | .simple c => c
  | .pipeline left _ => left

/-- A filter only picks lines. -/
@[simp] theorem Outcome.status_filter (pattern : String) (o : Outcome) :
    (o.filter pattern).status = o.status := by
  unfold filter
  split <;> rfl

/-- Blanks ask for nothing. -/
theorem Command.parse_of_isEmpty {line : String} (h : line.isEmpty = true) :
    Command.parse line = .simple .empty := by
  have hline : line.toList = [] := by simpa using h
  have htrim : Text.trim [] = [] := rfl
  have hscan : Token.scan 0 [] = [] := by rw [Token.scan]
  simp only [parse, hline, htrim, hscan]
  rfl

namespace Scene

omit [Depot w] in
@[simp] theorem progress_withProgress (s : Scene w) (p : Progress) :
    (s.withProgress p).progress = p := rfl

omit [Depot w] in
@[simp] theorem fs_withProgress (s : Scene w) (p : Progress) : (s.withProgress p).fs = s.fs := rfl

omit [Depot w] in
@[simp] theorem link_withProgress (s : Scene w) (p : Progress) :
    (s.withProgress p).desk.link = s.desk.link := rfl

theorem dispatch_signup (s : Scene w) (threshold : UInt32) (line : String) (now : Instant)
    (raw : String) :
    s.dispatch threshold line now (.signup (some raw)) = s.onDesk (Desk.signup raw now) := rfl

theorem dispatch_login (s : Scene w) (threshold : UInt32) (line : String) (now : Instant)
    (raw : String) :
    s.dispatch threshold line now (.login (some raw)) = s.onDesk (Desk.login raw now) := rfl

theorem dispatch_logout (s : Scene w) (threshold : UInt32) (line : String) (now : Instant) :
    s.dispatch threshold line now .logout = s.onDesk (Desk.logout now) := rfl

theorem dispatch_sync (s : Scene w) (threshold : UInt32) (line : String) (now : Instant) :
    s.dispatch threshold line now .sync = s.onDesk Desk.sync := rfl

omit [Depot w] in
theorem desk_onDesk (s : Scene w) (act : Action AccountError (Desk w) (List String)) :
    (s.onDesk act).2.desk = (act s.desk).2 := rfl

omit [Depot w] in
theorem desk_change (s : Scene w) (command : String) (shown : FileSystem → Outcome)
    (result : Except FileError FileSystem) : (s.change command shown result).2.desk = s.desk := by
  unfold change
  cases result <;> rfl

omit [Depot w] in
theorem desk_echo (s : Scene w) (text : String) : (s.echo text).2.desk = s.desk := by
  unfold echo
  split
  · rfl
  · split
    · rfl
    · exact desk_change ..

/-- A purchase and the account commands are all that reaches the desk. -/
theorem desk_dispatch (s : Scene w) (threshold : UInt32) (line : String) (now : Instant)
    (c : Command.Simple) :
    (s.dispatch threshold line now c).2.desk = match c with
      | .buy (some upgrade) => (s.buy upgrade).2.desk
      | .signup (some raw) => (Desk.signup raw now s.desk).2
      | .login (some raw) => (Desk.login raw now s.desk).2
      | .logout => (Desk.logout now s.desk).2
      | .sync => (Desk.sync s.desk).2
      | _ => s.desk := by
  cases c with
  | cd path => exact desk_change ..
  | echo text => exact desk_echo ..
  | touch path =>
    cases path with
    | none => rfl
    | some path => exact desk_change ..
  | mkdir path =>
    cases path with
    | none => rfl
    | some path => exact desk_change ..
  | rm path =>
    cases path with
    | none => rfl
    | some path => exact desk_change ..
  | buy upgrade => cases upgrade <;> rfl
  | cat path => cases path <;> rfl
  | grep pattern path => cases pattern <;> cases path <;> rfl
  | signup raw =>
    cases raw with
    | none => rfl
    | some raw => rw [dispatch_signup, desk_onDesk]
  | login raw =>
    cases raw with
    | none => rfl
    | some raw => rw [dispatch_login, desk_onDesk]
  | logout => rw [dispatch_logout, desk_onDesk]
  | sync => rw [dispatch_sync, desk_onDesk]
  | _ => rfl

theorem status_perform (s : Scene w) (threshold : UInt32) (line : String) (now : Instant)
    (c : Command) : (s.perform threshold line now c).1.status =
      (s.dispatch threshold line now c.first).1.status := by
  cases c with
  | simple c => rfl
  | pipeline left pattern => exact Outcome.status_filter ..

theorem perform_snd (s : Scene w) (threshold : UInt32) (line : String) (now : Instant)
    (c : Command) : (s.perform threshold line now c).2 =
      (s.dispatch threshold line now c.first).2 := by
  cases c <;> rfl

/-- A line that is not blank is carried out by its first command, and entered into the log
with what was answered. -/
theorem exists_execute (s : Scene w) (threshold : UInt32) {line : String} (now : Instant)
    (h : (Text.trimmed line).isEmpty = false) :
    ∃ o after, s.execute threshold line now =
        (o, after.withProgress (after.progress.logCommand (Text.trimmed line) o.text now)) ∧
      o.status = (s.dispatch threshold (Text.trimmed line) now
        (Command.parse (Text.trimmed line)).first).1.status ∧
      after = (s.dispatch threshold (Text.trimmed line) now
        (Command.parse (Text.trimmed line)).first).2 := by
  have hstatus := s.status_perform threshold (Text.trimmed line) now
    (Command.parse (Text.trimmed line))
  have hafter := s.perform_snd threshold (Text.trimmed line) now (Command.parse (Text.trimmed line))
  rcases hperform : s.perform threshold (Text.trimmed line) now (Command.parse (Text.trimmed line))
    with ⟨o, after⟩
  rw [hperform] at hstatus hafter
  refine ⟨o, after, ?_, hstatus, hafter⟩
  unfold execute
  extract_lets trimmed
  rw [if_neg (by simp [trimmed, h]), hperform]

theorem execute_of_isEmpty (s : Scene w) (threshold : UInt32) {line : String} (now : Instant)
    (h : (Text.trimmed line).isEmpty = true) : s.execute threshold line now = (.empty, s) := by
  unfold execute
  extract_lets trimmed
  rw [if_pos h]

end Scene

namespace Session

/-! ## What leaves the game alone -/

omit [Depot w] in
@[simp] theorem progress_withProgress (s : Session w) (p : Progress) :
    (s.withProgress p).progress = p := rfl

omit [Depot w] in
@[simp] theorem fs_withProgress (s : Session w) (p : Progress) :
    (s.withProgress p).scene.fs = s.scene.fs := rfl

@[simp] theorem progress_persist (s : Session w) : s.persist.progress = s.progress := rfl

omit [Depot w] in
@[simp] theorem progress_scheduleAutosave (s : Session w) (moment : Moment) :
    (s.scheduleAutosave moment).progress = s.progress := by
  unfold scheduleAutosave
  split
  · split <;> rfl
  · rfl

@[simp] theorem progress_settle (s : Session w) (now : Instant) (moment : Moment) :
    (s.settle now moment).progress = s.progress.touch now := by
  unfold settle
  rw [progress_scheduleAutosave, progress_persist, progress_withProgress]

omit [Depot w] in
@[simp] theorem fs_scheduleAutosave (s : Session w) (moment : Moment) :
    (s.scheduleAutosave moment).scene.fs = s.scene.fs := by
  unfold scheduleAutosave
  split
  · split <;> rfl
  · rfl

@[simp] theorem fs_settle (s : Session w) (now : Instant) (moment : Moment) :
    (s.settle now moment).scene.fs = s.scene.fs := by
  unfold settle
  rw [fs_scheduleAutosave]
  rfl

omit [Depot w] in
theorem depot_scheduleAutosave (s : Session w) (moment : Moment) :
    (s.scheduleAutosave moment).depot = s.depot := by
  unfold scheduleAutosave
  split
  · split <;> rfl
  · rfl

theorem depot_settle (s : Session w) (now : Instant) (moment : Moment) :
    (s.settle now moment).depot =
      ((Saves.save (s.progress.touch now) : Action StoreError w Unit) s.depot).2 := by
  unfold settle
  rw [depot_scheduleAutosave]
  rfl

theorem configured_settle (s : Session w) (now : Instant) (moment : Moment) :
    (s.settle now moment).link.configured = s.link.configured := by
  unfold settle scheduleAutosave
  split
  · split <;> rfl
  · rfl

theorem not_isBlankText_of_trimmed {line : String} (h : (Text.trimmed line).isEmpty = false) :
    Text.isBlankText line.toList = false := by
  cases hb : Text.isBlankText line.toList with
  | false => rfl
  | true =>
    rw [Text.trimmed, Text.trim_eq_nil_iff.2 hb] at h
    cases h

theorem isBlankText_of_trimmed {line : String} (h : (Text.trimmed line).isEmpty = true) :
    Text.isBlankText line.toList = true := by
  rw [← Text.trim_eq_nil_iff]
  simpa [Text.trimmed] using h

-- The parts of a turn are costly to unfold: the proofs below only ever name what they
-- answer.

theorem outcome_execute (s : Session w) (line : String) (now : Instant) (moment : Moment) :
    (s.execute line now moment).1.outcome =
      (s.scene.execute s.settings.threshold line now).1 := by
  unfold execute
  split
  rename_i o scene hscene
  extract_lets s'
  split
  · rw [hscene]
  · split
    rw [hscene]

/-- A line of blanks completes nothing. -/
theorem evaluation_execute_of_blank (s : Session w) {line : String} (now : Instant)
    (moment : Moment) (h : Text.isBlankText line.toList = true) :
    (s.execute line now moment).1.evaluation = .none := by
  unfold execute
  split
  extract_lets s'
  rw [if_pos h]

/-- Any other line tells what was completed after its command. -/
theorem evaluation_execute (s : Session w) {line : String} (now : Instant) (moment : Moment)
    (h : Text.isBlankText line.toList = false) :
    (s.execute line now moment).1.evaluation =
      ((s.scene.execute s.settings.threshold line now).2.progress.evaluate s.settings.threshold
        (s.scene.execute s.settings.threshold line now).2.fs now).1 := by
  unfold execute
  split
  rename_i o scene hscene
  extract_lets s'
  rw [if_neg (by simp [h])]
  split
  rename_i evaluation p hp
  have hp' : scene.progress.evaluate s.settings.threshold scene.fs now = (evaluation, p) := hp
  rw [hscene]
  dsimp only
  rw [hp']

/-- A line of blanks settles nothing. -/
theorem execute_snd_of_blank (s : Session w) {line : String} (now : Instant) (moment : Moment)
    (h : Text.isBlankText line.toList = true) :
    (s.execute line now moment).2 =
      { s with scene := (s.scene.execute s.settings.threshold line now).2 } := by
  unfold execute
  split
  rename_i o scene hscene
  extract_lets s'
  rw [if_pos h, hscene]

/-- After any other line the quests are judged and the game is settled. -/
theorem execute_snd (s : Session w) {line : String} (now : Instant) (moment : Moment)
    (h : Text.isBlankText line.toList = false) :
    (s.execute line now moment).2 =
      ({ s with scene := (s.scene.execute s.settings.threshold line now).2 }.withProgress
        ((s.scene.execute s.settings.threshold line now).2.progress.evaluate s.settings.threshold
          (s.scene.execute s.settings.threshold line now).2.fs now).2).settle now moment := by
  unfold execute
  split
  rename_i o scene hscene
  extract_lets s'
  rw [if_neg (by simp [h])]
  split
  rename_i evaluation p hp
  have hp' : scene.progress.evaluate s.settings.threshold scene.fs now = (evaluation, p) := hp
  rw [hscene]
  dsimp only
  rw [hp']

/-! ## Coming back, in its parts -/

/-- What follows once there is nothing more to settle with the cloud: the time away and the day
are counted, and the game is kept. -/
def welcome (s : Session w) (notices : List String) (cloudLine : Option String) (now : Instant)
    (moment : Moment) : List String × Session w :=
  let (report, p) := s.progress.accrueOffline now s.settings.coinsPerHour
  let p := p.updateStreak now
  let lines := notices ++ (report.map AwayReport.message).toList
    ++ s!"Daily streak: {p.streak.days} day(s)" :: cloudLine.toList
  (lines, (s.withProgress p).settle now moment)

/-- Comes back to the game without a word to the cloud. -/
def resumeAlone (s : Session w) (now : Instant) (moment : Moment) : List String × Session w :=
  s.takeNotices.2.welcome s.takeNotices.1 none now moment

theorem resume_eq_welcome (s : Session w) (now : Instant) (moment : Moment) :
    s.resume now moment = s.takeNotices.2.settleWithCloud.2.welcome s.takeNotices.1
      s.takeNotices.2.settleWithCloud.1 now moment := rfl

theorem welcome_snd (s : Session w) (notices : List String) (cloudLine : Option String)
    (now : Instant) (moment : Moment) : (s.welcome notices cloudLine now moment).2 =
      (s.withProgress ((s.progress.accrueOffline now s.settings.coinsPerHour).2.updateStreak
        now)).settle now moment := rfl

theorem progress_welcome (s : Session w) (notices : List String) (cloudLine : Option String)
    (now : Instant) (moment : Moment) : (s.welcome notices cloudLine now moment).2.progress =
      ((s.progress.accrueOffline now s.settings.coinsPerHour).2.updateStreak now).touch now := by
  rw [welcome_snd, progress_settle, progress_withProgress]

/-- Without a profile there is nothing in the cloud to settle with. -/
theorem settleWithCloud_of_none {s : Session w}
    (h : s.progress.account.bind Account.profileId? = none) : s.settleWithCloud = (none, s) := by
  unfold settleWithCloud
  rw [h]

/-- Then nobody asks the cloud. -/
theorem resume_eq_resumeAlone {s : Session w}
    (h : s.progress.account.bind Account.profileId? = none) (now : Instant) (moment : Moment) :
    s.resume now moment = s.resumeAlone now moment := by
  have hcloud : s.takeNotices.2.settleWithCloud = (none, s.takeNotices.2) :=
    settleWithCloud_of_none h
  rw [resume_eq_welcome, hcloud, resumeAlone]

end Session

end Questline
