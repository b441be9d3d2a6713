import Questline.Proofs.Quest.Evaluation
import Questline.Proofs.Session.Logged
import Questline.Proofs.Shell.Pipeline
set_option autoImplicit false

/-!
# The history and the log

The history is put together before its own line is entered into the log, and shows that line
after the entries there are.  While the log has room, this is the log as it stands after the
command.  In a full log the entry of the line costs the oldest one its place: the history shows
that entry still, and so one line more than the log keeps, every entry under the number of the
next.
-/

namespace Questline

open Time (Instant)

/-! ## A log that is full -/

theorem length_newest_append (log : List LogEntry) (e : LogEntry) :
    (newest (log ++ [e])).length = min (log.length + 1) logCapacity := by
  simp only [newest, List.length_drop, List.length_append, List.length_singleton]
  omega

namespace Report

/-- Commands as they are listed, numbered from one. -/
def numbered (commands : List String) : List String :=
  commands.mapIdx fun i c => Text.padStart 3 (toString (i + 1)) ++ "  " ++ c

@[simp] theorem length_numbered (commands : List String) :
    (numbered commands).length = commands.length :=
  List.length_mapIdx

theorem lines_history (line : String) (p : Progress) :
    (history line p).lines = numbered (p.log.map LogEntry.command ++ [line]) := rfl

end Report

theorem Progress.log_evaluate (p : Progress) (threshold : UInt32) (fs : FileSystem)
    (now : Instant) : (p.evaluate threshold fs now).2.log = p.log := by
  rw [evaluate_snd]
  exact (keepsRest_judgeAll p Quest.catalog).log

theorem Progress.log_touch (p : Progress) (now : Instant) : (p.touch now).log = p.log := rfl

namespace Session

variable {w : Type} [Depot w] {line : String}

/-- What follows a command leaves the log as the command has left it. -/
theorem log_execute (s : Session w) (line : String) (now : Instant) (moment : Moment) :
    (s.execute line now moment).2.progress.log =
      (s.scene.execute s.settings.threshold line now).2.progress.log := by
  cases hblank : Text.isBlankText line.toList with
  | true =>
    rw [execute_snd_of_blank s now moment hblank]
    rfl
  | false =>
    rw [execute_snd s now moment hblank, progress_settle, progress_withProgress,
      Progress.log_touch, Progress.log_evaluate]

/-- What a line shows that asks for the history, and the log it leaves. -/
theorem execute_history (s : Session w) (h : Command.parse (Text.trimmed line) = .simple .history)
    (now : Instant) (moment : Moment) :
    (s.execute line now moment).1.outcome = Report.history (Text.trimmed line) s.progress ∧
      (s.execute line now moment).2.progress.log = newest (s.progress.log ++
        [⟨Text.trimmed line, (Report.history (Text.trimmed line) s.progress).text, now⟩]) := by
  have hne : (Text.trimmed line).isEmpty = false := by
    cases hempty : (Text.trimmed line).isEmpty with
    | false => rfl
    | true =>
      rw [Command.parse_of_isEmpty hempty] at h
      cases h
  have hscene : s.scene.execute s.settings.threshold line now =
      (Report.history (Text.trimmed line) s.progress, s.scene.withProgress
        (s.progress.logCommand (Text.trimmed line)
          (Report.history (Text.trimmed line) s.progress).text now)) :=
    s.scene.execute_eq s.settings.threshold now hne h
  refine ⟨by rw [outcome_execute, hscene], ?_⟩
  rw [log_execute, hscene, Scene.progress_withProgress, Progress.log_logCommand]

/-- The history shows the entries before its line, and then the line. These are the entries of
the log with that line in it exactly while the log has room for it. -/
theorem lines_history_eq_iff (s : Session w)
    (h : Command.parse (Text.trimmed line) = .simple .history) (now : Instant) (moment : Moment) :
    let turn := s.execute line now moment
    turn.1.outcome.status = .ok ∧
      turn.1.outcome.lines =
        Report.numbered (s.progress.log.map LogEntry.command ++ [Text.trimmed line]) ∧
      (turn.1.outcome.lines = Report.numbered (turn.2.progress.log.map LogEntry.command) ↔
        s.progress.log.length < logCapacity) := by
  obtain ⟨houtcome, hlog⟩ := s.execute_history h now moment
  dsimp only
  rw [houtcome, hlog, Report.lines_history]
  refine ⟨rfl, rfl, fun heq => ?_, fun hroom => ?_⟩
  · -- A full log keeps one entry less than is shown.
    have hlength := congrArg List.length heq
    simp only [Report.length_numbered, List.length_map, List.length_append, List.length_singleton,
      length_newest_append] at hlength
    omega
  · rw [newest_eq_self (by simp; omega), List.map_append]
    rfl

/-- The log fills up as lines are entered, and stays full. -/
theorem length_log_iterate_history (s : Session w)
    (h : Command.parse (Text.trimmed line) = .simple .history) (now : Instant) (moment : Moment)
    (hlog : s.progress.log.length ≤ logCapacity) (n : Nat) :
    ((fun s : Session w => (s.execute line now moment).2)^[n] s).progress.log.length =
      min (s.progress.log.length + n) logCapacity := by
  induction n with
  | zero => exact (Nat.min_eq_left hlog).symm
  | succ n ih =>
    rw [Function.iterate_succ_apply', (execute_history _ h now moment).2, length_newest_append, ih]
    omega

/-- A new game in which nothing was asked for but the history, so many times. -/
def asked (n : Nat) : Session Pair :=
  (fun s : Session Pair => (s.execute "history" ⟨1, 0⟩ ⟨0, 0⟩).2)^[n]
    (.start .initial ⟨false, false⟩ ⟨.empty, .empty, ⟨0, 0⟩, .silent⟩ (.fresh ⟨0, 0⟩))

/-- The line after the two hundredth is shown 201 lines, of a log that keeps 200. -/
theorem lines_history_full :
    let turn := (asked 200).execute "history" ⟨2, 0⟩ ⟨0, 0⟩
    turn.1.outcome.status = .ok ∧ turn.1.outcome.lines.length = 201 ∧
      turn.2.progress.log.length = 200 ∧
      turn.1.outcome.lines ≠ Report.numbered (turn.2.progress.log.map LogEntry.command) := by
  have h : Command.parse (Text.trimmed "history") = .simple .history := by decide +kernel
  have hfull : (asked 200).progress.log.length = 200 :=
    length_log_iterate_history _ h ⟨1, 0⟩ ⟨0, 0⟩ (by decide) 200
  generalize asked 200 = s at hfull ⊢
  obtain ⟨hok, hlines, hiff⟩ := s.lines_history_eq_iff h ⟨2, 0⟩ ⟨0, 0⟩
  refine ⟨hok, ?_, ?_, fun heq => ?_⟩
  · rw [hlines]
    simp [hfull]
  · rw [(s.execute_history h ⟨2, 0⟩ ⟨0, 0⟩).2, length_newest_append, hfull]
    rfl
  · have hroom := hiff.mp heq
    rw [hfull] at hroom
    exact absurd hroom (by decide)

end Session

end Questline
