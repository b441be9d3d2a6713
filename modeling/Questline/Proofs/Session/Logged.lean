import Questline.Proofs.Account.Restored
import Questline.Proofs.Session.Handover
import Questline.Proofs.Session.Refusal
set_option autoImplicit false

/-!
# The log is complete

Every line that is not blank is entered into the log, with its answer and the time, whatever it
asks for and whatever comes of it.  It is entered into the log of the game that is played when
the line has been carried out: a line that passes the game on or restores another one is found in
the log of the game it has put in the place of the old one.
-/

namespace Questline

open Time (Instant)
open Questline.Action

/-- The game that is gone on with after a command that succeeds, but for its account and its
stamps: an empty one, the one that a login restores, or the one before. -/
def Desk.installed (d : Desk Pair) (now : Instant) : Command.Simple → Progress
  | .signup (some _) => if d.progress.account.isSome then .fresh now else d.progress
  | .login (some raw) =>
    if d.IsNamed (Username.normalize raw) then d.progress
    else d.restored (Username.normalize raw) now
  | .logout => .fresh now
  | _ => d.progress

theorem Progress.log_purchase {p p' : Progress} {id : String} {u : Upgrade}
    (h : p.purchase id = .ok (u, p')) : p'.log = p.log := by
  unfold Progress.purchase at h
  split at h
  · cases h
  · split at h
    · cases h
    · cases h
      rfl

theorem Progress.log_logCommand (p : Progress) (command output : String) (time : Instant) :
    (p.logCommand command output time).log = newest (p.log ++ [⟨command, output, time⟩]) := by
  -- The entries are left open, for comparing them would unfold the log.
  generalize hlog : newest (p.log ++ [⟨command, output, time⟩]) = log
  unfold Progress.logCommand
  rw [hlog]

namespace Scene

theorem log_buy {w : Type} (s : Scene w) (id : String) :
    (s.buy id).2.progress.log = s.progress.log := by
  unfold buy
  split
  · rename_i hpurchase
    exact Progress.log_purchase hpurchase
  · rfl

variable {T : UInt32 → Prop} {K : Place → Progress → Prop} {New : String → Prop}
  {I : Pair → Prop} {b : Bool} {now : Instant} {s : Scene Pair}

section

variable (hK : Place.Lasting T K) (hI : Pair.Custody New K I)
  (hdevice : ∀ {p}, I p → p.device.Reliable)
include hK hI hdevice

/-- A command that succeeds leaves the log of the game that it installs. -/
theorem log_dispatch_of_ok (hs : s.desk.Upholds K I b) (threshold : UInt32) (line : String)
    {c : Command.Simple} (hok : (s.dispatch threshold line now c).1.status = .ok) :
    (s.dispatch threshold line now c).2.progress.log = (s.desk.installed now c).log := by
  have hdesk := s.desk_dispatch threshold line now c
  have hlog (d : Desk Pair) (h : (s.dispatch threshold line now c).2.desk = d) :
      (s.dispatch threshold line now c).2.progress.log = d.progress.log := by
    rw [← h]
    rfl
  rw [hlog _ hdesk]
  -- Only a purchase and the account commands reach the desk.
  cases c with
  | buy id =>
    cases id with
    | none => rfl
    | some id => exact s.log_buy id
  | signup raw =>
    cases raw with
    | none => rfl
    | some raw =>
      rw [dispatch_signup] at hok
      obtain ⟨lines, d, hsignup, -⟩ := exists_of_status_onDesk hok
      obtain ⟨account, -, hprogress⟩ :=
        (Desk.meets_signup (p := s.desk.progress) raw now).ok rfl hsignup
      dsimp only
      rw [hsignup, hprogress]
      rfl
  | login raw =>
    cases raw with
    | none => rfl
    | some raw =>
      rw [dispatch_login] at hok
      obtain ⟨lines, d, hlogin, -⟩ := exists_of_status_onDesk hok
      dsimp only [Desk.installed]
      rw [hlogin]
      split
      · rename_i hnamed
        rw [Desk.login_eq_of_isNamed hnamed hlogin]
      · rename_i hnamed
        obtain ⟨account, hprogress⟩ :=
          Desk.progress_login hK hI hdevice hs hnamed hlogin
        rw [hprogress]
  | logout =>
    rw [dispatch_logout] at hok
    obtain ⟨lines, d, hlogout, -⟩ := exists_of_status_onDesk hok
    have hprogress := (Desk.meets_logout (p := s.desk.progress) now).ok rfl hlogout
    dsimp only
    rw [hlogout, hprogress]
    rfl
  | sync =>
    dsimp only [Desk.installed]
    rw [Desk.snd_sync]
    split <;> rfl
  | _ => rfl

/-- A line that is not blank is entered into the log of the game that its command installs, or
if it is refused into the log there was. -/
theorem log_execute (hs : s.desk.Upholds K I b) (threshold : UInt32) {line : String}
    (hnow : now.Valid) (hline : (Text.trimmed line).isEmpty = false) :
    let result := s.execute threshold line now
    let base := if result.1.status = .ok
      then s.desk.installed now (Command.parse (Text.trimmed line)).first else s.progress
    result.2.progress.log = newest (base.log ++ [⟨Text.trimmed line, result.1.text, now⟩]) := by
  obtain ⟨o, after, hexecute, hstatus, hafter⟩ := s.exists_execute threshold now hline
  have hbase : after.progress.log = (if o.status = .ok
      then s.desk.installed now (Command.parse (Text.trimmed line)).first else s.progress).log := by
    rw [hafter]
    cases ho : o.status with
    | ok =>
      rw [if_pos rfl]
      exact log_dispatch_of_ok hK hI hdevice hs threshold _ (hstatus.symm.trans ho)
    | error =>
      obtain ⟨why, hrefused⟩ := refuses_dispatch hK hI hdevice hs threshold (Text.trimmed line) hnow
        (Command.parse (Text.trimmed line)).first (hstatus.symm.trans ho)
      rw [if_neg nofun, hrefused]
  generalize s.execute threshold line now = result at hexecute ⊢
  subst hexecute
  dsimp only
  rw [← hbase, progress_withProgress]
  exact Progress.log_logCommand ..

end

end Scene

/-! ## Every session -/

namespace Fleet

/-- Whatever has befallen a fleet whose stores were written by the game, a session on a device that
can be relied on has a desk where games are kept that a save can hold. -/
theorem upholds_desk {f : Fleet} (hf : f.Upholds (fun _ => True) Place.Stored)
    {is : List Incident} (his : ∀ i ∈ is, i.Timely) {name : String} {s : Session Pair}
    (hs : (f.undergo is).session? name = some s) (hdevice : s.depot.device.Reliable) :
    s.scene.desk.Upholds Place.Stored (fun p => p.Keeps Place.Stored ∧ p.device.Reliable)
      s.link.configured := by
  have hupholds := hf.undergo Place.lasting_stored his fun i _ => i.opensAt_any
  have hsession := hupholds.session? hs
  exact ⟨hsession.game, ⟨hsession.depot, hdevice⟩, rfl⟩

/-- Whatever has befallen a fleet whose stores were written by the game: a blank line changes
nothing in a session, and every other line is the newest entry of the log, while the device can be
relied on.  What is before it in the log is that of the game that the line has installed, or of
the game there was. -/
theorem log_complete {f : Fleet} (hf : f.Upholds (fun _ => True) Place.Stored)
    {is : List Incident} (his : ∀ i ∈ is, i.Timely) {name : String} {s : Session Pair}
    (hs : (f.undergo is).session? name = some s) (hdevice : s.depot.device.Reliable)
    (line : String) {now : Instant} (hnow : now.Valid) :
    let result := s.scene.execute s.settings.threshold line now
    (Text.isBlankText line.toList = true → result = (.empty, s.scene)) ∧
      (Text.isBlankText line.toList = false →
        let base := if result.1.status = .ok
          then s.scene.desk.installed now (Command.parse (Text.trimmed line)).first else s.progress
        result.2.progress.log =
          newest (base.log ++ [⟨Text.trimmed line, Text.unlines result.1.lines, now⟩])) := by
  have hdesk := upholds_desk hf his hs hdevice
  cases hempty : (Text.trimmed line).isEmpty with
  | true =>
    have hblank := Session.isBlankText_of_trimmed hempty
    refine ⟨fun _ => Scene.execute_of_isEmpty s.scene s.settings.threshold now hempty, fun h => ?_⟩
    rw [hblank] at h
    cases h
  | false =>
    have hblank := Session.not_isBlankText_of_trimmed hempty
    refine ⟨fun h => absurd h (by simp [hblank]), fun _ => ?_⟩
    exact Scene.log_execute Place.lasting_stored (Pair.custody_keeps Place.Stored).reliable
      (fun h => h.2) hdesk s.settings.threshold hnow hempty

/-- A player signs up on a new device. -/
def enrolment : List Incident := [
  .event (.act "a" (.enter .initial ⟨false, false⟩ none ⟨0, 0⟩)),
  .event (.act "a" (.run "signup hero" ⟨1, 0⟩))]

/-- A line of blanks does nothing then, and the logout is the first entry of a new log. -/
theorem log_complete_enrolment :
    (∀ i ∈ enrolment, i.Timely) ∧
      ∃ s, ((founded (fun _ => "p") ⟨0, 0⟩ .silent).undergo enrolment).session? "a" = some s ∧
        s.depot.device.Reliable ∧ s.progress.log.map LogEntry.command = ["signup hero"] ∧
        s.scene.execute s.settings.threshold "  " ⟨2, 0⟩ = (.empty, s.scene) ∧
        (s.scene.execute s.settings.threshold " logout " ⟨2, 0⟩).2.progress.log.map
          LogEntry.command = ["logout"] := by
  have htimely : ∀ i ∈ enrolment, i.Timely := by decide +kernel
  have hopen : ((((founded (fun _ => "p") ⟨0, 0⟩ .silent).undergo enrolment).session? "a").any
      fun s =>
      !s.depot.device.failsRead && !s.depot.device.failsWrite && s.progress.account.isSome &&
        s.progress.log.map LogEntry.command == ["signup hero"]) = true := by
    decide +kernel
  obtain ⟨s, hs, henrolled⟩ := (Option.any_eq_true ..).1 hopen
  simp only [Bool.and_eq_true, Bool.not_eq_true', beq_iff_eq] at henrolled
  obtain ⟨⟨⟨hreads, hwrites⟩, hin⟩, hbefore⟩ := henrolled
  have hdevice : s.depot.device.Reliable := ⟨hreads, hwrites⟩
  have hdesk := upholds_desk (upholds_founded _ _ _) htimely hs hdevice
  have hparse : Command.parse (Text.trimmed " logout ") = .simple .logout := by decide +kernel
  -- The answer is not evaluated, for the snapshots would have to be read.
  have hok : (s.scene.execute s.settings.threshold " logout " ⟨2, 0⟩).1.status = .ok := by
    obtain ⟨o, after, hexecute, hstatus, -⟩ := s.scene.exists_execute s.settings.threshold ⟨2, 0⟩
      (show (Text.trimmed " logout ").isEmpty = false by decide)
    obtain ⟨lines, d, hlogout, -⟩ := (Desk.sure_logout Place.lasting_stored
      (Pair.custody_keeps Place.Stored).reliable (fun h => h.2) ⟨2, 0⟩ hdesk hin).exists_ok rfl
    rw [hexecute]
    refine hstatus.trans ?_
    rw [hparse, Command.first, Scene.dispatch_logout, Scene.onDesk, hlogout]
    rfl
  have hcomplete (line : String) := log_complete (upholds_founded _ _ _) htimely hs hdevice line
    (show (⟨2, 0⟩ : Instant).Valid by decide)
  refine ⟨htimely, s, hs, hdevice, hbefore, (hcomplete "  ").1 (by decide), ?_⟩
  have hlog := (hcomplete " logout ").2 (by decide)
  dsimp only at hlog
  rw [if_pos hok, hparse] at hlog
  change _ = newest [(⟨Text.trimmed " logout ", _, ⟨2, 0⟩⟩ : LogEntry)] at hlog
  rw [hlog, newest_eq_self (by simp [logCapacity])]
  rfl

end Fleet

end Questline
