import Questline.Proofs.Account.Refusal
import Questline.Proofs.Session.Everywhere
import Questline.Proofs.Shell.Pipeline
set_option autoImplicit false

/-!
# Lines that are refused

A command that is refused says why in one line and leaves everything as it was: the files and
the place among them, the machine, the hints and tips, the account, the snapshots and the cloud.
Only the line itself is entered into the log.
-/

namespace Questline

open Time (Instant)
open Questline.Action

namespace Scene

variable {w : Type} {s : Scene w}

/-- If this is what came of a command, and it was refused, then one line says why and the scene
is the one before. -/
def Refuses (s : Scene w) (r : Outcome × Scene w) : Prop :=
  r.1.status = .error → ∃ why, r = (.failure why, s)

/-! ## One kind of command after the other -/

theorem refuses_of_isOk {o : Outcome} {s' : Scene w} (h : o.status = .ok) : s.Refuses (o, s') := by
  intro herror
  rw [show (o, s').1.status = .ok from h] at herror
  cases herror

theorem refuses_failure (why : String) : s.Refuses (.failure why, s) := fun _ => ⟨why, rfl⟩

theorem refuses_fileOutcome {α : Type} {command : String} {shown : α → Outcome}
    (hshown : ∀ a, (shown a).status = .ok) (result : Except FileError α) :
    s.Refuses (fileOutcome command shown result, s) := by
  cases result with
  | ok a => exact refuses_of_isOk (hshown a)
  | error e => exact refuses_failure _

theorem refuses_change {command : String} {shown : FileSystem → Outcome}
    (hshown : ∀ fs, (shown fs).status = .ok) (result : Except FileError FileSystem) :
    s.Refuses (s.change command shown result) := by
  cases result with
  | ok fs => exact refuses_of_isOk (hshown fs)
  | error e => exact refuses_failure _

theorem refuses_echo (text : String) : s.Refuses (s.echo text) := by
  unfold echo
  split
  · exact refuses_failure _
  · split
    · exact refuses_failure _
    · exact refuses_change (fun _ => rfl) _

theorem refuses_buy (id : String) : s.Refuses (s.buy id) := by
  unfold buy
  split
  · exact refuses_of_isOk rfl
  · exact refuses_failure _

theorem refuses_onMachine {act : Machine → Outcome × Machine}
    (h : ∀ m, (act m).1.status = .ok ∨ ∃ why, act m = (.failure why, m)) :
    s.Refuses (s.onMachine act) := by
  rcases h s.shell.machine with hok | ⟨why, hact⟩
  · exact refuses_of_isOk hok
  · rw [onMachine, hact]
    exact refuses_failure why

theorem refuses_onShell {act : Shell → Outcome × Shell} (h : ∀ sh, (act sh).1.status = .ok) :
    s.Refuses (s.onShell act) :=
  refuses_of_isOk (h s.shell)

theorem refuses_onDesk {act : Action AccountError (Desk w) (List String)}
    (h : Meets (· = s.desk) act (fun _ _ => True) (· = s.desk)) : s.Refuses (s.onDesk act) := by
  rcases hact : act s.desk with ⟨e | lines, d⟩
  · obtain rfl := h.error rfl hact
    rw [onDesk, hact]
    exact refuses_failure _
  · rw [onDesk, hact]
    exact refuses_of_isOk rfl

end Scene

namespace Machine

theorem refuses_setEnv (text : String) (m : Machine) :
    (m.setEnv text).1.status = .ok ∨ ∃ why, m.setEnv text = (.failure why, m) := by
  unfold setEnv
  split
  · exact .inr ⟨_, rfl⟩
  · extract_lets key value
    split
    · exact .inr ⟨_, rfl⟩
    · exact .inl rfl

theorem refuses_kill (pid : Option String) (m : Machine) :
    (m.kill pid).1.status = .ok ∨ ∃ why, m.kill pid = (.failure why, m) := by
  unfold kill
  split
  · exact .inr ⟨_, rfl⟩
  · split
    · exact .inr ⟨_, rfl⟩
    · split
      · exact .inr ⟨_, rfl⟩
      · exact .inl rfl

theorem refuses_package (manager : Manager) (args : List String) (m : Machine) :
    (m.package manager args).1.status = .ok ∨
      ∃ why, m.package manager args = (.failure why, m) := by
  unfold package
  split
  · split
    · exact .inl rfl
    · exact .inr ⟨_, rfl⟩
  · exact .inr ⟨_, rfl⟩

end Machine

/-- There is always something to say about hints. -/
theorem Shell.status_hint (sh : Shell) (threshold : UInt32) (p : Progress) (now : Instant) :
    (sh.hint threshold p now).1.status = .ok := by
  unfold hint
  split
  · rfl
  · split <;> rfl

namespace Scene

variable {T : UInt32 → Prop} {K : Place → Progress → Prop} {New : String → Prop}
  {I : Pair → Prop} {b : Bool} {now : Instant} {s : Scene Pair}

section

variable (hK : Place.Lasting T K) (hI : Pair.Custody New K I)
  (hdevice : ∀ {p}, I p → p.device.Reliable)
include hK hI hdevice

/-! ## Every command -/

theorem refuses_dispatch (hs : s.desk.Upholds K I b) (threshold : UInt32) (line : String)
    (hnow : now.Valid) (c : Command.Simple) : s.Refuses (s.dispatch threshold line now c) := by
  cases c with
  | empty | help | clear | tutorial | banner | quests | stats | shop | history | pwd | env | ps
  | whoami => exact refuses_of_isOk rfl
  | ping args => exact refuses_of_isOk rfl
  | curl args =>
    refine refuses_of_isOk ?_
    unfold Machine.curl
    extract_lets url
    split <;> rfl
  | unknown text => exact refuses_failure _
  | tips => exact refuses_onShell fun _ => rfl
  | hint => exact refuses_onShell fun sh => sh.status_hint ..
  | buy id =>
    cases id with
    | none => exact refuses_failure _
    | some id => exact refuses_buy id
  | ls path => exact refuses_fileOutcome (fun _ => rfl) _
  | cd path => exact refuses_change (fun _ => rfl) _
  | cat path =>
    cases path with
    | none => exact refuses_failure _
    | some path => exact refuses_fileOutcome (fun _ => rfl) _
  | touch path =>
    cases path with
    | none => exact refuses_failure _
    | some path => exact refuses_change (fun _ => rfl) _
  | mkdir path =>
    cases path with
    | none => exact refuses_failure _
    | some path => exact refuses_change (fun _ => rfl) _
  | rm path =>
    cases path with
    | none => exact refuses_failure _
    | some path => exact refuses_change (fun _ => rfl) _
  | echo text => exact refuses_echo text
  | grep pattern path =>
    cases pattern with
    | none => exact refuses_failure _
    | some pattern =>
      cases path with
      | none => exact refuses_failure _
      | some path =>
        refine refuses_fileOutcome (fun lines => ?_) _
        split <;> rfl
  | «export» text => exact refuses_onMachine (Machine.refuses_setEnv text)
  | kill pid => exact refuses_onMachine (Machine.refuses_kill pid)
  | package manager args => exact refuses_onMachine (Machine.refuses_package manager args)
  | signup raw =>
    cases raw with
    | none => exact refuses_failure _
    | some raw =>
      rw [dispatch_signup]
      exact refuses_onDesk (Desk.refuses_signup hK hI hdevice raw hnow hs)
  | login raw =>
    cases raw with
    | none => exact refuses_failure _
    | some raw =>
      rw [dispatch_login]
      exact refuses_onDesk (Desk.refuses_login hK hI hdevice raw hnow hs)
  | logout =>
    rw [dispatch_logout]
    exact refuses_onDesk (Desk.refuses_logout hK hI hdevice hs)
  | sync =>
    rw [dispatch_sync]
    exact refuses_onDesk (Desk.refuses_sync s.desk)

/-- A line that is refused says something, and is all that is entered into the log. -/
theorem execute_of_error (hs : s.desk.Upholds K I b) (threshold : UInt32) {line : String}
    (hnow : now.Valid) (herror : (s.execute threshold line now).1.status = .error) :
    (s.execute threshold line now).1.lines ≠ [] ∧
      (s.execute threshold line now).2 = s.withProgress (s.progress.logCommand
        (Text.trimmed line) (s.execute threshold line now).1.text now) := by
  have hrefuses := refuses_dispatch hK hI hdevice hs threshold (Text.trimmed line) hnow
  have hne : (Text.trimmed line).isEmpty = false := by
    by_contra hempty
    rw [execute_of_isEmpty s threshold now (by simpa using hempty)] at herror
    cases herror
  obtain ⟨c, hparse⟩ : ∃ c, Command.parse (Text.trimmed line) = c := ⟨_, rfl⟩
  have hexecute := s.execute_eq threshold now hne hparse
  cases c with
  | simple c =>
    dsimp only [perform] at hexecute
    rw [hexecute] at herror ⊢
    obtain ⟨why, hdispatch⟩ := hrefuses c herror
    rw [hdispatch]
    exact ⟨List.cons_ne_nil _ _, rfl⟩
  | pipeline left pattern =>
    dsimp only [perform] at hexecute
    rw [hexecute] at herror ⊢
    obtain ⟨why, hdispatch⟩ := hrefuses left ((Outcome.status_filter ..).symm.trans herror)
    rw [hdispatch]
    refine ⟨?_, rfl⟩
    rw [Outcome.lines_filter]
    split
    · exact List.cons_ne_nil _ _
    · assumption

end

end Scene

/-! ## Every session -/

namespace Fleet

open Scene

/-- Whatever has befallen a fleet whose stores were written by the game: a line that is refused
in a session, while its device can be relied on, leaves everything as it was.  It says why and is
entered into the log. -/
theorem unchanged_of_error {f : Fleet} (hf : f.Upholds (fun _ => True) Place.Stored)
    {is : List Incident} (his : ∀ i ∈ is, i.Timely) {name : String} {s : Session Pair}
    (hs : (f.undergo is).session? name = some s) (hdevice : s.depot.device.Reliable)
    (line : String) {now : Instant} (hnow : now.Valid)
    (herror : (s.scene.execute s.settings.threshold line now).1.status = .error) :
    let result := s.scene.execute s.settings.threshold line now
    let entry : LogEntry := ⟨Text.trimmed line, result.1.text, now⟩
    result.1.lines ≠ [] ∧
      result.2 = s.scene.withProgress
        { s.progress with log := newest (s.progress.log ++ [entry]) } := by
  have hupholds := hf.undergo Place.lasting_stored his fun i _ => i.opensAt_any
  have hsession := hupholds.session? hs
  have hdesk : s.scene.desk.Upholds Place.Stored
      (fun p => p.Keeps Place.Stored ∧ p.device.Reliable) s.link.configured :=
    ⟨hsession.game, ⟨hsession.depot, hdevice⟩, rfl⟩
  have hrefused := execute_of_error Place.lasting_stored
    (Pair.custody_keeps Place.Stored).reliable (fun h => h.2) hdesk s.settings.threshold hnow herror
  generalize s.scene.execute s.settings.threshold line now = result at hrefused ⊢
  exact hrefused

/-- A session is opened, and the cloud goes off. -/
def offline : List Incident := [
  .event (.act "a" (.enter .initial ⟨true, true⟩ none ⟨0, 0⟩)),
  .event (.act "a" (.run "mkdir lair" ⟨1, 0⟩)),
  .event (.online false)]

/-- Nobody can sign up then, and nothing is changed by trying. -/
theorem unchanged_of_error_offline :
    (∀ i ∈ offline, i.Timely) ∧
      ∃ s, ((founded (fun _ => "p") ⟨0, 0⟩ .silent).undergo offline).session? "a" = some s ∧
        s.depot.device.Reliable ∧
        (s.scene.execute s.settings.threshold "signup hero" ⟨2, 0⟩).1.status = .error ∧
        (s.scene.execute s.settings.threshold "signup hero" ⟨2, 0⟩).1.lines ≠ [] := by
  have htimely : ∀ i ∈ offline, i.Timely := by decide +kernel
  have hopen : ((((founded (fun _ => "p") ⟨0, 0⟩ .silent).undergo offline).session? "a").any fun s =>
      !s.depot.device.failsRead && !s.depot.device.failsWrite &&
        (s.scene.execute s.settings.threshold "signup hero" ⟨2, 0⟩).1.status == .error) = true := by
    decide +kernel
  obtain ⟨s, hs, hrefused⟩ := (Option.any_eq_true ..).1 hopen
  simp only [Bool.and_eq_true, Bool.not_eq_true', beq_iff_eq] at hrefused
  obtain ⟨⟨hreads, hwrites⟩, herror⟩ := hrefused
  have hdevice : s.depot.device.Reliable := ⟨hreads, hwrites⟩
  have hunchanged := unchanged_of_error (upholds_founded _ _ _) htimely hs hdevice "signup hero"
    (by decide) herror
  exact ⟨htimely, s, hs, hdevice, herror, hunchanged.1⟩

end Fleet

end Questline
