import Questline.Proofs.Account.Barred
import Questline.Proofs.Session.Alone
import Questline.Proofs.Session.Refusal
set_option autoImplicit false

/-!
# Complaints about corrupt data

Of all commands only those about accounts fail for corrupt data.  On a device without an identity
service it is the snapshots that cannot be read then, and as long as they cannot, every line that
needs them says so, unless a filter holds it back.
-/

namespace Questline

open Time (Instant)

/-! ## What is told -/

/-- The words with which an error about corrupt data begins. -/
def StoreError.corruptWords : String := "saved data under "

/-- The command failed, and tells that saved data is corrupt. -/
def Outcome.complains (o : Outcome) : Bool :=
  o.status == .error && o.lines.any (Text.startsWith · StoreError.corruptWords)

/-- A text that begins otherwise does not begin so. -/
theorem Text.startsWith_append_eq_false {front start : String}
    (h : (front.toList.isPrefixOf start.toList || start.toList.isPrefixOf front.toList) = false)
    (rest : String) : startsWith (front ++ rest) start = false := by
  rw [Bool.or_eq_false_iff] at h
  by_contra hstarts
  rw [Bool.not_eq_false, startsWith, List.isPrefixOf_iff_prefix, String.toList_append] at hstarts
  rcases List.prefix_or_prefix_of_prefix (List.prefix_append _ _) hstarts with hle | hle
  · rw [← List.isPrefixOf_iff_prefix, h.1] at hle
    cases hle
  · rw [← List.isPrefixOf_iff_prefix, h.2] at hle
    cases hle

namespace Outcome

theorem complains_of_ok {o : Outcome} (h : o.status = .ok) : o.complains = false := by
  rw [complains, h]
  rfl

theorem complains_failure (why : String) :
    (failure why).complains = Text.startsWith why StoreError.corruptWords := by
  simp [complains, failure]

theorem complains_of_failure {why : String}
    (h : Text.startsWith why StoreError.corruptWords = false) : (failure why).complains = false :=
  (complains_failure why).trans h

/-- A complaint passes a filter if the words of the filter occur in it. -/
theorem complains_filter_failure (why pattern : String) :
    ((failure why).filter pattern).complains =
      ((failure why).complains && Text.contains why pattern) := by
  have hnone : Text.startsWith noMatches StoreError.corruptWords = false := by decide
  simp only [complains, status_filter, lines_filter]
  by_cases hcontains : Text.contains why pattern = true <;> simp [failure, hcontains, hnone]

/-- A filter makes no complaint. -/
theorem complains_of_filter {o : Outcome} {pattern : String}
    (h : (o.filter pattern).complains = true) : o.complains = true := by
  have hnone : Text.startsWith noMatches StoreError.corruptWords = false := by decide
  simp only [complains, status_filter, lines_filter, Bool.and_eq_true, List.any_eq_true] at h ⊢
  obtain ⟨herror, l, hl, hwords⟩ := h
  refine ⟨herror, l, ?_, hwords⟩
  split at hl
  · rw [List.mem_singleton.1 hl, hnone] at hwords
    cases hwords
  · exact (List.mem_filter.1 hl).1

end Outcome

/-- Whatever the reader says, the error begins with the same words. -/
theorem StoreError.startsWith_message_corrupt (key reason : String) :
    Text.startsWith (corrupt key reason).message corruptWords = true := by
  have hmessage : (corrupt key reason).message.toList =
      corruptWords.toList ++ (key.toList ++ (" is corrupt: ".toList ++ reason.toList)) := by
    change (corruptWords ++ key ++ " is corrupt: " ++ reason).toList = _
    simp only [String.toList_append, List.append_assoc]
  rw [Text.startsWith, List.isPrefixOf_iff_prefix, hmessage]
  exact List.prefix_append _ _

/-- Of all that an account command can be refused for, only corrupt data is told in these words. -/
theorem AccountError.complains_failure_message_iff (e : AccountError) :
    (Outcome.failure e.message).complains = true ↔
      ∃ key reason, e = .store (.corrupt key reason) := by
  rw [Outcome.complains_failure]
  constructor
  · intro h
    have hfront : ∀ {front : String} (rest : String),
        (front.toList.isPrefixOf StoreError.corruptWords.toList ||
          StoreError.corruptWords.toList.isPrefixOf front.toList) = false →
        Text.startsWith (front ++ rest) StoreError.corruptWords ≠ true := by
      intro front rest hfront
      rw [Text.startsWith_append_eq_false hfront rest]
      exact Bool.false_ne_true
    cases e with
    | invalidUsername => exact absurd h (by decide)
    | usernameTaken name =>
      change Text.startsWith ("Username " ++ name ++ " is taken") _ = true at h
      rw [String.append_assoc] at h
      exact absurd h (hfront _ (by decide))
    | profileNotFound name =>
      change Text.startsWith ("No profile named " ++ name) _ = true at h
      exact absurd h (hfront _ (by decide))
    | notSignedIn => exact absurd h (by decide)
    | syncUnavailable => exact absurd h (by decide)
    | syncFailed reason =>
      change Text.startsWith ("Sync failed: " ++ reason) _ = true at h
      exact absurd h (hfront _ (by decide))
    | store e =>
      cases e with
      | corrupt key reason => exact ⟨key, reason, rfl⟩
      | io key fault =>
        change Text.startsWith ("storage I/O failed for " ++ key ++ ": " ++ fault.message) _ = true
          at h
        rw [String.append_assoc, String.append_assoc] at h
        exact absurd h (hfront _ (by decide))
  · rintro ⟨key, reason, rfl⟩
    exact StoreError.startsWith_message_corrupt key reason

/-! ## Commands that need the snapshots -/

/-- The command needs the snapshots when this account is signed in. -/
def Command.Simple.consults (account : Option Account) : Command.Simple → Bool
  | .signup (some raw) => (Username.valid? raw).isSome
  | .login (some raw) =>
    (Username.valid? raw).any fun name => account.map Account.username != some name
  | .logout => account.isSome
  | _ => false

/-- The command needs the snapshots, and what is said of them passes its filter if it has one. -/
def Command.consults (account : Option Account) (said : String) : Command → Bool
  | .simple c => c.consults account
  | .pipeline left pattern => left.consults account && Text.contains said pattern

/-! ## Other commands -/

namespace Scene

section

variable {w : Type} (s : Scene w)

theorem complains_fileOutcome {α : Type} {command : String} {shown : α → Outcome}
    (hcommand : (command.toList.isPrefixOf StoreError.corruptWords.toList ||
      StoreError.corruptWords.toList.isPrefixOf command.toList) = false)
    (hshown : ∀ a, (shown a).status = .ok) (result : Except FileError α) :
    (fileOutcome command shown result).complains = false := by
  cases result with
  | ok a => exact Outcome.complains_of_ok (hshown a)
  | error e =>
    rw [fileOutcome, Outcome.complains_failure]
    change Text.startsWith (command ++ ": " ++ e.message) _ = false
    rw [String.append_assoc]
    exact Text.startsWith_append_eq_false hcommand _

theorem complains_echo (text : String) : (s.echo text).1.complains = false := by
  unfold echo
  split
  · exact Outcome.complains_of_failure (by decide)
  · split
    · exact Outcome.complains_of_failure (by decide)
    · exact complains_fileOutcome (by decide) (fun _ => rfl) _

theorem complains_buy (id : String) : (s.buy id).1.complains = false := by
  unfold buy
  split
  · exact Outcome.complains_of_ok rfl
  · rename_i e _
    cases e <;> exact Outcome.complains_of_failure (by decide)

end

end Scene

namespace Machine

theorem complains_setEnv (text : String) (m : Machine) : (m.setEnv text).1.complains = false := by
  unfold setEnv
  split
  · exact Outcome.complains_of_failure (by decide)
  · extract_lets key value
    split
    · exact Outcome.complains_of_failure (by decide)
    · exact Outcome.complains_of_ok rfl

theorem complains_kill (pid : Option String) (m : Machine) :
    (m.kill pid).1.complains = false := by
  unfold kill
  split
  · exact Outcome.complains_of_failure (by decide)
  · split
    · exact Outcome.complains_of_failure (by decide)
    · split
      · rename_i n _ _ _
        rw [Outcome.complains_failure]
        change Text.startsWith ("Process " ++ toString n ++ " not found.") _ = false
        rw [String.append_assoc]
        exact Text.startsWith_append_eq_false (by decide) _
      · exact Outcome.complains_of_ok rfl

theorem complains_package (manager : Manager) (args : List String) (m : Machine) :
    (m.package manager args).1.complains = false := by
  have husage : (Outcome.failure s!"Usage: {manager.name} install <pkg>").complains = false := by
    cases manager <;> decide
  unfold package
  split
  · split
    · exact Outcome.complains_of_ok rfl
    · exact husage
  · exact husage

end Machine

namespace Scene

section

variable {w : Type} [Depot w]

/-- Only account commands can complain. -/
theorem complains_dispatch (s : Scene w) (threshold : UInt32) (line : String) (now : Instant)
    (c : Command.Simple) :
    (s.dispatch threshold line now c).1.complains = match c with
      | .signup (some raw) => (s.onDesk (Desk.signup raw now)).1.complains
      | .login (some raw) => (s.onDesk (Desk.login raw now)).1.complains
      | .logout => (s.onDesk (Desk.logout now)).1.complains
      | .sync => (s.onDesk Desk.sync).1.complains
      | _ => false := by
  cases c with
  | empty | help | clear | tutorial | banner | quests | stats | shop | history | pwd | env | ps
  | whoami | tips => exact Outcome.complains_of_ok rfl
  | ping args => exact Outcome.complains_of_ok rfl
  | curl args =>
    refine Outcome.complains_of_ok ?_
    change (Machine.curl args).status = .ok
    unfold Machine.curl
    extract_lets url
    split <;> rfl
  | hint => exact Outcome.complains_of_ok (s.shell.status_hint ..)
  | unknown text =>
    change (Outcome.failure ("Unknown command: " ++ text)).complains = false
    rw [Outcome.complains_failure]
    exact Text.startsWith_append_eq_false (by decide) _
  | buy id =>
    cases id with
    | none => exact Outcome.complains_of_failure (by decide)
    | some id => exact complains_buy s id
  | ls path => exact complains_fileOutcome (by decide) (fun _ => rfl) _
  | cd path => exact complains_fileOutcome (by decide) (fun _ => rfl) _
  | cat path =>
    cases path with
    | none => exact Outcome.complains_of_failure (by decide)
    | some path => exact complains_fileOutcome (by decide) (fun _ => rfl) _
  | touch path =>
    cases path with
    | none => exact Outcome.complains_of_failure (by decide)
    | some path => exact complains_fileOutcome (by decide) (fun _ => rfl) _
  | mkdir path =>
    cases path with
    | none => exact Outcome.complains_of_failure (by decide)
    | some path => exact complains_fileOutcome (by decide) (fun _ => rfl) _
  | rm path =>
    cases path with
    | none => exact Outcome.complains_of_failure (by decide)
    | some path => exact complains_fileOutcome (by decide) (fun _ => rfl) _
  | echo text => exact complains_echo s text
  | grep pattern path =>
    cases pattern with
    | none => exact Outcome.complains_of_failure (by decide)
    | some pattern =>
      cases path with
      | none => exact Outcome.complains_of_failure (by decide)
      | some path =>
        refine complains_fileOutcome (by decide) (fun lines => ?_) _
        split <;> rfl
  | «export» text => exact Machine.complains_setEnv text _
  | kill pid => exact Machine.complains_kill pid _
  | package manager args => exact Machine.complains_package manager args _
  | signup raw =>
    cases raw with
    | none => exact Outcome.complains_of_failure (by decide)
    | some raw => rw [dispatch_signup]
  | login raw =>
    cases raw with
    | none => exact Outcome.complains_of_failure (by decide)
    | some raw => rw [dispatch_login]
  | logout => rw [dispatch_logout]
  | sync => rw [dispatch_sync]

end

/-! ## Account commands -/

variable {s : Scene Pair} {now : Instant} {threshold : UInt32}

/-- A line or a command leaves a desk without an identity service on a device that can be relied
on; and if it complains, the snapshots cannot be read. -/
structure Owns (r : Outcome × Scene Pair) : Prop where
  standalone : r.2.desk.Standalone
  barred : r.1.complains = true → r.2.desk.link.depot.device.Barred

theorem owns_onDesk {act : Action AccountError (Desk Pair) (List String)}
    (h : Desk.Blames (act s.desk)) : Owns (s.onDesk act) := by
  refine ⟨h.standalone, fun hcomplains => ?_⟩
  rcases hact : act s.desk with ⟨e | lines, d⟩
  · rw [hact] at h
    rw [onDesk_of_error hact] at hcomplains ⊢
    obtain ⟨key, reason, rfl⟩ := (AccountError.complains_failure_message_iff e).1 hcomplains
    exact h.barred key reason rfl
  · rw [onDesk_of_ok hact, Outcome.complains_of_ok rfl] at hcomplains
    cases hcomplains

theorem complains_sync (s : Scene Pair) : (s.onDesk Desk.sync).1.complains = false := by
  rcases hsync : Desk.sync s.desk with ⟨e | lines, d⟩
  · have hcases := Desk.cases_sync s.desk
    rw [hsync] at hcases
    rw [onDesk_of_error hsync]
    rcases hcases with ⟨lines, hok⟩ | herror | herror
    · cases hok
    · cases herror
      exact Outcome.complains_of_failure (by decide)
    · cases herror
      exact Outcome.complains_of_failure (by decide)
  · rw [onDesk_of_ok hsync]
    exact Outcome.complains_of_ok rfl

theorem desk_buy (s : Scene Pair) (id : String) :
    (s.buy id).2.desk = { s.desk with progress := (s.buy id).2.desk.progress } := by
  unfold buy
  split <;> rfl

theorem owns_dispatch (h : s.desk.Standalone) (threshold : UInt32) (line : String) (now : Instant)
    (c : Command.Simple) : Owns (s.dispatch threshold line now c) := by
  have hcomplains := s.complains_dispatch threshold line now c
  have hdesk := s.desk_dispatch threshold line now c
  have hquiet : (s.dispatch threshold line now c).1.complains = false →
      (s.dispatch threshold line now c).2.desk.Standalone →
      Owns (s.dispatch threshold line now c) := by
    intro hfalse hstandalone
    refine ⟨hstandalone, fun htrue => ?_⟩
    rw [hfalse] at htrue
    cases htrue
  cases c with
  | signup raw =>
    cases raw with
    | none => exact hquiet hcomplains (hdesk ▸ h)
    | some raw =>
      rw [dispatch_signup]
      exact owns_onDesk (Desk.blames_signup h raw now)
  | login raw =>
    cases raw with
    | none => exact hquiet hcomplains (hdesk ▸ h)
    | some raw =>
      rw [dispatch_login]
      exact owns_onDesk (Desk.blames_login h raw now)
  | logout =>
    rw [dispatch_logout]
    exact owns_onDesk (Desk.blames_logout h now)
  | sync =>
    refine hquiet (hcomplains.trans s.complains_sync) ?_
    rw [hdesk]
    exact Desk.standalone_sync h
  | buy id =>
    cases id with
    | none => exact hquiet hcomplains (hdesk ▸ h)
    | some id =>
      refine hquiet hcomplains ?_
      rw [hdesk]
      dsimp only
      rw [desk_buy]
      exact ⟨h.identity, h.device⟩
  | _ => exact hquiet hcomplains (hdesk ▸ h)

/-- A command that does not need the snapshots does not complain, and changes nothing on the
device. -/
theorem dispatch_of_not_consults {c : Command.Simple}
    (hc : c.consults s.progress.account = false) (threshold : UInt32) (line : String)
    (now : Instant) :
    (s.dispatch threshold line now c).1.complains = false ∧
      (s.dispatch threshold line now c).2.desk.link.depot.device = s.desk.link.depot.device := by
  have hcomplains := s.complains_dispatch threshold line now c
  have hdesk := s.desk_dispatch threshold line now c
  have hsame : ∀ {act : Action AccountError (Desk Pair) (List String)} {e : AccountError},
      act s.desk = (.error e, s.desk) → (∀ key reason, e ≠ .store (.corrupt key reason)) →
      (s.onDesk act).1.complains = false ∧
        (s.onDesk act).2.desk.link.depot.device = s.desk.link.depot.device := by
    intro act e hact he
    rw [onDesk_of_error hact]
    refine ⟨?_, rfl⟩
    rw [Bool.eq_false_iff]
    intro hcomplains
    obtain ⟨key, reason, hkey⟩ := (AccountError.complains_failure_message_iff e).1 hcomplains
    exact he key reason hkey
  cases c with
  | signup raw =>
    cases raw with
    | none => exact ⟨hcomplains, by rw [hdesk]⟩
    | some raw =>
      have hraw : Username.valid? raw = none := by simpa [Command.Simple.consults] using hc
      rw [dispatch_signup]
      exact hsame (Desk.signup_of_invalid hraw now s.desk) (by simp)
  | login raw =>
    cases raw with
    | none => exact ⟨hcomplains, by rw [hdesk]⟩
    | some raw =>
      rw [dispatch_login]
      cases hraw : Username.valid? raw with
      | none => exact hsame (Desk.login_of_invalid hraw now s.desk) (by simp)
      | some name =>
        have hin : s.desk.progress.account.map Account.username = some name := by
          simpa [Command.Simple.consults, hraw, progress] using hc
        rw [onDesk_of_ok (Desk.login_of_signedIn hraw hin now)]
        exact ⟨Outcome.complains_of_ok rfl, rfl⟩
  | logout =>
    have hguest : s.desk.progress.account = none := by
      simpa [Command.Simple.consults, progress] using hc
    rw [dispatch_logout]
    exact hsame (Desk.logout_of_guest hguest now) (by simp)
  | sync => exact ⟨hcomplains.trans s.complains_sync, by rw [hdesk]; exact Desk.device_sync _⟩
  | buy id =>
    cases id with
    | none => exact ⟨hcomplains, by rw [hdesk]⟩
    | some id =>
      refine ⟨hcomplains, ?_⟩
      rw [hdesk]
      dsimp only
      rw [desk_buy]
  | _ => exact ⟨hcomplains, by rw [hdesk]⟩

/-- While the snapshots cannot be read, a command that needs them fails for that, and nothing is
changed. -/
theorem dispatch_of_consults (h : s.desk.Standalone) (hbarred : s.desk.link.depot.device.Barred)
    {c : Command.Simple} (hc : c.consults s.progress.account = true) (threshold : UInt32)
    (line : String) (now : Instant) :
    s.dispatch threshold line now c =
      (.failure s.desk.link.depot.objection.message, s) := by
  unfold Command.Simple.consults at hc
  split at hc
  · rename_i raw
    obtain ⟨name, hraw⟩ := Option.isSome_iff_exists.1 hc
    rw [dispatch_signup, onDesk_of_error (Desk.signup_of_barred h hbarred hraw now)]
    rfl
  · rename_i raw
    obtain ⟨name, hraw, hne⟩ := (Option.any_eq_true ..).1 hc
    have hname : s.desk.progress.account.map Account.username ≠ some name := by
      simpa [progress] using hne
    rw [dispatch_login, onDesk_of_error (Desk.login_of_barred h hbarred hraw hname now)]
    rfl
  · rw [dispatch_logout, onDesk_of_error (Desk.logout_of_barred h hbarred hc now)]
    rfl
  · cases hc

/-! ## Lines -/

/-- What is answered is entered into the log, which no store is asked for. -/
theorem Owns.logged {o o' : Outcome} (h : Owns (o, s))
    (ho : o'.complains = true → o.complains = true) (p : Progress) : Owns (o', s.withProgress p) :=
  ⟨⟨h.standalone.identity, h.standalone.device⟩, fun hcomplains => h.barred (ho hcomplains)⟩

theorem owns_execute (h : s.desk.Standalone) (threshold : UInt32) (line : String) (now : Instant) :
    Owns (s.execute threshold line now) := by
  cases hempty : (Text.trimmed line).isEmpty with
  | true =>
    rw [execute_of_isEmpty s threshold now hempty]
    exact ⟨h, fun hcomplains => by rw [Outcome.complains_of_ok rfl] at hcomplains; cases hcomplains⟩
  | false =>
    obtain ⟨c, hparse⟩ : ∃ c, Command.parse (Text.trimmed line) = c := ⟨_, rfl⟩
    have hexecute := s.execute_eq threshold now hempty hparse
    cases c with
    | simple c =>
      have howns := owns_dispatch h threshold (Text.trimmed line) now c
      dsimp only [perform] at hexecute
      rw [hexecute]
      exact howns.logged id _
    | pipeline left pattern =>
      have howns := owns_dispatch h threshold (Text.trimmed line) now left
      dsimp only [perform] at hexecute
      rw [hexecute]
      exact howns.logged Outcome.complains_of_filter _

/-- While the snapshots cannot be read, a line complains exactly if it needs them and the words of
the reader about them pass its filter, and they stay as they are. -/
theorem execute_of_barred (h : s.desk.Standalone) (hbarred : s.desk.link.depot.device.Barred)
    (threshold : UInt32) (line : String) (now : Instant) :
    (s.execute threshold line now).1.complains =
        (Command.parse (Text.trimmed line)).consults s.progress.account
          s.desk.link.depot.objection.message ∧
      (s.execute threshold line now).2.desk.link.depot.device = s.desk.link.depot.device := by
  cases hempty : (Text.trimmed line).isEmpty with
  | true =>
    rw [execute_of_isEmpty s threshold now hempty, Command.parse_of_isEmpty hempty]
    exact ⟨Outcome.complains_of_ok rfl, rfl⟩
  | false =>
    obtain ⟨c, hparse⟩ : ∃ c, Command.parse (Text.trimmed line) = c := ⟨_, rfl⟩
    have hexecute := s.execute_eq threshold now hempty hparse
    have hcorrupt : (Outcome.failure s.desk.link.depot.objection.message).complains = true :=
      (Outcome.complains_failure _).trans (StoreError.startsWith_message_corrupt _ _)
    rw [hparse]
    cases c with
    | simple c =>
      dsimp only [perform] at hexecute
      rw [hexecute]
      cases hc : c.consults s.progress.account with
      | false =>
        obtain ⟨hquiet, hdevice⟩ :=
          dispatch_of_not_consults hc threshold (Text.trimmed line) now
        exact ⟨hquiet.trans hc.symm, hdevice⟩
      | true =>
        rw [dispatch_of_consults h hbarred hc]
        exact ⟨hcorrupt.trans hc.symm, rfl⟩
    | pipeline left pattern =>
      dsimp only [perform] at hexecute
      rw [hexecute]
      cases hc : left.consults s.progress.account with
      | false =>
        obtain ⟨hquiet, hdevice⟩ :=
          dispatch_of_not_consults hc threshold (Text.trimmed line) now
        refine ⟨?_, hdevice⟩
        rw [Command.consults, hc, Bool.false_and, Bool.eq_false_iff]
        intro hcomplains
        rw [Outcome.complains_of_filter hcomplains] at hquiet
        cases hquiet
      | true =>
        rw [dispatch_of_consults h hbarred hc]
        refine ⟨?_, rfl⟩
        dsimp only
        rw [Outcome.complains_filter_failure, hcorrupt, Command.consults, hc]

end Scene

end Questline
