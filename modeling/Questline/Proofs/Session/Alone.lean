import Questline.Proofs.Account.Local
import Questline.Proofs.Session.Pending
set_option autoImplicit false

/-!
# Sessions of players whom only the device knows

Without an identity service a session changes nothing but its device.  Every line that is not
blank ends with the game being kept, after the switch that the line has made, if it has made
one; coming back does so without a switch; and nothing else that a session does matters to the
games.
-/

namespace Questline

open Time (Instant)

/-- The move that a command asks for. -/
def Command.Simple.asks? : Command.Simple → Option Move
  | .signup (some raw) => (Username.valid? raw).map .joins
  | .login (some raw) => (Username.valid? raw).map .returns
  | .logout => some .leaves
  | _ => none

/-- The move that is made: one that is refused is none. -/
def Outcome.makes? (o : Outcome) (m : Option Move) : Option Move :=
  if o.status = .ok then m else none

@[simp] theorem Outcome.makes?_success (lines : List String) (m : Option Move) :
    (success lines).makes? m = m := rfl

@[simp] theorem Outcome.makes?_failure (line : String) (m : Option Move) :
    (failure line).makes? m = none := rfl

@[simp] theorem Outcome.makes?_none (o : Outcome) : o.makes? none = none := ite_self _

/-! ## Commands -/

namespace Scene

variable {w : Type} {s : Scene w} {act : Action AccountError (Desk w) (List String)}

theorem onDesk_of_ok {lines : List String} {d : Desk w} (h : act s.desk = (.ok lines, d)) :
    s.onDesk act = (.success lines, { s with desk := d }) := by
  rw [onDesk, h]

theorem onDesk_of_error {e : AccountError} {d : Desk w} (h : act s.desk = (.error e, d)) :
    s.onDesk act = (.failure e.message, { s with desk := d }) := by
  rw [onDesk, h]

end Scene

namespace Scene

variable {s : Scene Pair} {p : Progress} {kept : Option Progress} {c : Keyed Progress}
  {now : Instant}

/-- The command leaves the desk after the switch that it has made. -/
def Leads (r : Outcome × Scene Pair) (asked : Option Move) (p : Progress) (kept : Option Progress)
    (c : Keyed Progress) : Prop :=
  ∃ p' c', Switch p c (r.1.makes? asked) p' c' ∧ r.2.desk.Alone p' kept c'

theorem leads_signup (h : s.desk.Alone p kept c) (hnow : now.Valid) (raw : String) :
    Leads (s.onDesk (Desk.signup raw now)) ((Username.valid? raw).map .joins) p kept c := by
  cases hraw : Username.valid? raw with
  | none =>
    rw [onDesk_of_error (Desk.signup_of_invalid hraw now s.desk)]
    exact ⟨p, c, .stay rfl, h⟩
  | some user =>
    cases hc : c.get? (Account.local user).cacheKey with
    | some q =>
      rw [onDesk_of_error (Desk.signup_of_isSome h hraw (by rw [hc, Option.isSome_some]) now)]
      exact ⟨p, c, .stay rfl, h⟩
    | none =>
      obtain ⟨lines, d, hsignup, hd⟩ := Desk.signup_of_isNone h hraw hc hnow
      rw [onDesk_of_ok hsignup]
      exact ⟨_, _, .joins hc rfl, hd⟩

theorem leads_login (h : s.desk.Alone p kept c) (raw : String) :
    Leads (s.onDesk (Desk.login raw now)) ((Username.valid? raw).map .returns) p kept c := by
  cases hraw : Username.valid? raw with
  | none =>
    rw [onDesk_of_error (Desk.login_of_invalid hraw now s.desk)]
    exact ⟨p, c, .stay rfl, h⟩
  | some user =>
    by_cases hp : p.account = some (.local user)
    · have hin : s.desk.progress.account.map Account.username = some user := by
        rw [h.game, hp]
        rfl
      rw [onDesk_of_ok (Desk.login_of_signedIn hraw hin now)]
      exact ⟨p, c, .again hp rfl, h⟩
    · have hlocal := Desk.login_of_ne h hraw hp now
      cases hc : c.get? (Account.local user).cacheKey with
      | none =>
        rw [onDesk_of_error (hlocal.trans (Desk.loginLocal_of_isNone h hc))]
        exact ⟨p, c, .stay rfl, h⟩
      | some q =>
        obtain ⟨lines, d, hlogin, hd⟩ := Desk.loginLocal_of_isSome h hc
        rw [onDesk_of_ok (hlocal.trans hlogin)]
        exact ⟨_, _, .returns rfl, hd⟩

theorem leads_logout (h : s.desk.Alone p kept c) (hnow : now.Valid) :
    Leads (s.onDesk (Desk.logout now)) (some .leaves) p kept c := by
  cases hp : p.account with
  | none =>
    rw [onDesk_of_error (Desk.logout_of_guest (h.game ▸ hp) now)]
    exact ⟨p, c, .stay rfl, h⟩
  | some account =>
    obtain ⟨lines, d, hlogout, hd⟩ := Desk.logout_of_isSome h (by rw [hp, Option.isSome_some]) hnow
    rw [onDesk_of_ok hlogout]
    exact ⟨_, _, .leaves rfl, hd⟩

/-- A purchase leaves the game to its player. -/
theorem leads_buy (h : s.desk.Alone p kept c) (id : String) :
    ∃ p' c', Switch p c none p' c' ∧ (s.buy id).2.desk.Alone p' kept c' := by
  unfold buy
  split
  · rename_i u q hq
    have hpurchase : p.purchase id = .ok (u, q) := h.game ▸ hq
    have haccount := Progress.account_purchase hpurchase
    exact ⟨q, c, .stay haccount, h.withProgress (h.own.toStorable.purchase hpurchase) haccount⟩
  · exact ⟨p, c, .stay rfl, h⟩

/-- Every command makes the move it asks for, if it succeeds. -/
theorem leads_dispatch (h : s.desk.Alone p kept c) (hnow : now.Valid) (threshold : UInt32)
    (line : String) (cmd : Command.Simple) :
    Leads (s.dispatch threshold line now cmd) cmd.asks? p kept c := by
  have hstays : cmd.asks? = none → (s.dispatch threshold line now cmd).2.desk = s.desk →
      Leads (s.dispatch threshold line now cmd) cmd.asks? p kept c := by
    intro hnone hdesk
    rw [Leads, hnone, Outcome.makes?_none, hdesk]
    exact ⟨p, c, .stay rfl, h⟩
  have hdesk := s.desk_dispatch threshold line now
  cases cmd with
  | signup raw =>
    cases raw with
    | none => exact hstays rfl (hdesk (.signup none))
    | some raw =>
      rw [dispatch_signup]
      exact leads_signup h hnow raw
  | login raw =>
    cases raw with
    | none => exact hstays rfl (hdesk (.login none))
    | some raw =>
      rw [dispatch_login]
      exact leads_login h raw
  | logout =>
    rw [dispatch_logout]
    exact leads_logout h hnow
  | buy id =>
    cases id with
    | none => exact hstays rfl (hdesk (.buy none))
    | some id =>
      have hbuy := hdesk (.buy (some id))
      dsimp only at hbuy
      rw [Leads, show Command.Simple.asks? (.buy (some id)) = none from rfl, Outcome.makes?_none,
        hbuy]
      exact leads_buy h id
  | sync =>
    refine hstays rfl ((hdesk .sync).trans ?_)
    rw [Desk.snd_sync, h.game, h.own.account]
  | _ => exact hstays rfl (hdesk _)

end Scene

/-! ## Games and snapshots of a device -/

/-- The game that is being played on a device, the one that is kept, and the snapshots. -/
structure Roster where
  played : Option Progress
  kept : Option Progress
  snapshots : Keyed Progress

namespace Roster

/-- There is nothing on a device that was never used. -/
def empty : Roster := ⟨none, none, .empty⟩

/-- What an open session makes of the games: nothing, or it has kept the game that is being
played, after a switch if a move was made. -/
inductive Turn : Option Move → Roster → Roster → Prop
  | blank (x : Roster) : Turn none x x
  | line {m : Option Move} {x : Roster} {p p' : Progress} {c' : Keyed Progress}
      (hx : x.played = some p) (hp : p.Local) (h : Switch p x.snapshots m p' c') :
      Turn m x ⟨some p', some p', c'⟩

end Roster

namespace Session

/-! ## Sessions -/

/-- What the command of a line answers and leaves, before the line is entered into the log. -/
def answer {w : Type} [Depot w] (s : Session w) (line : String) (now : Instant) :
    Outcome × Scene w :=
  s.scene.dispatch s.settings.threshold (Text.trimmed line) now
    (Command.parse (Text.trimmed line)).first

/-- The move that a line makes. -/
def move? {w : Type} [Depot w] (s : Session w) (line : String) (now : Instant) : Option Move :=
  (s.answer line now).1.makes? (Command.parse (Text.trimmed line)).first.asks?

/-- The session has no identity service, and shows the games of its device. -/
structure Shows (s : Session Pair) (x : Roster) : Prop where
  desk : s.scene.desk.Alone s.progress x.kept x.snapshots
  played : x.played = some s.progress
  waiting : s.courier.waiting = none

variable {s : Session Pair} {x : Roster} {now : Instant}

theorem Shows.profileId? (h : s.Shows x) : s.profileId? = none := h.desk.own.account

/-- Settling keeps the game. -/
theorem Shows.settle (h : s.Shows x) (hnow : now.Valid) (moment : Moment) :
    (s.settle now moment).Shows
      ⟨some (s.progress.touch now), some (s.progress.touch now), x.snapshots⟩ := by
  have hown : (s.progress.touch now).Local :=
    h.desk.own.of_account (h.desk.own.toStorable.touch hnow) rfl
  have hdepot := depot_settle s now moment
  have hdevice : s.depot.device.Records x.kept x.snapshots := h.desk.device
  rw [hdevice.save_eq] at hdepot
  have hkept : (s.settle now moment).depot.device.Records (some (s.progress.touch now))
      x.snapshots := by
    rw [hdepot]
    exact hdevice.put_state hown
  have hrest : (s.settle now moment).scene.desk.identity = false ∧
      (s.settle now moment).courier.waiting = none := by
    unfold Session.settle scheduleAutosave
    split
    · rename_i id hid
      have hnone : s.progress.account.bind Account.profileId? = some id := hid
      rw [h.desk.own.account] at hnone
      cases hnone
    · exact ⟨h.desk.identity, h.waiting⟩
  refine ⟨⟨hrest.1, rfl, ?_, ?_⟩, ?_, hrest.2⟩
  · rw [progress_settle]
    exact hown
  · exact hkept
  · rw [progress_settle]

/-- A turn makes the move of its line, and keeps the game unless the line is blank. -/
theorem Shows.execute (h : s.Shows x) (hnow : now.Valid) (line : String) (moment : Moment) :
    ∃ x', Roster.Turn (s.move? line now) x x' ∧ (s.execute line now moment).2.Shows x' := by
  cases hline : (Text.trimmed line).isEmpty with
  | true =>
    have hblank := isBlankText_of_trimmed hline
    have hmove : s.move? line now = none := by
      rw [move?, Command.parse_of_isEmpty hline]
      exact Outcome.makes?_none _
    rw [hmove, execute_snd_of_blank s now moment hblank,
      s.scene.execute_of_isEmpty s.settings.threshold now hline]
    exact ⟨x, .blank x, h⟩
  | false =>
    obtain ⟨o, after, hexecute, -, hafter⟩ :=
      s.scene.exists_execute s.settings.threshold now hline
    obtain ⟨p, c, hswitch, hdesk⟩ := Scene.leads_dispatch h.desk hnow s.settings.threshold
      (Text.trimmed line) (Command.parse (Text.trimmed line)).first
    rw [← hafter] at hdesk
    rw [execute_snd s now moment (not_isBlankText_of_trimmed hline), hexecute]
    dsimp only
    have hlogged := hdesk.own.toStorable.logCommand (Text.trimmed line) o.text hnow
    have haccount := Progress.account_logCommand p (Text.trimmed line) o.text now
    rw [Scene.progress_withProgress, Scene.fs_withProgress,
      show after.progress = p from hdesk.game]
    generalize p.logCommand (Text.trimmed line) o.text now = logged at hlogged haccount ⊢
    have hjudged := hlogged.evaluate s.settings.threshold after.fs hnow
    have hsame := Progress.account_evaluate logged s.settings.threshold after.fs now
    generalize (logged.evaluate s.settings.threshold after.fs now).2 = judged at hjudged hsame ⊢
    have hplayer := hsame.trans haccount
    have hshows : Shows ({ s with scene := after.withProgress logged }.withProgress judged)
        ⟨some judged, x.kept, c⟩ :=
      ⟨hdesk.withProgress hjudged hplayer, rfl, h.waiting⟩
    have hturn := hswitch.of_account (q := judged.touch now) hplayer
    exact ⟨_, .line h.played h.desk.own hturn, hshows.settle hnow moment⟩

/-- Coming back keeps the game. -/
theorem Shows.resume (h : s.Shows x) (hnow : now.Valid) (moment : Moment) :
    ∃ x', Roster.Turn none x x' ∧ (s.resume now moment).2.Shows x' := by
  have haway := s.progress.account_accrueOffline now s.settings.coinsPerHour
  have hstorable := h.desk.own.toStorable.accrueOffline hnow s.settings.coinsPerHour
  rw [resume_snd_of_none h.profileId?]
  generalize (s.progress.accrueOffline now s.settings.coinsPerHour).2 = q at haway hstorable ⊢
  have haccount : (q.updateStreak now).account = s.progress.account := haway
  have hshows : Shows (({ s with notices := [] } : Session Pair).withProgress (q.updateStreak now))
      ⟨some (q.updateStreak now), x.kept, x.snapshots⟩ :=
    ⟨h.desk.withProgress (hstorable.updateStreak hnow) haccount, rfl, h.waiting⟩
  have hturn : Switch s.progress x.snapshots none ((q.updateStreak now).touch now) x.snapshots :=
    .stay haccount
  exact ⟨_, .line h.played h.desk.own hturn, hshows.settle hnow moment⟩

/-- The game is kept at the end. -/
theorem Shows.close (h : s.Shows x) :
    s.close.device.Records (some s.progress) x.snapshots := by
  have hdevice : s.depot.device.Records x.kept x.snapshots := h.desk.device
  rw [close_of_idle h.waiting ⟨hdevice.reads, hdevice.writes⟩]
  exact hdevice.put_state h.desk.own

/-- A session opens with the game that is kept, or with a new one. -/
theorem enter_of_records {p : Pair} {kept : Option Progress} {c : Keyed Progress}
    (h : p.device.Records kept c) (settings : Settings) (services : Services) (now : Instant) :
    enter settings services now p =
      (.ok (start settings services p ((kept.map Progress.repair).getD (.fresh now))), p) := by
  unfold enter
  rw [h.load_eq]
  cases kept <;> rfl

end Session

end Questline
