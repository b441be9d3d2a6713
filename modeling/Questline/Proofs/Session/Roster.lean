import Questline.Proofs.Session.Alone
import Questline.Proofs.Session.Everywhere
set_option autoImplicit false

/-!
# The accounts of a device

What befalls a fleet, seen from one device that works and has no identity service.  Its games
change by `Roster.Step`, whatever the other devices and the cloud do meanwhile.  So who has left
an account finds the game as it was left when logging in again, and a name that has signed up is
taken from then on.
-/

namespace Questline

open Time (Instant)

namespace Roster

/-! ## Steps -/

/-- What befalls the games of a device. -/
inductive Step : Option Move → Roster → Roster → Prop
  | turn {m : Option Move} {x x' : Roster} (h : Turn m x x') : Step m x x'
  /-- A session opens with the game that is kept, or with a guest's. -/
  | opens {x : Roster} {p : Progress} (h : p.account = x.kept.bind Progress.account) :
      Step none x { x with played := some p }
  | drops (x : Roster) : Step none x { x with played := none }
  | closes {x : Roster} {p : Progress} (hx : x.played = some p) :
      Step none x ⟨none, some p, x.snapshots⟩

/-- The player is not signed in, and the snapshot is this one. -/
structure Away (user : String) (p : Progress) (x : Roster) : Prop where
  snapshot : x.snapshots.get? (Account.local user).cacheKey = some p
  played : ∀ q, x.played = some q → q.account ≠ some (.local user)
  kept : ∀ q, x.kept = some q → q.account ≠ some (.local user)

/-- The name has a snapshot. -/
def Knows (user : String) (x : Roster) : Prop :=
  (x.snapshots.get? (Account.local user).cacheKey).isSome

variable {m : Option Move} {x x' : Roster} {user : String} {p : Progress}

/-- After a move its player is playing. -/
theorem Turn.account_eq {m : Move} (h : Turn (some m) x x') (hp : x'.played = some p) :
    p.account = m.account := by
  cases h with
  | line _ _ h =>
    cases hp
    exact h.account_eq

/-- Where no move is made, the snapshots stay. -/
theorem Step.snapshots_eq (h : Step none x x') : x'.snapshots = x.snapshots := by
  cases h with
  | turn hturn =>
    cases hturn with
    | blank => rfl
    | line _ _ hswitch => exact hswitch.snapshots_eq
  | opens | drops | closes => rfl

/-- Whoever gives way to another player is away. -/
theorem Turn.away (h : Turn m x x') (hx : x.played = some p) (hp : p.account = some (.local user))
    (hleft : ∀ q, x'.played = some q → q.account ≠ some (.local user)) : x'.Away user p := by
  cases h with
  | blank => exact absurd hp (hleft p hx)
  | @line _ _ _ p' _ hx' _ h =>
    have hgone : p'.account ≠ some (.local user) := hleft p' rfl
    have hnow : ∀ q, some p' = some q → q.account ≠ some (.local user) := by
      rintro _ ⟨⟩
      exact hgone
    rw [Option.some.inj (hx.symm.trans hx')] at hp ⊢
    exact ⟨h.snapshot_of_leaving hp hgone, hnow, hnow⟩

/-- The name of a player who signs up has a snapshot. -/
theorem Turn.knows (h : Turn (some (.joins user)) x x') : x'.Knows user := by
  cases h with
  | line _ _ h => exact h.isSome_of_joins

/-- Until the player logs in, no step ends the absence. -/
theorem Away.step (h : x.Away user p) (hstep : Step m x x') (hm : m ≠ some (.returns user)) :
    x'.Away user p := by
  cases hstep with
  | turn hturn =>
    cases hturn with
    | blank => exact h
    | @line _ _ _ p' _ hx hlocal hswitch =>
      obtain ⟨hsnapshot, hne⟩ := hswitch.away hm hlocal h.snapshot (h.played _ hx)
      have hnow : ∀ q, some p' = some q → q.account ≠ some (.local user) := by
        rintro _ ⟨⟩
        exact hne
      exact ⟨hsnapshot, hnow, hnow⟩
  | opens hopened =>
    refine ⟨h.snapshot, fun q hq => ?_, h.kept⟩
    rw [← Option.some.inj hq, hopened]
    cases hkept : x.kept with
    | none => exact nofun
    | some k => exact h.kept k hkept
  | drops =>
    refine ⟨h.snapshot, ?_, h.kept⟩
    rintro _ ⟨⟩
  | closes hx =>
    refine ⟨h.snapshot, ?_, ?_⟩
    · rintro _ ⟨⟩
    · rintro _ ⟨⟩
      exact h.played _ hx

/-- No step takes a snapshot away. -/
theorem Knows.step (h : x.Knows user) (hstep : Step m x x') : x'.Knows user := by
  cases hstep with
  | turn hturn =>
    cases hturn with
    | blank => exact h
    | line _ hlocal hswitch => exact hswitch.isSome_snapshot hlocal h
  | opens | drops | closes => exact h

end Roster

/-! ## A device in a fleet -/

/-- The device works, what is open on it has no identity service, and these are its games. -/
structure Device.Shows (d : Device) (x : Roster) : Prop where
  store : d.store.Records x.kept x.snapshots
  played : d.session.map Session.progress = x.played
  alone : ∀ s, d.session = some s →
    s.scene.desk.identity = false ∧ s.progress.Local ∧ s.courier.waiting = none

namespace Fleet

/-- A line is run on the device. -/
def running (name line : String) (now : Instant) : Incident := .event (.act name (.run line now))

/-- Nothing is opened on the device with an identity service, and its store does not fail. -/
def Incident.IsLocal (name : String) : Incident → Prop
  | .event (.act other (.enter _ services _ _)) => other = name → services.identity = false
  | .device other .. => other ≠ name
  | _ => True

/-- It happens on the device. -/
def Incident.IsOn (name : String) : Incident → Prop
  | .event (.act other _) | .event (.elapse other) | .device other .. => other = name
  | _ => False

theorem Incident.IsOn.cases {name : String} {i : Incident} (h : i.IsOn name) :
    (∃ st, i = .event (.act name st)) ∨ i = .event (.elapse name) ∨
      ∃ r w m, i = .device name r w m := by
  unfold IsOn at h
  split at h
  · exact .inl ⟨_, by rw [h]⟩
  · exact .inr (.inl (by rw [h]))
  · exact .inr (.inr ⟨_, _, _, by rw [h]⟩)
  · exact h.elim

/-- The move that is made on the device. -/
def move? (f : Fleet) (name : String) : Incident → Option Move
  | .event (.act other (.run line now)) =>
    if other = name then (f.session? name).bind fun s => s.move? line now else none
  | _ => none

/-- Who is signed in on the device. -/
def account? (f : Fleet) (name : String) : Option Account :=
  (f.session? name).bind fun s => s.progress.account

/-- Every incident of a course finds the fleet as it should. -/
def Meanwhile (P : Fleet → Incident → Prop) : Fleet → List Incident → Prop
  | _, [] => True
  | f, i :: is => P f i ∧ Meanwhile P (f.befall i) is

variable {f : Fleet} {name : String} {x : Roster} {now : Instant}

/-! ### What other devices do -/

theorem device_act_of_ne {other : String} (hne : name ≠ other) (st : Step) :
    (f.act other st).2.device name = f.device name := by
  have habsorb : ∀ (p : Pair) (session : Option (Session Pair)),
      (f.absorb other p session).device name = f.device name := device_absorb_of_ne f hne
  have hstays : st.Stays → (f.act other st).2.device name = f.device name := by
    intro hst
    cases hs : f.session? other with
    | none => rw [act_of_no_session hs hst]
    | some s => rw [act_of_session hs hst, habsorb]
  cases st with
  | enter settings services tree now =>
    change (f.enter other settings services tree now).2.device name = _
    unfold Fleet.enter
    rcases Session.enter settings services now (f.surroundings other) with ⟨e | s, p⟩
    · exact habsorb _ _
    · exact habsorb _ _
  | close =>
    cases hs : f.session? other with
    | none => rw [act_close_of_no_session hs]
    | some s => rw [act_close_of_session hs, habsorb]
  | drop =>
    cases hs : f.session? other with
    | none => rw [act_drop_of_no_session hs]
    | some s => rw [act_drop_of_session hs, habsorb]
  | _ => exact hstays trivial

theorem device_elapse_of_ne {other : String} (hne : name ≠ other) :
    (f.elapse other).device name = f.device name := by
  cases hs : f.session? other with
  | none => rw [elapse_of_no_session hs]
  | some s => rw [elapse_of_session hs, device_absorb_of_ne f hne]

/-- What happens elsewhere leaves the device alone. -/
theorem device_befall_of_not_isOn {i : Incident} (h : ¬ i.IsOn name) :
    (f.befall i).device name = f.device name := by
  cases i with
  | event e =>
    cases e with
    | act other st => exact device_act_of_ne (f := f.turned) (Ne.symm h) st
    | elapse other => exact device_elapse_of_ne (Ne.symm h)
    | wait millis => rfl
    | online online => rfl
  | device other r w m => exact device_absorb_of_ne f (Ne.symm h) ⟨_, f.cloud, f.clock, f.wording⟩ _
  | cloud r w m => rfl
  | tick clock => rfl

theorem move?_of_not_isOn {i : Incident} (h : ¬ i.IsOn name) : f.move? name i = none := by
  unfold move?
  split
  · exact if_neg h
  · rfl

/-! ### What happens on the device -/

/-- An open session shows the games in the surroundings of its device. -/
theorem shows_session? (h : (f.device name).Shows x) {s : Session Pair}
    (hs : f.session? name = some s) : s.Shows x := by
  unfold Fleet.session? at hs
  obtain ⟨s', hs', rfl⟩ := Option.map_eq_some_iff.1 hs
  obtain ⟨hidentity, hown, hwaiting⟩ := h.alone s' hs'
  have hplayed := h.played
  rw [hs', Option.map_some] at hplayed
  exact ⟨⟨hidentity, rfl, hown, h.store⟩, hplayed.symm, hwaiting⟩

/-- A session leaves its games to the device. -/
theorem shows_absorb_session {s : Session Pair} (h : s.Shows x) :
    ((f.absorb name s.depot (some s)).device name).Shows x := by
  rw [device_absorb_self]
  refine ⟨h.desk.device, h.played.symm, fun s' hs' => ?_⟩
  rw [← Option.some.inj hs']
  exact ⟨h.desk.identity, h.desk.own, h.waiting⟩

theorem shows_absorb_none {p : Pair} {kept : Option Progress} {c : Keyed Progress}
    (h : p.device.Records kept c) :
    ((f.absorb name p none).device name).Shows ⟨none, kept, c⟩ := by
  rw [device_absorb_self]
  exact ⟨h, rfl, fun _ => nofun⟩

theorem exists_step_enter (h : (f.device name).Shows x) (settings : Settings) {services : Services}
    (hservices : services.identity = false) (tree : Option Node) (hnow : now.Valid) :
    ∃ x', Roster.Step none x x' ∧
      ((f.enter name settings services tree now).2.device name).Shows x' := by
  have hstore : (f.surroundings name).device.Records x.kept x.snapshots := h.store
  have henter := Session.enter_of_records hstore settings services now
  have hleft := leftBehind_of_idle fun s hs => (h.alone s hs).2.2
  rw [enter_snd (congrArg Prod.snd henter), henter, hleft]
  have hgame : ((x.kept.map Progress.repair).getD (.fresh now)).Local ∧
      ((x.kept.map Progress.repair).getD (.fresh now)).account = x.kept.bind Progress.account := by
    cases hkept : x.kept with
    | none => exact ⟨.fresh hnow, rfl⟩
    | some k =>
      have hown := h.store.own k hkept
      exact ⟨hown.of_account hown.toStorable.repair k.account_repair, k.account_repair⟩
  generalize (x.kept.map Progress.repair).getD (.fresh now) = q at hgame ⊢
  refine ⟨_, .opens hgame.2, ?_⟩
  rw [device_absorb_self]
  refine ⟨hstore, ?_, fun s hs => ?_⟩
  · cases tree <;> rfl
  · rw [← Option.some.inj hs]
    cases tree <;> exact ⟨hservices, hgame.1, rfl⟩

/-- Who is signed in is told by the game that is played. -/
theorem account?_eq (h : (f.device name).Shows x) :
    f.account? name = x.played.bind Progress.account := by
  rw [← h.played, account?]
  unfold Fleet.session?
  cases (f.device name).session <;> rfl

/-- The turn of a line that is run on the device. -/
theorem exists_turn_run (h : (f.device name).Shows x) {s : Session Pair}
    (hs : f.session? name = some s) (line : String) (hnow : now.Valid) :
    ∃ x', Roster.Turn (s.move? line now) x x' ∧
      ((f.act name (.run line now)).2.device name).Shows x' := by
  obtain ⟨x', hturn, hshows⟩ := (shows_session? h hs).execute hnow line f.moment
  have hstays : (Step.run line now).Stays := trivial
  rw [act_of_session hs hstays, stepSession_run]
  exact ⟨x', hturn, shows_absorb_session hshows⟩

/-- The turn leaves the session open, and does not look at the number of the step. -/
theorem exists_turn_befall (h : (f.device name).Shows x) {s : Session Pair}
    (hs : f.session? name = some s) (line : String) (hnow : now.Valid) :
    ∃ x' s', Roster.Turn (s.move? line now) x x' ∧
      ((f.befall (running name line now)).device name).Shows x' ∧
      (f.befall (running name line now)).session? name = some s' := by
  have hs₁ : f.turned.session? name = some s := hs
  obtain ⟨x', hturn, hshows⟩ := exists_turn_run (f := f.turned) h hs₁ line hnow
  obtain ⟨s', hs'⟩ : ∃ s', (f.turned.act name (.run line now)).2.session? name = some s' := by
    have hstays : (Step.run line now).Stays := trivial
    rw [act_of_session hs₁ hstays]
    unfold Fleet.session?
    rw [device_absorb_self, Option.map_some]
    exact ⟨_, rfl⟩
  exact ⟨x', s', hturn, hshows, hs'⟩

/-- After a move its player is playing on the device. -/
theorem exists_turn_of_move (h : (f.device name).Shows x) {s : Session Pair}
    (hs : f.session? name = some s) {line : String} {m : Move}
    (hmove : s.move? line now = some m) (hnow : now.Valid) :
    ∃ x' s', ((f.befall (running name line now)).device name).Shows x' ∧
      (f.befall (running name line now)).session? name = some s' ∧
      s'.progress.account = m.account := by
  obtain ⟨x', s', hturn, hshows, hs'⟩ := exists_turn_befall h hs line hnow
  rw [hmove] at hturn
  exact ⟨x', s', hshows, hs', hturn.account_eq (shows_session? hshows hs').played⟩

/-- What a device does is a step of its games. -/
theorem exists_step_act (h : (f.device name).Shows x) {st : Step} (hnow : st.Timely)
    (hlocal : Incident.IsLocal name (.event (.act name st))) :
    ∃ x', Roster.Step (f.move? name (.event (.act name st))) x x' ∧
      ((f.act name st).2.device name).Shows x' := by
  cases st with
  | enter settings services tree now => exact exists_step_enter h settings (hlocal rfl) tree hnow
  | run line now =>
    have hstays : (Step.run line now).Stays := trivial
    rw [move?, if_pos rfl]
    cases hs : f.session? name with
    | none =>
      rw [act_of_no_session hs hstays]
      exact ⟨x, .turn (.blank x), h⟩
    | some s =>
      obtain ⟨x', hturn, hshows⟩ := exists_turn_run h hs line hnow
      exact ⟨x', .turn hturn, hshows⟩
  | resume now =>
    have hstays : (Step.resume now).Stays := trivial
    cases hs : f.session? name with
    | none =>
      rw [act_of_no_session hs hstays]
      exact ⟨x, .turn (.blank x), h⟩
    | some s =>
      obtain ⟨x', hturn, hshows⟩ := (shows_session? h hs).resume hnow f.moment
      rw [act_of_session hs hstays, stepSession_resume]
      exact ⟨x', .turn hturn, shows_absorb_session hshows⟩
  | retry =>
    have hstays : Step.retry.Stays := trivial
    refine ⟨x, .turn (.blank x), ?_⟩
    cases hs : f.session? name with
    | none =>
      rw [act_of_no_session hs hstays]
      exact h
    | some s =>
      have hshows := shows_session? h hs
      rw [act_of_session hs hstays, stepSession_retry, Session.retryPending_of_none hshows.profileId?]
      exact shows_absorb_session hshows
  | notices =>
    have hstays : Step.notices.Stays := trivial
    refine ⟨x, .turn (.blank x), ?_⟩
    cases hs : f.session? name with
    | none =>
      rw [act_of_no_session hs hstays]
      exact h
    | some s =>
      have hshows := shows_session? h hs
      rw [act_of_session hs hstays]
      exact shows_absorb_session (s := { s with notices := [] })
        ⟨hshows.desk, hshows.played, hshows.waiting⟩
  | close =>
    cases hs : f.session? name with
    | none =>
      rw [act_close_of_no_session hs]
      exact ⟨x, .turn (.blank x), h⟩
    | some s =>
      have hshows := shows_session? h hs
      rw [act_close_of_session hs]
      exact ⟨_, .closes hshows.played, shows_absorb_none hshows.close⟩
  | drop =>
    cases hs : f.session? name with
    | none =>
      rw [act_drop_of_no_session hs]
      exact ⟨x, .turn (.blank x), h⟩
    | some s =>
      have hshows := shows_session? h hs
      rw [act_drop_of_session hs,
        Session.drop_of_idle hshows.waiting]
      exact ⟨_, .drops x, shows_absorb_none hshows.desk.device⟩

/-- Whatever befalls the fleet is a step of the games of the device. -/
theorem exists_step_befall (h : (f.device name).Shows x) {i : Incident} (hi : i.Timely)
    (hlocal : i.IsLocal name) :
    ∃ x', Roster.Step (f.move? name i) x x' ∧ ((f.befall i).device name).Shows x' := by
  by_cases hon : i.IsOn name
  · rcases hon.cases with ⟨st, rfl⟩ | rfl | ⟨r, w, m, rfl⟩
    · exact exists_step_act (f := f.turned) h hi hlocal
    · refine ⟨x, .turn (.blank x), ?_⟩
      change ((f.elapse name).device name).Shows x
      cases hs : f.session? name with
      | none =>
        rw [elapse_of_no_session hs]
        exact h
      | some s =>
        have hshows := shows_session? h hs
        rw [elapse_of_session hs, Session.elapse_of_idle hshows.waiting]
        exact shows_absorb_session hshows
    · exact absurd rfl hlocal
  · rw [move?_of_not_isOn hon, device_befall_of_not_isOn hon]
    exact ⟨x, .turn (.blank x), h⟩

/-- What every step keeps is kept by all that befalls the fleet, when some moves are not made. -/
theorem exists_roster_undergo {Q : Roster → Prop} {R : Option Move → Prop}
    (hQ : ∀ {m x x'}, Q x → R m → Roster.Step m x x' → Q x') {is : List Incident}
    (h : (f.device name).Shows x) (hx : Q x) (his : ∀ i ∈ is, i.Timely)
    (hlocal : ∀ i ∈ is, i.IsLocal name) (hmoves : f.Meanwhile (fun f i => R (f.move? name i)) is) :
    ∃ x', Q x' ∧ ((f.undergo is).device name).Shows x' := by
  induction is generalizing f x with
  | nil => exact ⟨x, hx, h⟩
  | cons i is ih =>
    obtain ⟨x', hstep, hshows⟩ :=
      exists_step_befall h (his i List.mem_cons_self) (hlocal i List.mem_cons_self)
    exact ih hshows (hQ hx hmoves.1 hstep) (fun j hj => his j (List.mem_cons_of_mem _ hj))
      (fun j hj => hlocal j (List.mem_cons_of_mem _ hj)) hmoves.2

theorem meanwhile_of_forall {P : Fleet → Incident → Prop} (hP : ∀ f i, P f i) (f : Fleet)
    (is : List Incident) : f.Meanwhile P is := by
  induction is generalizing f with
  | nil => trivial
  | cons i is ih => exact ⟨hP f i, ih _⟩

theorem shows_founded (naming : Nat → String) (clock : Instant) (wording : Wording) (name : String) :
    ((founded naming clock wording).device name).Shows .empty :=
  ⟨.empty, rfl, fun _ => nofun⟩

-- Both are proved by rewriting: a proof by `rfl` would have runs compared by evaluating them.

theorem undergo_nil (f : Fleet) : f.undergo [] = f := by
  rw [undergo, List.foldl_nil]

theorem undergo_cons (f : Fleet) (i : Incident) (is : List Incident) :
    f.undergo (i :: is) = (f.befall i).undergo is := by
  rw [undergo, List.foldl_cons, undergo]

theorem undergo_append (f : Fleet) (is js : List Incident) :
    f.undergo (is ++ js) = (f.undergo is).undergo js := List.foldl_append

end Fleet

/-! ## Commands of those who are known -/

theorem Command.Simple.asks?_eq_joins_iff {cmd : Command.Simple} {user : String} :
    cmd.asks? = some (.joins user) ↔
      ∃ raw, cmd = .signup (some raw) ∧ Username.valid? raw = some user := by
  constructor
  · intro h
    unfold asks? at h
    split at h
    · rename_i raw
      exact ⟨raw, rfl, by simpa using h⟩
    · simp at h
    · cases h
    · cases h
  · rintro ⟨raw, rfl, hraw⟩
    rw [asks?, hraw, Option.map_some]

theorem Command.Simple.asks?_eq_returns_iff {cmd : Command.Simple} {user : String} :
    cmd.asks? = some (.returns user) ↔
      ∃ raw, cmd = .login (some raw) ∧ Username.valid? raw = some user := by
  constructor
  · intro h
    unfold asks? at h
    split at h
    · simp at h
    · rename_i raw
      exact ⟨raw, rfl, by simpa using h⟩
    · cases h
    · cases h
  · rintro ⟨raw, rfl, hraw⟩
    rw [asks?, hraw, Option.map_some]

namespace Session

variable {s : Session Pair} {x : Roster} {user line : String} {p : Progress}

/-- A line makes no other move than the one it asks for. -/
theorem asks?_of_move? {m : Move} {now : Instant} (h : s.move? line now = some m) :
    (Command.parse (Text.trimmed line)).first.asks? = some m := by
  unfold move? Outcome.makes? at h
  split at h
  · exact h
  · cases h

/-- A line whose command is about accounts is logged in the game that the command leaves. -/
theorem progress_execute_of_asks (s : Session Pair) {m : Move}
    (h : (Command.parse (Text.trimmed line)).first.asks? = some m) (now : Instant) :
    (s.scene.execute s.settings.threshold line now).2.progress =
      (s.answer line now).2.progress.logCommand (Text.trimmed line)
        (s.scene.execute s.settings.threshold line now).1.text now := by
  have hline : (Text.trimmed line).isEmpty = false := by
    cases hb : (Text.trimmed line).isEmpty with
    | false => rfl
    | true =>
      rw [Command.parse_of_isEmpty hb] at h
      cases h
  obtain ⟨o, after, hexecute, -, hafter⟩ := s.scene.exists_execute s.settings.threshold now hline
  rw [hexecute, answer, ← hafter]
  rfl

/-- Who comes back finds the snapshot. -/
theorem Shows.answer_of_away (h : s.Shows x) (hx : x.Away user p)
    (hp : p.account = some (.local user))
    (hasks : (Command.parse (Text.trimmed line)).first.asks? = some (.returns user))
    (now : Instant) :
    (s.answer line now).1.status = .ok ∧ (s.answer line now).2.progress = p := by
  obtain ⟨raw, hcommand, hraw⟩ := Command.Simple.asks?_eq_returns_iff.1 hasks
  have hlogin := Desk.login_of_ne h.desk hraw (hx.played _ h.played) now
  obtain ⟨lines, d, hd, hdesk⟩ := Desk.loginLocal_of_isSome h.desk hx.snapshot
  rw [answer, hcommand, Scene.dispatch_login, Scene.onDesk_of_ok (hlogin.trans hd)]
  exact ⟨rfl, hdesk.game.trans (Progress.withAccount_eq_self hp)⟩

/-- A free name is given to whoever asks for it. -/
theorem Shows.move?_of_free (h : s.Shows x)
    (hasks : (Command.parse (Text.trimmed line)).first.asks? = some (.joins user))
    (hfree : x.snapshots.get? (Account.local user).cacheKey = none) {now : Instant}
    (hnow : now.Valid) : s.move? line now = some (.joins user) := by
  obtain ⟨raw, hcommand, hraw⟩ := Command.Simple.asks?_eq_joins_iff.1 hasks
  obtain ⟨lines, d, hd, -⟩ := Desk.signup_of_isNone h.desk hraw hfree hnow
  rw [move?, hasks, answer, hcommand, Scene.dispatch_signup, Scene.onDesk_of_ok hd]
  rfl

/-- Who is signed in can leave. -/
theorem Shows.move?_of_logout (h : s.Shows x)
    (hlogout : (Command.parse (Text.trimmed line)).first = .logout)
    (hin : s.progress.account.isSome) {now : Instant} (hnow : now.Valid) :
    s.move? line now = some .leaves := by
  obtain ⟨lines, d, hd, -⟩ := Desk.logout_of_isSome h.desk hin hnow
  rw [move?, answer, hlogout, Scene.dispatch_logout, Scene.onDesk_of_ok hd]
  rfl

/-- A name that has a snapshot is taken. -/
theorem Shows.signup_of_knows (h : s.Shows x) (hx : x.Knows user) {raw : String}
    (hraw : Username.valid? raw = some user) (now : Instant) :
    Desk.signup raw now s.scene.desk = (.error (.usernameTaken user), s.scene.desk) :=
  Desk.signup_of_isSome h.desk hraw hx now

end Session

namespace Fleet

/-- The move that is made on the device by a line is the one that the line asks for. -/
theorem asks?_of_move? {f : Fleet} {name line : String} {now : Instant} {m : Move}
    (h : f.move? name (running name line now) = some m) :
    (Command.parse (Text.trimmed line)).first.asks? = some m := by
  rw [running, move?, if_pos rfl] at h
  obtain ⟨s, -, hs⟩ := Option.bind_eq_some_iff.1 h
  exact Session.asks?_of_move? hs

/-! ## Accounts are kept -/

/-- A player who has left the device finds the game again as it was, whatever has befallen the
fleet since; and a name that has signed up stays taken. -/
theorem local_accounts_kept (naming : Nat → String) (clock : Instant) (wording : Wording)
    {name user line : String} {now : Instant} {before later : List Incident} {s s' : Session Pair}
    (htimely : ∀ i ∈ before ++ running name line now :: later, i.Timely)
    (hlocal : ∀ i ∈ before ++ running name line now :: later, i.IsLocal name)
    (hs : ((founded naming clock wording).undergo before).session? name = some s)
    (hs' : ((founded naming clock wording).undergo
      (before ++ running name line now :: later)).session? name = some s') :
    let after := ((founded naming clock wording).undergo before).befall (running name line now)
    (s.progress.account = some (.local user) → after.account? name ≠ some (.local user) →
      after.Meanwhile (fun f i => f.move? name i ≠ some (.returns user)) later →
      ∀ line' now', (Command.parse (Text.trimmed line')).first.asks? = some (.returns user) →
        (s'.answer line' now').1.status = .ok ∧ (s'.answer line' now').2.progress = s.progress ∧
        (s'.scene.execute s'.settings.threshold line' now').2.progress =
          s.progress.logCommand (Text.trimmed line')
            (s'.scene.execute s'.settings.threshold line' now').1.text now') ∧
    (s.move? line now = some (.joins user) →
      ∀ raw now', Username.valid? raw = some user →
        Desk.signup raw now' s'.scene.desk = (.error (.usernameTaken user), s'.scene.desk)) := by
  intro after
  obtain ⟨htimely₁, hturn, htimely₂⟩ :
      (∀ i ∈ before, i.Timely) ∧ now.Valid ∧ ∀ i ∈ later, i.Timely := by
    simpa [or_imp, forall_and, running, Incident.Timely, Event.Timely, Step.Timely] using htimely
  obtain ⟨hlocal₁, -, hlocal₂⟩ :
      (∀ i ∈ before, i.IsLocal name) ∧ True ∧ ∀ i ∈ later, i.IsLocal name := by
    simpa [or_imp, forall_and, running, Incident.IsLocal] using hlocal
  rw [undergo_append] at hs'
  obtain ⟨x, -, hx⟩ := exists_roster_undergo (Q := fun _ => True) (R := fun _ => True)
    (fun _ _ _ => trivial) (shows_founded naming clock wording name) trivial htimely₁ hlocal₁
    (meanwhile_of_forall (fun _ _ => trivial) _ _)
  obtain ⟨x₁, -, hmoved, hx₁, -⟩ := exists_turn_befall hx hs line hturn
  have hplayed := (shows_session? hx hs).played
  constructor
  · intro hp hleft hmeanwhile line' now' hasks
    have haway : x₁.Away user s.progress := by
      refine hmoved.away hplayed hp fun q hq heq => hleft ?_
      rw [account?_eq hx₁, hq]
      exact heq
    obtain ⟨x₂, haway₂, hx₂⟩ := exists_roster_undergo (R := (· ≠ some (.returns user)))
      (fun hx hm hstep => hx.step hstep hm) hx₁ haway htimely₂ hlocal₂ hmeanwhile
    obtain ⟨hok, hgame⟩ := (shows_session? hx₂ hs').answer_of_away haway₂ hp hasks now'
    refine ⟨hok, hgame, ?_⟩
    rw [Session.progress_execute_of_asks s' hasks now', hgame]
  · intro hjoins raw now' hraw
    rw [hjoins] at hmoved
    obtain ⟨x₂, hknows, hx₂⟩ := exists_roster_undergo (R := fun _ => True)
      (fun hx _ hstep => hx.step hstep) hx₁ hmoved.knows htimely₂ hlocal₂
      (meanwhile_of_forall (fun _ _ => trivial) _ _)
    exact (shows_session? hx₂ hs').signup_of_knows hknows hraw now'

/-- A session without a cloud is opened on the device. -/
def opening (name : String) (now : Instant) : Incident :=
  .event (.act name (.enter .initial ⟨false, false⟩ none now))

/-- A player signs up on a device and logs out, and then another one signs up. -/
def household : List Incident :=
  [opening "a" ⟨0, 0⟩, running "a" "signup hero" ⟨1, 0⟩, running "a" "logout" ⟨2, 0⟩,
    running "a" "signup wizard" ⟨3, 0⟩]

/-- The game is there for the player who comes back, and the name is taken. -/
theorem local_accounts_kept_household :
    (∀ i ∈ household, i.Timely) ∧ (∀ i ∈ household, i.IsLocal "a") ∧
    ∃ s s' : Session Pair,
      ((founded (fun _ => "p") ⟨0, 0⟩ .silent).undergo
        [opening "a" ⟨0, 0⟩, running "a" "signup hero" ⟨1, 0⟩]).session? "a" = some s ∧
      ((founded (fun _ => "p") ⟨0, 0⟩ .silent).undergo household).session? "a" = some s' ∧
      s.progress.account = some (.local "hero") ∧
      ((founded (fun _ => "p") ⟨0, 0⟩ .silent).undergo [opening "a" ⟨0, 0⟩,
        running "a" "signup hero" ⟨1, 0⟩, running "a" "logout" ⟨2, 0⟩]).account? "a" = none ∧
      (s'.answer "login hero" ⟨4, 0⟩).2.progress = s.progress ∧
      Desk.signup "hero" ⟨4, 0⟩ s'.scene.desk = (.error (.usernameTaken "hero"), s'.scene.desk) := by
  have htimely : ∀ i ∈ household, i.Timely := by decide +kernel
  have hlocal : ∀ i ∈ household, i.IsLocal "a" := by
    simp [household, opening, running, Incident.IsLocal]
  have hhero : Username.valid? "hero" = some "hero" := Username.valid?_eq_some_self (by decide)
  have hsignup : (Command.parse (Text.trimmed "signup hero")).first.asks? = some (.joins "hero") :=
    Command.Simple.asks?_eq_joins_iff.2 ⟨"hero", by decide +kernel, hhero⟩
  have hlogin : (Command.parse (Text.trimmed "login hero")).first.asks? = some (.returns "hero") :=
    Command.Simple.asks?_eq_returns_iff.2 ⟨"hero", by decide +kernel, hhero⟩
  have hlogout : (Command.parse (Text.trimmed "logout")).first = .logout := by decide +kernel
  have hother : (Command.parse (Text.trimmed "signup wizard")).first = .signup (some "wizard") := by
    decide +kernel
  -- The device is opened, and nobody is known there yet.
  obtain ⟨s₁, hs₁⟩ : ∃ s, ((founded (fun _ => "p") ⟨0, 0⟩ .silent).befall
      (opening "a" ⟨0, 0⟩)).session? "a" = some s := Option.isSome_iff_exists.1 (by decide +kernel)
  obtain ⟨x₁, hopened, hx₁⟩ := exists_step_befall (i := opening "a" ⟨0, 0⟩)
    (shows_founded (fun _ => "p") ⟨0, 0⟩ .silent "a") (by decide) fun _ => rfl
  have hfree : x₁.snapshots.get? (Account.local "hero").cacheKey = none := by
    rw [Roster.Step.snapshots_eq hopened]
    rfl
  have hjoins := (shows_session? hx₁ hs₁).move?_of_free hsignup hfree
    (by decide : Instant.Valid ⟨1, 0⟩)
  -- The player signs up, and leaves.
  obtain ⟨x₂, s₂, hx₂, hs₂, hhere⟩ := exists_turn_of_move hx₁ hs₁ hjoins (by decide)
  have hleaves := (shows_session? hx₂ hs₂).move?_of_logout hlogout (by rw [hhere]; rfl)
    (by decide : Instant.Valid ⟨2, 0⟩)
  obtain ⟨x₃, s₃, hx₃, hs₃, hguest⟩ := exists_turn_of_move hx₂ hs₂ hleaves (by decide)
  have hgone := account?_eq hx₃
  rw [(shows_session? hx₃ hs₃).played, Option.bind_some, hguest, Move.account] at hgone
  -- Somebody else signs up, who does not log in as the player.
  obtain ⟨x₄, s₄, -, -, hs₄⟩ :=
    exists_turn_befall hx₃ hs₃ "signup wizard" (by decide : Instant.Valid ⟨3, 0⟩)
  have haway : ∀ f : Fleet, f.move? "a" (running "a" "signup wizard" ⟨3, 0⟩) ≠
      some (.returns "hero") := by
    intro f hmove
    obtain ⟨raw, hcommand, -⟩ := Command.Simple.asks?_eq_returns_iff.1 (asks?_of_move? hmove)
    cases hother.symm.trans hcommand
  -- The runs are split into their incidents, and nothing of them is evaluated.
  have hkept := @local_accounts_kept (fun _ => "p") ⟨0, 0⟩ .silent "a" "hero" "logout" ⟨2, 0⟩
    [opening "a" ⟨0, 0⟩, running "a" "signup hero" ⟨1, 0⟩] [running "a" "signup wizard" ⟨3, 0⟩]
    s₂ s₄ htimely hlocal
  simp only [List.cons_append, List.nil_append, undergo_cons, undergo_nil] at hkept
  have htaken := @local_accounts_kept (fun _ => "p") ⟨0, 0⟩ .silent "a" "hero" "signup hero" ⟨1, 0⟩
    [opening "a" ⟨0, 0⟩] [running "a" "logout" ⟨2, 0⟩, running "a" "signup wizard" ⟨3, 0⟩]
    s₁ s₄ htimely hlocal
  simp only [List.cons_append, List.nil_append, undergo_cons, undergo_nil] at htaken
  refine ⟨htimely, hlocal, s₂, s₄, ?_⟩
  rw [household]
  simp only [undergo_cons, undergo_nil]
  have hback := (hkept hs₂ hs₄).1 hhere (by rw [hgone]; exact nofun) ⟨haway _, trivial⟩
    "login hero" ⟨4, 0⟩ hlogin
  exact ⟨hs₂, hs₄, hhere, hgone, hback.2.1, (htaken hs₁ hs₄).2 hjoins "hero" ⟨4, 0⟩ hhero⟩

end Fleet

end Questline
