import Questline.Proofs.Progress.Ledger
import Questline.Proofs.Session.Kept
import Questline.Proofs.Session.Roster
set_option autoImplicit false

/-!
# The ledger of a device

What a device has told a guest, turn after turn and however often its session was opened again,
adds up to what the guest's game has.  Every turn, every return and every opening finds the game
that balances with what was told before and leaves the one that balances with what is told since.
-/

namespace Questline

open Time (Instant)

variable {l : Ledger} {now : Instant}

/-! ## What is told -/

/-- The upgrade that a command has bought. -/
def Outcome.buys? (o : Outcome) : Command.Simple → Option Upgrade
  | .buy (some id) => if o.status = .ok then Upgrade.ofId? id else none
  | _ => none

theorem Outcome.buys?_of_ok {o : Outcome} (h : o.status = .ok) (id : String) :
    o.buys? (.buy (some id)) = Upgrade.ofId? id := if_pos h

theorem Outcome.buys?_of_ne_ok {o : Outcome} (h : o.status ≠ .ok) (id : String) :
    o.buys? (.buy (some id)) = none := if_neg h

/-- What a turn tells: the quests that it completes and the upgrade that its line has bought. -/
def Turn.receipt (line : String) (t : Turn) : Ledger :=
  ⟨t.evaluation.completed, [],
    (t.outcome.buys? (Command.parse (Text.trimmed line)).first).toList⟩

/-- What coming back reports. -/
def Session.report? {w : Type} (s : Session w) (now : Instant) : Option AwayReport :=
  (s.progress.accrueOffline now s.settings.coinsPerHour).1

/-! ## Lines -/

namespace Scene

variable {s : Scene Pair}

/-- What has been carried out leaves a game that balances with what the command has bought, and
has not reached the stores. -/
def Accounts (r : Outcome × Scene Pair) (c : Command.Simple) (l : Ledger) (link : Link Pair) :
    Prop :=
  r.2.progress.Booked (l ++ ⟨[], [], (r.1.buys? c).toList⟩) ∧ r.2.desk.link = link

theorem accounts_of_same {r : Outcome × Scene Pair} {c : Command.Simple}
    (h : s.progress.Booked l) (hquiet : r.1.buys? c = none) (hdesk : r.2.desk = s.desk) :
    Accounts r c l s.desk.link := by
  rw [Accounts, hquiet, progress, hdesk]
  exact ⟨(Ledger.append_empty l).symm ▸ h, rfl⟩

/-- Who is refused at the desk has bought nothing, and changes nothing. -/
theorem accounts_onDesk (h : s.progress.Booked l) {c : Command.Simple}
    (hquiet : ∀ o : Outcome, o.buys? c = none)
    {act : Action AccountError (Desk Pair) (List String)} {e : AccountError}
    (hrefused : act s.desk = (.error e, s.desk)) :
    Accounts (s.onDesk act) c l s.desk.link := by
  rw [onDesk_of_error hrefused]
  exact accounts_of_same h (hquiet _) rfl

/-- Buying is accounted for if it succeeds. -/
theorem accounts_buy (h : s.progress.Booked l) (id : String) :
    Accounts (s.buy id) (.buy (some id)) l s.desk.link := by
  unfold buy
  cases hp : s.progress.purchase id with
  | ok r =>
    obtain ⟨u, p⟩ := r
    obtain ⟨hid, hbooked⟩ := h.purchase hp
    dsimp only
    rw [Accounts, Outcome.buys?_of_ok rfl, hid]
    exact ⟨hbooked, rfl⟩
  | error e =>
    dsimp only
    have hfailed : (Outcome.failure e.message).status ≠ .ok := nofun
    rw [Accounts, Outcome.buys?_of_ne_ok hfailed]
    exact ⟨(Ledger.append_empty l).symm ▸ h, rfl⟩

/-- A guest has nothing in the cloud to ask for. -/
theorem sync_of_guest (h : s.progress.account = none) :
    (Desk.sync s.desk).2 = s.desk := by
  rw [Desk.snd_sync, show s.desk.progress.account = none from h]
  rfl

/-- Every command that is not about accounts is accounted for. -/
theorem accounts_dispatch (h : s.progress.Booked l) (threshold : UInt32) (line : String)
    (now : Instant) {c : Command.Simple} (hc : c.asks? = none) :
    Accounts (s.dispatch threshold line now c) c l s.desk.link := by
  have hdesk := s.desk_dispatch threshold line now
  cases c with
  | signup raw =>
    cases raw with
    | none => exact accounts_of_same h rfl (hdesk (.signup none))
    | some raw =>
      rw [Command.Simple.asks?, Option.map_eq_none_iff] at hc
      rw [dispatch_signup]
      exact accounts_onDesk h (fun _ => rfl) (Desk.signup_of_invalid hc now s.desk)
  | login raw =>
    cases raw with
    | none => exact accounts_of_same h rfl (hdesk (.login none))
    | some raw =>
      rw [Command.Simple.asks?, Option.map_eq_none_iff] at hc
      rw [dispatch_login]
      exact accounts_onDesk h (fun _ => rfl) (Desk.login_of_invalid hc now s.desk)
  | logout => cases hc
  | sync => exact accounts_of_same h rfl ((hdesk .sync).trans (sync_of_guest h.guest))
  | buy id =>
    cases id with
    | none => exact accounts_of_same h rfl (hdesk (.buy none))
    | some id => exact accounts_buy h id
  | _ => exact accounts_of_same h rfl (hdesk _)

theorem accounts_execute (h : s.progress.Booked l) (threshold : UInt32) {line : String}
    (hnow : now.Valid) (hempty : (Text.trimmed line).isEmpty = false)
    (hline : (Command.parse (Text.trimmed line)).first.asks? = none) :
    Accounts (s.execute threshold line now) (Command.parse (Text.trimmed line)).first l
      s.desk.link := by
  obtain ⟨o, after, hexecute, hstatus, hafter⟩ := s.exists_execute threshold now hempty
  have hdispatch := accounts_dispatch h threshold (Text.trimmed line) now hline
  rw [hexecute]
  generalize (Command.parse (Text.trimmed line)).first = c at hstatus hafter hdispatch ⊢
  generalize s.dispatch threshold (Text.trimmed line) now c = r at hstatus hafter hdispatch
  obtain ⟨hbooked, hlink⟩ := hdispatch
  have hbuys : o.buys? c = r.1.buys? c := by
    cases c with
    | buy id => cases id <;> simp only [Outcome.buys?, hstatus]
    | _ => rfl
  rw [← hafter, ← hbuys] at hbooked
  rw [← hafter] at hlink
  have hlogged := hbooked.logCommand (Text.trimmed line) o.text hnow
  generalize after.progress.logCommand (Text.trimmed line) o.text now = logged at hlogged ⊢
  exact ⟨hlogged, hlink⟩

end Scene

/-! ## Stores -/

/-- The store can be relied on and has a game that balances with the ledger, or nothing at all
when nothing has been told. -/
structure Memory.Books (l : Ledger) (m : Memory) : Prop extends m.Reliable where
  kept : (l = .empty ∧ m.entries.get? Saves.stateKey = none) ∨
    ∃ q : Progress, q.Booked l ∧ m.entries.get? Saves.stateKey = some q.toText

theorem Memory.books_put {p : Pair} {q : Progress} (hq : q.Booked l) (hp : p.device.Reliable) :
    (p.put .device Saves.stateKey q.toText).device.Books l :=
  ⟨hp.put _ _, .inr ⟨q, hq, p.get?_put_self .device _ _⟩⟩

namespace Session

/-! ## Sessions -/

variable {s : Session Pair} {moment : Moment}

/-- The session plays a game that balances with the ledger, on a store that has one. -/
structure Books (l : Ledger) (s : Session Pair) : Prop where
  game : s.progress.Booked l
  waiting : s.courier.waiting = none
  store : s.depot.device.Books l

theorem Books.profileId? (h : s.Books l) : s.profileId? = none := by
  rw [Session.profileId?, h.game.guest]
  rfl

/-- Settling keeps the game, and nothing waits for the courier. -/
theorem books_settle (h : s.progress.Booked l) (hwaiting : s.courier.waiting = none)
    (hstore : s.depot.device.Reliable) (hnow : now.Valid) : (s.settle now moment).Books l := by
  have hgame := h.touch hnow
  have hdepot := depot_settle_of_reliable hstore now moment
  refine ⟨?_, ?_, ?_⟩
  · rw [progress_settle]
    exact hgame
  · unfold settle scheduleAutosave
    rw [show ((s.withProgress (s.progress.touch now)).persist).progress.account = none from h.guest]
    exact hwaiting
  · rw [hdepot]
    exact Memory.books_put hgame hstore

/-- A turn that is not about accounts leaves a game that balances with what it has told. -/
theorem Books.execute (h : s.Books l) (hnow : now.Valid) {line : String}
    (hline : (Command.parse (Text.trimmed line)).first.asks? = none) (moment : Moment) :
    (s.execute line now moment).2.Books (l ++ (s.execute line now moment).1.receipt line) := by
  cases hempty : (Text.trimmed line).isEmpty with
  | true =>
    have hblank := isBlankText_of_trimmed hempty
    have hreceipt : (s.execute line now moment).1.receipt line = .empty := by
      rw [Turn.receipt, evaluation_execute_of_blank s now moment hblank,
        Command.parse_of_isEmpty hempty]
      rfl
    rw [hreceipt, Ledger.append_empty, execute_snd_eq_self_of_blank s now moment hblank]
    exact h
  | false =>
    have hblank := not_isBlankText_of_trimmed hempty
    have haccounts := Scene.accounts_execute (s := s.scene) h.game s.settings.threshold hnow hempty
      hline
    rw [Turn.receipt, outcome_execute, evaluation_execute s now moment hblank,
      execute_snd s now moment hblank]
    generalize s.scene.execute s.settings.threshold line now = executed at haccounts ⊢
    obtain ⟨o, scene⟩ := executed
    obtain ⟨hbooked, hlink⟩ := haccounts
    dsimp only at hbooked hlink ⊢
    have hjudged := hbooked.evaluate s.settings.threshold scene.fs hnow
    generalize scene.progress.evaluate s.settings.threshold scene.fs now = judged at hjudged ⊢
    rw [Ledger.append_assoc] at hjudged
    have hstore : scene.desk.link.depot.device.Reliable := by
      rw [hlink]
      exact h.store.toReliable
    have hentry (bought : List Upgrade) (completed : List Completed) :
        (⟨[], [], bought⟩ ++ ⟨completed, [], []⟩ : Ledger) = ⟨completed, [], bought⟩ :=
      congrArg (Ledger.mk completed []) bought.append_nil
    rw [hentry] at hjudged
    obtain ⟨evaluation, p⟩ := judged
    exact books_settle (s := { s with scene := scene.withProgress p }) hjudged h.waiting hstore hnow

/-- Coming back leaves a game that balances with what it has reported. -/
theorem Books.resume (h : s.Books l) (hnow : now.Valid) (moment : Moment) :
    (s.resume now moment).2.Books (l ++ ⟨[], (s.report? now).toList, []⟩) := by
  have hgame := h.game.accrueOffline hnow s.settings.coinsPerHour
  rw [resume_snd_of_none h.profileId?]
  exact books_settle (hgame.updateStreak hnow) h.waiting h.store.toReliable hnow

/-- Closing keeps the game. -/
theorem Books.close (h : s.Books l) : s.close.device.Books l := by
  rw [close_of_idle h.waiting h.store.toReliable]
  exact Memory.books_put h.game h.store.toReliable

/-- A session that is opened goes on with the game that is kept, or begins a new one. -/
theorem exists_enter_of_books {p : Pair} (h : p.device.Books l) (settings : Settings)
    (services : Services) (hnow : now.Valid) :
    ∃ q : Progress, q.Booked l ∧
      enter settings services now p = (.ok (start settings services p q), p) := by
  rcases h.kept with ⟨rfl, hnone⟩ | ⟨q, hq, htext⟩
  · refine ⟨.fresh now, .fresh hnow, ?_⟩
    unfold enter
    rw [Saves.load_pair, h.reads, hnone]
    rfl
  · refine ⟨q, hq, ?_⟩
    rw [enter_of_text hq.toStorable h.reads htext, hq.toInPlay.repair_eq_self]

end Session

namespace Fleet

/-! ## Fleets -/

/-- The step is not about accounts. -/
def Step.IsPlain : Step → Prop
  | .run line _ => (Command.parse (Text.trimmed line)).first.asks? = none
  | _ => True

/-- What the step tells in a session. -/
def Step.receipt (s : Session Pair) (moment : Moment) : Step → Ledger
  | .run line now => (s.execute line now moment).1.receipt line
  | .resume now => ⟨[], (s.report? now).toList, []⟩
  | _ => .empty

/-- No line that is run on the device is about accounts, and its store does not fail. -/
def Incident.IsPlain (name : String) : Incident → Prop
  | .event (.act other st) => other = name → st.IsPlain
  | .device other .. => other ≠ name
  | _ => True

instance : DecidablePred Step.IsPlain
  | .run line _ =>
    inferInstanceAs (Decidable ((Command.parse (Text.trimmed line)).first.asks? = none))
  | .enter .. | .resume _ | .retry | .notices | .close | .drop => .isTrue trivial

instance (name : String) : DecidablePred (Incident.IsPlain name)
  | .event (.act other st) => inferInstanceAs (Decidable (other = name → st.IsPlain))
  | .device other .. => inferInstanceAs (Decidable (other ≠ name))
  | .event (.elapse _) | .event (.wait _) | .event (.online _) => .isTrue trivial
  | .cloud .. | .tick _ => .isTrue trivial

/-- What a step tells on a device. -/
def told (f : Fleet) (name : String) (st : Step) : Ledger :=
  ((f.session? name).map fun s => st.receipt s f.moment).getD .empty

/-- What an incident tells on a device. -/
def receipt (f : Fleet) (name : String) : Incident → Ledger
  | .event (.act other st) =>
    if other = name then f.turned.told name st else .empty
  | _ => .empty

/-- All that is told on a device. -/
def ledger (name : String) : Fleet → List Incident → Ledger
  | _, [] => .empty
  | f, i :: is => f.receipt name i ++ ledger name (f.befall i) is

end Fleet

/-- The device has a game that balances with the ledger, and so plays one if a session is open. -/
structure Device.Books (l : Ledger) (d : Device) : Prop where
  store : d.store.Books l
  session : ∀ s, d.session = some s → s.progress.Booked l ∧ s.courier.waiting = none

namespace Fleet

variable {f : Fleet} {name : String} {s : Session Pair}

theorem books_session? (h : (f.device name).Books l) (hs : f.session? name = some s) :
    s.Books l := by
  unfold Fleet.session? at hs
  obtain ⟨s', hs', rfl⟩ := Option.map_eq_some_iff.1 hs
  obtain ⟨hgame, hwaiting⟩ := h.session s' hs'
  exact ⟨hgame, hwaiting, h.store⟩

theorem books_absorb (h : s.Books l) : ((f.absorb name s.depot (some s)).device name).Books l := by
  rw [device_absorb_self]
  refine ⟨h.store, fun s' hs' => ?_⟩
  rw [← Option.some.inj hs']
  exact ⟨h.game, h.waiting⟩

theorem books_absorb_none {p : Pair} (h : p.device.Books l) :
    ((f.absorb name p none).device name).Books l := by
  rw [device_absorb_self]
  exact ⟨h, fun _ => nofun⟩

/-- A session that stays open balances with what the step has told besides. -/
theorem books_stepSession (h : s.Books l) (moment : Moment) {st : Step} (hst : st.Stays)
    (hnow : st.Timely) (hplain : st.IsPlain) :
    (stepSession s moment st).2.Books (l ++ st.receipt s moment) := by
  cases st with
  | run line now =>
    rw [stepSession_run]
    exact h.execute hnow hplain moment
  | resume now =>
    rw [stepSession_resume]
    exact h.resume hnow moment
  | retry =>
    rw [stepSession_retry, Session.retryPending_of_none h.profileId?]
    exact (Ledger.append_empty l).symm ▸ h
  | notices => exact (Ledger.append_empty l).symm ▸ ⟨h.game, h.waiting, h.store⟩
  | _ => exact hst.elim

/-- A session opens on the device, and nothing is told. -/
theorem exists_books_enter (h : (f.device name).Books l) (settings : Settings)
    (services : Services) (tree : Option Node) (hnow : now.Valid) :
    ∃ s, ((f.enter name settings services tree now).2.device name).session = some s ∧
      ((f.enter name settings services tree now).2.device name).Books l := by
  have hstore : (f.surroundings name).device.Books l := h.store
  obtain ⟨q, hq, henter⟩ := Session.exists_enter_of_books hstore settings services hnow
  have hleft := leftBehind_of_idle fun s hs => (h.session s hs).2
  rw [enter_snd (congrArg Prod.snd henter), henter, hleft, device_absorb_self]
  refine ⟨_, rfl, hstore, fun s hs => ?_⟩
  rw [← Option.some.inj hs]
  cases tree <;> exact ⟨hq, rfl⟩

/-- What a device does leaves it balanced with what it has told. -/
theorem books_act (h : (f.device name).Books l) {st : Step} (hnow : st.Timely)
    (hplain : st.IsPlain) : ((f.act name st).2.device name).Books (l ++ f.told name st) := by
  have hstays : st.Stays → ((f.act name st).2.device name).Books (l ++ f.told name st) := by
    intro hst
    unfold told
    cases hs : f.session? name with
    | none =>
      rw [act_of_no_session hs hst]
      exact (Ledger.append_empty l).symm ▸ h
    | some s =>
      rw [act_of_session hs hst]
      exact books_absorb (books_stepSession (books_session? h hs) f.moment hst hnow hplain)
  have hquiet : (∀ s, st.receipt s f.moment = .empty) → f.told name st = .empty := by
    intro hreceipt
    unfold told
    cases f.session? name with
    | none => rfl
    | some s => exact hreceipt s
  cases st with
  | enter settings services tree now =>
    rw [hquiet fun _ => rfl, Ledger.append_empty]
    exact (exists_books_enter h settings services tree hnow).elim fun _ hs => hs.2
  | close =>
    rw [hquiet fun _ => rfl, Ledger.append_empty]
    cases hs : f.session? name with
    | none =>
      rw [act_close_of_no_session hs]
      exact h
    | some s =>
      rw [act_close_of_session hs]
      exact books_absorb_none (books_session? h hs).close
  | drop =>
    rw [hquiet fun _ => rfl, Ledger.append_empty]
    cases hs : f.session? name with
    | none =>
      rw [act_drop_of_no_session hs]
      exact h
    | some s =>
      have hbooks := books_session? h hs
      rw [act_drop_of_session hs, Session.drop_of_idle hbooks.waiting]
      exact books_absorb_none hbooks.store
  | _ => exact hstays trivial

theorem receipt_of_not_isOn {i : Incident} (h : ¬ i.IsOn name) : f.receipt name i = .empty := by
  unfold receipt
  split
  · exact if_neg h
  · rfl

/-- Whatever befalls the fleet, the device is balanced with what it has told. -/
theorem books_befall (h : (f.device name).Books l) {i : Incident} (hi : i.Timely)
    (hplain : i.IsPlain name) : ((f.befall i).device name).Books (l ++ f.receipt name i) := by
  by_cases hon : i.IsOn name
  · rcases hon.cases with ⟨st, rfl⟩ | rfl | ⟨r, w, m, rfl⟩
    · rw [receipt, if_pos rfl]
      exact books_act (f := f.turned) h hi (hplain rfl)
    · change ((f.elapse name).device name).Books (l ++ .empty)
      rw [Ledger.append_empty]
      cases hs : f.session? name with
      | none =>
        rw [elapse_of_no_session hs]
        exact h
      | some s =>
        have hbooks := books_session? h hs
        rw [elapse_of_session hs, Session.elapse_of_idle hbooks.waiting]
        exact books_absorb hbooks
    · exact absurd rfl hplain
  · rw [receipt_of_not_isOn hon, Ledger.append_empty, device_befall_of_not_isOn hon]
    exact h

theorem exists_session_opening (h : (f.device name).Books l) (hnow : now.Valid) :
    ∃ s, ((f.befall (opening name now)).device name).session = some s := by
  obtain ⟨s, hs, -⟩ := exists_books_enter (f := f.turned) h .initial ⟨false, false⟩ none hnow
  exact ⟨s, hs⟩

theorem books_undergo {is : List Incident} (his : ∀ i ∈ is, i.Timely)
    (hplain : ∀ i ∈ is, i.IsPlain name) {l : Ledger} {f : Fleet} (h : (f.device name).Books l) :
    ((f.undergo is).device name).Books (l ++ ledger name f is) := by
  induction is generalizing l f with
  | nil =>
    rw [undergo_nil, ledger, Ledger.append_empty]
    exact h
  | cons i is ih =>
    have hstep := books_befall h (his i List.mem_cons_self) (hplain i List.mem_cons_self)
    rw [undergo_cons, ledger, ← Ledger.append_assoc]
    exact ih (fun j hj => his j (List.mem_cons_of_mem _ hj))
      (fun j hj => hplain j (List.mem_cons_of_mem _ hj)) hstep

theorem books_founded (naming : Nat → String) (clock : Instant) (wording : Wording) (name : String) :
    ((founded naming clock wording).device name).Books .empty :=
  ⟨⟨⟨rfl, rfl⟩, .inl ⟨rfl, Keyed.get?_empty _⟩⟩, fun _ => nofun⟩

/-- However long a guest has played on a device, and however often the session was opened again:
the coins are what quests and reports have given, less what upgrades have cost, as long as that
fits into the word in which they are counted; the experience and every skill are what quests have
given; and no quest has been announced twice. -/
theorem ledger_balances (naming : Nat → String) (clock : Instant) (wording : Wording) {name : String}
    {is : List Incident} (his : ∀ i ∈ is, i.Timely) (hplain : ∀ i ∈ is, i.IsPlain name)
    {s : Session Pair}
    (hs : (((founded naming clock wording).undergo is).device name).session = some s) :
    let l := ledger name (founded naming clock wording) is
    (l.balance < 0x10000000000000000 → (s.progress.player.coins.toNat : Int) = l.balance) ∧
      s.progress.player.totalXp.toNat = l.xp ∧
      (∀ k, (s.progress.player.skills.get k).toNat = l.skill k) ∧ l.quests.Nodup := by
  intro l
  have hbooks := books_undergo his hplain (books_founded naming clock wording name)
  have hgame := (hbooks.session s hs).1
  rw [Ledger.empty_append] at hgame
  have haccounts := hgame.accounts
  refine ⟨haccounts.coins_eq_balance, ?_, haccounts.skills, hgame.distinct⟩
  have hample := hgame.ample
  have hlength : Quest.catalog.length ≤ 100 := by decide
  have hxp := haccounts.xp
  rw [Player.toNat_totalXp (by omega), hxp]

/-- A player completes a quest, is away for ten hours, spends some of what that has earned, and
leaves. -/
def holiday : List Incident :=
  [opening "a" ⟨0, 0⟩, running "a" "pwd" ⟨60, 0⟩, .event (.act "a" (.resume ⟨36060, 0⟩)),
    running "a" "buy hint-boost" ⟨36061, 0⟩, .event (.act "a" .close)]

/-- The session that is opened after that has what is left. -/
theorem ledger_balances_holiday :
    let is := holiday ++ [opening "a" ⟨40000, 0⟩]
    (∀ i ∈ is, i.Timely) ∧ (∀ i ∈ is, i.IsPlain "a") ∧
      (ledger "a" (founded (fun _ => "p") ⟨0, 0⟩ .silent) is).quests = ["plains-pwd"] ∧
      ∃ s, (((founded (fun _ => "p") ⟨0, 0⟩ .silent).undergo is).device "a").session = some s ∧
        s.progress.player.coins.toNat = 6 + 80 - 25 ∧ s.progress.player.totalXp.toNat = 20 := by
  intro is
  have his : ∀ i ∈ is, i.Timely := by decide +kernel
  have hplain : ∀ i ∈ is, i.IsPlain "a" := by decide +kernel
  obtain ⟨hbalance, hxp, hquests⟩ :
      (ledger "a" (founded (fun _ => "p") ⟨0, 0⟩ .silent) is).balance = 6 + 80 - 25 ∧
        (ledger "a" (founded (fun _ => "p") ⟨0, 0⟩ .silent) is).xp = 20 ∧
        (ledger "a" (founded (fun _ => "p") ⟨0, 0⟩ .silent) is).quests = ["plains-pwd"] := by
    decide +kernel
  -- The save is not read by evaluating: what is kept is known to be read back.
  have htimely : ∀ i ∈ holiday, i.Timely := fun i hi => his i (List.mem_append_left _ hi)
  have hleft := books_undergo htimely (fun i hi => hplain i (List.mem_append_left _ hi))
    (books_founded (fun _ => "p") ⟨0, 0⟩ .silent "a")
  obtain ⟨s, hs⟩ : ∃ s, (((founded (fun _ => "p") ⟨0, 0⟩ .silent).undergo is).device "a").session =
      some s := by
    rw [undergo_append, undergo_cons, undergo_nil]
    exact exists_session_opening hleft (by decide)
  obtain ⟨hcoins, htotal, -, -⟩ := ledger_balances (fun _ => "p") ⟨0, 0⟩ .silent his hplain hs
  have hrest := hcoins (by rw [hbalance]; decide)
  rw [hbalance] at hrest
  exact ⟨his, hplain, hquests, s, hs, by omega, htotal.trans hxp⟩

end Fleet

end Questline
