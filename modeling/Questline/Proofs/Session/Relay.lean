import Questline.Proofs.Account.Arrival
import Questline.Proofs.Session.Convergence
import Questline.Proofs.Session.Pending
set_option autoImplicit false

/-!
# Visits that take turns

Devices that are signed in to one account are visited one after the other.  A visit opens a
session, comes back to the game, plays and leaves.  It leaves the game on its device and in the
cloud, and later than any save that another device has, so that coming back on whichever device
finds it as it was left.

What a session keeps to on the way is `Session.Carries`: the game is in order, and the cloud has
it or is about to get it.
-/

namespace Questline

open Time (Instant)

variable {username id : String} {now : Instant} {moment : Moment}

/-! ## Commands -/

/-- Everything but what changes the account. -/
def Command.Simple.Plain : Command.Simple → Prop
  | .signup _ | .login _ | .logout => False
  | _ => True

/-- A game of this account is in play, and what it is kept in does not fail. -/
structure Desk.Serves (username id : String) (d : Desk Pair) : Prop where
  game : d.progress.InPlay
  account : d.progress.account = some (.cloud username id)
  configured : d.link.configured = true
  works : d.link.depot.Works

namespace Desk

variable {d : Desk Pair}

theorem Serves.withLink (h : d.Serves username id) {l : Link Pair} (hc : l.configured = true)
    (hw : l.depot.Works) : { d with link := l }.Serves username id :=
  ⟨h.game, h.account, hc, hw⟩

theorem Serves.sync (h : d.Serves username id) : (sync d).2.Serves username id := by
  rw [snd_sync]
  split
  · exact h.withLink ((Link.configured_push ..).trans h.configured)
      (Link.keeps_push h.works (h.works.put ..))
  · exact h

theorem Serves.evaluate (h : d.Serves username id) (hnow : now.Valid) (threshold : UInt32)
    (fs : FileSystem) :
    { d with progress := (d.progress.evaluate threshold fs now).2 }.Serves username id := by
  have hgame := h.game.evaluate threshold fs hnow
  have haccount : (d.progress.evaluate threshold fs now).2.account = d.progress.account := by
    rw [Progress.evaluate_snd]
    exact (Progress.keepsRest_judgeAll d.progress Quest.catalog).account
  generalize (d.progress.evaluate threshold fs now).2 = p at hgame haccount ⊢
  exact ⟨hgame, haccount.trans h.account, h.configured, h.works⟩

end Desk

namespace Scene

variable {s : Scene Pair}

theorem serves_buy (h : s.desk.Serves username id) (upgrade : String) :
    (s.buy upgrade).2.desk.Serves username id := by
  unfold buy
  split
  · rename_i u p hp
    have haccount := (Progress.account_purchase hp).trans h.account
    exact ⟨h.game.purchase hp, haccount, h.configured, h.works⟩
  · exact h

theorem serves_dispatch (h : s.desk.Serves username id) (threshold : UInt32) (line : String)
    (now : Instant) {c : Command.Simple} (hc : c.Plain) :
    (s.dispatch threshold line now c).2.desk.Serves username id := by
  rw [desk_dispatch]
  split
  · exact serves_buy h _
  · exact hc.elim
  · exact hc.elim
  · exact hc.elim
  · exact h.sync
  · exact h

theorem serves_execute (h : s.desk.Serves username id) (hnow : now.Valid) (threshold : UInt32)
    {line : String} (hc : (Command.parse (Text.trimmed line)).first.Plain) :
    (s.execute threshold line now).2.desk.Serves username id := by
  cases hline : (Text.trimmed line).isEmpty with
  | true =>
    rw [execute_of_isEmpty s threshold now hline]
    exact h
  | false =>
    obtain ⟨o, after, hexecute, -, hafter⟩ := s.exists_execute threshold now hline
    have hdesk := serves_dispatch h threshold (Text.trimmed line) now hc
    rw [← hafter] at hdesk
    rw [hexecute]
    have hgame := hdesk.game.logCommand (Text.trimmed line) o.text hnow
    have hlogged := after.desk.progress.account_logCommand (Text.trimmed line) o.text now
    exact ⟨hgame, hlogged.trans hdesk.account, hdesk.configured, hdesk.works⟩

end Scene

/-! ## Sessions -/

namespace Session

variable {s : Session Pair}

/-- The game is in order, and the cloud has it or is about to get it. -/
structure Carries (username id : String) (s : Session Pair) : Prop where
  desk : s.scene.desk.Serves username id
  current : s.Current id
  /-- The cloud only lacks what waits. -/
  lacks : s.courier.waiting = none → s.link.pending = false

/-- Where nothing fails the game is kept on the device. -/
theorem depot_persist (h : s.depot.Works) :
    s.persist.depot = s.depot.put .device Saves.stateKey s.progress.toText := by
  have hdepot : s.persist.depot =
      ((Saves.save s.progress : Action StoreError Pair Unit) s.depot).2 := rfl
  have hwrites : ¬ (s.depot.side .device).failsWrite = true := by
    rw [show (s.depot.side .device).failsWrite = false from h.writes]
    exact Bool.false_ne_true
  rw [hdepot, Saves.save, Depot.save_pair, if_neg hwrites]

/-- Settling keeps the game and has it sent. -/
theorem carries_settle (h : s.scene.desk.Serves username id) (hnow : now.Valid) :
    (s.settle now moment).Carries username id := by
  have hgame : (s.settle now moment).progress = s.progress.touch now := progress_settle ..
  have haccount : (s.settle now moment).progress.account = some (.cloud username id) := by
    rw [hgame]
    exact h.account
  have hid := profileId?_of_account haccount
  have hkept : (s.settle now moment).depot =
      (s.withProgress (s.progress.touch now)).persist.depot := depot_scheduleAutosave ..
  have hworks : (s.settle now moment).depot.Works := by
    rw [hkept, depot_persist (s := s.withProgress (s.progress.touch now)) h.works]
    exact Pair.Works.put h.works ..
  have hconfigured := (configured_settle s now moment).trans h.configured
  obtain ⟨-, p, hw, -⟩ := exists_waiting_settle (s := s) h.configured hid
  refine ⟨⟨?_, haccount, hconfigured, hworks⟩, current_settle h.configured hid, fun hnone => ?_⟩
  · have htouched : (s.settle now moment).progress.InPlay := by
      rw [hgame]
      exact Progress.InPlay.touch h.game hnow
    exact htouched
  · cases hw.symm.trans hnone

/-! ### Playing -/

namespace Event

/-- A turn that leaves the account alone, or what happens between turns while nothing fails. -/
def Plain : Event → Prop
  | .run line _ _ => (Command.parse (Text.trimmed line)).first.Plain
  | .retry | .notices | .elapse _ | .tick _ => True
  | .resume .. | .reach .. => False

end Event

/-- Sending the game as it is. -/
theorem carries_push (h : s.scene.desk.Serves username id) (hcurrent : s.Current id) :
    (s.withLink (Link.push id (.ofProgress s.progress) s.link).2).Carries username id := by
  have hlands : s.link.Lands := ⟨h.configured, h.works.online, h.works.cloudWrites⟩
  have hdesk := h.withLink (l := (Link.push id (.ofProgress s.progress) s.link).2)
    ((Link.configured_push ..).trans h.configured) (Link.keeps_push h.works (h.works.put ..))
  exact ⟨hdesk, hcurrent.push h.configured, fun _ => Link.pending_push_of_lands hlands id _⟩

/-- What the clock shows does not matter, nor does how the reader speaks. -/
theorem Carries.withOutside (h : s.Carries username id) (clock : Instant) (wording : Wording) :
    (s.withDepot { s.depot with clock := clock, wording := wording }).Carries username id := by
  have hw := h.desk.works
  refine ⟨h.desk.withLink h.desk.configured ?_, ⟨h.current.waiting, h.current.text⟩, h.lacks⟩
  exact ⟨hw.reads, hw.writes, hw.online, hw.cloudReads, hw.cloudWrites⟩

/-- Whatever happens in a session, it goes on carrying the game. -/
theorem Carries.happen (h : s.Carries username id) {e : Event} (he : e.Plain) (ht : e.Timely) :
    (s.happen e).Carries username id := by
  cases e with
  | run line now moment =>
    change (s.execute line now moment).2.Carries username id
    cases hb : Text.isBlankText line.toList with
    | true =>
      rw [execute_snd_eq_self_of_blank s now moment hb]
      exact h
    | false =>
      have hscene := Scene.serves_execute h.desk ht s.settings.threshold he
      rw [execute_snd s now moment hb]
      generalize (s.scene.execute s.settings.threshold line now).2 = scene at hscene ⊢
      exact carries_settle (hscene.evaluate ht s.settings.threshold scene.fs) ht
  | retry =>
    change (retryPending s).2.Carries username id
    rcases retryPending_snd s with hsame | ⟨id', hid', hpush⟩
    · rw [hsame]
      exact h
    · cases (profileId?_of_account h.desk.account).symm.trans hid'
      rw [hpush]
      exact carries_push h.desk h.current
  | elapse time =>
    change (s.elapse time).Carries username id
    rcases h.current.elapse_eq time with hsame | hpush
    · rw [hsame]
      exact h
    · rw [hpush]
      exact carries_push (s := s.idled) h.desk h.current.idled
  | notices => exact ⟨h.desk, ⟨h.current.waiting, h.current.text⟩, h.lacks⟩
  | tick clock => exact h.withOutside clock s.depot.wording
  | resume now moment => exact he.elim
  | reach online failsRead failsWrite => exact he.elim

/-- The game bears the time of a turn, or the one it bore. -/
theorem updatedAt_happen (s : Session Pair) {e : Event} (he : e.Plain) :
    (s.happen e).progress.updatedAt = s.progress.updatedAt ∨
      ∃ line now moment, e = .run line now moment ∧ (s.happen e).progress.updatedAt = now := by
  by_cases hs : e.Settles
  · cases e with
    | run line now moment =>
      refine .inr ⟨line, now, moment, rfl, ?_⟩
      change (s.execute line now moment).2.progress.updatedAt = now
      rw [execute_snd s now moment hs, progress_settle]
      rfl
    | resume now moment => exact he.elim
    | _ => exact hs.elim
  · rw [progress_happen_of_not_settles s hs]
    exact .inl rfl

/-! ### Leaving -/

/-- A session that is left has its game on the device and in the cloud. -/
theorem Carries.close (h : s.Carries username id) :
    s.close.Works ∧
      s.close.device.entries.get? Saves.stateKey = some s.progress.toText ∧
      s.close.cloud.text? id = some (SaveRecord.ofProgress s.progress).toText := by
  have hkept := depot_persist (s := s) h.desk.works
  have hworks : s.persist.depot.Works := by
    rw [hkept]
    exact Pair.Works.put h.desk.works ..
  have hown : s.persist.depot.device.entries.get? Saves.stateKey = some s.progress.toText := by
    rw [hkept]
    exact s.depot.get?_put_self .device _ _
  cases hw : s.courier.waiting with
  | none =>
    have hclose : s.close = s.persist.depot := by
      unfold Session.close Session.drop
      rw [show s.persist.courier.waiting = none from hw]
      rfl
    rw [hclose]
    refine ⟨hworks, hown, ?_⟩
    rw [hkept]
    exact h.current.text (h.lacks hw)
  | some p =>
    obtain ⟨hprofile, hrecord⟩ := Prod.mk.inj (h.current.waiting p hw)
    have hlands : s.persist.link.Lands :=
      ⟨h.desk.configured, hworks.online, hworks.cloudWrites⟩
    have hclose : s.close = s.persist.depot.put .cloud (Remote.saveKey id)
        (SaveRecord.ofProgress s.progress).toText := by
      unfold Session.close Session.drop
      rw [show s.persist.courier.waiting = some p from hw]
      change (Link.push p.profileId p.record s.persist.link).2.depot = _
      rw [show p.profileId = id from hprofile, show p.record = _ from hrecord]
      exact Link.depot_push_of_lands hlands ..
    rw [hclose]
    exact ⟨hworks.put .., hown, s.persist.depot.text?_put_save_self id _⟩

/-! ### Coming back -/

theorem adopt_of_cloud {record : SaveRecord} {p : Progress} {l : Link Pair}
    (h : Link.reconcile id (some (.ofProgress s.progress)) s.link =
      (.ok (some ⟨record, .cloud⟩), l))
    (hp : record.progress? (Depot.clock l.depot) = some p) :
    adopt id s =
      (.ok true, (s.withLink l).withProgress { p with account := s.progress.account }) := by
  unfold adopt onLink
  rw [h]
  dsimp only
  rw [Link.onDepot_apply, Saves.ofRecord_apply, show (s.withLink l).link = l from rfl, hp]
  rfl

theorem adopt_of_device {record : SaveRecord} {l : Link Pair}
    (h : Link.reconcile id (some (.ofProgress s.progress)) s.link =
      (.ok (some ⟨record, .device⟩), l)) :
    adopt id s = (.ok false, s.withLink l) := by
  unfold adopt onLink
  rw [h]

theorem settleWithCloud_snd (hid : s.profileId? = some id) :
    s.settleWithCloud.2 = (adopt id s).2 := by
  unfold settleWithCloud
  rw [show s.progress.account.bind Account.profileId? = some id from hid]
  dsimp only
  rcases adopt id s with ⟨_ | _ | _, s'⟩ <;> rfl

/-- The session has been opened on a save of the account that is not newer than the cloud's. -/
structure Finds (username id : String) (q : Progress) (s : Session Pair) : Prop where
  own : ∃ p : Progress, s.progress = p.repair ∧ p.Storable ∧
    p.account = some (.cloud username id) ∧ Progress.UpTo q p
  configured : s.link.configured = true
  works : s.depot.Works
  text : s.depot.cloud.text? id = some (SaveRecord.ofProgress q).toText
  save : q.Storable
  game : q.repair.InPlay

/-- Settling with the cloud finds the cloud's save. -/
theorem Finds.settleWithCloud {q : Progress} (h : s.Finds username id q) :
    s.settleWithCloud.2.progress = { q.repair with account := some (.cloud username id) } ∧
      s.settleWithCloud.2.scene.desk.Serves username id := by
  obtain ⟨p, hown, hp, haccount, hupTo⟩ := h.own
  have haccount' : s.progress.account = some (.cloud username id) := by
    rw [hown, Progress.account_repair, haccount]
  have htime : s.progress.updatedAt = p.updatedAt := by rw [hown, Progress.updatedAt_repair]
  have hreach : s.link.ReachesSave id q :=
    ⟨h.configured, h.works.online, h.works.cloudReads, h.works.cloudWrites, h.text, h.save⟩
  rw [settleWithCloud_snd (profileId?_of_account haccount')]
  rcases hupTo with rfl | hbefore
  · have hstorable : s.progress.Storable := by
      rw [hown]
      exact hp.repair
    have hnot : s.progress.updatedAt.before p.updatedAt = false := by
      rw [htime]
      exact p.updatedAt.before_irrefl
    have hgame : s.progress.InPlay := by
      rw [hown]
      exact h.game
    rw [adopt_of_device (hreach.reconcile_of_not_before hstorable h.works.writes hnot)]
    refine ⟨?_, hgame, haccount', h.configured, ?_⟩
    · exact hown.trans (Progress.withAccount_eq_self (p.account_repair.trans haccount)).symm
    · exact (h.works.put .device _ _).put .cloud _ _
  · have hread : ∀ clock, (SaveRecord.ofProgress q).progress? clock = some q.repair :=
      SaveRecord.progress?_ofProgress h.save
    have hgame := h.game
    have hbefore' : s.progress.updatedAt.before q.updatedAt = true := by
      rw [htime]
      exact hbefore
    have hreconcile := hreach.reconcile_of_before h.works.writes hbefore'
    generalize q.repair = r at hread hgame hreconcile ⊢
    rw [adopt_of_cloud hreconcile (hread _)]
    refine ⟨?_, hgame.withAccount _, haccount', h.configured, ?_⟩
    · rw [progress_withProgress, haccount']
    · exact h.works.put .device _ _

/-- Coming back finds the cloud's save, and the session carries the game from then on. -/
theorem Finds.resume {q : Progress} (h : s.Finds username id q) (hnow : now.Valid)
    (moment : Moment) :
    s.takeNotices.2.settleWithCloud.2.progress =
        { q.repair with account := some (.cloud username id) } ∧
      (s.resume now moment).2.Carries username id ∧
      (s.resume now moment).2.progress.updatedAt = now := by
  have hfinds : s.takeNotices.2.Finds username id q :=
    ⟨h.own, h.configured, h.works, h.text, h.save, h.game⟩
  obtain ⟨hfound, hserves⟩ := hfinds.settleWithCloud
  refine ⟨hfound, ?_⟩
  clear hfound
  rw [resume_eq_welcome]
  generalize s.takeNotices.2.settleWithCloud = settled at hserves ⊢
  have hgame := (hserves.game.accrueOffline hnow settled.2.settings.coinsPerHour).updateStreak hnow
  have haccount := (Progress.account_accrueOffline settled.2.progress now
    settled.2.settings.coinsPerHour).trans hserves.account
  refine ⟨?_, ?_⟩
  · rw [welcome_snd]
    exact carries_settle ⟨hgame, haccount, hserves.configured, hserves.works⟩ hnow
  · rw [progress_welcome]
    rfl

end Session

/-! ## Visits -/

namespace Fleet

namespace Event

/-- A turn on the device that leaves the account alone, or what happens between turns while the
cloud stays on. -/
def Plain (name : String) : Event → Prop
  | .act other (.run line _) => other = name ∧ (Command.parse (Text.trimmed line)).first.Plain
  | .act other .retry | .act other .notices => other = name
  | .elapse _ | .wait _ => True
  | .act .. | .online _ => False

/-- The time of a turn. -/
def time? : Event → Option Instant
  | .act _ (.run _ now) => some now
  | _ => none

end Event

/-- A session on a device: when it is opened and how, when the player comes back to the game, and
what happens until it is left. -/
structure Visit where
  name : String
  settings : Settings
  identity : Bool
  tree : Option Node
  opened : Instant
  resumed : Instant
  course : List Event

namespace Visit

/-- What the clock shows during the visit. -/
def times (v : Visit) : List Instant := v.opened :: v.resumed :: v.course.filterMap Event.time?

/-- The visit is one on these devices, its turns leave the account alone, and the clock can show
its times. -/
structure Proper (names : List String) (v : Visit) : Prop where
  name : v.name ∈ names
  plain : ∀ e ∈ v.course, e.Plain v.name
  timely : ∀ t ∈ v.times, t.Valid

end Visit

/-- The fleet with the session of the visit open. -/
def opened (f : Fleet) (v : Visit) : Fleet :=
  f.happen (.act v.name (.enter v.settings ⟨v.identity, true⟩ v.tree v.opened))

/-- The fleet just before the session of the visit is left. -/
def played (f : Fleet) (v : Visit) : Fleet :=
  (f.opened v).play (.act v.name (.resume v.resumed) :: v.course)

/-- The fleet after the visit. -/
def visited (f : Fleet) (v : Visit) : Fleet := (f.played v).happen (.act v.name .close)

/-- The game that coming back finds, once it has settled with the cloud. -/
def found? (f : Fleet) (v : Visit) : Option Progress :=
  ((f.opened v).session? v.name).map fun s => s.takeNotices.2.settleWithCloud.2.progress

/-- The game that is left. -/
def left? (f : Fleet) (v : Visit) : Option Progress :=
  ((f.played v).session? v.name).map Session.progress

/-- The fleet after these visits, one after the other. -/
def relay (f : Fleet) (vs : List Visit) : Fleet := vs.foldl visited f

/-- No session is open, the cloud has the save of the game for the profile, and these devices are
signed in to the account, with that save or an earlier one.  Nothing fails.  The save need not be
in order, but the game that is read back from it is. -/
structure Rests (names : List String) (username id : String) (q : Progress) (f : Fleet) :
    Prop where
  works : ∀ name ∈ names, (f.surroundings name).Works
  idle : ∀ name, (f.device name).session = none
  text : f.cloud.text? id = some (SaveRecord.ofProgress q).toText
  save : q.Storable
  game : q.repair.InPlay
  own : ∀ name ∈ names, ∃ p : Progress, p.Storable ∧ p.account = some (.cloud username id) ∧
    Progress.UpTo q p ∧ (f.device name).store.entries.get? Saves.stateKey = some p.toText

/-- The session of the visit carries the game, and no other device is touched. -/
structure Visiting (username id : String) (v : Visit) (f since : Fleet) : Prop where
  session : ∃ s, f.session? v.name = some s ∧ s.Carries username id ∧
    s.progress.updatedAt ∈ v.times
  others : ∀ other, other ≠ v.name → f.device other = since.device other

variable {f since : Fleet} {v : Visit} {names : List String} {q : Progress}

/-! ### Playing -/

theorem session?_absorb_self (f : Fleet) (name : String) (s : Session Pair) :
    (f.absorb name s.depot (some s)).session? name =
      some (s.withDepot { s.depot with clock := f.clock, wording := f.wording }) := by
  unfold Fleet.session? surroundings
  rw [device_absorb_self]
  rfl

/-- A session that carries the game is left to the fleet. -/
theorem visiting_absorb (hothers : ∀ other, other ≠ v.name → f.device other = since.device other)
    {s : Session Pair} (hs : s.Carries username id) (ht : s.progress.updatedAt ∈ v.times) :
    (f.absorb v.name s.depot (some s)).Visiting username id v since := by
  exact ⟨⟨_, f.session?_absorb_self v.name s, hs.withOutside f.clock f.wording, ht⟩,
    fun other hother => (f.device_absorb_of_ne hother ..).trans (hothers other hother)⟩

/-- What happens in the session of the visit goes on with it. -/
theorem visiting_absorb_happen
    (hothers : ∀ other, other ≠ v.name → f.device other = since.device other)
    {s : Session Pair} (hs : s.Carries username id) (ht : s.progress.updatedAt ∈ v.times)
    {e : Session.Event} (he : e.Plain) (htimely : e.Timely)
    (htimes : ∀ line now moment, e = .run line now moment → now ∈ v.times) :
    (f.absorb v.name (s.happen e).depot (some (s.happen e))).Visiting username id v since := by
  refine visiting_absorb hothers (hs.happen he htimely) ?_
  rcases Session.updatedAt_happen s he with hsame | ⟨line, now, moment, hrun, hnow⟩
  · rw [hsame]
    exact ht
  · rw [hnow]
    exact htimes line now moment hrun

/-- Whatever happens during a visit, it goes on. -/
theorem Visiting.happen (h : f.Visiting username id v since)
    (hidle : ∀ name, (since.device name).session = none) {e : Event} (he : e.Plain v.name)
    (ht : ∀ t, e.time? = some t → t ∈ v.times ∧ t.Valid) :
    (f.happen e).Visiting username id v since := by
  obtain ⟨s, hs, hcarries, hstamp⟩ := h.session
  -- A device acts in the fleet whose steps have been counted on.
  let g : Fleet := { f with moment := { f.moment with turn := f.moment.turn + 1 } }
  have hg : g.session? v.name = some s := hs
  have hothers : ∀ other, other ≠ v.name → g.device other = since.device other := h.others
  cases e with
  | wait millis => exact ⟨⟨s, hs, hcarries, hstamp⟩, h.others⟩
  | online online => exact he.elim
  | elapse other =>
    change (f.elapse other).Visiting username id v since
    by_cases hother : other = v.name
    · subst hother
      rw [elapse_of_session hs]
      exact visiting_absorb_happen h.others hcarries hstamp (e := .elapse f.moment.millis) trivial
        trivial nofun
    · have hnone : f.session? other = none := by
        rw [Fleet.session?, h.others other hother, hidle]
        rfl
      rw [elapse_of_no_session hnone]
      exact h
  | act other st =>
    cases st with
    | run line now =>
      obtain ⟨rfl, hplain⟩ := he
      obtain ⟨hmem, hvalid⟩ := ht now rfl
      have hstays : (Step.run line now).Stays := trivial
      change (g.act v.name (.run line now)).2.Visiting username id v since
      rw [act_of_session hg hstays, stepSession_run]
      refine visiting_absorb_happen hothers hcarries hstamp (e := .run line now g.moment) hplain
        hvalid ?_
      intro line' now' moment' heq
      cases heq
      exact hmem
    | retry =>
      obtain rfl := he
      have hstays : Step.retry.Stays := trivial
      change (g.act v.name .retry).2.Visiting username id v since
      rw [act_of_session hg hstays, stepSession_retry]
      exact visiting_absorb_happen hothers hcarries hstamp (e := .retry) trivial trivial nofun
    | notices =>
      obtain rfl := he
      have hstays : Step.notices.Stays := trivial
      change (g.act v.name .notices).2.Visiting username id v since
      rw [act_of_session hg hstays]
      exact visiting_absorb_happen hothers hcarries hstamp (e := .notices) trivial trivial nofun
    | _ => exact he.elim

/-- A whole course of events goes on with the visit. -/
theorem Visiting.play {es : List Event} (h : f.Visiting username id v since)
    (hidle : ∀ name, (since.device name).session = none) (hes : ∀ e ∈ es, e.Plain v.name)
    (ht : ∀ e ∈ es, ∀ t, e.time? = some t → t ∈ v.times ∧ t.Valid) :
    (f.play es).Visiting username id v since := by
  induction es generalizing f with
  | nil => exact h
  | cons e es ih =>
    have hfirst := h.happen hidle (hes e List.mem_cons_self) (ht e List.mem_cons_self)
    exact ih hfirst (fun e' he' => hes e' (List.mem_cons_of_mem _ he')) fun e' he' =>
      ht e' (List.mem_cons_of_mem _ he')

/-! ### One visit -/

/-- The session that is opened finds the save of its device. -/
theorem Rests.exists_opened (h : f.Rests names username id q) (hv : v.name ∈ names) :
    ∃ s, (f.opened v).session? v.name = some s ∧ s.Finds username id q ∧
      ∀ other, other ≠ v.name → (f.opened v).device other = f.device other := by
  obtain ⟨p, hp, haccount, hupTo, hown⟩ := h.own v.name hv
  have hworks := h.works v.name hv
  let g : Fleet := { f with moment := { f.moment with turn := f.moment.turn + 1 } }
  have henter : Session.enter v.settings ⟨v.identity, true⟩ v.opened (g.surroundings v.name) =
      (.ok (.start v.settings ⟨v.identity, true⟩ (g.surroundings v.name) p.repair),
        g.surroundings v.name) :=
    Session.enter_of_text hp hworks.reads hown v.settings _ v.opened
  have hleft : g.leftBehind v.name = g.surroundings v.name := by
    unfold leftBehind Fleet.session?
    rw [show (g.device v.name).session = none from h.idle v.name]
    rfl
  obtain ⟨s, hs, hprogress, hconfigured, hdepot⟩ : ∃ s : Session Pair,
      (Session.start v.settings ⟨v.identity, true⟩ (g.surroundings v.name) p.repair).onTree v.tree =
        s ∧ s.progress = p.repair ∧ s.link.configured = true ∧ s.depot = g.surroundings v.name := by
    refine ⟨_, rfl, ?_⟩
    cases v.tree <;> exact ⟨rfl, rfl, rfl⟩
  have hopened : f.opened v = g.absorb v.name s.depot (some s) := by
    change (g.enter v.name v.settings ⟨v.identity, true⟩ v.tree v.opened).2 = _
    rw [enter_snd (by rw [henter]), henter, hleft, hdepot, ← hs]
    rfl
  rw [hopened]
  have hself := g.session?_absorb_self v.name s
  refine ⟨_, hself, ?_, fun other hother => g.device_absorb_of_ne hother ..⟩
  have hw : s.depot.Works := by
    rw [hdepot]
    exact hworks
  have htext : s.depot.cloud.text? id = some (SaveRecord.ofProgress q).toText := by
    rw [hdepot]
    exact h.text
  refine ⟨⟨p, hprogress, hp, haccount, hupTo⟩, hconfigured, ?_, htext, h.save, h.game⟩
  exact ⟨hw.reads, hw.writes, hw.online, hw.cloudReads, hw.cloudWrites⟩

/-- Leaving lets the fleet rest again, with the game that is left. -/
theorem Visiting.rests (h : f.Visiting username id v since)
    (hrests : since.Rests names username id q)
    (hlater : ∀ t ∈ v.times, q.updatedAt.before t = true) :
    ∃ p, (f.session? v.name).map Session.progress = some p ∧ p.InPlay ∧
      p.account = some (.cloud username id) ∧ p.updatedAt ∈ v.times ∧
      (f.happen (.act v.name .close)).Rests names username id p := by
  obtain ⟨s, hs, hcarries, hstamp⟩ := h.session
  obtain ⟨hworks, hown, htext⟩ := hcarries.close
  let g : Fleet := { f with moment := { f.moment with turn := f.moment.turn + 1 } }
  have hclosed : f.happen (.act v.name .close) = g.absorb v.name s.close none :=
    act_close_of_session (f := g) hs
  have hgame : s.progress.InPlay := hcarries.desk.game
  have haccount : s.progress.account = some (.cloud username id) := hcarries.desk.account
  -- The game was stamped during the visit, so it is later than all saves there were before.
  have hupTo : ∀ p, Progress.UpTo q p → Progress.UpTo s.progress p := by
    rintro p (rfl | hbefore)
    · exact .inr (hlater _ hstamp)
    · exact .inr (Instant.before_trans hbefore (hlater _ hstamp))
  have hleft : (f.session? v.name).map Session.progress = some s.progress := by
    rw [hs]
    rfl
  rw [hclosed]
  generalize s.progress = p at hgame haccount hupTo hleft hstamp hown htext
  refine ⟨p, hleft, hgame, haccount, hstamp, ?_⟩
  have hself := g.device_absorb_self v.name s.close none
  have hother : ∀ name, name ≠ v.name → (g.absorb v.name s.close none).device name =
      since.device name := fun name hname =>
    (g.device_absorb_of_ne hname ..).trans (h.others name hname)
  refine ⟨fun name hname => ?_, fun name => ?_, htext, hgame.toStorable, hgame.repair,
    fun name hname => ?_⟩
  · refine works_absorb hworks fun hne => ?_
    rw [show g.device name = since.device name from h.others name hne]
    exact ⟨(hrests.works name hname).reads, (hrests.works name hname).writes⟩
  · by_cases heq : name = v.name
    · rw [heq, hself]
    · rw [hother name heq]
      exact hrests.idle name
  · by_cases heq : name = v.name
    · rw [heq, hself]
      exact ⟨p, hgame.toStorable, haccount, .inl rfl, hown⟩
    · obtain ⟨p', hp', haccount', hupTo', hown'⟩ := hrests.own name hname
      rw [hother name heq]
      exact ⟨p', hp', haccount', hupTo p' hupTo', hown'⟩

/-- A visit finds the save of the cloud, and leaves a game of its own in its place. -/
theorem Rests.visit (h : f.Rests names username id q) (hv : v.Proper names)
    (hlater : ∀ t ∈ v.times, q.updatedAt.before t = true) :
    f.found? v = some { q.repair with account := some (.cloud username id) } ∧
      ∃ p, f.left? v = some p ∧ p.InPlay ∧ p.account = some (.cloud username id) ∧
        p.updatedAt ∈ v.times ∧ (f.visited v).Rests names username id p := by
  obtain ⟨s, hs, hfinds, hothers⟩ := h.exists_opened hv.name
  let g : Fleet := { f.opened v with moment := { (f.opened v).moment with
    turn := (f.opened v).moment.turn + 1 } }
  have hg : g.session? v.name = some s := hs
  have hgothers : ∀ other, other ≠ v.name → g.device other = f.device other := hothers
  have hresumed : v.resumed ∈ v.times := List.mem_cons_of_mem _ List.mem_cons_self
  obtain ⟨hfound, hcarries, hstamp⟩ :=
    hfinds.resume (hv.timely v.resumed hresumed) g.moment
  have hfound? : f.found? v = some { q.repair with account := some (.cloud username id) } := by
    unfold found?
    rw [hs]
    exact congrArg some hfound
  have hback : ((f.opened v).happen (.act v.name (.resume v.resumed))).Visiting
      username id v f := by
    have hstays : (Step.resume v.resumed).Stays := trivial
    change (g.act v.name (.resume v.resumed)).2.Visiting username id v f
    rw [act_of_session hg hstays, stepSession_resume]
    refine visiting_absorb hgothers hcarries ?_
    rw [hstamp]
    exact hresumed
  have hplayed : (f.played v).Visiting username id v f := by
    refine hback.play h.idle hv.plain fun e he t ht => ?_
    have hmem : t ∈ v.times := List.mem_cons_of_mem _ (List.mem_cons_of_mem _
      (List.mem_filterMap.2 ⟨e, he, ht⟩))
    exact ⟨hmem, hv.timely t hmem⟩
  exact ⟨hfound?, hplayed.rests h hlater⟩

/-! ### Visit after visit -/

/-- After any visits the fleet rests with a game of the time of one of them, or with the first. -/
theorem Rests.relay {vs : List Visit} (h : f.Rests names username id q)
    (hvs : ∀ v ∈ vs, v.Proper names)
    (hclock : (q.updatedAt :: vs.flatMap Visit.times).Pairwise fun a b => a.before b = true) :
    ∃ p, (f.relay vs).Rests names username id p ∧
      p.updatedAt ∈ q.updatedAt :: vs.flatMap Visit.times := by
  -- The game that a visit leaves takes the part of the save for the visits that follow.
  induction vs generalizing f q with
  | nil => exact ⟨q, h, List.mem_cons_self⟩
  | cons v vs ih =>
    rw [List.flatMap_cons] at hclock ⊢
    obtain ⟨hlater, htimes⟩ := List.pairwise_cons.1 hclock
    obtain ⟨-, hrest, hacross⟩ := List.pairwise_append.1 htimes
    obtain ⟨-, p, -, -, -, hstamp, hrests⟩ := h.visit (hvs v List.mem_cons_self) fun t ht =>
      hlater t (List.mem_append_left _ ht)
    obtain ⟨p', hrests', hstamp'⟩ := ih hrests (fun w hw => hvs w (List.mem_cons_of_mem _ hw))
      (List.pairwise_cons.2 ⟨hacross _ hstamp, hrest⟩)
    refine ⟨p', hrests', List.mem_cons_of_mem _ (List.mem_append.2 ?_)⟩
    rcases List.mem_cons.1 hstamp' with heq | hmem
    · exact .inl (heq ▸ hstamp)
    · exact .inr hmem

/-- Whichever devices are visited, one after the other and by a clock that goes on from the save
of the cloud: the game that a visit finds, once it has settled with the cloud, is the one that the
visit before it left. -/
theorem found?_visited_eq_left? {vs before after : List Visit} {u v : Visit}
    (h : f.Rests names username id q) (hvs : ∀ v ∈ vs, v.Proper names)
    (hclock : (q.updatedAt :: vs.flatMap Visit.times).Pairwise fun a b => a.before b = true)
    (hsplit : vs = before ++ u :: v :: after) :
    ∃ p, (f.relay before).left? u = some p ∧ ((f.relay before).visited u).found? v = some p := by
  subst hsplit
  rw [List.flatMap_append, List.flatMap_cons, List.flatMap_cons, ← List.cons_append] at hclock
  obtain ⟨hbefore, htimes, hacross⟩ := List.pairwise_append.1 hclock
  obtain ⟨-, -, hacross'⟩ := List.pairwise_append.1 htimes
  obtain ⟨q', hrests, hstamp⟩ :=
    h.relay (fun w hw => hvs w (List.mem_append_left _ hw)) hbefore
  have hu : u.Proper names := hvs u (List.mem_append_right _ List.mem_cons_self)
  have hv : v.Proper names :=
    hvs v (List.mem_append_right _ (List.mem_cons_of_mem _ List.mem_cons_self))
  obtain ⟨-, p, hleft, hgame, haccount, hstamp', hrests'⟩ := hrests.visit hu fun t ht =>
    hacross _ hstamp t (List.mem_append_left _ ht)
  obtain ⟨hfound, -⟩ := hrests'.visit hv fun t ht =>
    hacross' _ hstamp' t (List.mem_append_left _ ht)
  refine ⟨p, hleft, ?_⟩
  rw [hfound, hgame.repair_eq_self, Progress.withAccount_eq_self haccount]

/-! ### Two devices -/

/-- Of two devices the one can have the save of the cloud and the other an earlier one. -/
theorem exists_rests {p q : Progress} (hp : p.InPlay) (hq : q.InPlay)
    (hpaccount : p.account = some (.cloud "hero" "profile-1"))
    (hqaccount : q.account = some (.cloud "hero" "profile-1"))
    (hbefore : p.updatedAt.before q.updatedAt = true) :
    ∃ f : Fleet, f.Rests ["a", "b"] "hero" "profile-1" q := by
  let cloud : Cloud := { Cloud.empty with
    store := storeOf (Remote.saveKey "profile-1") (SaveRecord.ofProgress q).toText }
  let f : Fleet := ⟨cloud, [("a", ⟨storeOf Saves.stateKey q.toText, none⟩),
    ("b", ⟨storeOf Saves.stateKey p.toText, none⟩)], ⟨0, 0⟩, ⟨0, 0⟩, .silent⟩
  refine ⟨f, fun n hn => ?_, fun n => ?_, get?_storeOf .., hq.toStorable, hq.repair,
    fun n hn => ?_⟩
  · rcases List.mem_cons.1 hn with rfl | hn
    · exact ⟨rfl, rfl, rfl, rfl, rfl⟩
    · rw [List.mem_singleton.1 hn]
      exact ⟨rfl, rfl, rfl, rfl, rfl⟩
  · have hlookup : f.device n = (Entries.get? n f.devices).getD ⟨.empty, none⟩ := rfl
    rw [hlookup, Entries.get?, Entries.get?, Entries.get?]
    split
    · rfl
    · split <;> rfl
  · rcases List.mem_cons.1 hn with rfl | hn
    · exact ⟨q, hq.toStorable, hqaccount, .inl rfl, get?_storeOf ..⟩
    · rw [List.mem_singleton.1 hn]
      exact ⟨p, hp.toStorable, hpaccount, .inr hbefore, get?_storeOf ..⟩

/-- One device has the save of the cloud and another an earlier one; the first to be visited is
the latter. -/
theorem exists_visited_eq_left? :
    ∃ (f : Fleet) (q : Progress) (u v : Visit), f.Rests ["a", "b"] "hero" "profile-1" q ∧
      u.name = "b" ∧ v.name = "a" ∧ (∀ w ∈ [u, v], w.Proper ["a", "b"]) ∧
      ((q.updatedAt :: [u, v].flatMap Visit.times).Pairwise fun a b => a.before b = true) ∧
      ∃ p, f.left? u = some p ∧ (f.visited u).found? v = some p := by
  have hsave : ∀ now : Instant, now.Valid → ∃ q : Progress, q.InPlay ∧ q.updatedAt = now ∧
      q.account = some (.cloud "hero" "profile-1") := fun now hnow =>
    ⟨{ Progress.fresh now with account := some (.cloud "hero" "profile-1") },
      (Progress.InPlay.fresh hnow).withAccount _, rfl, rfl⟩
  obtain ⟨p, hp, hearly, hpaccount⟩ := hsave ⟨1, 0⟩ (by decide)
  obtain ⟨q, hq, hlate, hqaccount⟩ := hsave ⟨2, 0⟩ (by decide)
  have hbefore : p.updatedAt.before q.updatedAt = true := by
    rw [hearly, hlate]
    decide
  obtain ⟨f, hrests⟩ := exists_rests hp hq hpaccount hqaccount hbefore
  let u : Visit := ⟨"b", .initial, true, none, ⟨3, 0⟩, ⟨4, 0⟩,
    [.act "b" (.run "pwd" ⟨5, 0⟩), .elapse "b"]⟩
  let v : Visit := ⟨"a", .initial, true, none, ⟨6, 0⟩, ⟨7, 0⟩, []⟩
  have hparse : Command.parse (Text.trimmed "pwd") = .simple .pwd := by decide +kernel
  have hproper : ∀ w ∈ [u, v], w.Proper ["a", "b"] := by
    intro w hw
    rcases List.mem_cons.1 hw with rfl | hw
    · refine ⟨by decide, fun e he => ?_, by decide⟩
      rcases List.mem_cons.1 he with rfl | he
      · refine ⟨rfl, ?_⟩
        rw [hparse]
        trivial
      · rw [List.mem_singleton.1 he]
        trivial
    · rw [List.mem_singleton.1 hw]
      exact ⟨by decide, fun e he => absurd he List.not_mem_nil, by decide⟩
  have hclock : (q.updatedAt :: [u, v].flatMap Visit.times).Pairwise
      fun a b => a.before b = true := by
    rw [hlate]
    decide
  have hfound := found?_visited_eq_left? hrests hproper hclock
    (show [u, v] = [] ++ u :: v :: [] from rfl)
  rw [show f.relay [] = f from rfl] at hfound
  exact ⟨f, q, u, v, hrests, rfl, rfl, hproper, hclock, hfound⟩

end Fleet

end Questline
