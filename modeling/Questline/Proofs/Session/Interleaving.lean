import Questline.Proofs.Session.Succession
import Questline.Session.Fleet
set_option autoImplicit false

/-!
# Devices in any order

What happens in a fleet, one thing after the other and in whatever order.  All stores and
sessions go on holding games, and whether the saves of a profile follow each other in the
cloud is decided by what is sent there unseen: by the command to synchronize, by a retry,
and by a courier.
-/

namespace Questline

open Time (Instant)

variable {id : String} {since since' : Cloud}

/-! ## Opening a session -/

namespace Session

/-- A session that has just been opened. -/
theorem holdsGames_start {q : Progress} (hq : q.Storable) (settings : Settings)
    (services : Services) (p : Pair) : (start settings services p q).HoldsGames := by
  refine ⟨hq, fun parcel hparcel => ?_⟩
  cases hparcel

/-- The session on another tree than the usual one, if one is given. -/
def onTree (s : Session Pair) : Option Node → Session Pair
  | some t => { s with scene := { s.scene with fs := .ofTree t } }
  | none => s

theorem HoldsGames.onTree {s : Session Pair} (hs : s.HoldsGames) (tree : Option Node) :
    (s.onTree tree).HoldsGames := by
  cases tree <;> exact ⟨hs.game, hs.waiting⟩

/-- Opening a session changes nothing around it. -/
theorem enter_of_holdsGames {p : Pair} {now : Instant} (h : p.device.HoldsGames) (hnow : now.Valid)
    (settings : Settings) (services : Services) :
    (enter settings services now p).2 = p ∧ ∀ s, (enter settings services now p).1 = .ok s →
      ∃ q : Progress, q.Storable ∧ s = start settings services p q :=
  enter_of_keeps Place.lasting_stored (Memory.keeps_stored_iff.2 h) hnow settings services

end Session

namespace Fleet

/-! ## What happens -/

/-- The clock can show the time of the step. -/
def Step.Timely : Step → Prop
  | .enter _ _ _ now | .run _ now | .resume now => now.Valid
  | .retry | .notices | .close | .drop => True

/-- What a step sends to the cloud unseen.  Opening a session sends what the one before has
left. -/
def Step.sends? (s : Session Pair) : Step → Option (String × SaveRecord)
  | .run line _ => (Command.parse (Text.trimmed line)).first.sends? s.progress
  | .retry => s.retries?
  | .enter .. | .close | .drop => s.courier.waiting.map Parcel.content
  | .resume _ | .notices => none

/-- What happens in a fleet. -/
inductive Event where
  /-- A device takes a step. -/
  | act (name : String) (st : Step)
  /-- What is due on a device is sent. -/
  | elapse (name : String)
  | wait (millis : Nat)
  | online (online : Bool)

/-- The clock can show the time of the event. -/
def Event.Timely : Event → Prop
  | .act _ st => st.Timely
  | _ => True

/-- What an event makes of the fleet. -/
def happen (f : Fleet) : Event → Fleet
  | .act name st => ({ f with moment := { f.moment with turn := f.moment.turn + 1 } }.act name st).2
  | .elapse name => f.elapse name
  | .wait millis => { f with moment := { f.moment with millis := f.moment.millis + millis } }
  | .online online => f.setOnline online

/-- The fleet at the next step of a device. -/
def turned (f : Fleet) : Fleet := { f with moment := { f.moment with turn := f.moment.turn + 1 } }

theorem happen_act (f : Fleet) (name : String) (st : Step) :
    f.happen (.act name st) = (f.turned.act name st).2 := rfl

/-- What a course of events makes of the fleet. -/
def play (f : Fleet) (es : List Event) : Fleet := es.foldl happen f

/-- Every event of a course finds the fleet as it should. -/
def Along (P : Fleet → Event → Prop) : Fleet → List Event → Prop
  | _, [] => True
  | f, e :: es => P f e ∧ Along P (f.happen e) es

/-- What the event sends unseen takes a later save of the profile away. -/
def TakesBack (f : Fleet) (id : String) : Event → Prop
  | .act name st => ∃ s, f.session? name = some s ∧ s.link.Overtakes id (st.sends? s)
  | .elapse name => ∃ s, f.session? name = some s ∧
      s.link.Overtakes id ((s.courier.takeDue f.moment.millis).1.map Parcel.content)
  | .wait _ | .online _ => False

/-! ## Keeping to the succession -/

/-- All devices hold games, and the saves of the profile have followed each other. -/
structure Follows (id : String) (since : Cloud) (f : Fleet) : Prop where
  depot : ∀ name, (f.surroundings name).Follows id since
  session : ∀ name s, (f.device name).session = some s → s.HoldsGames

variable {f : Fleet} {p : Pair} {name : String}

theorem device_absorb_self (f : Fleet) (name : String) (p : Pair) (session : Option (Session Pair)) :
    (f.absorb name p session).device name = ⟨p.device, session⟩ := by
  unfold absorb withDevice device
  rw [Entries.get?_insert_self, Option.getD_some]

theorem device_absorb_of_ne (f : Fleet) {name other : String} (h : other ≠ name) (p : Pair)
    (session : Option (Session Pair)) : (f.absorb name p session).device other = f.device other := by
  unfold absorb withDevice device
  rw [Entries.get?_insert_of_ne h]

theorem Follows.absorb (h : f.Follows id since) (hp : p.Follows id since')
    {session : Option (Session Pair)} (hs : ∀ s, session = some s → s.HoldsGames) :
    (f.absorb name p session).Follows id since' := by
  constructor
  · intro other
    refine ⟨?_, hp.cloud, hp.issued, hp.ascends⟩
    by_cases hname : other = name
    · rw [hname, surroundings, device_absorb_self]
      exact hp.device
    · rw [surroundings, device_absorb_of_ne f hname]
      exact (h.depot other).device
  · intro other s
    by_cases hname : other = name
    · rw [hname, device_absorb_self]
      exact hs s
    · rw [device_absorb_of_ne f hname]
      exact h.session other s

/-- An open session holds games in surroundings that do. -/
theorem Follows.session? (h : f.Follows id since) {s : Session Pair}
    (hs : f.session? name = some s) :
    s.HoldsGames ∧ s.depot = f.surroundings name ∧ s.depot.Follows id since := by
  unfold Fleet.session? at hs
  obtain ⟨s', hs', rfl⟩ := Option.map_eq_some_iff.1 hs
  exact ⟨(h.session name s' hs').withLink _, rfl, h.depot name⟩

/-- The fleet becomes another one, which holds games as well, and in the cloud a save of the
profile has given way to an older one exactly if something was taken back. -/
structure LeadsTo (id : String) (f f' : Fleet) (back : Prop) : Prop where
  follows : f'.Follows id .empty
  ascends_iff : f.cloud.Ascends id f'.cloud ↔ ¬ back

/-- All devices share the cloud. -/
theorem Follows.ascends (h : f.Follows id since) : since.Ascends id f.cloud := (h.depot "").ascends

/-- The saves may be watched from any other cloud on that they have followed. -/
theorem Follows.watch (h : f.Follows id since) (hasc : since'.Ascends id f.cloud) :
    f.Follows id since' :=
  ⟨fun name => ⟨(h.depot name).device, (h.depot name).cloud, (h.depot name).issued, hasc⟩, h.session⟩

/-- What keeps to the succession takes nothing back. -/
theorem Follows.leadsTo {f' : Fleet} {back : Prop} (h : f.Follows id since)
    (hf : ∀ since, f.Follows id since → f'.Follows id since) (hback : ¬ back) :
    LeadsTo id f f' back := by
  refine ⟨hf _ (h.watch (Cloud.ascends_empty id _)), fun _ => hback, fun _ => ?_⟩
  exact (hf _ (h.watch (.refl id _))).ascends

/-- A session leaves its surroundings to the fleet. -/
theorem Follows.leadsTo_absorb (h : f.Follows id since) {s : Session Pair}
    (hs : f.session? name = some s) {sent : Option (String × SaveRecord)}
    (hp : s.link.Leaves id sent p) {session : Option (Session Pair)}
    (hsession : ∀ s, session = some s → s.HoldsGames) :
    LeadsTo id f (f.absorb name p session) (s.link.Overtakes id sent) := by
  obtain ⟨-, hdepot, hfollows⟩ := h.session? hs
  refine ⟨h.absorb (hp.holds hfollows) hsession, ?_⟩
  have hiff := hp.ascends_iff hfollows
  rw [show s.link.depot.cloud = f.cloud from congrArg Pair.cloud hdepot] at hiff
  exact hiff

theorem LeadsTo.congr {f' : Fleet} {back back' : Prop} (h : LeadsTo id f f' back)
    (hback : back' ↔ back) : LeadsTo id f f' back' :=
  ⟨h.follows, h.ascends_iff.trans (not_congr hback.symm)⟩

theorem exists_session_iff {s : Session Pair} (hs : f.session? name = some s)
    {P : Session Pair → Prop} : (∃ s, f.session? name = some s ∧ P s) ↔ P s := by
  constructor
  · rintro ⟨s', hs', hp⟩
    rw [hs] at hs'
    exact Option.some.inj hs' ▸ hp
  · exact fun hp => ⟨s, hs, hp⟩

/-- Where no session is open, nothing is taken back. -/
theorem not_exists_session (hs : f.session? name = none) {P : Session Pair → Prop} :
    ¬ ∃ s, f.session? name = some s ∧ P s := by
  rintro ⟨s, hs', -⟩
  rw [hs] at hs'
  cases hs'

/-! ## Steps of a session -/

/-- The step needs a session and leaves it open. -/
def Step.Stays : Step → Prop
  | .run .. | .resume _ | .retry | .notices => True
  | .enter .. | .close | .drop => False

theorem act_of_session {s : Session Pair} (hs : f.session? name = some s) {st : Step}
    (hst : st.Stays) :
    (f.act name st).2 = f.absorb name (stepSession s f.moment st).2.depot
      (some (stepSession s f.moment st).2) := by
  cases st with
  | run line now =>
    rcases hstep : stepSession s f.moment (.run line now) with ⟨a, s'⟩
    simp only [act, hs, hstep]
  | resume now =>
    rcases hstep : stepSession s f.moment (.resume now) with ⟨a, s'⟩
    simp only [act, hs, hstep]
  | retry =>
    rcases hstep : stepSession s f.moment .retry with ⟨a, s'⟩
    simp only [act, hs, hstep]
  | notices =>
    rcases hstep : stepSession s f.moment .notices with ⟨a, s'⟩
    simp only [act, hs, hstep]
  | _ => exact hst.elim

theorem act_of_no_session (hs : f.session? name = none) {st : Step} (hst : st.Stays) :
    (f.act name st).2 = f := by
  cases st with
  | run line now => simp only [act, hs]
  | resume now => simp only [act, hs]
  | retry => simp only [act, hs]
  | notices => simp only [act, hs]
  | _ => exact hst.elim

theorem act_close_of_session {s : Session Pair} (hs : f.session? name = some s) :
    (f.act name .close).2 = f.absorb name s.close none := by
  simp only [act, hs]

theorem act_close_of_no_session (hs : f.session? name = none) : (f.act name .close).2 = f := by
  simp only [act, hs]

theorem act_drop_of_session {s : Session Pair} (hs : f.session? name = some s) :
    (f.act name .drop).2 = f.absorb name s.drop none := by
  simp only [act, hs]

theorem act_drop_of_no_session (hs : f.session? name = none) : (f.act name .drop).2 = f := by
  simp only [act, hs]

theorem elapse_of_session {s : Session Pair} (hs : f.session? name = some s) :
    f.elapse name = f.absorb name (s.elapse f.moment.millis).depot
      (some (s.elapse f.moment.millis)) := by
  simp only [elapse, hs]

theorem elapse_of_no_session (hs : f.session? name = none) : f.elapse name = f := by
  simp only [elapse, hs]

theorem stepSession_run (s : Session Pair) (moment : Moment) (line : String) (now : Instant) :
    (stepSession s moment (.run line now)).2 = (s.execute line now moment).2 := by
  rcases hexec : s.execute line now moment with ⟨t, s'⟩
  simp only [stepSession, hexec]

theorem stepSession_resume (s : Session Pair) (moment : Moment) (now : Instant) :
    (stepSession s moment (.resume now)).2 = (s.resume now moment).2 := by
  rcases hresume : s.resume now moment with ⟨ls, s'⟩
  simp only [stepSession, hresume]

theorem stepSession_retry (s : Session Pair) (moment : Moment) :
    (stepSession s moment .retry).2 = (Session.retryPending s).2 := by
  rcases hretry : Session.retryPending s with ⟨r, s'⟩
  simp only [stepSession, hretry]

/-- What a step leaves of a session and around it. -/
theorem leaves_stepSession {s : Session Pair} (hs : s.HoldsGames) (hl : s.depot.Follows id since)
    (moment : Moment) {st : Step} (hst : st.Stays) (hnow : st.Timely) :
    s.link.Leaves id (st.sends? s) (stepSession s moment st).2.depot ∧
      (stepSession s moment st).2.HoldsGames := by
  cases st with
  | run line now =>
    rw [stepSession_run]
    exact ⟨Session.leaves_execute hs hl hnow line, Session.holdsGames_execute hs hl hnow line⟩
  | resume now =>
    rw [stepSession_resume]
    have hresume : ∀ {since}, s.depot.Follows id since →
        (s.resume now moment).2.Within (Pair.Follows id since) s.link.configured := fun hl =>
      Session.within_resume (Pair.Follows.steady id _) ⟨hs, hl, rfl⟩ hnow
    exact ⟨Link.leaves_none fun since hl => (hresume hl).depot, (hresume hl).games⟩
  | retry =>
    rw [stepSession_retry]
    exact ⟨Session.leaves_retryPending hs, Session.holdsGames_retryPending hs⟩
  | notices => exact ⟨Link.leaves_none fun since hl => hl, hs.game, hs.waiting⟩
  | _ => exact hst.elim

theorem leadsTo_act_of_stays (h : f.Follows id since) (name : String) {st : Step} (hst : st.Stays)
    (hnow : st.Timely) :
    LeadsTo id f (f.act name st).2 (f.TakesBack id (.act name st)) := by
  cases hs : f.session? name with
  | none =>
    rw [act_of_no_session hs hst]
    exact h.leadsTo (fun _ h => h) (not_exists_session hs)
  | some s =>
    obtain ⟨hgames, -, hfollows⟩ := h.session? hs
    obtain ⟨hleaves, hafter⟩ := leaves_stepSession hgames hfollows f.moment hst hnow
    rw [act_of_session hs hst]
    refine (h.leadsTo_absorb hs hleaves fun s' hs' => ?_).congr (exists_session_iff hs)
    exact Option.some.inj hs' ▸ hafter

/-! ## Opening and leaving -/

/-- The surroundings of a device after the session that was open on it has been left behind. -/
def leftBehind (f : Fleet) (name : String) : Pair :=
  match f.session? name with
  | some old => old.drop
  | none => f.surroundings name

theorem leftBehind_of_idle
    (h : ∀ s, (f.device name).session = some s → s.courier.waiting = none) :
    f.leftBehind name = f.surroundings name := by
  unfold leftBehind Fleet.session?
  cases hs : (f.device name).session with
  | none => rfl
  | some s => exact Session.drop_of_idle (s := s.withDepot (f.surroundings name)) (h s hs)

/-- A session that was open is left behind, and the new one takes its place. -/
theorem enter_snd {settings : Settings} {services : Services} {tree : Option Node} {now : Instant}
    (hsame : (Session.enter settings services now (f.surroundings name)).2 = f.surroundings name) :
    (f.enter name settings services tree now).2 = f.absorb name (f.leftBehind name)
      ((Session.enter settings services now (f.surroundings name)).1.toOption.map
        fun s => s.onTree tree) := by
  unfold enter leftBehind Fleet.session?
  rcases hentered : Session.enter settings services now (f.surroundings name) with ⟨r, p⟩
  rw [hentered] at hsame
  dsimp only at hsame
  subst hsame
  cases (f.device name).session <;> cases r <;> cases tree <;> rfl

theorem leadsTo_enter (h : f.Follows id since) (name : String) (settings : Settings)
    (services : Services) (tree : Option Node) {now : Instant} (hnow : now.Valid) :
    LeadsTo id f (f.enter name settings services tree now).2
      (f.TakesBack id (.act name (.enter settings services tree now))) := by
  obtain ⟨hsame, hgames⟩ :=
    Session.enter_of_holdsGames (h.depot name).device hnow settings services
  rw [enter_snd hsame]
  generalize (Session.enter settings services now (f.surroundings name)).1 = r at hgames
  have hnew : ∀ s, (r.toOption.map fun s => s.onTree tree) = some s → s.HoldsGames := by
    intro s hs
    cases r with
    | error e => cases hs
    | ok s' =>
      obtain ⟨q, hq, rfl⟩ := hgames s' rfl
      exact Option.some.inj hs ▸ (Session.holdsGames_start hq settings services _).onTree tree
  unfold leftBehind
  cases hs : f.session? name with
  | none =>
    exact h.leadsTo (fun since h => h.absorb (h.depot name) hnew) (not_exists_session hs)
  | some s =>
    obtain ⟨hold, -, -⟩ := h.session? hs
    exact (h.leadsTo_absorb hs (Session.leaves_drop hold) hnew).congr (exists_session_iff hs)

/-- Whatever a device does, it takes a save away exactly by what it sends unseen. -/
theorem leadsTo_act (h : f.Follows id since) (name : String) {st : Step} (hst : st.Timely) :
    LeadsTo id f (f.act name st).2 (f.TakesBack id (.act name st)) := by
  have hclosed : ∀ s : Session Pair, (none : Option (Session Pair)) = some s → s.HoldsGames := by
    intro s hs
    cases hs
  cases st with
  | enter settings services tree now => exact leadsTo_enter h name settings services tree hst
  | run line now => exact leadsTo_act_of_stays h name trivial hst
  | resume now => exact leadsTo_act_of_stays h name trivial hst
  | retry => exact leadsTo_act_of_stays h name trivial hst
  | notices => exact leadsTo_act_of_stays h name trivial hst
  | close =>
    cases hs : f.session? name with
    | none =>
      rw [act_close_of_no_session hs]
      exact h.leadsTo (fun _ h => h) (not_exists_session hs)
    | some s =>
      rw [act_close_of_session hs]
      have hleaves : s.link.Leaves id (s.courier.waiting.map Parcel.content) s.close :=
        Session.leaves_close (h.session? hs).1
      exact (h.leadsTo_absorb hs hleaves hclosed).congr (exists_session_iff hs)
  | drop =>
    cases hs : f.session? name with
    | none =>
      rw [act_drop_of_no_session hs]
      exact h.leadsTo (fun _ h => h) (not_exists_session hs)
    | some s =>
      rw [act_drop_of_session hs]
      exact (h.leadsTo_absorb hs (Session.leaves_drop (h.session? hs).1) hclosed).congr
        (exists_session_iff hs)

/-! ## Events and courses of them -/

theorem leadsTo_elapse (h : f.Follows id since) (name : String) :
    LeadsTo id f (f.elapse name) (f.TakesBack id (.elapse name)) := by
  cases hs : f.session? name with
  | none =>
    rw [elapse_of_no_session hs]
    exact h.leadsTo (fun _ h => h) (not_exists_session hs)
  | some s =>
    have hgames := (h.session? hs).1
    rw [elapse_of_session hs]
    have hleaves : s.link.Leaves id ((s.courier.takeDue f.moment.millis).1.map Parcel.content)
        (s.elapse f.moment.millis).depot := Session.leaves_elapse hgames f.moment.millis
    refine (h.leadsTo_absorb hs hleaves fun s' hs' => ?_).congr (exists_session_iff hs)
    exact Option.some.inj hs' ▸ Session.holdsGames_elapse hgames f.moment.millis

/-- One event takes a later save of the profile away exactly if what it sends unseen does. -/
theorem leadsTo_happen (h : f.Follows id since) {e : Event} (he : e.Timely) :
    LeadsTo id f (f.happen e) (f.TakesBack id e) := by
  cases e with
  | act name st =>
    -- The number of the step is not looked at by what it does to the cloud.
    have hturn : f.turned.Follows id since := ⟨h.depot, h.session⟩
    have hact := leadsTo_act hturn name he
    exact ⟨hact.follows, hact.ascends_iff⟩
  | elapse name => exact leadsTo_elapse h name
  | wait millis => exact h.leadsTo (fun _ h => ⟨h.depot, h.session⟩) fun hback => hback
  | online online =>
    refine h.leadsTo (fun _ h => ⟨fun name => ?_, h.session⟩) fun hback => hback
    have hdepot := h.depot name
    exact ⟨hdepot.device, hdepot.cloud, hdepot.issued, hdepot.ascends⟩

/-! ### The succession of the saves -/

/-- In whatever order things happen, the save of a profile never gives way to an older one
exactly if nothing that is sent unseen takes a later one back. -/
theorem along_ascends_iff {es : List Event} (h : f.Follows id .empty) (hes : ∀ e ∈ es, e.Timely) :
    f.Along (fun f e => f.cloud.Ascends id (f.happen e).cloud) es ↔
      f.Along (fun f e => ¬ f.TakesBack id e) es := by
  induction es generalizing f with
  | nil => exact Iff.rfl
  | cons e es ih =>
    have hstep := leadsTo_happen h (hes e List.mem_cons_self)
    have hrest := ih hstep.follows fun e' he' => hes e' (List.mem_cons_of_mem _ he')
    exact and_congr hstep.ascends_iff hrest

/-- On a device a record may wait to be sent, whatever save of its profile the cloud has. -/
theorem exists_follows_waiting {p q : Progress} (hp : p.Storable) (hq : q.Storable) :
    ∃ (f : Fleet) (s : Session Pair), f.Follows "profile-1" .empty ∧ f.moment.millis = 0 ∧
      f.cloud.stamp? "profile-1" = some q.updatedAt ∧ f.session? "a" = some s ∧ s.link.Lands ∧
      s.courier.waiting = some ⟨"profile-1", .ofProgress p, 2500, ⟨0, 0⟩⟩ := by
  obtain ⟨around, hfollows, honline, hwrites, hstamp⟩ :
      ∃ around : Pair, around.Follows "profile-1" .empty ∧ around.cloud.online = true ∧
        around.cloud.store.failsWrite = false ∧
        around.cloud.stamp? "profile-1" = some q.updatedAt := by
    let cloud : Cloud := { Cloud.empty with created := 1, naming := fun _ => "" }
    let before : Pair := ⟨.empty, cloud, ⟨0, 0⟩, .silent⟩
    have hbefore : before.Follows "profile-1" .empty :=
      ⟨Memory.holdsGames_empty, Cloud.holdsSaves_empty, fun _ _ => (by decide : "" ≠ "profile-1"),
        Cloud.ascends_empty _ _⟩
    have hafter : (before.put .cloud (Remote.saveKey "profile-1")
        (SaveRecord.ofProgress q).toText).Follows "profile-1" .empty :=
      hbefore.put_save hq (Cloud.ascends_empty _ _)
    have hget := before.get?_put_self .cloud (Remote.saveKey "profile-1")
      (SaveRecord.ofProgress q).toText
    exact ⟨_, hafter, rfl, rfl, Cloud.stamp?_of_get? hq hget⟩
  have hbase : Follows "profile-1" .empty ⟨around.cloud, [], ⟨0, 0⟩, ⟨0, 0⟩, .silent⟩ := by
    refine ⟨fun name => ?_, fun name s hs => ?_⟩
    · exact ⟨Memory.holdsGames_empty, hfollows.cloud, hfollows.issued, hfollows.ascends⟩
    · cases hs
  let opened := Session.start .initial ⟨true, true⟩ around p
  let waiting := { opened with
    courier := opened.courier.hand ⟨0, 0⟩ "profile-1" (.ofProgress p) }
  have hwaiting : waiting.HoldsGames := by
    refine ⟨hp, fun parcel hparcel => ⟨p, hp, ?_⟩⟩
    rw [← Option.some.inj hparcel]
  have hsession : ∀ s, some waiting = some s → s.HoldsGames := fun s hs =>
    Option.some.inj hs ▸ hwaiting
  let f : Fleet := absorb ⟨around.cloud, [], ⟨0, 0⟩, ⟨0, 0⟩, .silent⟩ "a" around (some waiting)
  have hf : f.Follows "profile-1" .empty := hbase.absorb hfollows hsession
  refine ⟨f, waiting.withDepot (f.surroundings "a"), hf, rfl, hstamp, ?_, ?_, ?_⟩
  · unfold Fleet.session?
    rw [device_absorb_self]
    rfl
  · exact ⟨rfl, honline, hwrites⟩
  · rfl

/-- A device that has been quiet for the whole window sends what it had to send: the save that
another device has put into the cloud meanwhile gives way to an older one. -/
theorem not_along_ascends_of_waiting :
    ∃ f : Fleet, f.Follows "profile-1" .empty ∧
      ¬ f.Along (fun f e => f.cloud.Ascends "profile-1" (f.happen e).cloud)
        [.wait 2500, .elapse "a"] := by
  obtain ⟨p, hp, hearly⟩ : ∃ p : Progress, p.Storable ∧ p.updatedAt = ⟨1, 0⟩ :=
    ⟨_, .fresh (by decide), rfl⟩
  obtain ⟨q, hq, hlate⟩ : ∃ q : Progress, q.Storable ∧ q.updatedAt = ⟨3, 0⟩ :=
    ⟨_, .fresh (by decide), rfl⟩
  obtain ⟨f, s, h, hmillis, hstamp, hsession, hlands, hwaiting⟩ := exists_follows_waiting hp hq
  have htimely : ∀ e ∈ [Event.wait 2500, .elapse "a"], e.Timely := by
    intro e he
    rcases List.mem_cons.1 he with rfl | he
    · trivial
    · rw [List.mem_singleton.1 he]
      trivial
  have hcloud : s.link.depot.cloud = f.cloud := congrArg Pair.cloud (h.session? hsession).2.1
  have hlowers : s.link.Lowers "profile-1" (.ofProgress p) := by
    refine ⟨hlands, q.updatedAt, hcloud ▸ hstamp, ?_⟩
    rw [show (SaveRecord.ofProgress p).updatedAt = p.updatedAt from rfl, hearly, hlate]
    decide
  have hdue : (s.courier.takeDue (f.moment.millis + 2500)).1.map Parcel.content =
      some ("profile-1", .ofProgress p) := by
    rw [hmillis, Courier.takeDue, hwaiting]
    rfl
  refine ⟨f, h, fun hasc => ?_⟩
  have hnot := (along_ascends_iff h htimely).1 hasc
  exact hnot.2.1 ⟨s, hsession, .ofProgress p, hdue, hlowers⟩

end Fleet

end Questline
