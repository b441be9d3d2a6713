import Questline.Proofs.Session.Interleaving
set_option autoImplicit false

/-!
# What it means that nothing is pending

Once the game of a session has been settled, and whatever has happened since: as long as an
account of the cloud is signed in and nothing seems to be lacking there, the cloud has the game
that is being played.  What carries this is that a record which waits for the courier is that of
the game (`Session.Current`), so that no push takes the mark away for another game.
-/

namespace Questline

open Time (Instant)

/-- The cloud, on or off, with or without failures. -/
def Cloud.withReach (c : Cloud) (online failsRead failsWrite : Bool) : Cloud :=
  { c with
    online := online
    store := { c.store with failsRead := failsRead, failsWrite := failsWrite } }

namespace Session

variable {s : Session Pair} {id : String} {now : Instant} {moment : Moment}

/-! ## What happens -/

/-- What happens in a session that is open, and around it. -/
inductive Event where
  | run (line : String) (now : Instant) (moment : Moment)
  | resume (now : Instant) (moment : Moment)
  | retry
  | notices
  /-- Time passes for the courier until then. -/
  | elapse (time : Nat)
  | reach (online failsRead failsWrite : Bool)
  /-- The clock on the wall shows another time. -/
  | tick (clock : Instant)

/-- What an event makes of the session. -/
def happen (s : Session Pair) : Event → Session Pair
  | .run line now moment => (s.execute line now moment).2
  | .resume now moment => (s.resume now moment).2
  | .retry => (retryPending s).2
  | .notices => s.takeNotices.2
  | .elapse time => s.elapse time
  | .reach online failsRead failsWrite =>
    s.withDepot { s.depot with cloud := s.depot.cloud.withReach online failsRead failsWrite }
  | .tick clock => s.withDepot { s.depot with clock := clock }

/-- What a course of events makes of the session. -/
def play (s : Session Pair) (es : List Event) : Session Pair := es.foldl happen s

namespace Event

/-- The clock can show the time of the event. -/
def Timely : Event → Prop
  | .run _ now _ | .resume now _ => now.Valid
  | _ => True

/-- The game is settled: after a line that is not blank, and by coming back. -/
def Settles : Event → Prop
  | .run line _ _ => Text.isBlankText line.toList = false
  | .resume _ _ => True
  | _ => False

end Event

theorem profileId?_of_account {username : String}
    (h : s.progress.account = some (.cloud username id)) : s.profileId? = some id := by
  rw [profileId?, h]
  rfl

/-! ## What the stores can be relied on for -/

/-- A session that has just been opened. -/
theorem within_enter {I : Pair → Prop} {p : Pair} {settings : Settings} {services : Services}
    (hgames : p.device.HoldsGames) (hp : I p) (hnow : now.Valid)
    (hs : (enter settings services now p).1 = .ok s) (tree : Option Node) :
    (s.onTree tree).Within I services.saves := by
  obtain ⟨q, hq, rfl⟩ := (enter_of_holdsGames hgames hnow settings services).2 s hs
  have hstart := holdsGames_start hq settings services p
  cases tree with
  | none => exact ⟨hstart, hp, rfl⟩
  | some tree => exact ⟨hstart.onTree (some tree), hp, rfl⟩

/-- Whatever happens, the stores go on holding games. -/
theorem Within.happen {b : Bool} (h : s.Within Pair.Holds b) {e : Event} (he : e.Timely) :
    (s.happen e).Within Pair.Holds b := by
  have hI := Pair.Holds.steady.custody
  have hnew : ∀ id : String, True := fun _ => trivial
  have hupholds := upholds_stored_iff.2 h
  cases e with
  | run line now moment =>
    exact upholds_stored_iff.1 (upholds_execute Place.lasting_stored hI hupholds he fun _ => hnew)
  | resume now moment => exact within_resume Pair.Holds.steady h he
  | retry => exact upholds_stored_iff.1 (hupholds.retryPending hI hnew Place.lasting_stored)
  | notices => exact ⟨⟨h.games.game, h.games.waiting⟩, h.depot, h.configured⟩
  | elapse time => exact upholds_stored_iff.1 (hupholds.elapse hI hnew time)
  | reach online failsRead failsWrite =>
    exact ⟨h.games.withLink _, ⟨h.depot.device, h.depot.cloud⟩, h.configured⟩
  | tick clock => exact ⟨h.games.withLink _, ⟨h.depot.device, h.depot.cloud⟩, h.configured⟩

theorem Within.play {b : Bool} {es : List Event} (h : s.Within Pair.Holds b)
    (hes : ∀ e ∈ es, e.Timely) : (s.play es).Within Pair.Holds b := by
  induction es generalizing s with
  | nil => exact h
  | cons e es ih =>
    exact ih (h.happen (hes e List.mem_cons_self)) fun e' he' => hes e' (List.mem_cons_of_mem _ he')

/-! ## What waits, and what has arrived -/

/-- A record that waits is the one of the game for its profile, and if nothing seems to be
lacking it has arrived. -/
structure Current (s : Session Pair) (id : String) : Prop where
  waiting : ∀ p, s.courier.waiting = some p → p.content = (id, .ofProgress s.progress)
  text : s.link.pending = false →
    s.depot.cloud.text? id = some (SaveRecord.ofProgress s.progress).toText

theorem Current.idled (h : s.Current id) : s.idled.Current id := ⟨nofun, h.text⟩

/-- What is sent while time passes is the game as it is. -/
theorem Current.elapse_eq (h : s.Current id) (time : Nat) :
    s.elapse time = s ∨
      s.elapse time = s.idled.withLink (Link.push id (.ofProgress s.progress) s.link).2 := by
  rcases s.elapse_eq time with hsame | ⟨p, hw, hpush⟩
  · exact .inl hsame
  · obtain ⟨hprofile, hrecord⟩ := Prod.mk.inj (h.waiting p hw)
    rw [show p.profileId = id from hprofile, show p.record = _ from hrecord] at hpush
    exact .inr hpush

/-- Settling marks the game as lacking and has it wait in place of whatever waited. -/
theorem exists_waiting_settle (hc : s.link.configured = true)
    (hid : (s.settle now moment).profileId? = some id) :
    (s.settle now moment).link.pending = true ∧
      ∃ p, (s.settle now moment).courier.waiting = some p ∧
        p.content = (id, .ofProgress (s.settle now moment).progress) := by
  have hgame : (s.settle now moment).progress = s.progress.touch now := progress_settle ..
  have hsettle : s.settle now moment =
      ((s.withProgress (s.progress.touch now)).persist).scheduleAutosave moment := rfl
  have hprofile : (s.withProgress (s.progress.touch now)).persist.progress.account.bind
      Account.profileId? = some id := by
    rw [profileId?, hgame] at hid
    exact hid
  have hconfigured : (s.withProgress (s.progress.touch now)).persist.link.configured = true := hc
  rw [scheduleAutosave, hprofile] at hsettle
  dsimp only at hsettle
  rw [if_pos hconfigured] at hsettle
  rw [hgame, hsettle]
  exact ⟨rfl, _, rfl, rfl⟩

/-- Once it is settled, the game is what waits, and it counts as lacking. -/
theorem current_settle (hc : s.link.configured = true)
    (hid : (s.settle now moment).profileId? = some id) : (s.settle now moment).Current id := by
  obtain ⟨hpending, p, hw, hcontent⟩ := exists_waiting_settle hc hid
  refine ⟨fun p' hp' => ?_, fun hlacks => ?_⟩
  · cases hw.symm.trans hp'
    exact hcontent
  · cases hpending.symm.trans hlacks

/-- Sending the game as it is. -/
theorem Current.push (h : s.Current id) (hc : s.link.configured = true) :
    (s.withLink (Link.push id (.ofProgress s.progress) s.link).2).Current id := by
  refine ⟨h.waiting, fun hpending => ?_⟩
  by_cases hl : s.link.Lands
  · exact Link.text?_push_self hl id _
  · exact absurd ((Link.pending_push_of_not_lands hl hc id _).symm.trans hpending) (by decide)

theorem execute_snd_eq_self_of_blank (s : Session Pair) {line : String} (now : Instant)
    (moment : Moment) (h : Text.isBlankText line.toList = true) :
    (s.execute line now moment).2 = s := by
  have hempty : (Text.trimmed line).isEmpty = true := by
    cases htrimmed : (Text.trimmed line).isEmpty with
    | true => rfl
    | false => cases (not_isBlankText_of_trimmed htrimmed).symm.trans h
  rw [execute_snd_of_blank s now moment h, Scene.execute_of_isEmpty s.scene _ now hempty]

/-- What does not settle the game leaves it alone. -/
theorem progress_happen_of_not_settles (s : Session Pair) {e : Event} (he : ¬ e.Settles) :
    (s.happen e).progress = s.progress := by
  cases e with
  | run line now moment =>
    have hsame : s.happen (.run line now moment) = s :=
      execute_snd_eq_self_of_blank s now moment (Bool.of_not_eq_false he)
    rw [hsame]
  | resume now moment => exact absurd trivial he
  | retry =>
    change (retryPending s).2.progress = s.progress
    rcases retryPending_snd s with hsame | ⟨id, -, hpush⟩
    · rw [hsame]
    · rw [hpush]
      rfl
  | elapse time =>
    change (s.elapse time).progress = s.progress
    rcases s.elapse_eq time with hsame | ⟨p, -, hpush⟩
    · rw [hsame]
    · rw [hpush]
      rfl
  | _ => rfl

/-- What does not settle the game goes on with what is up to date. -/
theorem Current.happen (h : s.Current id) (hc : s.link.configured = true) {e : Event}
    (hid : s.profileId? = some id) (he : ¬ e.Settles) : (s.happen e).Current id := by
  cases e with
  | run line now moment =>
    have hsame : s.happen (.run line now moment) = s :=
      execute_snd_eq_self_of_blank s now moment (Bool.of_not_eq_false he)
    rw [hsame]
    exact h
  | resume now moment => exact absurd trivial he
  | retry =>
    change (retryPending s).2.Current id
    rcases retryPending_snd s with hsame | ⟨id', hid', hpush⟩
    · rw [hsame]
      exact h
    · cases hid.symm.trans hid'
      rw [hpush]
      exact h.push hc
  | elapse time =>
    change (s.elapse time).Current id
    rcases h.elapse_eq time with hsame | hpush
    · rw [hsame]
      exact h
    · rw [hpush]
      exact h.idled.push hc
  | _ => exact ⟨h.waiting, h.text⟩

/-- Whatever settles the game, it is up to date for the profile that is signed in then. -/
theorem current_of_settles (h : s.Within Pair.Holds true) {e : Event} (ht : e.Timely)
    (he : e.Settles) (hid : (s.happen e).profileId? = some id) : (s.happen e).Current id := by
  have hafter := (h.happen ht).configured
  cases e with
  | run line now moment =>
    change (s.execute line now moment).2.Current id
    change (s.execute line now moment).2.profileId? = some id at hid
    change (s.execute line now moment).2.link.configured = true at hafter
    rw [execute_snd s now moment he] at hid hafter ⊢
    refine current_settle ?_ hid
    rwa [configured_settle] at hafter
  | resume now moment =>
    obtain ⟨s', hs'⟩ : ∃ s' : Session Pair, (s.resume now moment).2 = s'.settle now moment :=
      ⟨_, rfl⟩
    change (s.resume now moment).2.Current id
    change (s.resume now moment).2.profileId? = some id at hid
    change (s.resume now moment).2.link.configured = true at hafter
    rw [hs'] at hid hafter ⊢
    refine current_settle ?_ hid
    rwa [configured_settle] at hafter
  | retry => exact he.elim
  | notices => exact he.elim
  | elapse time => exact he.elim
  | reach online failsRead failsWrite => exact he.elim
  | tick clock => exact he.elim

/-- Once it has been settled, the game stays up to date for the profile that is signed in,
whichever that is. -/
theorem current_play {es : List Event} (h : s.Within Pair.Holds true)
    (hes : ∀ e ∈ es, e.Timely)
    (hsettled : (∀ id, s.profileId? = some id → s.Current id) ∨ ∃ e ∈ es, e.Settles)
    (hid : (s.play es).profileId? = some id) : (s.play es).Current id := by
  induction es generalizing s with
  | nil =>
    rcases hsettled with hcurrent | ⟨e, he, -⟩
    · exact hcurrent id hid
    · cases he
  | cons e es ih =>
    have htimely := hes e List.mem_cons_self
    refine ih (h.happen htimely) (fun e' he' => hes e' (List.mem_cons_of_mem _ he')) ?_ hid
    by_cases he : e.Settles
    · exact .inl fun id' hid' => current_of_settles h htimely he hid'
    · rcases hsettled with hcurrent | ⟨e', he', hsettles⟩
      · refine .inl fun id' hid' => ?_
        rw [profileId?, progress_happen_of_not_settles s he] at hid'
        exact (hcurrent id' hid').happen h.configured hid' he
      · rcases List.mem_cons.1 he' with rfl | he'
        · exact absurd hsettles he
        · exact .inr ⟨e', he', hsettles⟩

/-- In a session on stores that hold games, with saves in the cloud, and once it has been
settled: whenever an account of the cloud is signed in and nothing is pending, the cloud has the
game that is being played. -/
theorem record?_play_of_not_pending {p : Pair} {settings : Settings} {identity : Bool}
    {tree : Option Node} {es : List Event} {username : String} (hp : p.Holds) (hnow : now.Valid)
    (hs : (enter settings ⟨identity, true⟩ now p).1 = .ok s) (hes : ∀ e ∈ es, e.Timely)
    (hsettles : ∃ e ∈ es, e.Settles)
    (haccount : ((s.onTree tree).play es).progress.account = some (.cloud username id))
    (hpending : ((s.onTree tree).play es).pendingSync = false) :
    ((s.onTree tree).play es).depot.cloud.record? id =
      some (.ofProgress ((s.onTree tree).play es).progress) := by
  have hstart : (s.onTree tree).Within Pair.Holds true := within_enter hp.device hp hnow hs tree
  have hcurrent := current_play hstart hes (.inr hsettles) (profileId?_of_account haccount)
  exact Cloud.record?_of_text? (hstart.play hes).games.game (hcurrent.text hpending)

/-! ### Coming back to a save that is still to be sent -/

/-- Whose game it is does not change by going on with the later save. -/
theorem account_adopt (id : String) (s : Session Pair) :
    (adopt id s).2.progress.account = s.progress.account := by
  unfold adopt onLink
  rcases Link.reconcile id (some (.ofProgress s.progress)) s.link with ⟨e | m, l⟩
  · rfl
  rcases m with _ | ⟨record, _ | _⟩
  · rfl
  · rfl
  · dsimp only
    rcases Link.onDepot (Saves.ofRecord record) (s.withLink l).link with ⟨e | p, l'⟩ <;> rfl

theorem account_settleWithCloud (s : Session Pair) :
    s.settleWithCloud.2.progress.account = s.progress.account := by
  unfold settleWithCloud
  split
  · rfl
  · rename_i id _
    have hadopt := account_adopt id s
    rcases hr : adopt id s with ⟨_ | _ | _, s'⟩ <;> rw [hr] at hadopt <;> exact hadopt

/-- Coming back to a game leaves it whose it is. -/
theorem account_resume (s : Session Pair) (now : Instant) (moment : Moment) :
    (s.resume now moment).2.progress.account = s.progress.account := by
  have hkept : ∀ p : Progress, ((p.updateStreak now).touch now).account = p.account := fun _ => rfl
  rw [resume_eq_welcome, progress_welcome, hkept, Progress.account_accrueOffline]
  exact account_settleWithCloud s.takeNotices.2

/-- A retry that arrives leaves nothing pending. -/
theorem pending_retryPending (hl : s.link.Lands) (hid : s.profileId? = some id) :
    (retryPending s).2.link.pending = false := by
  unfold retryPending
  rw [show s.progress.account.bind Account.profileId? = some id from hid]
  change (Link.retry id (.ofProgress s.progress) s.link).2.pending = false
  rw [Link.retry_snd]
  cases hpending : s.link.pending with
  | true => exact Link.pending_push_of_lands hl id _
  | false => exact hpending

/-- A session on a device that has a save goes on with it, repaired. -/
theorem enter_of_text {p : Pair} {q : Progress} (hq : q.Storable)
    (hreads : p.device.failsRead = false)
    (htext : p.device.entries.get? Saves.stateKey = some q.toText) (settings : Settings)
    (services : Services) (now : Instant) :
    enter settings services now p = (.ok (start settings services p q.repair), p) := by
  have hload : (Saves.load : Action StoreError Pair _) p = (.ok (some q.repair), p) := by
    rw [Saves.load_pair]
    simp only [hreads, Bool.false_eq_true, if_false, htext, Progress.ofText?_toText hq]
  unfold enter
  rw [hload]

/-- The save of an account of the cloud is on the device only; coming back and a retry bring it
to the cloud, where it is read back. -/
theorem exists_record?_of_not_pending :
    ∃ (p : Pair) (s : Session Pair) (es : List Event), p.Holds ∧
      (enter .initial ⟨true, true⟩ ⟨0, 0⟩ p).1 = .ok s ∧ (∀ e ∈ es, e.Timely) ∧
      (∃ e ∈ es, e.Settles) ∧
      (s.play es).progress.account = some (.cloud "hero" "profile-1") ∧
      (s.play es).pendingSync = false ∧
      (s.play es).depot.cloud.record? "profile-1" = some (.ofProgress (s.play es).progress) := by
  obtain ⟨q, hq, haccount⟩ : ∃ q : Progress, q.Storable ∧
      q.account = some (.cloud "hero" "profile-1") :=
    ⟨{ Progress.fresh ⟨0, 0⟩ with account := some (.cloud "hero" "profile-1") },
      (Progress.Storable.fresh (by decide)).withAccount _, rfl⟩
  obtain ⟨p, hp, hworks, htext⟩ : ∃ p : Pair, p.Holds ∧ p.Works ∧
      p.device.entries.get? Saves.stateKey = some q.toText := by
    let empty : Pair := ⟨.empty, .empty, ⟨0, 0⟩, .silent⟩
    have hempty : empty.device.HoldsGames := Memory.holdsGames_empty
    exact ⟨empty.put .device Saves.stateKey q.toText, ⟨hempty.put_state hq, Cloud.holdsSaves_empty⟩,
      ⟨rfl, rfl, rfl, rfl, rfl⟩, empty.get?_put_self .device _ _⟩
  have hopened : (⟨0, 0⟩ : Instant).Valid := by decide
  have hnow : (⟨1, 0⟩ : Instant).Valid := by decide
  obtain ⟨s, hs, hgame⟩ : ∃ s : Session Pair,
      (enter .initial ⟨true, true⟩ ⟨0, 0⟩ p).1 = .ok s ∧ s.progress = q.repair :=
    ⟨_, by rw [enter_of_text hq hworks.reads htext], rfl⟩
  have htimely : ∀ e ∈ [Event.resume ⟨1, 0⟩ ⟨0, 1⟩, .retry], e.Timely := by
    intro e he
    rcases List.mem_cons.1 he with rfl | he
    · exact hnow
    · rw [List.mem_singleton.1 he]
      trivial
  have hsettles : ∃ e ∈ [Event.resume ⟨1, 0⟩ ⟨0, 1⟩, .retry], e.Settles :=
    ⟨_, List.mem_cons_self, trivial⟩
  have hstart : s.Within (fun p => p.Holds ∧ p.Works) true :=
    within_enter hp.device ⟨hp, hworks⟩ hopened hs none
  have hresumed : (s.resume ⟨1, 0⟩ ⟨0, 1⟩).2.Within (fun p => p.Holds ∧ p.Works) true :=
    within_resume Pair.Holds.steady.works hstart hnow
  have hid : (s.resume ⟨1, 0⟩ ⟨0, 1⟩).2.progress.account = some (.cloud "hero" "profile-1") := by
    rw [account_resume, hgame]
    exact haccount
  have hlands : (s.resume ⟨1, 0⟩ ⟨0, 1⟩).2.link.Lands :=
    ⟨hresumed.configured, hresumed.depot.2.online, hresumed.depot.2.cloudWrites⟩
  have hpending : (s.play [.resume ⟨1, 0⟩ ⟨0, 1⟩, .retry]).pendingSync = false :=
    pending_retryPending hlands (profileId?_of_account hid)
  have hplayed : (s.play [.resume ⟨1, 0⟩ ⟨0, 1⟩, .retry]).progress.account =
      some (.cloud "hero" "profile-1") := by
    have hretried := progress_happen_of_not_settles (s.resume ⟨1, 0⟩ ⟨0, 1⟩).2
      (show ¬ Event.retry.Settles from id)
    exact (congrArg Progress.account hretried).trans hid
  have hrecord := @record?_play_of_not_pending s _ _ _ _ _ none _ _ hp hopened hs htimely hsettles
    hplayed hpending
  exact ⟨p, s, _, hp, hs, htimely, hsettles, hplayed, hpending, hrecord⟩

end Session

end Questline
