import Questline.Proofs.Quest.Recommendation
import Questline.Proofs.Session.Interleaving
set_option autoImplicit false

/-!
# Games everywhere

What befalls a fleet, in whatever order: its devices take their steps, time passes, the cloud
goes off, and stores fail.  Every game that it has, being played or kept, on a device, among the
snapshots or in the cloud, can be read and is of the kind that belongs there, for each kind of
games that lasts.
-/

namespace Questline

open Time (Instant)

variable {T : UInt32 → Prop} {K P : Place → Progress → Prop}

namespace Fleet

/-! ## What befalls a fleet -/

/-- What happens in a fleet, and what goes wrong around it. -/
inductive Incident where
  | event (e : Event)
  /-- The store of a device fails on some operations, and on no others. -/
  | device (name : String) (failsRead failsWrite failsRemove : Bool)
  /-- The store of the cloud does. -/
  | cloud (failsRead failsWrite failsRemove : Bool)
  /-- The clock on the wall shows another time. -/
  | tick (clock : Instant)

/-- The store fails on these operations. -/
def failing (m : Memory) (failsRead failsWrite failsRemove : Bool) : Memory :=
  { m with failsRead := failsRead, failsWrite := failsWrite, failsRemove := failsRemove }

/-- What an incident makes of the fleet. -/
def befall (f : Fleet) : Incident → Fleet
  | .event e => f.happen e
  | .device name r w m => f.withStore name (failing (f.device name).store r w m)
  | .cloud r w m => f.withCloudStore (failing f.cloud.store r w m)
  | .tick clock => { f with clock := clock }

/-- What a course of incidents makes of the fleet. -/
def undergo (f : Fleet) (is : List Incident) : Fleet := is.foldl befall f

/-- No devices yet, and an empty cloud that gives its profiles these names. -/
def founded (naming : Nat → String) (clock : Instant) (wording : Wording) : Fleet :=
  { initial clock wording with cloud := { Cloud.empty with naming := naming } }

namespace Incident

/-- The clock can show the time of the incident. -/
def Timely : Incident → Prop
  | .event e => e.Timely
  | _ => True

/-- A session that is opened judges quests at one of the thresholds. -/
def OpensAt (T : UInt32 → Prop) : Incident → Prop
  | .event (.act _ (.enter settings _ _ _)) => T settings.threshold
  | _ => True

theorem opensAt_any (i : Incident) : i.OpensAt fun _ => True := by
  unfold OpensAt
  split <;> trivial

end Incident

instance : DecidablePred Step.Timely
  | .enter _ _ _ now | .run _ now | .resume now => inferInstanceAs (Decidable now.Valid)
  | .retry | .notices | .close | .drop => .isTrue trivial

instance : DecidablePred Incident.Timely
  | .event (.act _ st) => inferInstanceAs (Decidable st.Timely)
  | .event (.elapse _) | .event (.wait _) | .event (.online _) => .isTrue trivial
  | .device .. | .cloud .. | .tick _ => .isTrue trivial

/-- All games can be read, by whatever clock, and have a property that depends on where they
are: those being played, those kept on the devices, the snapshots and the saves in the cloud. -/
structure Everywhere (P : Place → Progress → Prop) (f : Fleet) : Prop where
  played : ∀ name s, (f.device name).session = some s → P .device s.progress
  kept : ∀ name text, (f.device name).store.entries.get? Saves.stateKey = some text →
    ∀ clock, ∃ p, (Json.parse? text).bind (Progress.ofJson? clock 0) = some p ∧ P .device p
  snapshots : ∀ name text, (f.device name).store.entries.get? Saves.accountsKey = some text →
    ∀ clock, ∃ c, Saves.cacheOfText? clock text = some c ∧
      ∀ e ∈ c.entries, P (.snapshot e.1) e.2
  saved : ∀ id text, f.cloud.text? id = some text →
    ∀ clock, ∃ r p, SaveRecord.ofText? text = some r ∧
      Progress.ofJson? clock 0 r.payload = some p ∧ P (.cloud id) p

/-! ## Keeping to a kind -/

/-- All stores keep games of the kind, and all sessions carry such games. -/
structure Upholds (T : UInt32 → Prop) (K : Place → Progress → Prop) (f : Fleet) : Prop where
  depot : ∀ name, (f.surroundings name).Keeps K
  session : ∀ name s, (f.device name).session = some s → s.Contains T K

variable {f : Fleet} {name : String}

theorem upholds_founded (naming : Nat → String) (clock : Instant) (wording : Wording) :
    (founded naming clock wording).Upholds T K where
  depot _ := ⟨Memory.keeps_empty K, Cloud.keeps_empty K⟩
  session _ _ := nofun

theorem Upholds.absorb (h : f.Upholds T K) {p : Pair} (hp : p.Keeps K)
    {session : Option (Session Pair)} (hs : ∀ s, session = some s → s.Contains T K) :
    (f.absorb name p session).Upholds T K := by
  constructor
  · intro other
    refine ⟨?_, hp.cloud⟩
    by_cases hname : other = name
    · rw [hname, surroundings, device_absorb_self]
      exact hp.device
    · rw [surroundings, device_absorb_of_ne f hname]
      exact (h.depot other).device
  · intro other s
    by_cases hname : other = name
    · rw [hname, device_absorb_self]
      exact hs s
    · rw [device_absorb_of_ne f hname]
      exact h.session other s

/-- An open session upholds the kind in the surroundings of its device. -/
theorem Upholds.session? (h : f.Upholds T K) {s : Session Pair} (hs : f.session? name = some s) :
    s.Upholds T K (Pair.Keeps K) s.link.configured := by
  unfold Fleet.session? at hs
  obtain ⟨s', hs', rfl⟩ := Option.map_eq_some_iff.1 hs
  exact ⟨(h.session name s' hs').withLink _, h.depot name, rfl⟩

section

variable (hK : Place.Lasting T K)
include hK

/-- A step that leaves a session open leaves it with what is of the kind. -/
theorem upholds_stepSession {s : Session Pair} {b : Bool} (h : s.Upholds T K (Pair.Keeps K) b)
    (moment : Moment) {st : Step} (hst : st.Stays) (hnow : st.Timely) :
    (stepSession s moment st).2.Upholds T K (Pair.Keeps K) b := by
  have hI := Pair.custody_keeps K
  have hnew : ∀ id : String, True := fun _ => trivial
  cases st with
  | run line now =>
    rw [stepSession_run]
    exact Session.upholds_execute hK hI h hnow fun _ => hnew
  | resume now =>
    rw [stepSession_resume]
    exact Session.upholds_resume hK hI h hnow
  | retry =>
    rw [stepSession_retry]
    exact h.retryPending hI hnew hK
  | notices => exact ⟨⟨h.game, h.waiting, h.threshold⟩, h.depot, h.configured⟩
  | _ => exact hst.elim

theorem Upholds.enter (h : f.Upholds T K) (name : String) {settings : Settings}
    (ht : T settings.threshold) (services : Services) (tree : Option Node) {now : Instant}
    (hnow : now.Valid) : (f.enter name settings services tree now).2.Upholds T K := by
  obtain ⟨hsame, hgames⟩ :=
    Session.enter_of_keeps hK (h.depot name).device hnow settings services
  have hleft : (f.leftBehind name).Keeps K := by
    unfold leftBehind
    cases hs : f.session? name with
    | none => exact h.depot name
    | some old => exact (h.session? hs).drop (Pair.custody_keeps K) fun _ => trivial
  rw [enter_snd hsame]
  refine h.absorb hleft fun s hs => ?_
  obtain ⟨s', hs', rfl⟩ := Option.map_eq_some_iff.1 hs
  cases hr : (Session.enter settings services now (f.surroundings name)).1 with
  | error e =>
    rw [hr] at hs'
    cases hs'
  | ok s'' =>
    rw [hr] at hs'
    obtain ⟨q, hq, rfl⟩ := hgames s' (hr.trans (congrArg Except.ok (Option.some.inj hs')))
    have hstart := Session.contains_start hq ht services (f.surroundings name)
    cases tree <;> exact ⟨hstart.game, hstart.waiting, hstart.threshold⟩

/-- Whatever a device does, what the fleet has stays of the kind. -/
theorem Upholds.act (h : f.Upholds T K) (name : String) {st : Step} (hnow : st.Timely)
    (ht : Incident.OpensAt T (.event (.act name st))) : (f.act name st).2.Upholds T K := by
  have hI := Pair.custody_keeps K
  have hnew : ∀ id : String, True := fun _ => trivial
  have hclosed : ∀ s : Session Pair, (none : Option (Session Pair)) = some s → s.Contains T K := by
    intro s hs
    cases hs
  have hstays : st.Stays → (f.act name st).2.Upholds T K := by
    intro hst
    cases hs : f.session? name with
    | none =>
      rw [act_of_no_session hs hst]
      exact h
    | some s =>
      have hstep := upholds_stepSession hK (h.session? hs) f.moment hst hnow
      rw [act_of_session hs hst]
      refine h.absorb hstep.depot fun s' hs' => ?_
      exact Option.some.inj hs' ▸ hstep.toContains
  cases st with
  | enter settings services tree now => exact h.enter hK name ht services tree hnow
  | close =>
    cases hs : f.session? name with
    | none =>
      rw [act_close_of_no_session hs]
      exact h
    | some s =>
      rw [act_close_of_session hs]
      exact h.absorb ((h.session? hs).close hI hnew) hclosed
  | drop =>
    cases hs : f.session? name with
    | none =>
      rw [act_drop_of_no_session hs]
      exact h
    | some s =>
      rw [act_drop_of_session hs]
      exact h.absorb ((h.session? hs).drop hI hnew) hclosed
  | _ => exact hstays trivial

omit hK in
/-- A store that fails keeps what it has. -/
theorem Upholds.failing (h : f.Upholds T K) (name : String) (r w m : Bool) :
    (f.withStore name (Fleet.failing (f.device name).store r w m)).Upholds T K := by
  obtain ⟨c, hc, hkind⟩ := (h.depot name).device.snapshots
  have hdevice : (Fleet.failing (f.device name).store r w m).Keeps K :=
    ⟨(h.depot name).device.game, c, ⟨hc.storable, hc.text⟩, hkind⟩
  exact h.absorb (p := ⟨_, f.cloud, f.clock, f.wording⟩) ⟨hdevice, (h.depot name).cloud⟩
    (h.session name)

omit hK in
theorem Upholds.elapse (h : f.Upholds T K) (name : String) : (f.elapse name).Upholds T K := by
  cases hs : f.session? name with
  | none =>
    rw [elapse_of_no_session hs]
    exact h
  | some s =>
    have helapsed := (h.session? hs).elapse (Pair.custody_keeps K) (fun _ => trivial) f.moment.millis
    rw [elapse_of_session hs]
    refine h.absorb helapsed.depot fun s' hs' => ?_
    exact Option.some.inj hs' ▸ helapsed.toContains

theorem Upholds.befall (h : f.Upholds T K) {i : Incident} (hi : i.Timely) (ht : i.OpensAt T) :
    (f.befall i).Upholds T K := by
  cases i with
  | event e =>
    cases e with
    | act name st =>
      -- The number of the step is not looked at by what it leaves.
      have hturn : f.turned.Upholds T K := ⟨h.depot, h.session⟩
      exact hturn.act hK name hi ht
    | elapse name => exact h.elapse name
    | wait millis => exact ⟨h.depot, h.session⟩
    | online online => exact ⟨fun name => ⟨(h.depot name).device, (h.depot name).cloud⟩, h.session⟩
  | device name r w m => exact h.failing name r w m
  | cloud r w m => exact ⟨fun name => ⟨(h.depot name).device, (h.depot name).cloud⟩, h.session⟩
  | tick clock => exact ⟨fun name => ⟨(h.depot name).device, (h.depot name).cloud⟩, h.session⟩

/-- What the fleet has is of the kind after whatever has befallen it. -/
theorem Upholds.undergo {is : List Incident} (h : f.Upholds T K) (his : ∀ i ∈ is, i.Timely)
    (ht : ∀ i ∈ is, i.OpensAt T) : (f.undergo is).Upholds T K := by
  induction is generalizing f with
  | nil => exact h
  | cons i is ih =>
    have hstep := h.befall hK (his i List.mem_cons_self) (ht i List.mem_cons_self)
    exact ih hstep (fun j hj => his j (List.mem_cons_of_mem _ hj))
      fun j hj => ht j (List.mem_cons_of_mem _ hj)

/-- What is of the kind can be read. -/
theorem Upholds.everywhere (h : f.Upholds T K) (hP : ∀ place p, K place p → P place p) :
    f.Everywhere P where
  played name s hs := hP _ _ (h.session name s hs).game
  kept name text htext clock := by
    obtain ⟨q, hq, rfl⟩ := (h.depot name).device.game text htext
    refine ⟨q, ?_, hP _ _ hq⟩
    rw [Progress.toText, Json.parse?_print (Progress.tidy_toJson (hK.storable hq)),
      Option.bind_some, Progress.ofJson?_toJson .text (hK.storable hq) clock (by decide)]
  snapshots name text htext clock := by
    obtain ⟨c, hc, hkind⟩ := (h.depot name).device.snapshots
    refine ⟨c, ?_, fun e he => hP _ _ (hkind e he)⟩
    rcases hc.text with hcache | ⟨hnone, -⟩
    · rw [Option.some.inj (htext.symm.trans hcache), Saves.cacheOfText?_cacheText hc.storable]
    · cases htext.symm.trans hnone
  saved id text htext clock := by
    obtain ⟨q, hq, rfl⟩ := (h.depot "").cloud id text htext
    exact ⟨_, q, SaveRecord.ofText?_toText (hK.storable hq),
      Progress.ofJson?_toJson .data (hK.storable hq) clock (by decide), hP _ _ hq⟩

/-- Whatever has befallen a fleet since it was founded, its games are of a kind that lasts. -/
theorem everywhere_undergo (naming : Nat → String) (clock : Instant) (wording : Wording)
    {is : List Incident} (his : ∀ i ∈ is, i.Timely) (ht : ∀ i ∈ is, i.OpensAt T)
    (hP : ∀ place p, K place p → P place p) :
    ((founded naming clock wording).undergo is).Everywhere P :=
  ((upholds_founded naming clock wording).undergo hK his ht).everywhere hK hP

end

/-! ## Games in order -/

/-- Where all sessions judge quests at the same threshold, every game of a fleet is in order,
wherever it is and whatever has befallen the fleet. -/
theorem consistent_everywhere (naming : Nat → String) (clock : Instant) (wording : Wording)
    {threshold : UInt32} {is : List Incident} (his : ∀ i ∈ is, i.Timely)
    (ht : ∀ i ∈ is, i.OpensAt (· = threshold)) :
    ((founded naming clock wording).undergo is).Everywhere fun _ p => p.Consistent threshold :=
  everywhere_undergo (Place.lasting_orderly threshold) naming clock wording his ht
    fun _ _ h => h.consistent

/-- A player signs up on a device, whose store fails then, and completes a quest. -/
def debut : List Incident := [
  .event (.act "a" (.enter .initial ⟨true, true⟩ none ⟨0, 0⟩)),
  .event (.act "a" (.run "signup hero" ⟨1, 0⟩)),
  .device "a" false true false,
  .event (.act "a" (.run "pwd" ⟨2, 0⟩))]

theorem timely_debut : ∀ i ∈ debut, i.Timely := by decide +kernel

/-- There is a game with a quest, a snapshot, and a save in the cloud. -/
theorem undergo_debut :
    let f := (founded (fun _ => "p") ⟨0, 0⟩ .silent).undergo debut
    ((f.device "a").session.any fun s => s.progress.isComplete "plains-pwd") = true ∧
      ((f.device "a").store.entries.get? Saves.accountsKey).isSome = true ∧
      (f.cloud.text? "p").isSome = true := by
  decide +kernel

/-- The quest is counted as it should be, and what was kept before has none. -/
theorem consistent_everywhere_debut :
    (∀ i ∈ debut, i.Timely) ∧ (∀ i ∈ debut, i.OpensAt (· = 6)) ∧
      ((((founded (fun _ => "p") ⟨0, 0⟩ .silent).undergo debut).device "a").session.any fun s =>
        s.progress.isComplete "plains-pwd") = true ∧
      ((founded (fun _ => "p") ⟨0, 0⟩ .silent).undergo debut).Everywhere
        fun _ p => p.Consistent 6 := by
  have hopens : ∀ i ∈ debut, i.OpensAt (· = 6) := by simp [debut, Incident.OpensAt, Settings.initial]
  exact ⟨timely_debut, hopens, undergo_debut.1, consistent_everywhere _ _ _ timely_debut hopens⟩

/-! ## Games in which one can go on -/

/-- Where all sessions judge quests at the same threshold, of at most eight, no game of a fleet is
one in which the player is stuck: no quest is recommended only if all are complete, and otherwise
it is the first of the catalog that is pending in a zone that is open. -/
theorem never_stuck_everywhere (naming : Nat → String) (clock : Instant) (wording : Wording)
    {threshold : UInt32} (hle : threshold ≤ 8) {is : List Incident} (his : ∀ i ∈ is, i.Timely)
    (ht : ∀ i ∈ is, i.OpensAt (· = threshold)) :
    ((founded naming clock wording).undergo is).Everywhere fun _ p =>
      (p.nextQuest? threshold = none ↔ ∀ q ∈ Quest.catalog, p.isComplete q.id = true) ∧
      p.nextQuest? threshold =
        (Quest.catalog.find? fun q => !p.isComplete q.id && p.isUnlocked threshold q.zone).map
          fun q => (q.zone, q) :=
  everywhere_undergo (Place.lasting_orderly threshold) naming clock wording his ht
    fun _ p h => ⟨h.toTallied.nextQuest?_eq_none_iff hle, p.nextQuest?_eq_find? threshold⟩

/-- The player who has signed up is to go on with the first quest, which is still pending. -/
theorem never_stuck_everywhere_debut :
    (6 : UInt32) ≤ 8 ∧ (∀ i ∈ debut, i.Timely) ∧ (∀ i ∈ debut, i.OpensAt (· = 6)) ∧
      (((founded (fun _ => "p") ⟨0, 0⟩ .silent).undergo debut).device "a").session.map
        (fun s => (s.progress.nextQuest? 6).map fun r => (r.1, r.2.id)) =
          some (some (.plains, "plains-help")) ∧
      ((founded (fun _ => "p") ⟨0, 0⟩ .silent).undergo debut).Everywhere fun _ p =>
        (p.nextQuest? 6 = none ↔ ∀ q ∈ Quest.catalog, p.isComplete q.id = true) ∧
        p.nextQuest? 6 = (Quest.catalog.find? fun q =>
          !p.isComplete q.id && p.isUnlocked 6 q.zone).map fun q => (q.zone, q) := by
  have hopens : ∀ i ∈ debut, i.OpensAt (· = 6) := by simp [debut, Incident.OpensAt, Settings.initial]
  exact ⟨by decide, timely_debut, hopens, by decide +kernel,
    never_stuck_everywhere _ _ _ (by decide) timely_debut hopens⟩

/-! ## Games where they belong -/

/-- Whatever has befallen a fleet, the save of a profile in the cloud is the game of an account
with that profile, and a snapshot under a key is the game of an account with that key. -/
theorem owned_everywhere (naming : Nat → String) (clock : Instant) (wording : Wording)
    {is : List Incident} (his : ∀ i ∈ is, i.Timely) :
    ((founded naming clock wording).undergo is).Everywhere fun place p => place.Owns p.account :=
  everywhere_undergo (T := fun _ => True) Place.lasting_owned naming clock wording his
    (fun i _ => i.opensAt_any) fun _ _ h => h.2

/-- The snapshot and the save of the player who has signed up are those of the new profile. -/
theorem owned_everywhere_debut :
    (∀ i ∈ debut, i.Timely) ∧
      ((((founded (fun _ => "p") ⟨0, 0⟩ .silent).undergo debut).device "a").store.entries.get?
        Saves.accountsKey).isSome = true ∧
      (((founded (fun _ => "p") ⟨0, 0⟩ .silent).undergo debut).cloud.text? "p").isSome = true ∧
      ((founded (fun _ => "p") ⟨0, 0⟩ .silent).undergo debut).Everywhere
        fun place p => place.Owns p.account :=
  ⟨timely_debut, undergo_debut.2.1, undergo_debut.2.2, owned_everywhere _ _ _ timely_debut⟩

end Fleet

end Questline
