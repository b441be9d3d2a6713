import Questline.Proofs.Session.Complaint
import Questline.Proofs.Session.Roster
set_option autoImplicit false

/-!
# Corrupt data, told again and again

A save that is corrupt is discarded when a session opens, and the game goes on.  Snapshots that are
corrupt are discarded by nothing: from the first complaint about them on, every line that needs
them complains, in that session and in all later ones.
-/

namespace Questline

open Time (Instant)

/-! ## Sessions -/

namespace Session

variable {s s' s'' : Session Pair} {moment : Moment}

/-- From one session to the other nothing has happened to the snapshots, and what there is no
service for has not changed. -/
structure Spares (s s' : Session Pair) : Prop where
  device : s.depot.device.Spares s'.depot.device
  identity : s'.scene.desk.identity = s.scene.desk.identity

theorem Spares.refl (s : Session Pair) : s.Spares s := ⟨.refl _, rfl⟩

theorem Spares.trans (h : s.Spares s') (h' : s'.Spares s'') : s.Spares s'' :=
  ⟨h.device.trans h'.device, h'.identity.trans h.identity⟩

theorem spares_withProgress (s : Session Pair) (p : Progress) : s.Spares (s.withProgress p) :=
  ⟨.refl _, rfl⟩

theorem spares_push (s : Session Pair) (id : String) (r : SaveRecord) :
    s.Spares (s.withLink (Link.push id r s.link).2) := by
  have hdevice : s.depot.device = (Link.push id r s.link).2.depot.device :=
    (Link.device_push id r s.link).symm
  refine ⟨?_, rfl⟩
  change s.depot.device.Spares (Link.push id r s.link).2.depot.device
  rw [← hdevice]
  exact .refl _

theorem spares_settle (s : Session Pair) (now : Instant) (moment : Moment) :
    s.Spares (s.settle now moment) := by
  constructor
  · rw [depot_settle]
    exact Saves.spares_save _ _
  · unfold settle scheduleAutosave
    split
    · split <;> rfl
    · rfl

/-- A line leaves a session that has settled, at most, after its command. -/
theorem spares_execute (s : Session Pair) (line : String) (now : Instant) (moment : Moment) :
    Spares { s with scene := (s.scene.execute s.settings.threshold line now).2 }
      (s.execute line now moment).2 := by
  cases hblank : Text.isBlankText line.toList with
  | true =>
    rw [execute_snd_of_blank s now moment hblank]
    exact .refl _
  | false =>
    rw [execute_snd s now moment hblank]
    exact (spares_withProgress _ _).trans (spares_settle _ now moment)

theorem spares_adopt (s : Session Pair) (id : String) : s.Spares (adopt id s).2 := by
  have hreconcile := Link.spares_reconcile id (some (.ofProgress s.progress)) s.link
  unfold adopt onLink
  generalize Link.reconcile id (some (.ofProgress s.progress)) s.link = reconciled at hreconcile ⊢
  obtain ⟨r, l⟩ := reconciled
  have hlink : s.Spares (s.withLink l) := ⟨hreconcile, rfl⟩
  rcases r with e | _ | ⟨record, _ | _⟩
  · exact hlink
  · exact hlink
  · exact hlink
  · dsimp only
    rw [Link.onDepot_apply, Saves.ofRecord_apply]
    cases record.progress? (Depot.clock (s.withLink l).link.depot) with
    | none => exact hlink
    | some q => exact hlink.trans (spares_withProgress _ _)

theorem spares_settleWithCloud (s : Session Pair) : s.Spares s.settleWithCloud.2 := by
  unfold settleWithCloud
  split
  · exact .refl _
  · rename_i id _
    have hadopt := s.spares_adopt id
    generalize adopt id s = adopted at hadopt ⊢
    rcases adopted with ⟨_ | _ | _, s'⟩ <;> exact hadopt

theorem spares_resume (s : Session Pair) (now : Instant) (moment : Moment) :
    s.Spares (s.resume now moment).2 := by
  have hcloud := spares_settleWithCloud s.takeNotices.2
  have hstart : s.Spares s.takeNotices.2 := ⟨.refl _, rfl⟩
  rw [resume_eq_welcome, welcome_snd]
  exact ((hstart.trans hcloud).trans (spares_withProgress _ _)).trans (spares_settle _ now moment)

theorem spares_retryPending (s : Session Pair) : s.Spares (retryPending s).2 := by
  rcases retryPending_snd s with hsame | ⟨id, -, hpush⟩
  · rw [hsame]
    exact .refl _
  · rw [hpush]
    exact spares_push s id _

theorem spares_elapse (s : Session Pair) (time : Nat) : s.Spares (s.elapse time) := by
  rcases elapse_eq s time with hsame | ⟨p, -, hpush⟩
  · rw [hsame]
    exact .refl _
  · rw [hpush]
    have hidled : s.Spares s.idled := ⟨.refl _, rfl⟩
    exact hidled.trans (spares_push s.idled p.profileId p.record)

theorem device_drop (s : Session Pair) : s.drop.device = s.depot.device := by
  unfold drop
  cases s.courier.waiting with
  | none => rfl
  | some p => exact Link.device_push ..

theorem spares_close (s : Session Pair) : s.depot.device.Spares s.close.device := by
  rw [close, device_drop]
  exact Saves.spares_save _ _

/-- What is kept under the key of the game is read or discarded. -/
theorem spares_enter (settings : Settings) (services : Services) (now : Instant) (p : Pair) :
    p.device.Spares (enter settings services now p).2.device ∧
      ∀ s, (enter settings services now p).1 = .ok s →
        s.scene.desk.identity = services.identity := by
  have hload := Saves.snd_load p
  have hclear := Saves.spares_clear p
  unfold enter
  generalize (Saves.load : Action StoreError Pair _) p = loaded at hload ⊢
  obtain ⟨r, p'⟩ := loaded
  obtain rfl : p' = p := hload
  rcases r with (⟨key, reason⟩ | ⟨key, fault⟩) | _ | q
  · dsimp only
    generalize (Saves.clear : Action StoreError Pair Unit) p' = cleared at hclear ⊢
    rcases cleared with ⟨_ | _, p''⟩
    · exact ⟨hclear, fun s => nofun⟩
    · exact ⟨hclear, fun s hs => by cases hs; rfl⟩
  · exact ⟨.refl _, fun s => nofun⟩
  · exact ⟨.refl _, fun s hs => by cases hs; rfl⟩
  · exact ⟨.refl _, fun s hs => by cases hs; rfl⟩

end Session

/-! ## Devices -/

/-- The device can be relied on, and no identity service is used on it. -/
structure Device.Standalone (d : Device) : Prop where
  store : d.store.Reliable
  alone : ∀ s, d.session = some s → s.scene.desk.identity = false

/-- What becomes of a device by an incident, in which a complaint is made or not, and the snapshots
are needed or not: a complaint finds and leaves snapshots that cannot be read, and where they
cannot be read, it is made exactly if they are needed. -/
structure Device.Passes (d d' : Device) (complains consults : Bool) : Prop where
  standalone : d'.Standalone
  barred : d.store.Barred ∨ complains = true → d'.store.Barred
  complains_eq : d.store.Barred → complains = consults

namespace Fleet

variable {f : Fleet} {name : String} {i : Incident} {is : List Incident}

/-- The incident is a line run on the device, and its result complains. -/
def complains (name : String) (f : Fleet) : Incident → Bool
  | .event (.act other (.run line now)) =>
    other == name && (f.session? name).any fun s =>
      (s.execute line now f.turned.moment).1.outcome.complains
  | _ => false

/-- The incident is a line run on the device, and it needs the snapshots; if its output is filtered,
what the JSON reader says of them passes the filter. -/
def consults (name : String) (f : Fleet) : Incident → Bool
  | .event (.act other (.run line _)) =>
    other == name && (f.session? name).any fun s =>
      (Command.parse (Text.trimmed line)).consults s.progress.account s.depot.objection.message
  | _ => false

/-- How many incidents of a course find the fleet so. -/
def tally (P : Fleet → Incident → Bool) : Fleet → List Incident → Nat
  | _, [] => 0
  | f, i :: is => (P f i).toNat + tally P (f.befall i) is

/-- How many results on the device complain. -/
def complaints (name : String) : Fleet → List Incident → Nat := tally (complains name)

/-- How many lines on the device need the snapshots. -/
def consultations (name : String) : Fleet → List Incident → Nat := tally (consults name)

theorem tally_append (P : Fleet → Incident → Bool) (f : Fleet) (is js : List Incident) :
    tally P f (is ++ js) = tally P f is + tally P (f.undergo is) js := by
  induction is generalizing f with
  | nil => rw [List.nil_append, tally, undergo_nil, Nat.zero_add]
  | cons i is ih => rw [List.cons_append, tally, tally, ih, undergo_cons, Nat.add_assoc]

theorem complaints_cons (f : Fleet) (name : String) (i : Incident) (is : List Incident) :
    f.complaints name (i :: is) =
      (f.complains name i).toNat + (f.befall i).complaints name is := by
  rw [complaints, tally]

theorem consultations_cons (f : Fleet) (name : String) (i : Incident) (is : List Incident) :
    f.consultations name (i :: is) =
      (f.consults name i).toNat + (f.befall i).consultations name is := by
  rw [consultations, tally]

theorem complaints_append (f : Fleet) (name : String) (is js : List Incident) :
    f.complaints name (is ++ js) = f.complaints name is + (f.undergo is).complaints name js :=
  tally_append _ f is js

theorem complains_of_not_isOn (h : ¬ i.IsOn name) : f.complains name i = false := by
  unfold complains
  split
  · rw [beq_eq_false_iff_ne.2 h, Bool.false_and]
  · rfl

theorem consults_of_not_isOn (h : ¬ i.IsOn name) : f.consults name i = false := by
  unfold consults
  split
  · rw [beq_eq_false_iff_ne.2 h, Bool.false_and]
  · rfl

/-! ### What an incident makes of the device -/

theorem passes_of_spares {d d' : Device} (h : d.Standalone) (hstore : d.store.Spares d'.store)
    (halone : ∀ s, d'.session = some s → s.scene.desk.identity = false) :
    d.Passes d' false false :=
  ⟨⟨hstore.reliable h.store, halone⟩, fun hbarred => hstore.barred (by simpa using hbarred),
    fun _ => rfl⟩

theorem standalone_session? (h : (f.device name).Standalone) {s : Session Pair}
    (hs : f.session? name = some s) :
    s.depot.device = (f.device name).store ∧ s.scene.desk.Standalone := by
  unfold Fleet.session? at hs
  obtain ⟨s', hs', rfl⟩ := Option.map_eq_some_iff.1 hs
  exact ⟨rfl, h.alone s' hs', h.store⟩

/-- A session is left to the device. -/
theorem passes_absorb (h : (f.device name).Standalone) {s s' : Session Pair}
    (hs : f.session? name = some s) (hspares : s.Spares s') :
    (f.device name).Passes ((f.absorb name s'.depot (some s')).device name) false false := by
  obtain ⟨hstore, hdesk⟩ := standalone_session? h hs
  rw [device_absorb_self]
  refine passes_of_spares h (hstore ▸ hspares.device) fun s'' hs'' => ?_
  rw [← Option.some.inj hs'']
  exact hspares.identity.trans hdesk.identity

theorem passes_absorb_none (h : (f.device name).Standalone) {p : Pair}
    (hspares : (f.device name).store.Spares p.device) :
    (f.device name).Passes ((f.absorb name p none).device name) false false := by
  rw [device_absorb_self]
  exact passes_of_spares h hspares fun s => nofun

theorem passes_enter (h : (f.device name).Standalone) (settings : Settings) {services : Services}
    (hservices : services.identity = false) (tree : Option Node) (now : Instant) :
    (f.device name).Passes ((f.enter name settings services tree now).2.device name)
      false false := by
  obtain ⟨hspares, hidentity⟩ := Session.spares_enter settings services now (f.surroundings name)
  unfold Fleet.enter
  generalize Session.enter settings services now (f.surroundings name) = entered
    at hspares hidentity ⊢
  obtain ⟨r, p⟩ := entered
  have hstore : ∀ {p' : Pair}, p'.device = p.device → (f.device name).store.Spares p'.device :=
    fun hdevice => hdevice ▸ hspares
  have hleft : ∀ old : Session Pair, (old.withDepot p).drop.device = p.device := fun old =>
    Session.device_drop _
  have hopened : ∀ {p' : Pair} {s' : Session Pair}, p'.device = p.device →
      s'.scene.desk.identity = false →
      (f.device name).Passes ((f.absorb name p' (some s')).device name) false false := by
    intro p' s' hdevice halone
    rw [device_absorb_self]
    exact passes_of_spares h (hstore hdevice) fun s hs => Option.some.inj hs ▸ halone
  rcases r with e | s
  · cases (f.device name).session with
    | none => exact passes_absorb_none h (hstore rfl)
    | some old => exact passes_absorb_none h (hstore (hleft old))
  · have hentered : s.scene.desk.identity = false := (hidentity s rfl).trans hservices
    cases (f.device name).session with
    | none => cases tree <;> exact hopened rfl hentered
    | some old => cases tree <;> exact hopened (hleft old) hentered

/-- A line complains about snapshots that cannot be read, and about nothing else. -/
theorem passes_run (h : (f.device name).Standalone) (line : String) (now : Instant) :
    (f.device name).Passes ((f.turned.act name (.run line now)).2.device name)
      (f.complains name (running name line now)) (f.consults name (running name line now)) := by
  have hstays : (Step.run line now).Stays := trivial
  rw [running, complains, consults, beq_self_eq_true, Bool.true_and, Bool.true_and]
  cases hs : f.session? name with
  | none =>
    have hturned : f.turned.session? name = none := hs
    rw [act_of_no_session hturned hstays]
    exact passes_of_spares h (.refl _) h.alone
  | some s =>
    have hturned : f.turned.session? name = some s := hs
    obtain ⟨hstore, hdesk⟩ := standalone_session? h hs
    have hbarred := fun hb =>
      Scene.execute_of_barred hdesk hb s.settings.threshold line now
    have howns := Scene.owns_execute hdesk s.settings.threshold line now
    have hspares := s.spares_execute line now f.turned.moment
    rw [act_of_session hturned hstays, stepSession_run, device_absorb_self, Option.any_some,
      Option.any_some, s.outcome_execute]
    -- From here on the run is only known by what it answers and leaves.
    generalize (s.execute line now f.turned.moment).2 = after at hspares ⊢
    generalize s.scene.execute s.settings.threshold line now = result at howns hspares hbarred ⊢
    have hfound : (f.device name).store.Barred → s.scene.desk.link.depot.device.Barred :=
      fun hb => hstore.symm ▸ hb
    refine ⟨⟨hspares.device.reliable howns.standalone.device, fun s' hs' => ?_⟩, ?_,
      fun hb => (hbarred (hfound hb)).1⟩
    · rw [← Option.some.inj hs']
      exact hspares.identity.trans howns.standalone.identity
    · rintro (hb | hcomplains)
      · have hleft : result.2.desk.link.depot.device.Barred :=
          (hbarred (hfound hb)).2.symm ▸ hfound hb
        exact hspares.device.barred hleft
      · exact hspares.device.barred (howns.barred hcomplains)

/-- What a device does. -/
theorem passes_act (h : (f.device name).Standalone) (st : Step)
    (hlocal : Incident.IsLocal name (.event (.act name st))) :
    (f.device name).Passes ((f.turned.act name st).2.device name)
      (f.complains name (.event (.act name st))) (f.consults name (.event (.act name st))) := by
  have hsame : (f.device name).Passes (f.device name) false false :=
    passes_of_spares h (.refl _) h.alone
  have hstays : ∀ {st : Step}, st.Stays →
      (∀ s : Session Pair, s.Spares (stepSession s f.turned.moment st).2) →
      (f.device name).Passes ((f.turned.act name st).2.device name) false false := by
    intro st hst hspares
    cases hs : f.turned.session? name with
    | none =>
      rw [act_of_no_session hs hst]
      exact hsame
    | some s =>
      rw [act_of_session hs hst]
      exact passes_absorb (f := f.turned) h hs (hspares s)
  cases st with
  | enter settings services tree now =>
    exact passes_enter (f := f.turned) h settings (hlocal rfl) tree now
  | run line now => exact passes_run h line now
  | resume now =>
    refine hstays trivial fun s => ?_
    rw [stepSession_resume]
    exact s.spares_resume now _
  | retry =>
    refine hstays trivial fun s => ?_
    rw [stepSession_retry]
    exact s.spares_retryPending
  | notices => exact hstays trivial fun s => ⟨.refl _, rfl⟩
  | close =>
    cases hs : f.turned.session? name with
    | none =>
      rw [act_close_of_no_session hs]
      exact hsame
    | some s =>
      rw [act_close_of_session hs]
      refine passes_absorb_none (f := f.turned) h ?_
      exact (standalone_session? (f := f.turned) h hs).1 ▸ s.spares_close
  | drop =>
    cases hs : f.turned.session? name with
    | none =>
      rw [act_drop_of_no_session hs]
      exact hsame
    | some s =>
      rw [act_drop_of_session hs]
      refine passes_absorb_none (f := f.turned) h ?_
      rw [s.device_drop, (standalone_session? (f := f.turned) h hs).1]
      exact .refl _

/-- Whatever befalls the fleet. -/
theorem passes_befall (h : (f.device name).Standalone) (hlocal : i.IsLocal name) :
    (f.device name).Passes ((f.befall i).device name) (f.complains name i) (f.consults name i) := by
  by_cases hon : i.IsOn name
  · rcases hon.cases with ⟨st, rfl⟩ | rfl | ⟨r, w, m, rfl⟩
    · exact passes_act h st hlocal
    · change (f.device name).Passes ((f.elapse name).device name) false false
      cases hs : f.session? name with
      | none =>
        rw [elapse_of_no_session hs]
        exact passes_of_spares h (.refl _) h.alone
      | some s =>
        rw [elapse_of_session hs]
        exact passes_absorb h hs (s.spares_elapse _)
    · exact absurd rfl hlocal
  · rw [device_befall_of_not_isOn hon, complains_of_not_isOn hon, consults_of_not_isOn hon]
    exact passes_of_spares h (.refl _) h.alone

/-! ### Courses of incidents -/

theorem standalone_undergo (h : (f.device name).Standalone) (hlocal : ∀ i ∈ is, i.IsLocal name) :
    ((f.undergo is).device name).Standalone := by
  induction is generalizing f with
  | nil => exact h
  | cons i is ih =>
    rw [undergo_cons]
    exact ih (passes_befall h (hlocal i List.mem_cons_self)).standalone
      fun j hj => hlocal j (List.mem_cons_of_mem _ hj)

/-- Snapshots that cannot be read are never replaced: from then on every line that needs them
complains. -/
theorem complaints_of_barred (h : (f.device name).Standalone)
    (hbarred : (f.device name).store.Barred) (hlocal : ∀ i ∈ is, i.IsLocal name) :
    f.complaints name is = f.consultations name is := by
  induction is generalizing f with
  | nil => rw [complaints, consultations, tally, tally]
  | cons i is ih =>
    have hpasses := passes_befall h (hlocal i List.mem_cons_self)
    rw [complaints_cons, consultations_cons, hpasses.complains_eq hbarred,
      ih hpasses.standalone (hpasses.barred (.inl hbarred))
        fun j hj => hlocal j (List.mem_cons_of_mem _ hj)]

/-- A complaint leaves snapshots that cannot be read. -/
theorem exists_barred_of_complaint (h : (f.device name).Standalone)
    (hlocal : ∀ i ∈ is, i.IsLocal name) (hcomplaints : f.complaints name is ≠ 0) :
    ∃ before after, is = before ++ after ∧ ((f.undergo before).device name).store.Barred := by
  induction is generalizing f with
  | nil => exact absurd (by rw [complaints, tally]) hcomplaints
  | cons i is ih =>
    have hpasses := passes_befall h (hlocal i List.mem_cons_self)
    cases hi : f.complains name i with
    | true =>
      refine ⟨[i], is, rfl, ?_⟩
      rw [undergo_cons, undergo_nil]
      exact hpasses.barred (.inr hi)
    | false =>
      rw [complaints_cons, hi, Bool.toNat_false, Nat.zero_add] at hcomplaints
      obtain ⟨before, after, hsplit, hbarred⟩ := ih hpasses.standalone
        (fun j hj => hlocal j (List.mem_cons_of_mem _ hj)) hcomplaints
      refine ⟨i :: before, after, by rw [hsplit, List.cons_append], ?_⟩
      rw [undergo_cons]
      exact hbarred

/-- Snapshots that the game has kept can be read, so nobody complains where only the game has
written. -/
theorem complaints_eq_zero (hf : f.Upholds (fun _ => True) Place.Stored)
    (his : ∀ i ∈ is, i.Timely) (h : (f.device name).Standalone)
    (hlocal : ∀ i ∈ is, i.IsLocal name) : f.complaints name is = 0 := by
  by_contra hcomplaints
  obtain ⟨before, after, rfl, hbarred⟩ := exists_barred_of_complaint h hlocal hcomplaints
  have hbefore := hf.undergo Place.lasting_stored (fun i hi => his i (List.mem_append_left _ hi))
    fun i _ => i.opensAt_any
  obtain ⟨c, hc, -⟩ := (hbefore.depot name).device.snapshots
  exact hc.not_barred hbarred

/-- Whatever is stored on a device that does not fail, and whatever befalls the fleet while no
identity service is used on the device: its results complain of corrupt data at most once exactly
if, wherever the snapshots cannot be read, the complaints that have been made by then and the lines
that will need the snapshots are not more than one. -/
theorem complaints_le_one_iff (h : (f.device name).Standalone)
    (hlocal : ∀ i ∈ is, i.IsLocal name) :
    f.complaints name is ≤ 1 ↔
      ∀ before after, is = before ++ after → ((f.undergo before).device name).store.Barred →
        f.complaints name before + (f.undergo before).consultations name after ≤ 1 := by
  have hsplit : ∀ before after, is = before ++ after →
      ((f.undergo before).device name).store.Barred →
      f.complaints name is =
        f.complaints name before + (f.undergo before).consultations name after := by
    rintro before after rfl hbarred
    have hbefore := standalone_undergo h fun i hi => hlocal i (List.mem_append_left _ hi)
    have hafter := complaints_of_barred hbefore hbarred
      fun i hi => hlocal i (List.mem_append_right _ hi)
    rw [complaints_append, hafter]
  constructor
  · intro hle before after heq hbarred
    exact hsplit before after heq hbarred ▸ hle
  · intro hbound
    by_cases hnone : f.complaints name is = 0
    · rw [hnone]
      exact Nat.zero_le 1
    · obtain ⟨before, after, heq, hbarred⟩ := exists_barred_of_complaint h hlocal hnone
      rw [hsplit before after heq hbarred]
      exact hbound before after heq hbarred

/-- What the JSON reader says of an object that ends after its first character, and of one whose
first key is an object. -/
def verdict : Wording
  | _, .text "\x7b" => "EOF while parsing an object at line 1 column 1"
  | _, _ => "key must be a string at line 1 column 2"

/-- Nothing that is kept on a device can be read, neither the game nor the snapshots. -/
def garbled : Fleet :=
  (founded (fun _ => "p") ⟨0, 0⟩ verdict).withStore "a"
    { Memory.empty with
      entries := Keyed.ofList [(Saves.stateKey, "\x7b"), (Saves.accountsKey, "\x7b\x7b\x7b")] }

/-- A session is opened there, and a player tries to sign up, and once more to see where the reader
has stumbled. -/
def insistence : List Incident :=
  [opening "a" ⟨0, 0⟩, running "a" "signup hero" ⟨1, 0⟩,
    running "a" "signup hero | grep column" ⟨2, 0⟩]

/-- The game is discarded and the session opens; the player is refused each time. -/
theorem one_lt_complaints_garbled :
    (garbled.device "a").Standalone ∧ (∀ i ∈ insistence, i.IsLocal "a") ∧
      (garbled.device "a").store.Barred ∧
      ((garbled.befall (opening "a" ⟨0, 0⟩)).device "a").session.isSome = true ∧
      garbled.consultations "a" insistence = 2 ∧ 1 < garbled.complaints "a" insistence := by
  have hstandalone : (garbled.device "a").Standalone := by
    refine ⟨⟨by decide, by decide⟩, fun s hs => ?_⟩
    cases hs
  have hlocal : ∀ i ∈ insistence, i.IsLocal "a" := by
    simp [insistence, opening, running, Incident.IsLocal]
  have hparse : Json.parse? "\x7b\x7b\x7b" = none := by decide +kernel
  have hbarred : (garbled.device "a").store.Barred := by
    refine ⟨"\x7b\x7b\x7b", by decide +kernel, fun clock => ?_⟩
    rw [Saves.cacheOfText?, hparse, Option.bind_none]
  have hopen : ((garbled.befall (opening "a" ⟨0, 0⟩)).device "a").session.isSome = true := by
    decide +kernel
  have htwice : garbled.consultations "a" insistence = 2 := by decide +kernel
  refine ⟨hstandalone, hlocal, hbarred, hopen, htwice, ?_⟩
  by_contra hle
  have hbound := (complaints_le_one_iff hstandalone hlocal).1 (Nat.not_lt.1 hle) [] insistence rfl
  rw [undergo_nil, htwice] at hbound
  exact absurd (Nat.le_trans (Nat.le_add_left ..) (hbound hbarred)) (by decide)

end Fleet

end Questline
