import Questline.Proofs.Progress.Storable
import Questline.Proofs.Sync.Cloud
set_option autoImplicit false

/-!
# The cloud is a registry and a map

Any number of devices ask one cloud, one request after the other, while it comes and goes.  From
the replies alone it is known what it answers next: a name has the profile that was created for its
normal form, and no second one; a profile has the save that was put there last; and while the cloud
is away it refuses everything and stays as it is.
-/

namespace Questline.Cloud

open Time (Instant)

/-! ## Requests -/

/-- What a device can ask of the cloud. -/
inductive Request where
  | create (name : String)
  | profile (name : String)
  | fetch (profileId : String)
  /-- Puts the save of a game in place of the one that the profile has. -/
  | upsert (profileId : String) (game : Progress)

/-- A request with the reply to it. -/
inductive Exchange where
  | create (name : String) (result : Except AccountError Profile)
  | profile (name : String) (result : Except AccountError (Option Profile))
  | fetch (profileId : String) (result : Except SyncError (Option SaveRecord))
  | upsert (profileId : String) (game : Progress) (result : Except SyncError Unit)

namespace Request

/-- Carries a request out. -/
def run (p : Pair) : Request → Exchange × Pair
  | create name =>
    let (result, after) := (Remote.createProfile name : Action AccountError Pair _) p
    (.create name result, after)
  | profile name =>
    let (result, after) := (Remote.fetchProfile name : Action AccountError Pair _) p
    (.profile name result, after)
  | fetch id =>
    let (result, after) := (Remote.fetch id : Action SyncError Pair _) p
    (.fetch id result, after)
  | upsert id q =>
    let (result, after) := (Remote.upsert id (.ofProgress q) : Action SyncError Pair _) p
    (.upsert id q result, after)

/-- The request is refused because the cloud cannot be reached. -/
def refused : Request → Exchange
  | create name => .create name (.error (.syncFailed "remote offline"))
  | profile name => .profile name (.error (.syncFailed "remote offline"))
  | fetch id => .fetch id (.error (.failed "remote offline"))
  | upsert id q => .upsert id q (.error (.failed "remote offline"))

/-- A cloud that cannot be reached refuses every request and changes nothing. -/
theorem run_of_offline {p : Pair} (h : p.cloud.online = false) (r : Request) :
    r.run p = (r.refused, p) := by
  have hreach : (ExceptT.adapt .ofSync Remote.reach : Action AccountError Pair Unit) p =
      (.error (.syncFailed "remote offline"), p) := by
    rw [Remote.adapt_reach_pair, h]
    rfl
  cases r with
  | create name => rw [run, Remote.createProfile, Action.bind_eq_of_error hreach]; rfl
  | profile name => rw [run, Remote.fetchProfile, Action.bind_eq_of_error hreach]; rfl
  | fetch id => rw [run, Remote.fetch_pair, if_pos h]; rfl
  | upsert id q => rw [run, Remote.upsert_pair, if_pos h]; rfl

end Request

/-! ## Histories -/

/-- What happens to a cloud. -/
inductive Event where
  /-- A device with this store, clock and reader makes a request. -/
  | request (device : Memory) (clock : Instant) (wording : Wording) (r : Request)
  /-- From now on the cloud can or cannot be reached. -/
  | switch (online : Bool)

/-- A game whose save is put into the cloud is one that a save can hold. -/
def Event.Storable : Event → Prop
  | request _ _ _ (.upsert _ q) => q.Storable
  | _ => True

/-- A cloud with all that it was asked and has replied. -/
structure History where
  cloud : Cloud
  exchanges : List Exchange

namespace History

/-- One thing more happens. -/
def add (h : History) : Event → History
  | .request device clock wording r =>
    let (x, after) := r.run ⟨device, h.cloud, clock, wording⟩
    ⟨after.cloud, h.exchanges ++ [x]⟩
  | .switch online => { h with cloud := { h.cloud with online := online } }

/-- What becomes of a cloud. -/
def of (c : Cloud) (es : List Event) : History := es.foldl add ⟨c, []⟩

/-- The profile that is created for a name in normal form. -/
def created? (name : String) : Exchange → Option Profile
  | .create raw (.ok profile) => if Username.normalize raw = name then some profile else none
  | _ => none

/-- The game whose save is put in place for a profile. -/
def saved? (id : String) : Exchange → Option Progress
  | .upsert profileId q (.ok ()) => if profileId = id then some q else none
  | _ => none

/-- All profiles that were created for a name in normal form. -/
def profiles (h : History) (name : String) : List Profile := h.exchanges.filterMap (created? name)

/-- All games whose saves were put in place for a profile, the last one at the end. -/
def saves (h : History) (id : String) : List Progress := h.exchanges.filterMap (saved? id)

/-! ## What the cloud has -/

/-- The cloud has what its replies have told. -/
structure Told (h : History) : Prop where
  reads : h.cloud.store.failsRead = false
  writes : h.cloud.store.failsWrite = false
  profiles : ∃ ps, h.cloud.Lists ps ∧ ∀ name, h.profiles name = (ps.get? name).toList
  saves : ∀ id, h.cloud.text? id =
    (h.saves id).getLast?.map fun q => (SaveRecord.ofProgress q).toText
  storable : ∀ id, ∀ q ∈ h.saves id, q.Storable

variable {h : History} {c : Cloud} {device : Memory} {clock : Instant}
  {wording : Wording}

/-- An empty cloud has told nothing. -/
theorem told_of_empty (hempty : c.store = .empty) : Told ⟨c, []⟩ where
  reads := by rw [hempty]; rfl
  writes := by rw [hempty]; rfl
  profiles := ⟨.empty, .inl ⟨by rw [hempty]; rfl, rfl⟩, fun _ => rfl⟩
  saves id := by
    rw [text?, hempty]
    rfl
  storable _ _ hq := absurd hq List.not_mem_nil

theorem profiles_append (h : History) (c : Cloud) (x : Exchange) (name : String) :
    profiles ⟨c, h.exchanges ++ [x]⟩ name = h.profiles name ++ (created? name x).toList := by
  cases hx : created? name x <;> simp [profiles, List.filterMap_append, hx]

theorem saves_append (h : History) (c : Cloud) (x : Exchange) (id : String) :
    saves ⟨c, h.exchanges ++ [x]⟩ id = h.saves id ++ (saved? id x).toList := by
  cases hx : saved? id x <;> simp [saves, List.filterMap_append, hx]

/-- An exchange that tells of nothing new leaves the cloud as it was. -/
theorem Told.of_silent (ht : h.Told) {x : Exchange} (hcreated : ∀ name, created? name x = none)
    (hsaved : ∀ id, saved? id x = none) : Told ⟨h.cloud, h.exchanges ++ [x]⟩ := by
  have hprofiles : ∀ name, History.profiles ⟨h.cloud, h.exchanges ++ [x]⟩ name = h.profiles name :=
    fun name => by simp [profiles_append, hcreated]
  have hsaves : ∀ id, History.saves ⟨h.cloud, h.exchanges ++ [x]⟩ id = h.saves id :=
    fun id => by simp [saves_append, hsaved]
  refine ⟨ht.reads, ht.writes, ?_, fun id => ?_, fun id => ?_⟩
  · simpa only [hprofiles] using ht.profiles
  · rw [hsaves]
    exact ht.saves id
  · rw [hsaves]
    exact ht.storable id

/-- No second profile is created for a normal form. -/
theorem Told.length_profiles_le (ht : h.Told) (name : String) : (h.profiles name).length ≤ 1 := by
  obtain ⟨ps, -, hps⟩ := ht.profiles
  rw [hps]
  cases ps.get? name <;> simp

theorem Told.head?_profiles (ht : h.Told) {name : String} {profile : Profile}
    (hmem : profile ∈ h.profiles name) : (h.profiles name).head? = some profile := by
  obtain ⟨ps, -, hps⟩ := ht.profiles
  rw [hps] at hmem ⊢
  rw [Option.head?_toList, Option.mem_toList.1 hmem]

/-! ## Replies -/

section

variable (device : Memory) (clock : Instant) (wording : Wording)

/-- A name whose normal form has a profile is taken. -/
theorem Told.run_create_of_mem (ht : h.Told) (honline : h.cloud.online = true) {name : String}
    {profile : Profile} (hp : profile ∈ h.profiles (Username.normalize name)) :
    (Request.create name).run ⟨device, h.cloud, clock, wording⟩ =
      (.create name (.error (.usernameTaken (Username.normalize name))),
        ⟨device, h.cloud, clock, wording⟩) := by
  obtain ⟨ps, hlists, hps⟩ := ht.profiles
  rw [hps, Option.mem_toList] at hp
  rw [Request.run, Remote.createProfile_pair honline ht.reads ht.writes hlists, hp]
  rfl

/-- Any other name gets a profile. -/
theorem Told.run_create_of_nil (ht : h.Told) (honline : h.cloud.online = true) {name : String}
    (hnone : h.profiles (Username.normalize name) = []) :
    ((Request.create name).run ⟨device, h.cloud, clock, wording⟩).1 =
      .create name (.ok ⟨h.cloud.naming h.cloud.created, Username.normalize name⟩) := by
  obtain ⟨ps, hlists, hps⟩ := ht.profiles
  rw [hps, Option.toList_eq_nil_iff] at hnone
  rw [Request.run, Remote.createProfile_pair honline ht.reads ht.writes hlists, hnone]
  rfl

/-- A name has the profile that was created for its normal form. -/
theorem Told.run_profile (ht : h.Told) (honline : h.cloud.online = true) (name : String) :
    (Request.profile name).run ⟨device, h.cloud, clock, wording⟩ =
      (.profile name (.ok (h.profiles (Username.normalize name)).head?),
        ⟨device, h.cloud, clock, wording⟩) := by
  obtain ⟨ps, hlists, hps⟩ := ht.profiles
  rw [Request.run, Remote.fetchProfile_pair honline ht.reads hlists, hps, Option.head?_toList]

/-- A profile has the save that was put in place last. -/
theorem Told.run_fetch (ht : h.Told) (honline : h.cloud.online = true) (id : String) :
    (Request.fetch id).run ⟨device, h.cloud, clock, wording⟩ =
      (.fetch id (.ok ((h.saves id).getLast?.map .ofProgress)),
        ⟨device, h.cloud, clock, wording⟩) := by
  have hreads := ht.reads
  have htext := ht.saves id
  rw [text?] at htext
  rw [Request.run, Remote.fetch_pair]
  simp only [honline, hreads, htext, Bool.true_eq_false, Bool.false_eq_true, if_false]
  cases hlast : (h.saves id).getLast? with
  | none => rfl
  | some q =>
    have hq := ht.storable id q (List.mem_of_getLast? hlast)
    simp only [Option.map_some, SaveRecord.ofText?_toText hq]

/-- A save can be put in place at any time. -/
theorem Told.run_upsert (ht : h.Told) (honline : h.cloud.online = true) (id : String)
    (q : Progress) :
    (Request.upsert id q).run ⟨device, h.cloud, clock, wording⟩ =
      (.upsert id q (.ok ()), Pair.put ⟨device, h.cloud, clock, wording⟩ .cloud (Remote.saveKey id)
        (SaveRecord.ofProgress q).toText) := by
  have hwrites := ht.writes
  rw [Request.run, Remote.upsert_pair]
  simp only [honline, hwrites, Bool.true_eq_false, Bool.false_eq_true, if_false]

end

/-! ## One thing more -/

/-- A profile that is created is found from then on. -/
theorem Told.add_create (ht : h.Told) (honline : h.cloud.online = true) (name : String) :
    (h.add (.request device clock wording (.create name))).Told := by
  rcases List.eq_nil_or_concat (h.profiles (Username.normalize name)) with hnil | ⟨_, profile, heq⟩
  · obtain ⟨ps, hlists, hps⟩ := ht.profiles
    have hnone : ps.get? (Username.normalize name) = none := by
      rw [hps, Option.toList_eq_nil_iff] at hnil
      exact hnil
    rw [History.add, Request.run,
      Remote.createProfile_pair honline ht.reads ht.writes hlists, hnone]
    simp only [Option.isSome_none, Bool.false_eq_true, if_false]
    generalize (⟨Depot.nextId (⟨device, h.cloud, clock, wording⟩ : Pair),
      Username.normalize name⟩ : Profile) = profile
    refine ⟨ht.reads, ht.writes,
      ⟨ps.insert (Username.normalize name) profile, .inr ?_, fun other => ?_⟩, fun id => ?_,
      fun id => ?_⟩
    · exact Pair.get?_put_self _ .cloud _ _
    · rw [profiles_append, created?]
      by_cases hother : Username.normalize name = other
      · subst hother
        rw [hnil, if_pos rfl, Keyed.get?_insert_self]
        rfl
      · rw [if_neg hother, Keyed.get?_insert_of_ne _ (Ne.symm hother), hps]
        simp
    · simp only [saves_append, saved?, Option.toList_none, List.append_nil]
      rw [← ht.saves id]
      exact Pair.get?_put_of_ne _ .cloud (Remote.saveKey_ne_profilesKey id) _
    · simp only [saves_append, saved?, Option.toList_none, List.append_nil]
      exact ht.storable id
  · have hmem : profile ∈ h.profiles (Username.normalize name) := by simp [heq]
    rw [History.add, ht.run_create_of_mem device clock wording honline hmem]
    exact ht.of_silent (fun _ => rfl) fun _ => rfl

/-- A save that is put in place is the last one from then on. -/
theorem Told.add_upsert (ht : h.Told) (honline : h.cloud.online = true) (id : String)
    {q : Progress} (hq : q.Storable) :
    (h.add (.request device clock wording (.upsert id q))).Told := by
  obtain ⟨ps, hlists, hps⟩ := ht.profiles
  have hkept := Pair.get?_put_of_ne ⟨device, h.cloud, clock, wording⟩ .cloud
    (Remote.saveKey_ne_profilesKey id).symm (SaveRecord.ofProgress q).toText
  rw [History.add, ht.run_upsert device clock wording honline]
  refine ⟨ht.reads, ht.writes, ⟨ps, ?_, fun name => ?_⟩, fun other => ?_, fun other => ?_⟩
  · unfold Lists at hlists ⊢
    exact hkept ▸ hlists
  · simp only [profiles_append, created?, Option.toList_none, List.append_nil]
    exact hps name
  · rw [saves_append, saved?]
    by_cases hother : id = other
    · subst hother
      rw [if_pos rfl]
      simp only [Option.toList_some, List.getLast?_concat, Option.map_some]
      exact Pair.get?_put_self _ .cloud _ _
    · have hkey : Remote.saveKey other ≠ Remote.saveKey id := fun heq =>
        hother (Remote.saveKey_injective heq).symm
      rw [if_neg hother, Option.toList_none, List.append_nil, ← ht.saves other]
      exact Pair.get?_put_of_ne _ .cloud hkey _
  · rw [saves_append, saved?]
    by_cases hother : id = other
    · rw [if_pos hother]
      intro q' hq'
      rcases List.mem_append.1 hq' with hq' | hq'
      · exact ht.storable other q' hq'
      · rw [List.mem_singleton.1 hq']
        exact hq
    · rw [if_neg hother, Option.toList_none, List.append_nil]
      exact ht.storable other

/-- What the cloud has goes with what it tells. -/
theorem Told.add (ht : h.Told) {e : Event} (he : e.Storable) : (h.add e).Told := by
  cases e with
  | switch online => exact ⟨ht.reads, ht.writes, ht.profiles, ht.saves, ht.storable⟩
  | request device clock wording r =>
    by_cases honline : h.cloud.online = true
    · cases r with
      | create name => exact ht.add_create honline name
      | upsert id q => exact ht.add_upsert honline id he
      | profile name =>
        rw [History.add, ht.run_profile device clock wording honline]
        exact ht.of_silent (fun _ => rfl) fun _ => rfl
      | fetch id =>
        rw [History.add, ht.run_fetch device clock wording honline]
        exact ht.of_silent (fun _ => rfl) fun _ => rfl
    · rw [History.add, Request.run_of_offline (Bool.eq_false_iff.2 honline)]
      cases r <;> exact ht.of_silent (fun _ => rfl) fun _ => rfl

theorem told_of (hempty : c.store = .empty) {es : List Event} (hes : ∀ e ∈ es, e.Storable) :
    (of c es).Told := by
  have hfold : ∀ (es : List Event) (h : History), h.Told → (∀ e ∈ es, e.Storable) →
      (es.foldl History.add h).Told := by
    intro es
    induction es with
    | nil => exact fun _ ht _ => ht
    | cons e r ih =>
      intro h ht hes
      obtain ⟨he, hr⟩ := List.forall_mem_cons.1 hes
      exact ih _ (ht.add he) hr
  exact hfold es _ (told_of_empty hempty) hes

/-- The cloud is a registry and a map.  After anything that may have happened to a cloud that was
empty at first: at most one profile was created for a normal form; while the cloud can be reached, a
name whose normal form has a profile is refused as taken and found to have that profile, any other
name gets one, a profile is found to have the save that was put in place last, and a save can be put
in place; while it cannot be reached, every request is refused and changes nothing. -/
theorem registers_and_maps (hempty : c.store = .empty) {es : List Event}
    (hes : ∀ e ∈ es, e.Storable) (hh : of c es = h) {p : Pair} (hp : p.cloud = h.cloud) :
    (∀ name, (h.profiles name).length ≤ 1) ∧
    (p.cloud.online = true →
      (∀ name, ∀ profile ∈ h.profiles (Username.normalize name),
        (Request.create name).run p =
            (.create name (.error (.usernameTaken (Username.normalize name))), p) ∧
          (Request.profile name).run p = (.profile name (.ok (some profile)), p)) ∧
      (∀ name, h.profiles (Username.normalize name) = [] →
        ((Request.create name).run p).1 =
            .create name (.ok ⟨h.cloud.naming h.cloud.created, Username.normalize name⟩) ∧
          (Request.profile name).run p = (.profile name (.ok none), p)) ∧
      (∀ id, (Request.fetch id).run p =
        (.fetch id (.ok ((h.saves id).getLast?.map .ofProgress)), p)) ∧
      ∀ id q, ((Request.upsert id q).run p).1 = .upsert id q (.ok ())) ∧
    (p.cloud.online = false → ∀ r : Request, r.run p = (r.refused, p)) := by
  subst hh
  have ht := told_of hempty hes
  obtain ⟨device, cloud, clock, wording⟩ := p
  dsimp only at hp
  subst hp
  refine ⟨fun name => ?_, fun honline => ⟨fun name profile hmem => ⟨?_, ?_⟩,
    fun name hnil => ⟨?_, ?_⟩, fun id => ?_, fun id q => ?_⟩, Request.run_of_offline⟩
  · exact ht.length_profiles_le name
  · exact ht.run_create_of_mem device clock wording honline hmem
  · rw [ht.run_profile device clock wording honline, ht.head?_profiles hmem]
  · exact ht.run_create_of_nil device clock wording honline hnil
  · rw [ht.run_profile device clock wording honline, hnil]
    rfl
  · exact ht.run_fetch device clock wording honline id
  · rw [ht.run_upsert device clock wording honline]

/-- A profile is created and has a save put in place; then, while the cloud is away, another name
and another save are refused; then the name is asked for again in another spelling, and the profile
has a second save put in place. -/
def namesakes : List Event := [
  .request .empty ⟨1, 0⟩ .silent (.create " Ada"),
  .request .empty ⟨2, 0⟩ .silent (.upsert "profile-1" (.fresh ⟨2, 0⟩)),
  .switch false,
  .request .empty ⟨3, 0⟩ .silent (.create "eve"),
  .request .empty ⟨3, 0⟩ .silent (.upsert "profile-1" (.fresh ⟨3, 0⟩)),
  .switch true,
  .request .empty ⟨4, 0⟩ .silent (.create "ADA"),
  .request .empty ⟨5, 0⟩ .silent (.upsert "profile-1" (.fresh ⟨5, 0⟩))]

/-- The name is still taken and has its first profile, with the save that arrived last. -/
theorem registers_and_maps_namesakes :
    Cloud.empty.store = .empty ∧ (∀ e ∈ namesakes, e.Storable) ∧
      ∃ p : Pair, p.cloud = (of .empty namesakes).cloud ∧ p.cloud.online = true ∧
        (Request.create "Ada").run p = (.create "Ada" (.error (.usernameTaken "ada")), p) ∧
        (Request.profile "Ada").run p =
          (.profile "Ada" (.ok (some ⟨"profile-1", "ada"⟩)), p) ∧
        (Request.fetch "profile-1").run p =
          (.fetch "profile-1" (.ok (some (.ofProgress (.fresh ⟨5, 0⟩)))), p) := by
  have hstorable : ∀ e ∈ namesakes, e.Storable := by
    have hfresh : ∀ {t : Instant}, t.Valid → (Progress.fresh t).Storable := Progress.Storable.fresh
    simp only [namesakes, List.forall_mem_cons, Event.Storable, true_and, List.not_mem_nil,
      false_implies, implies_true, and_true]
    exact ⟨hfresh (by decide), hfresh (by decide), hfresh (by decide)⟩
  have htold : (of .empty namesakes).cloud.online = true ∧
      (of .empty namesakes).profiles "ada" = [⟨"profile-1", "ada"⟩] ∧
      ((of .empty namesakes).saves "profile-1").getLast? = some (.fresh ⟨5, 0⟩) := by
    decide +kernel
  obtain ⟨honline, hprofiles, hlast⟩ := htold
  have hname : Username.normalize "Ada" = "ada" := by decide +kernel
  obtain ⟨h, hh⟩ : ∃ h, of .empty namesakes = h := ⟨_, rfl⟩
  obtain ⟨p, hp⟩ : ∃ p : Pair, p.cloud = h.cloud := ⟨⟨.empty, h.cloud, ⟨6, 0⟩, .silent⟩, rfl⟩
  rw [hh] at honline hprofiles hlast ⊢
  obtain ⟨-, hanswers, -⟩ := registers_and_maps rfl hstorable hh hp
  obtain ⟨hknown, -, hfetch, -⟩ := hanswers (hp ▸ honline)
  have htaken := hknown "Ada" ⟨"profile-1", "ada"⟩ (by rw [hname, hprofiles]; decide)
  have hsave := hfetch "profile-1"
  rw [hname] at htaken
  rw [hlast] at hsave
  exact ⟨rfl, hstorable, p, hp, hp ▸ honline, htaken.1, htaken.2, hsave⟩

end History

end Questline.Cloud
