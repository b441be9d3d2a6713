import Questline.Proofs.Account.Switch
import Questline.Proofs.Progress.Storable
import Questline.Proofs.Store.Snapshots
import Questline.Proofs.Sync.Cloud
set_option autoImplicit false

/-!
# Logging in to a game that is in the cloud

A device without a snapshot of the profile brings a game of its own to the login: the
guest's, or a new one.  It wins against the save of the cloud unless the save is later,
and then takes the place of the save.  So what was done in the save is still done after
the login exactly if the save is the later one, or if the game that is brought has it
done too.
-/

namespace Questline

open Time (Instant)
open Questline.Action

namespace Progress

theorem quests_repair (p : Progress) : p.repair.quests = p.quests := by
  -- The other parts are left open, for comparing them would unfold the log.
  have hquests : ∀ (player : Player) (quests : Keyed QuestStatus) (log : List LogEntry),
      { p with player := player, quests := quests, log := log }.quests = quests :=
    fun _ _ _ => rfl
  unfold Progress.repair
  exact hquests _ _ _

theorem isComplete_congr {p q : Progress} (h : p.quests = q.quests) (quest : String) :
    p.isComplete quest = q.isComplete quest := by
  unfold Progress.isComplete
  rw [h]

/-- A repair undoes no quest. -/
theorem isComplete_repair (p : Progress) (quest : String) :
    p.repair.isComplete quest = p.isComplete quest :=
  isComplete_congr p.quests_repair quest

/-- Every quest of the one game is done in the other. -/
def DoneIn (p q : Progress) : Prop := ∀ quest, p.isComplete quest = true → q.isComplete quest = true

theorem doneIn_congr {p q r : Progress} (h : q.quests = r.quests) : p.DoneIn q ↔ p.DoneIn r :=
  forall_congr' fun quest => by rw [isComplete_congr h]

end Progress

namespace Link

/-- A link to a cloud that can be reached and has the save of this game for the profile. -/
structure ReachesSave (l : Link Pair) (id : String) (q : Progress) : Prop where
  configured : l.configured = true
  online : l.depot.cloud.online = true
  reads : l.depot.cloud.store.failsRead = false
  writes : l.depot.cloud.store.failsWrite = false
  text : l.depot.cloud.store.entries.get? (Remote.saveKey id) = some (SaveRecord.ofProgress q).toText
  save : q.Storable

namespace ReachesSave

variable {l : Link Pair} {id : String} {p q : Progress}

theorem fetch_eq (h : l.ReachesSave id q) :
    (Remote.fetch id : Action SyncError Pair _) l.depot = (.ok (some (.ofProgress q)), l.depot) := by
  rw [Remote.fetch_pair]
  simp [h.online, h.reads, h.text, SaveRecord.ofText?_toText h.save]

/-- A device that cannot be written to settles on nothing. -/
theorem reconcile_of_failsWrite (h : l.ReachesSave id q) (hp : p.Storable)
    (hfails : l.depot.device.failsWrite = true) :
    reconcile id (some (.ofProgress p)) l =
      (.error (.store (.io Saves.stateKey .injected)), l) := by
  cases hbefore : p.updatedAt.before q.updatedAt with
  | true =>
    have hkeep := Saves.writeRecord_pair (.ofProgress q) l.depot
    rw [SaveRecord.progress?_ofProgress h.save] at hkeep
    simp only [hfails, if_true] at hkeep
    have hmerge := mergeSaves_of_before (l := .ofProgress p) (r := .ofProgress q) hbefore
    exact reconcile_of_writeRecord_eq_error h.configured h.fetch_eq hmerge hkeep
  | false =>
    have hkeep := Saves.writeRecord_pair (.ofProgress p) l.depot
    rw [SaveRecord.progress?_ofProgress hp] at hkeep
    simp only [hfails, if_true] at hkeep
    have hmerge := mergeSaves_of_not_before (l := .ofProgress p) (r := .ofProgress q) hbefore
    exact reconcile_of_writeRecord_eq_error h.configured h.fetch_eq hmerge hkeep

/-- A later save is settled on. -/
theorem reconcile_of_before (h : l.ReachesSave id q) (hfails : l.depot.device.failsWrite = false)
    (hbefore : p.updatedAt.before q.updatedAt = true) :
    reconcile id (some (.ofProgress p)) l =
      (.ok (some ⟨.ofProgress q, .cloud⟩),
        { l with depot := l.depot.put .device Saves.stateKey q.repair.toText }) := by
  have hkeep := Saves.writeRecord_pair (.ofProgress q) l.depot
  rw [SaveRecord.progress?_ofProgress h.save] at hkeep
  simp only [hfails, if_false, Bool.false_eq_true] at hkeep
  exact reconcile_of_cloud h.configured h.fetch_eq (mergeSaves_of_before hbefore) rfl hkeep

/-- Otherwise the own game is settled on, and takes the place of the save. -/
theorem reconcile_of_not_before (h : l.ReachesSave id q) (hp : p.Storable)
    (hfails : l.depot.device.failsWrite = false)
    (hbefore : p.updatedAt.before q.updatedAt = false) :
    reconcile id (some (.ofProgress p)) l =
      (.ok (some ⟨.ofProgress p, .device⟩),
        { l with
          depot := (l.depot.put .device Saves.stateKey p.repair.toText).put .cloud
            (Remote.saveKey id) (SaveRecord.ofProgress p).toText
          pending := false }) := by
  have hmerge := mergeSaves_of_not_before (l := .ofProgress p) (r := .ofProgress q) hbefore
  have hkeep := Saves.writeRecord_pair (.ofProgress p) l.depot
  rw [SaveRecord.progress?_ofProgress hp] at hkeep
  simp only [hfails, if_false, Bool.false_eq_true] at hkeep
  rw [reconcile_of_device h.configured h.fetch_eq hmerge rfl hkeep, push_apply, if_pos h.configured]
  dsimp only
  rw [Remote.upsert_pair]
  simp [h.online, h.writes]

end ReachesSave

end Link

namespace Desk

/-- The desk on a device with other texts. -/
def withDevice (d : Desk Pair) (m : Memory) : Desk Pair :=
  { d with link := { d.link with depot := { d.link.depot with device := m } } }

/-- A device that reaches the cloud, where a profile of this name has the save of a game,
and that has no snapshot of the profile. -/
structure FindsSave (d : Desk Pair) (name : String) (profile : Profile) (q : Progress) : Prop where
  identity : d.identity = true
  link : d.link.ReachesSave profile.id q
  known : (Remote.fetchProfile name : Action AccountError Pair _) d.link.depot =
    (.ok (some profile), d.link.depot)
  game : d.progress.Storable
  other : ∀ a, d.progress.account = some a → a.profileId? ≠ some profile.id
  snapshots : ∃ c, d.link.depot.device.Caches c ∧
    c.get? (Account.cloud profile.username profile.id).cacheKey = none

/-- The snapshots on the device. -/
def snapshots (d : Desk Pair) : Keyed Progress :=
  d.link.depot.device.snapshots d.link.depot.clock

/-- The game with which the player comes to an account of the cloud: the snapshot of it, once the
game at the desk has been stashed, or a guest's own game, or a new one. -/
def carried (d : Desk Pair) (account : Account) (now : Instant) : Progress :=
  match (d.progress.stashed d.snapshots).get? account.cacheKey with
  | some snapshot => snapshot
  | none => if d.progress.account.isNone then d.progress else .fresh now

/-- The player is signed in under this name already. -/
def IsNamed (d : Desk Pair) (name : String) : Prop :=
  d.progress.account.map Account.username = some name

instance (d : Desk Pair) (name : String) : Decidable (d.IsNamed name) :=
  inferInstanceAs (Decidable (_ = _))

/-- The game that is brought to a login: a guest's goes along, as does that of who is
signed in under the name, and another player starts afresh. -/
def brought (d : Desk Pair) (name : String) (now : Instant) : Progress :=
  if d.progress.account = none ∨ d.IsNamed name then d.progress else .fresh now

variable {d d' : Desk Pair} {name : String} {profile : Profile} {q : Progress} {now : Instant}
  {c : Keyed Progress}

theorem storable_brought (h : d.progress.Storable) (hnow : now.Valid) :
    (d.brought name now).Storable := by
  unfold brought
  split
  · exact h
  · exact .fresh hnow

/-! ## Arriving -/

/-- Stashing adds a snapshot of the account that is left. -/
theorem exists_of_stash_eq_ok (hc : d.link.depot.device.Caches c) (hp : d.progress.Storable)
    (h : stash d = (.ok (), d')) :
    ∃ m, d' = d.withDevice m ∧ m.Caches (d.progress.stashed c) := by
  rw [stash, bind_eq_of_ok (get_apply d)] at h
  cases ha : d.progress.account with
  | none =>
    rw [ha] at h
    cases h
    rw [Progress.stashed_of_none ha]
    exact ⟨d.link.depot.device, rfl, hc⟩
  | some a =>
    rw [ha] at h
    dsimp only at h
    rw [onDepot_apply, adapt_apply, Saves.keep_of_caches hc] at h
    split at h
    · rename_i t u hkeep
      split at hkeep
      · cases hkeep
      · cases hkeep
        cases h
        rw [Progress.stashed_of_some ha]
        exact ⟨_, rfl, hc.insert hp a.cacheKey⟩
    · cases h

/-- It succeeds on a device that can be relied on. -/
theorem exists_stash_eq_ok (hc : d.link.depot.device.Caches c) (hdevice : d.link.depot.device.Reliable)
    (hp : d.progress.Storable) :
    ∃ m, stash d = (.ok (), d.withDevice m) ∧ m.Reliable ∧ m.Caches (d.progress.stashed c) := by
  rw [stash, bind_eq_of_ok (get_apply d)]
  cases ha : d.progress.account with
  | none =>
    rw [Progress.stashed_of_none ha]
    exact ⟨d.link.depot.device, rfl, hdevice, hc⟩
  | some a =>
    rw [Progress.stashed_of_some ha]
    dsimp only
    rw [onDepot_apply, adapt_apply, Saves.keep_of_caches hc, hdevice.reads, hdevice.writes]
    exact ⟨_, rfl, ⟨hdevice.reads, hdevice.writes⟩, hc.insert hp a.cacheKey⟩

/-- Snapshots are read without changing anything. -/
theorem cached_apply (hc : d.link.depot.device.Caches c) (hdevice : d.link.depot.device.Reliable)
    (key : String) :
    (onDepot (ExceptT.adapt .store (Saves.cached key)) : Action AccountError (Desk Pair) _) d =
      (.ok (c.get? key), d) := by
  rw [onDepot_apply, adapt_apply, Saves.cached_of_caches hc, hdevice.reads]
  rfl

/-- What a device arrives with: the game that is brought, under its new account. -/
theorem exists_of_arrive_eq_ok (h : d.FindsSave name profile q) (hname : ¬ d.IsNamed name)
    {profile' : Profile} (hx : arrive name now d = (.ok profile', d')) :
    profile' = profile ∧ ∃ m own, d' = { d.withDevice m with progress := own } ∧
      own = { d.brought name now with account := some (.cloud profile.username profile.id) } := by
  obtain ⟨c, hc, hnone⟩ := h.snapshots
  rw [arrive, bind_eq_of_ok (t := d) (a := some profile) (by rw [onDepot_apply, h.known])] at hx
  dsimp only at hx
  rw [bind_eq_of_ok (get_apply d)] at hx
  obtain ⟨_, d₁, hstash, hx⟩ := exists_of_bind_eq_ok hx
  obtain ⟨m, rfl, hc'⟩ := exists_of_stash_eq_ok hc h.game hstash
  obtain ⟨snapshot, d₂, hcached, hx⟩ := exists_of_bind_eq_ok hx
  have hmissing : (d.progress.stashed c).get?
      (Account.cloud profile.username profile.id).cacheKey = none := by
    rw [Progress.get?_stashed_of_cacheKey_ne
      fun a ha => Account.cacheKey_ne_of_profileId? (h.other a ha), hnone]
  rw [onDepot_apply, adapt_apply, Saves.cached_of_caches (p := (d.withDevice m).link.depot) hc',
    hmissing] at hcached
  split at hcached
  · rename_i t u hread
    split at hread
    · cases hread
    · cases hread
      cases hcached
      dsimp only at hx
      cases ha : d.progress.account with
      | none =>
        rw [ha] at hx
        cases hx
        exact ⟨rfl, m, _, rfl, by rw [brought, if_pos (.inl ha)]; rfl⟩
      | some a =>
        rw [ha] at hx
        cases hx
        exact ⟨rfl, m, _, rfl, by rw [brought, if_neg (by simp [ha, hname])]⟩
  · cases hcached

/-- On a device that can be relied on, whoever arrives comes with the game that is carried. -/
theorem exists_arrive_eq_ok (hc : d.link.depot.device.Caches c)
    (hdevice : d.link.depot.device.Reliable) (hp : d.progress.Storable)
    (hknown : (Remote.fetchProfile name : Action AccountError Pair _) d.link.depot =
      (.ok (some profile), d.link.depot)) (now : Instant) :
    ∃ m, m.Reliable ∧ m.Caches (d.progress.stashed c) ∧
      arrive name now d = (.ok profile, { d.withDevice m with
        progress := { d.carried (.cloud profile.username profile.id) now with
          account := some (.cloud profile.username profile.id) } }) := by
  obtain ⟨m, hstash, hworks, hkeeps⟩ := exists_stash_eq_ok hc hdevice hp
  refine ⟨m, hworks, hkeeps, ?_⟩
  rw [arrive, bind_eq_of_ok (t := d) (a := some profile) (by rw [onDepot_apply, hknown])]
  dsimp only
  rw [bind_eq_of_ok (get_apply d), bind_eq_of_ok hstash,
    bind_eq_of_ok (cached_apply (d := d.withDevice m) hkeeps hworks _)]
  unfold carried snapshots
  rw [hc.snapshots_eq]
  rcases (d.progress.stashed c).get? (Account.cloud profile.username profile.id).cacheKey with
    _ | snapshot
  · dsimp only
    split <;> rfl
  · rfl

/-! ## Meeting the cloud -/

section

variable {w : Type} [Depot w] {d : Desk w} {l : Link w}

theorem meetCloud_of_cloud {record : SaveRecord} {p : Progress}
    (h : Link.reconcile profile.id (some (.ofProgress d.progress)) d.link =
      (.ok (some ⟨record, .cloud⟩), l))
    (hp : record.progress? (Depot.clock l.depot) = some p) :
    (meetCloud profile d).2 =
      { d with
        progress := { p with account := some (.cloud profile.username profile.id) }
        link := l } := by
  rw [meetCloud, bind_eq_of_ok (get_apply _), bind_apply, attempt_apply, h]
  dsimp only
  rw [bind_apply, onDepot_apply, adapt_apply, Saves.ofRecord_apply, hp]
  rfl

/-- Unless the cloud's game has won, the game at the desk goes on. -/
theorem meetCloud_of_not_cloud {r : Except SyncError (Option Merged)}
    (h : Link.reconcile profile.id (some (.ofProgress d.progress)) d.link = (r, l))
    (hr : ∀ record, r ≠ .ok (some ⟨record, .cloud⟩)) :
    (meetCloud profile d).2 = { d with link := l } := by
  rw [meetCloud, bind_eq_of_ok (get_apply _), bind_apply, attempt_apply, h]
  rcases r with e | m
  · rfl
  rcases m with _ | ⟨record, _ | _⟩
  · rfl
  · rfl
  · exact absurd rfl (hr record)

end

/-- One game is on the device and in the cloud afterwards: the save if it is later than the
game at the desk, and that game if not.  The snapshots stay. -/
theorem exists_of_meetCloud (h : d.link.ReachesSave profile.id q) (hp : d.progress.Storable)
    (hwrites : d.link.depot.device.failsWrite = false) :
    ∃ (p : Progress) (text : String),
      p.quests = (if d.progress.updatedAt.before q.updatedAt then q.quests else d.progress.quests) ∧
      p.Storable ∧ (meetCloud profile d).2.progress.quests = p.quests ∧
      (meetCloud profile d).2.link.depot.cloud.store.entries.get? (Remote.saveKey profile.id) =
        some (SaveRecord.ofProgress p).toText ∧
      (meetCloud profile d).2.link.depot.device =
        (d.link.depot.put .device Saves.stateKey text).device := by
  cases hbefore : d.progress.updatedAt.before q.updatedAt with
  | true =>
    rw [meetCloud_of_cloud (h.reconcile_of_before hwrites hbefore)
      (SaveRecord.progress?_ofProgress h.save _)]
    exact ⟨q, _, by simp, h.save, Progress.quests_repair q, h.text, rfl⟩
  | false =>
    rw [meetCloud_of_not_cloud (h.reconcile_of_not_before hp hwrites hbefore) fun _ => nofun]
    exact ⟨d.progress, _, by simp, hp, rfl, Pair.get?_put_self _ .cloud _ _, rfl⟩

/-! ## The whole login -/

/-- A snapshot is kept on the device alone. -/
theorem keepSnapshot_keeps {account : Account} {p : Progress} {u : Unit}
    (h : keepSnapshot account p d = (.ok u, d')) :
    d.link.depot.device.failsWrite = false ∧ d'.progress = d.progress ∧
      d'.link.depot.cloud = d.link.depot.cloud := by
  rw [keepSnapshot, onDepot_apply, adapt_apply, Saves.keep_pair] at h
  rcases hc : (Saves.cache : Action StoreError Pair _) d.link.depot with ⟨e | c, p'⟩
  · rw [hc] at h
    cases h
  · obtain rfl : p' = d.link.depot := by
      have := Saves.cache_snd d.link.depot
      rwa [hc] at this
    rw [hc] at h
    dsimp only at h
    split at h
    · rename_i t u hkeep
      split at hkeep
      · cases hkeep
      · rename_i hwrite
        cases hkeep
        cases h
        exact ⟨by simpa using hwrite, rfl, rfl⟩
    · cases h

/-- A login to the cloud that succeeds arrives, meets the cloud, and keeps a snapshot of the game
it has settled on. -/
theorem exists_parts_of_loginCloud {lines : List String}
    (hlogin : loginCloud name now d = (.ok lines, d')) :
    ∃ profile d₁ line d₂, arrive name now d = (.ok profile, d₁) ∧
      meetCloud profile d₁ = (.ok line, d₂) ∧ d₂.link.depot.device.failsWrite = false ∧
      d'.progress = d₂.progress ∧ d'.link.depot.cloud = d₂.link.depot.cloud := by
  rw [loginCloud_eq] at hlogin
  obtain ⟨⟨account, line⟩, d₂, henter, hclose⟩ := exists_of_bind_eq_ok hlogin
  obtain ⟨profile, d₁, harrive, hmeet⟩ := exists_of_bind_eq_ok henter
  obtain ⟨line', d₂', hmeet, hret⟩ := exists_of_bind_eq_ok hmeet
  cases hret
  dsimp only at hclose
  rw [bind_eq_of_ok (get_apply d₂)] at hclose
  obtain ⟨_, d₃, hkeep, hret⟩ := exists_of_bind_eq_ok hclose
  cases hret
  exact ⟨profile, d₁, line, d₂, harrive, hmeet, keepSnapshot_keeps hkeep⟩

/-- A login from a device whose store works succeeds. -/
theorem exists_loginCloud_eq_ok (h : d.FindsSave name profile q) (now : Instant)
    (hnow : now.Valid) (hname : ¬ d.IsNamed name)
    (hreads : d.link.depot.device.failsRead = false)
    (hwrites : d.link.depot.device.failsWrite = false) :
    ∃ lines d', loginCloud name now d = (.ok lines, d') := by
  obtain ⟨c, hcaches, -⟩ := h.snapshots
  obtain ⟨m, hm, hc, harrive⟩ :=
    exists_arrive_eq_ok hcaches ⟨hreads, hwrites⟩ h.game h.known now
  obtain ⟨-, m', own', hd₁, hown⟩ := exists_of_arrive_eq_ok h hname harrive
  generalize ({ d.carried (.cloud profile.username profile.id) now with
    account := some (.cloud profile.username profile.id) } : Progress) = own at harrive hd₁
  obtain rfl : own = own' := congrArg Desk.progress hd₁
  have hlink : (d.withDevice m).link.ReachesSave profile.id q := { h.link with }
  obtain ⟨-, text, -, -, -, -, hdevice⟩ :=
    exists_of_meetCloud (d := { d.withDevice m with progress := own }) hlink
      (hown ▸ (storable_brought h.game hnow).withAccount _) hm.writes
  rcases hmeet : meetCloud profile { d.withDevice m with progress := own } with ⟨e | line, d₂⟩
  · exact ((meets_meetCloud profile).error (by rw [hown]) hmeet).elim
  rw [hmeet] at hdevice
  have hkept : d₂.link.depot.device.Caches (d.progress.stashed c) := by
    rw [hdevice]
    exact Memory.Caches.put_state (p := (d.withDevice m).link.depot) hc text
  have hworks : d₂.link.depot.device.Reliable := by
    rw [hdevice]
    exact ⟨hm.reads, hm.writes⟩
  have henter : enterCloud name now d = (.ok (.cloud profile.username profile.id, line), d₂) :=
    (bind_eq_of_ok harrive).trans (bind_eq_of_ok hmeet)
  have hkeep : ∃ d₃, keepSnapshot (.cloud profile.username profile.id) d₂.progress d₂ =
      (.ok (), d₃) := by
    rw [keepSnapshot, onDepot_apply, adapt_apply, Saves.keep_of_caches hkept,
      hworks.reads, hworks.writes]
    exact ⟨_, rfl⟩
  obtain ⟨d₃, hkeep⟩ := hkeep
  rw [loginCloud_eq, bind_eq_of_ok henter]
  dsimp only
  rw [bind_eq_of_ok (get_apply d₂), bind_eq_of_ok hkeep]
  exact ⟨_, d₃, rfl⟩

/-- After a login one game is on the device and in the cloud: the save if it is later than
the game that is brought, and that game if not. -/
theorem exists_of_loginCloud_eq_ok (h : d.FindsSave name profile q) (hnow : now.Valid)
    (hname : ¬ d.IsNamed name) {lines : List String}
    (hlogin : loginCloud name now d = (.ok lines, d')) :
    ∃ p : Progress, p.Storable ∧ d'.progress.quests = p.quests ∧
      d'.link.depot.cloud.store.entries.get? (Remote.saveKey profile.id) =
        some (SaveRecord.ofProgress p).toText ∧
      p.quests = if (d.brought name now).updatedAt.before q.updatedAt then q.quests
        else (d.brought name now).quests := by
  obtain ⟨profile', d₁, line, d₂, harrive, hmeet, hwrites, hprogress, hcloud⟩ :=
    exists_parts_of_loginCloud hlogin
  obtain ⟨rfl, m, own, rfl, hown⟩ := exists_of_arrive_eq_ok h hname harrive
  rw [hprogress, hcloud]
  have hstorable : own.Storable := hown ▸ (storable_brought h.game hnow).withAccount _
  have hlink : (d.withDevice m).link.ReachesSave profile'.id q := { h.link with }
  have hd₂ : (meetCloud profile' { d.withDevice m with progress := own }).2 = d₂ := by rw [hmeet]
  cases hfails : m.failsWrite with
  | true =>
    -- Nothing would have been written, and the snapshot could not have been kept.
    rw [meetCloud_of_not_cloud (d := { d.withDevice m with progress := own })
      (hlink.reconcile_of_failsWrite hstorable hfails) fun _ => nofun] at hd₂
    rw [← hd₂] at hwrites
    exact absurd (hwrites.symm.trans hfails) (by simp)
  | false =>
    obtain ⟨p, -, hquests, hp, hgame, htext, -⟩ :=
      exists_of_meetCloud (d := { d.withDevice m with progress := own }) hlink hstorable hfails
    rw [hd₂] at hgame htext
    refine ⟨p, hp, hgame, htext, ?_⟩
    rw [hquests, hown]

/-- Who is not signed in under the name is taken to the cloud. -/
theorem login_of_not_isNamed {raw : String} (hv : Username.valid? raw = some name)
    (hidentity : d.identity = true) (hname : ¬ d.IsNamed name) :
    login raw now d = loginCloud name now d := by
  unfold IsNamed at hname
  unfold login
  simp only [hv, bind_eq_of_ok (get_apply d)]
  rw [if_neg hname, if_pos hidentity]

theorem login_of_isNamed {raw : String} (hv : Username.valid? raw = some name)
    (hname : d.IsNamed name) :
    login raw now d = (.ok [s!"Already signed in as {name}."], d) := by
  unfold IsNamed at hname
  unfold login
  simp only [hv, bind_eq_of_ok (get_apply d)]
  rw [if_pos hname]
  rfl

/-- What is done in the save of the cloud is done on the device and in the cloud after a
login, exactly if the save was met and is later than the game that was brought, or if all
of it is done in that game too. -/
theorem doneIn_login_iff {raw : String} {lines : List String} (clock : Instant)
    (hv : Username.valid? raw = some name) (h : d.FindsSave name profile q) (hnow : now.Valid)
    (hlogin : login raw now d = (.ok lines, d')) :
    (q.DoneIn d'.progress ∧
        ∃ p, d'.link.depot.cloud.game? clock profile.id = some p ∧ q.DoneIn p) ↔
      (¬ d.IsNamed name ∧ (d.brought name now).updatedAt.before q.updatedAt = true) ∨
        q.DoneIn (d.brought name now) := by
  by_cases hname : d.IsNamed name
  · rw [login_of_isNamed hv hname] at hlogin
    cases hlogin
    have hbrought : d.brought name now = d.progress := if_pos (.inr hname)
    have hcloud := Cloud.game?_of_get? h.link.save h.link.text clock
    rw [hbrought]
    constructor
    · exact fun hdone => .inr hdone.1
    · rintro (⟨hnot, -⟩ | hdone)
      · exact absurd hname hnot
      · refine ⟨hdone, _, hcloud, fun quest hquest => ?_⟩
        rw [Progress.isComplete_repair, hquest]
  · rw [login_of_not_isNamed hv h.identity hname] at hlogin
    obtain ⟨p, hp, hgame, htext, hquests⟩ := exists_of_loginCloud_eq_ok h hnow hname hlogin
    have hcloud := Cloud.game?_of_get? hp htext clock
    have hdone : (q.DoneIn d'.progress ∧
        ∃ p', d'.link.depot.cloud.game? clock profile.id = some p' ∧ q.DoneIn p') ↔ q.DoneIn p := by
      rw [hcloud]
      constructor
      · exact fun hdone => (Progress.doneIn_congr hgame).1 hdone.1
      · exact fun hdone => ⟨(Progress.doneIn_congr hgame).2 hdone, _, rfl,
          (Progress.doneIn_congr p.quests_repair).2 hdone⟩
    rw [hdone]
    cases hbefore : (d.brought name now).updatedAt.before q.updatedAt with
    | true =>
      rw [hbefore, if_pos rfl] at hquests
      exact ⟨fun _ => .inl ⟨hname, rfl⟩, fun _ =>
        (Progress.doneIn_congr hquests).2 fun _ hquest => hquest⟩
    | false =>
      rw [hbefore, if_neg (by simp)] at hquests
      rw [Progress.doneIn_congr hquests]
      simp

/-- Any guest may find any save in the cloud. -/
theorem exists_findsSave {p q : Progress} {name : String}
    (hname : Username.isValid name.toList = true)
    (hp : p.Storable) (hguest : p.account = none) (hq : q.Storable) :
    ∃ (d : Desk Pair) (profile : Profile), d.FindsSave name profile q ∧ d.progress = p ∧
      d.link.depot.device = .empty := by
  obtain ⟨profile⟩ : Nonempty Profile := ⟨"profile-1", name⟩
  obtain ⟨cloud, honline, hreads, hwrites, hprofiles, htext⟩ : ∃ cloud : Cloud,
      cloud.online = true ∧ cloud.store.failsRead = false ∧ cloud.store.failsWrite = false ∧
      cloud.store.entries.get? Remote.profilesKey =
        some (Remote.profilesText (Keyed.empty.insert name profile)) ∧
      cloud.store.entries.get? (Remote.saveKey profile.id) =
        some (SaveRecord.ofProgress q).toText := by
    let profiles := Remote.profilesText (Keyed.empty.insert name profile)
    let save := (SaveRecord.ofProgress q).toText
    let others : Keyed String := Keyed.empty.insert Remote.profilesKey profiles
    have hprofiles : (others.insert (Remote.saveKey profile.id) save).get? Remote.profilesKey =
        some profiles := by
      rw [Keyed.get?_insert_of_ne _ (Remote.saveKey_ne_profilesKey _).symm, Keyed.get?_insert_self]
    have hsave : (others.insert (Remote.saveKey profile.id) save).get? (Remote.saveKey profile.id) =
        some save := Keyed.get?_insert_self ..
    exact ⟨⟨⟨others.insert (Remote.saveKey profile.id) save, false, false, false⟩, true, 1,
      fun _ => ""⟩, rfl, rfl, rfl, hprofiles, hsave⟩
  have hknown : (Remote.fetchProfile name : Action AccountError Pair _)
      ⟨.empty, cloud, ⟨0, 0⟩, .silent⟩ =
        (.ok (some profile), ⟨.empty, cloud, ⟨0, 0⟩, .silent⟩) := by
    rw [Remote.fetchProfile_pair honline hreads (.inr hprofiles), Username.normalize_eq_self hname,
      Keyed.get?_insert_self]
  have hother : ∀ a, p.account = some a → a.profileId? ≠ some profile.id := by
    intro a ha
    rw [hguest] at ha
    cases ha
  have hcaches : Memory.empty.Caches .empty :=
    ⟨fun e he => absurd he List.not_mem_nil, .inr ⟨rfl, rfl⟩⟩
  exact ⟨⟨p, ⟨⟨.empty, cloud, ⟨0, 0⟩, .silent⟩, true, false⟩, true⟩, profile,
    ⟨rfl, ⟨rfl, honline, hreads, hwrites, htext, hq⟩, hknown, hp, hother, .empty, hcaches,
      Keyed.get?_empty _⟩, rfl, rfl⟩

/-- A guest whose device was started after the profile's last save loses the quest that is
done there, on the device and in the cloud. -/
theorem not_doneIn_login_of_newer_guest :
    ∃ (d d' : Desk Pair) (q : Progress) (profile : Profile) (lines : List String),
      d.FindsSave "hero" profile q ∧ d.progress.account = none ∧
        login "hero" ⟨5, 0⟩ d = (.ok lines, d') ∧
        ¬ (q.DoneIn d'.progress ∧
          ∃ p, d'.link.depot.cloud.game? ⟨5, 0⟩ profile.id = some p ∧ q.DoneIn p) := by
  have hnow : (⟨1, 0⟩ : Instant).Valid := by decide
  have hlate : (⟨4, 0⟩ : Instant).Valid := by decide
  have hvalid : Username.isValid "hero".toList = true := by decide
  obtain ⟨q, hq, htime, hdone⟩ : ∃ q : Progress, q.Storable ∧ q.updatedAt = ⟨1, 0⟩ ∧
      q.isComplete "plains-pwd" = true := by
    refine ⟨_, (Progress.Storable.fresh hnow).markComplete "plains-pwd" .plains hnow,
      Progress.updatedAt_markComplete .., ?_⟩
    rw [Progress.isComplete_markComplete, decide_eq_true rfl, Bool.true_or]
  obtain ⟨d, profile, h, hp, hdevice⟩ := exists_findsSave hvalid (.fresh hlate) rfl hq
  have hname : Username.valid? "hero" = some "hero" := Username.valid?_eq_some_self hvalid
  have hguest : d.progress.account = none := by
    rw [hp]
    rfl
  have hnot : ¬ d.IsNamed "hero" := by simp [IsNamed, hguest]
  obtain ⟨lines, d', hlogin⟩ := exists_loginCloud_eq_ok h ⟨5, 0⟩ (by decide) hnot
    (by rw [hdevice]; rfl) (by rw [hdevice]; rfl)
  rw [← login_of_not_isNamed hname h.identity hnot] at hlogin
  refine ⟨d, d', q, profile, lines, h, hguest, hlogin, fun hkept => ?_⟩
  have hbrought : d.brought "hero" ⟨5, 0⟩ = .fresh ⟨4, 0⟩ := (if_pos (.inl hguest)).trans hp
  have hcases := (doneIn_login_iff ⟨5, 0⟩ hname h (by decide) hlogin).1 hkept
  rw [hbrought, htime] at hcases
  rcases hcases with ⟨-, hbefore⟩ | hall
  · cases hbefore
  · cases hall "plains-pwd" hdone

end Desk

end Questline
