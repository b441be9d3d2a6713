import Questline.Proofs.Account.Switch
import Questline.Proofs.Progress.Sound
import Questline.Proofs.Store.Snapshots
set_option autoImplicit false

/-!
# Accounts that only a device knows

Without an identity service an account is a name under which a snapshot is kept.  On a device
that works, a command about accounts refuses and changes nothing, or it goes on with another
game after it has stashed the one before.  `Switch` says whose game that is, and what becomes of
the snapshots.
-/

namespace Questline

open Time (Instant)
open Questline.Action

/-- Different names are kept under different keys. -/
theorem Account.eq_of_cacheKey_local {a b : String}
    (h : (Account.local a).cacheKey = (Account.local b).cacheKey) : a = b := by
  have := congrArg String.toList h
  exact String.toList_injective (by simpa [cacheKey] using this)

/-! ## Games of a device -/

namespace Progress

/-- A game that a save can hold, of a guest or of an account that only the device knows. -/
structure Local (p : Progress) : Prop extends p.Storable where
  account : p.account.bind Account.profileId? = none

variable {p p' : Progress} {c : Keyed Progress} {user : String} {now : Instant}

theorem Local.of_account (h : p.Local) (hp' : p'.Storable) (haccount : p'.account = p.account) :
    p'.Local :=
  ⟨hp', haccount ▸ h.account⟩

theorem Local.fresh (hnow : now.Valid) : (Progress.fresh now).Local := ⟨.fresh hnow, rfl⟩

theorem Local.withUser (h : p.Storable) (user : String) :
    { p with account := some (.local user) }.Local :=
  ⟨h.withAccount _, rfl⟩

theorem Local.account_cases (h : p.Local) :
    p.account = none ∨ ∃ user, p.account = some (.local user) := by
  have haccount := h.account
  cases hp : p.account with
  | none => exact .inl rfl
  | some account =>
    rw [hp] at haccount
    cases account with
    | «local» user => exact .inr ⟨user, rfl⟩
    | cloud user id => cases haccount

/-- Who is not signed in keeps the snapshot there is. -/
theorem get?_stashed_of_ne (h : p.Local) (hne : p.account ≠ some (.local user))
    (c : Keyed Progress) : (p.stashed c).get? (Account.local user).cacheKey =
      c.get? (Account.local user).cacheKey := by
  refine get?_stashed_of_cacheKey_ne (fun a ha hkey => hne ?_) c
  rcases h.account_cases with hnone | ⟨other, hother⟩
  · cases hnone.symm.trans ha
  · obtain rfl := Option.some.inj (hother.symm.trans ha)
    rw [hother, Account.eq_of_cacheKey_local hkey]

theorem isSome_get?_stashed (h : p.Local) (hc : (c.get? (Account.local user).cacheKey).isSome) :
    ((p.stashed c).get? (Account.local user).cacheKey).isSome := by
  by_cases hp : p.account = some (.local user)
  · rw [get?_stashed_self hp, Option.isSome_some]
  · rw [get?_stashed_of_ne h hp]
    exact hc

end Progress

/-- What a command about accounts does about who is playing. -/
inductive Move where
  /-- Signs up under a new name. -/
  | joins (user : String)
  /-- Logs in. -/
  | returns (user : String)
  /-- Logs out. -/
  | leaves
  deriving DecidableEq

/-- Who is playing after the move. -/
def Move.account : Move → Option Account
  | .joins user => some (.local user)
  | .returns user => some (.local user)
  | .leaves => none

/-- The game and the snapshots of a device give way to others when a move is made, or none. -/
inductive Switch (p : Progress) (c : Keyed Progress) :
    Option Move → Progress → Keyed Progress → Prop
  /-- The game stays that of the same player. -/
  | stay {p' : Progress} (h : p'.account = p.account) : Switch p c none p' c
  /-- A name that had no snapshot gets one. -/
  | joins {user : String} {q p' : Progress} (hnew : c.get? (Account.local user).cacheKey = none)
      (h : p'.account = some (.local user)) :
      Switch p c (some (.joins user)) p' ((p.stashed c).insert (Account.local user).cacheKey q)
  /-- Who is signed in logs in once more. -/
  | again {user : String} {p' : Progress} (hp : p.account = some (.local user))
      (h : p'.account = p.account) : Switch p c (some (.returns user)) p' c
  | returns {user : String} {p' : Progress} (h : p'.account = some (.local user)) :
      Switch p c (some (.returns user)) p' (p.stashed c)
  | leaves {p' : Progress} (h : p'.account = none) :
      Switch p c (some .leaves) p' (p.stashed c)

namespace Switch

variable {p p' q S : Progress} {c c' : Keyed Progress} {m : Option Move} {user : String}

/-- After the switch the game goes on. -/
theorem of_account (h : Switch p c m p' c') (hq : q.account = p'.account) : Switch p c m q c' := by
  cases h with
  | stay h => exact .stay (hq.trans h)
  | joins hnew h => exact .joins hnew (hq.trans h)
  | again hp h => exact .again hp (hq.trans h)
  | returns h => exact .returns (hq.trans h)
  | leaves h => exact .leaves (hq.trans h)

/-- After a move its player is playing. -/
theorem account_eq {m : Move} (h : Switch p c (some m) p' c') : p'.account = m.account := by
  cases h with
  | joins _ h | returns h | leaves h => exact h
  | again hp h => exact h.trans hp

/-- Where no move is made, the snapshots stay. -/
theorem snapshots_eq (h : Switch p c none p' c') : c' = c := by
  cases h with
  | stay => rfl

/-- A name that has a snapshot keeps having one. -/
theorem isSome_snapshot (h : Switch p c m p' c') (hp : p.Local)
    (hc : (c.get? (Account.local user).cacheKey).isSome) :
    (c'.get? (Account.local user).cacheKey).isSome := by
  have hstashed := Progress.isSome_get?_stashed hp hc
  cases h with
  | stay | again => exact hc
  | @joins other _ _ hnew =>
    have hne : user ≠ other := by
      rintro rfl
      rw [hnew] at hc
      cases hc
    rw [Keyed.get?_insert_of_ne _ fun hkey => hne (Account.eq_of_cacheKey_local hkey)]
    exact hstashed
  | returns | leaves => exact hstashed

/-- A name that signs up has a snapshot. -/
theorem isSome_of_joins (h : Switch p c (some (.joins user)) p' c') :
    (c'.get? (Account.local user).cacheKey).isSome := by
  cases h with
  | joins => rw [Keyed.get?_insert_self, Option.isSome_some]

/-- Whoever gives way to another player leaves the game behind as the snapshot. -/
theorem snapshot_of_leaving (h : Switch p c m p' c') (hp : p.account = some (.local user))
    (hleft : p'.account ≠ some (.local user)) :
    c'.get? (Account.local user).cacheKey = some p := by
  have hstashed := Progress.get?_stashed_self hp c
  cases h with
  | stay h | again _ h => exact absurd (h.trans hp) hleft
  | @joins other _ _ _ h =>
    have hne : user ≠ other := fun heq => hleft (heq ▸ h)
    rw [Keyed.get?_insert_of_ne _ fun hkey => hne (Account.eq_of_cacheKey_local hkey)]
    exact hstashed
  | returns | leaves => exact hstashed

/-- While a player is away, the snapshot stays as it is until the player logs in. -/
theorem away (h : Switch p c m p' c') (hm : m ≠ some (.returns user)) (hp : p.Local)
    (hS : c.get? (Account.local user).cacheKey = some S) (hne : p.account ≠ some (.local user)) :
    c'.get? (Account.local user).cacheKey = some S ∧ p'.account ≠ some (.local user) := by
  have hstashed := (Progress.get?_stashed_of_ne hp hne c).trans hS
  cases h with
  | stay h | again _ h => exact ⟨hS, h ▸ hne⟩
  | @joins other _ _ hnew h =>
    have hother : user ≠ other := by
      rintro rfl
      rw [hS] at hnew
      cases hnew
    rw [Keyed.get?_insert_of_ne _ fun hkey => hother (Account.eq_of_cacheKey_local hkey), h]
    exact ⟨hstashed, fun heq => hother (Account.local.inj (Option.some.inj heq)).symm⟩
  | @returns other _ h =>
    refine ⟨hstashed, fun heq => hm ?_⟩
    rw [Account.local.inj (Option.some.inj (h.symm.trans heq))]
  | leaves h =>
    rw [h]
    exact ⟨hstashed, nofun⟩

end Switch

/-! ## The device -/

/-- The device works, and this game and these snapshots are all that is on it. -/
structure Memory.Records (m : Memory) (kept : Option Progress) (c : Keyed Progress) : Prop
    extends m.Caches c where
  reads : m.failsRead = false
  writes : m.failsWrite = false
  state : m.entries.get? Saves.stateKey = kept.map Progress.toText
  own : ∀ q, kept = some q → q.Local

namespace Memory.Records

variable {p : Pair} {kept : Option Progress} {c : Keyed Progress} {q : Progress}

theorem empty : Memory.empty.Records none .empty where
  storable _ he := absurd he List.not_mem_nil
  text := .inr ⟨Keyed.get?_empty _, rfl⟩
  reads := rfl
  writes := rfl
  state := Keyed.get?_empty _
  own _ := nofun

theorem put_state (h : p.device.Records kept c) (hq : q.Local) :
    (p.put .device Saves.stateKey q.toText).device.Records (some q) c where
  toCaches := h.toCaches.put_state _
  reads := h.reads
  writes := h.writes
  state := p.get?_put_self .device Saves.stateKey q.toText
  own _ heq := Option.some.inj heq ▸ hq

theorem put_snapshot (h : p.device.Records kept c) (hq : q.Storable) (key : String) :
    (p.put .device Saves.accountsKey (Saves.cacheText (c.insert key q))).device.Records kept
      (c.insert key q) where
  toCaches := h.toCaches.insert hq key
  reads := h.reads
  writes := h.writes
  state := (p.get?_put_of_ne .device (by decide) _).trans h.state
  own := h.own

theorem load_eq (h : p.device.Records kept c) :
    (Saves.load : Action StoreError Pair _) p = (.ok (kept.map Progress.repair), p) := by
  rw [Saves.load_pair, h.reads, h.state]
  rcases hkept : kept with _ | q
  · rfl
  · simp only [Option.map_some, Progress.ofText?_toText (h.own q hkept).toStorable]
    rfl

theorem save_eq (h : p.device.Records kept c) (q : Progress) :
    (Saves.save q : Action StoreError Pair Unit) p =
      (.ok (), p.put .device Saves.stateKey q.toText) :=
  Saves.save_of_reliable ⟨h.reads, h.writes⟩ q

theorem cached_eq (h : p.device.Records kept c) (key : String) :
    (Saves.cached key : Action StoreError Pair _) p = (.ok (c.get? key), p) := by
  rw [Saves.cached_of_caches h.toCaches, h.reads]
  rfl

theorem keep_eq (h : p.device.Records kept c) (key : String) (q : Progress) :
    (Saves.keep key q : Action StoreError Pair Unit) p =
      (.ok (), p.put .device Saves.accountsKey (Saves.cacheText (c.insert key q))) := by
  rw [Saves.keep_of_caches h.toCaches, h.reads, h.writes]
  rfl

end Memory.Records

/-! ## The commands -/

/-- A desk without an identity service, with this game, on a device with this kept game and these
snapshots. -/
structure Desk.Alone (d : Desk Pair) (p : Progress) (kept : Option Progress)
    (c : Keyed Progress) : Prop where
  identity : d.identity = false
  game : d.progress = p
  own : p.Local
  device : d.link.depot.device.Records kept c

namespace Desk

/-- The same player goes on with another game. -/
theorem Alone.withProgress {d : Desk Pair} {p q : Progress} {kept : Option Progress}
    {c : Keyed Progress} (h : d.Alone p kept c) (hq : q.Storable)
    (haccount : q.account = p.account) : { d with progress := q }.Alone q kept c :=
  ⟨h.identity, rfl, h.own.of_account hq haccount, h.device⟩

variable {d : Desk Pair} {p q : Progress} {kept : Option Progress} {c : Keyed Progress}
  {user raw : String} {now : Instant}

/-! ### The parts, none of which can fail -/

theorem alone_play {ε : Type} (hq : q.Local) :
    Meets (Alone · p kept c) (play q : Action ε (Desk Pair) Unit) (fun _ d => d.Alone q kept c)
      (fun _ => False) :=
  meets_modify fun _ hd => ⟨hd.identity, rfl, hq, hd.device⟩

theorem alone_keepSnapshot (account : Account) (hq : q.Storable) :
    Meets (Alone · p kept c) (keepSnapshot account q)
      (fun _ d => d.Alone p kept (c.insert account.cacheKey q)) (fun _ => False) := by
  apply meets_of_apply
  intro d hd
  rw [keepSnapshot, onDepot_apply, adapt_apply, hd.device.keep_eq]
  exact ⟨hd.identity, hd.game, hd.own, hd.device.put_snapshot hq _⟩

theorem alone_cached (key : String) :
    Meets (Alone · p kept c)
      (onDepot (ExceptT.adapt .store (Saves.cached key)) : Action AccountError (Desk Pair) _)
      (fun snapshot d => snapshot = c.get? key ∧ d.Alone p kept c) (fun _ => False) := by
  apply meets_of_apply
  intro d hd
  rw [onDepot_apply, adapt_apply, hd.device.cached_eq]
  exact ⟨rfl, hd⟩

theorem alone_stash :
    Meets (Alone · p kept c) stash (fun _ d => d.Alone p kept (p.stashed c)) (fun _ => False) := by
  apply meets_get_bind
  intro d hd
  dsimp only
  rw [hd.game]
  split
  · rename_i account haccount
    rw [Progress.stashed_of_some haccount]
    exact (alone_keepSnapshot account hd.own.toStorable).of_eq hd
  · rename_i haccount
    rw [Progress.stashed_of_none haccount]
    exact meets_pure fun s hs => hs ▸ hd

theorem signedUp_local (hp : p.Local) (hnow : now.Valid) (user : String) :
    (signedUp p (.local user) now).Local := by
  have hstorable : (if p.account.isSome then Progress.fresh now else p).Storable := by
    split
    · exact .fresh hnow
    · exact hp.toStorable
  exact ⟨(hstorable.withAccount _).touch hnow, rfl⟩

/-! ### Signing up -/

/-- Whether a name can be given away is told by the snapshots. -/
theorem newAccount_of_alone (h : d.Alone p kept c) (user : String) :
    newAccount user d = if (c.get? (Account.local user).cacheKey).isSome
      then (.error (.usernameTaken user), d) else (.ok (.local user), d) := by
  have hcached : (onDepot (ExceptT.adapt .store (Saves.cached (Account.local user).cacheKey)) :
      Action AccountError (Desk Pair) _) d = (.ok (c.get? (Account.local user).cacheKey), d) := by
    rw [onDepot_apply, adapt_apply, h.device.cached_eq]
  rw [newAccount, bind_eq_of_ok (get_apply d), h.identity]
  rw [if_neg Bool.false_ne_true, bind_eq_of_ok hcached]
  split <;> rfl

/-- A name that has a snapshot is refused. -/
theorem signup_of_isSome (h : d.Alone p kept c) (hraw : Username.valid? raw = some user)
    (hc : (c.get? (Account.local user).cacheKey).isSome) (now : Instant) :
    signup raw now d = (.error (.usernameTaken user), d) := by
  have hnew := newAccount_of_alone h user
  rw [if_pos hc] at hnew
  unfold signup
  simp only [hraw]
  exact bind_eq_of_error hnew

/-- A name without a snapshot is free. -/
theorem alone_newAccount (hc : c.get? (Account.local user).cacheKey = none) :
    Meets (Alone · p kept c) (newAccount user)
      (fun account d => account = .local user ∧ d.Alone p kept c) (fun _ => False) := by
  apply meets_of_apply
  intro d hd
  rw [newAccount_of_alone hd, hc, Option.isSome_none, if_neg Bool.false_ne_true]
  exact ⟨rfl, hd⟩

/-- The free name gets a game: a new one, or that of a guest. -/
theorem alone_enterNew (hraw : Username.valid? raw = some user)
    (hc : c.get? (Account.local user).cacheKey = none) (hnow : now.Valid) :
    Meets (Alone · p kept c) (enterNew raw now)
      (fun account d => account = .local user ∧
        d.Alone (signedUp p (.local user) now) kept (p.stashed c)) (fun _ => False) := by
  have hswitch : ∀ (q : Progress) (c : Keyed Progress), p.Local →
      signedUp p (.local user) now = { q with account := some (.local user) }.touch now →
      Meets (Alone · q kept c)
        (do play ({ (← get).progress with account := some (.local user) }.touch now)
            return .local user : Action AccountError (Desk Pair) Account)
        (fun account d => account = .local user ∧ d.Alone (signedUp p (.local user) now) kept c)
        (fun _ => False) := by
    intro q c hp hq
    refine meets_get_bind fun d hd => ?_
    rw [hd.game, ← hq]
    refine meets_bind ((alone_play (signedUp_local hp hnow user)).of_eq hd) fun _ => ?_
    exact meets_pure fun _ hs => ⟨rfl, hs⟩
  unfold enterNew
  simp only [hraw]
  refine meets_bind (alone_newAccount hc) fun account => meets_of_and fun haccount => ?_
  subst haccount
  refine meets_get_bind fun d hd => ?_
  rw [hd.game]
  cases hsome : p.account.isSome with
  | true =>
    refine meets_bind (alone_stash.of_eq hd) fun _ => ?_
    refine meets_bind (alone_play (.fresh hnow)) fun _ => ?_
    refine hswitch (.fresh now) _ hd.own ?_
    rw [signedUp, if_pos hsome]
  | false =>
    have hnone : p.account = none := by simpa using hsome
    rw [Progress.stashed_of_none hnone]
    refine (hswitch p c hd.own ?_).of_eq hd
    rw [signedUp, if_neg (by simp [hsome])]

/-- A name without a snapshot is signed up, and its game is the snapshot. -/
theorem signup_of_isNone (h : d.Alone p kept c) (hraw : Username.valid? raw = some user)
    (hc : c.get? (Account.local user).cacheKey = none) (hnow : now.Valid) :
    ∃ lines d', signup raw now d = (.ok lines, d') ∧
      d'.Alone (signedUp p (.local user) now) kept
        ((p.stashed c).insert (Account.local user).cacheKey (signedUp p (.local user) now)) := by
  have hsignup : Meets (Alone · p kept c) (signup raw now)
      (fun _ d => d.Alone (signedUp p (.local user) now) kept
        ((p.stashed c).insert (Account.local user).cacheKey (signedUp p (.local user) now)))
      (fun _ => False) := by
    rw [signup_eq]
    refine meets_bind (alone_enterNew hraw hc hnow) fun account => meets_of_and fun haccount => ?_
    subst haccount
    refine meets_get_bind fun d hd => ?_
    rw [hd.game]
    refine meets_bind ((alone_keepSnapshot _ hd.own.toStorable).of_eq hd) fun _ => ?_
    exact meets_pure fun _ h => h
  exact hsignup.exists_ok h

/-! ### Logging in and out -/

/-- Anybody else is asked for among the snapshots. -/
theorem login_of_ne (h : d.Alone p kept c) (hraw : Username.valid? raw = some user)
    (hp : p.account ≠ some (.local user)) (now : Instant) :
    login raw now d = loginLocal user d := by
  have hname : d.progress.account.map Account.username ≠ some user := by
    rw [h.game]
    rcases h.own.account_cases with hnone | ⟨other, hother⟩
    · rw [hnone]
      exact nofun
    · rw [hother] at hp ⊢
      exact fun heq => hp (congrArg (some ∘ Account.local) (Option.some.inj heq))
  exact login_eq_loginLocal hraw hname h.identity now

/-- Without a snapshot there is no such player. -/
theorem loginLocal_of_isNone (h : d.Alone p kept c)
    (hc : c.get? (Account.local user).cacheKey = none) :
    loginLocal user d = (.error (.profileNotFound user), d) := by
  have hcached : (onDepot (ExceptT.adapt .store (Saves.cached (Account.local user).cacheKey)) :
      Action AccountError (Desk Pair) _) d = (.ok none, d) := by
    rw [onDepot_apply, adapt_apply, h.device.cached_eq, hc]
  unfold loginLocal
  exact bind_eq_of_ok hcached

/-- With a snapshot its game is gone on with. -/
theorem loginLocal_of_isSome (h : d.Alone p kept c)
    (hc : c.get? (Account.local user).cacheKey = some q) :
    ∃ lines d', loginLocal user d = (.ok lines, d') ∧
      d'.Alone { q with account := some (.local user) } kept (p.stashed c) := by
  have hown := Progress.Local.withUser (h.device.get? hc) user
  have hlogin : Meets (Alone · p kept c) (loginLocal user)
      (fun _ d => d.Alone { q with account := some (.local user) } kept (p.stashed c))
      (fun _ => False) := by
    refine meets_bind (alone_cached _) fun snapshot => meets_of_and fun hsnapshot => ?_
    rw [hsnapshot, hc]
    refine meets_bind alone_stash fun _ => meets_bind (alone_play hown) fun _ => ?_
    exact meets_pure fun _ h => h
  exact hlogin.exists_ok h

/-- Who is signed in can always log out. -/
theorem logout_of_isSome (h : d.Alone p kept c) (hp : p.account.isSome) (hnow : now.Valid) :
    ∃ lines d', logout now d = (.ok lines, d') ∧ d'.Alone (.fresh now) kept (p.stashed c) := by
  obtain ⟨account, haccount⟩ := Option.isSome_iff_exists.1 hp
  have hlogout : Meets (Alone · p kept c) (logout now)
      (fun _ d => d.Alone (.fresh now) kept (p.stashed c)) (fun _ => False) := by
    refine meets_get_bind fun s hs => ?_
    rw [hs.game, haccount]
    refine meets_bind (alone_stash.of_eq hs) fun _ => ?_
    exact meets_bind (alone_play (.fresh hnow)) fun _ => meets_pure fun _ h => h
  exact hlogout.exists_ok h

end Desk

end Questline
