import Questline.Proofs.Account.Custody
set_option autoImplicit false

/-!
# Snapshots that cannot be read

Whether there are snapshots under their key is told by the text alone.  A text that is none stays
there: whoever keeps a snapshot reads the others first.  So without an identity service every
command that needs the snapshots is refused, and finds the same text when it is tried again.
-/

namespace Questline

open Time (Instant)
open Questline.Action

/-! ## Texts that stay -/

namespace Memory

/-- What is kept under the key of the snapshots cannot be read, by whatever clock. -/
def Barred (m : Memory) : Prop :=
  ∃ text, m.entries.get? Saves.accountsKey = some text ∧
    ∀ clock, Saves.cacheOfText? clock text = none

/-- From one store to the other nothing has happened to the snapshots, and not to what can be
done with them. -/
structure Spares (m m' : Memory) : Prop where
  reads : m'.failsRead = m.failsRead
  writes : m'.failsWrite = m.failsWrite
  snapshots : m'.entries.get? Saves.accountsKey = m.entries.get? Saves.accountsKey

theorem Spares.refl (m : Memory) : m.Spares m := ⟨rfl, rfl, rfl⟩

theorem Spares.trans {m₁ m₂ m₃ : Memory} (h : m₁.Spares m₂) (h' : m₂.Spares m₃) :
    m₁.Spares m₃ :=
  ⟨h'.reads.trans h.reads, h'.writes.trans h.writes, h'.snapshots.trans h.snapshots⟩

theorem Spares.reliable {m m' : Memory} (h : m.Spares m') (hm : m.Reliable) : m'.Reliable :=
  ⟨h.reads.trans hm.reads, h.writes.trans hm.writes⟩

theorem Spares.barred {m m' : Memory} (h : m.Spares m') (hm : m.Barred) : m'.Barred := by
  obtain ⟨text, htext, hunreadable⟩ := hm
  exact ⟨text, h.snapshots.trans htext, hunreadable⟩

/-- Snapshots that the game has kept can be read. -/
theorem Caches.not_barred {m : Memory} {c : Keyed Progress} (h : m.Caches c) : ¬ m.Barred := by
  rintro ⟨text, htext, hunreadable⟩
  rcases h.text with hkept | ⟨hnone, -⟩
  · obtain rfl := Option.some.inj (htext.symm.trans hkept)
    have hread := Saves.cacheOfText?_cacheText h.storable ⟨0, 0⟩
    rw [hunreadable] at hread
    cases hread
  · cases htext.symm.trans hnone

end Memory

/-- The error for the snapshots of a device, where they cannot be read: what the JSON reader says of
the text that is kept. -/
def Pair.objection (p : Pair) : StoreError :=
  Depot.refusal Saves.accountsKey (.text ((p.device.entries.get? Saves.accountsKey).getD "")) p

namespace Saves

variable {p : Pair} {key : String} {q : Progress}

/-- Snapshots that cannot be read are refused. -/
theorem cache_of_barred (hp : p.device.Reliable) (h : p.device.Barred) :
    (cache : Action StoreError Pair _) p = (.error p.objection, p) := by
  obtain ⟨text, htext, hunreadable⟩ := h
  simp only [cache_pair, hp.reads, htext, hunreadable, Bool.false_eq_true, if_false,
    Pair.objection, Option.getD_some]

/-- On a device that can be relied on the snapshots are read, or they cannot be read at all. -/
theorem cases_cache (hp : p.device.Reliable) :
    (∃ c, (cache : Action StoreError Pair _) p = (.ok c, p)) ∨ p.device.Barred := by
  cases htext : p.device.entries.get? accountsKey with
  | none =>
    refine .inl ⟨.empty, ?_⟩
    simp only [cache_pair, hp.reads, htext, Bool.false_eq_true, if_false]
  | some text =>
    cases hc : cacheOfText? p.clock text with
    | some c =>
      refine .inl ⟨c, ?_⟩
      simp only [cache_pair, hp.reads, htext, hc, Bool.false_eq_true, if_false]
    | none =>
      refine .inr ⟨text, htext, fun clock => Option.not_isSome_iff_eq_none.1 ?_⟩
      rw [isSome_cacheOfText? clock p.clock text, hc]
      exact Bool.false_ne_true

theorem cached_of_barred (hp : p.device.Reliable) (h : p.device.Barred) (key : String) :
    (cached key : Action StoreError Pair _) p = (.error p.objection, p) := by
  rw [cached_apply, cache_of_barred hp h]

theorem keep_of_barred (hp : p.device.Reliable) (h : p.device.Barred) (key : String)
    (q : Progress) :
    (keep key q : Action StoreError Pair Unit) p = (.error p.objection, p) := by
  rw [keep_pair, cache_of_barred hp h]

/-! ## What the snapshots are spared by -/

theorem spares_put_state (p : Pair) (text : String) :
    p.device.Spares (p.put .device stateKey text).device :=
  ⟨rfl, rfl, p.get?_put_of_ne .device (by decide) text⟩

theorem spares_save (q : Progress) (p : Pair) :
    p.device.Spares ((save q : Action StoreError Pair Unit) p).2.device := by
  rw [save, Depot.save_pair]
  split
  · exact .refl _
  · exact spares_put_state p _

theorem spares_writeRecord (r : SaveRecord) (p : Pair) :
    p.device.Spares ((writeRecord r : Action StoreError Pair Unit) p).2.device := by
  rw [writeRecord_pair]
  cases r.progress? p.clock with
  | none => exact .refl _
  | some q =>
    dsimp only
    split
    · exact .refl _
    · exact spares_put_state p _

/-- A game that is discarded is not among the snapshots. -/
theorem spares_clear (p : Pair) :
    p.device.Spares ((clear : Action StoreError Pair Unit) p).2.device := by
  rw [clear, Depot.clear_pair]
  split
  · exact .refl _
  · exact ⟨rfl, rfl, Keyed.get?_erase_of_ne _ (by decide)⟩

theorem snd_load (p : Pair) : ((load : Action StoreError Pair _) p).2 = p := by
  rw [load_pair]
  split
  · rfl
  · split
    · rfl
    · split <;> rfl

end Saves

theorem Remote.device_upsert (id : String) (r : SaveRecord) (p : Pair) :
    ((upsert id r : Action SyncError Pair Unit) p).2.device = p.device := by
  rw [upsert_pair]
  split
  · rfl
  · split <;> rfl

namespace Link

theorem device_push (id : String) (r : SaveRecord) (l : Link Pair) :
    (push id r l).2.depot.device = l.depot.device := by
  have hupsert := Remote.device_upsert id r l.depot
  rw [push_apply]
  split
  · generalize (Remote.upsert id r : Action SyncError Pair Unit) l.depot = result at hupsert ⊢
    rcases result with ⟨_ | _, p⟩ <;> exact hupsert
  · rfl

theorem spares_reconcile (id : String) (own : Option SaveRecord) (l : Link Pair) :
    l.depot.device.Spares (reconcile id own l).2.depot.device := by
  have hfetch := Remote.snd_fetch id l.depot
  rw [reconcile_apply]
  split
  · generalize (Remote.fetch id : Action SyncError Pair _) l.depot = fetched at hfetch ⊢
    obtain ⟨_ | fetched, p⟩ := fetched
    · obtain rfl : p = l.depot := hfetch
      exact .refl _
    · obtain rfl : p = l.depot := hfetch
      dsimp only
      cases mergeSaves own fetched with
      | none => exact .refl _
      | some m =>
        have hwrite := Saves.spares_writeRecord m.record l.depot
        dsimp only
        generalize (Saves.writeRecord m.record : Action StoreError Pair Unit) l.depot = written
          at hwrite ⊢
        obtain ⟨_ | _, p⟩ := written
        · exact hwrite
        · dsimp only
          split
          · have hpush := device_push id m.record { l with depot := p }
            generalize push id m.record { l with depot := p } = pushed at hpush ⊢
            rcases pushed with ⟨_ | _, l'⟩ <;> exact hwrite.trans (hpush ▸ .refl _)
          · exact hwrite
  · exact .refl _

end Link

/-! ## Commands on a device alone -/

namespace Desk

/-- There is no identity service, and the device can be relied on. -/
structure Standalone (d : Desk Pair) : Prop where
  identity : d.identity = false
  device : d.link.depot.device.Reliable

variable {α β : Type} {d : Desk Pair} {raw name : String} {now : Instant}

/-! ### While the snapshots cannot be read -/

theorem cached_of_barred (h : d.Standalone) (hbarred : d.link.depot.device.Barred)
    (key : String) :
    (onDepot (ExceptT.adapt .store (Saves.cached key)) : Action AccountError (Desk Pair) _) d =
      (.error (.store d.link.depot.objection), d) := by
  rw [onDepot_apply, adapt_apply, Saves.cached_of_barred h.device hbarred]

theorem stash_of_barred (h : d.Standalone) (hbarred : d.link.depot.device.Barred)
    (hin : d.progress.account.isSome) :
    stash d = (.error (.store d.link.depot.objection), d) := by
  obtain ⟨account, haccount⟩ := Option.isSome_iff_exists.1 hin
  rw [stash, bind_eq_of_ok (get_apply d), haccount]
  dsimp only
  rw [onDepot_apply, adapt_apply, Saves.keep_of_barred h.device hbarred]

/-- Nobody can sign up. -/
theorem signup_of_barred (h : d.Standalone) (hbarred : d.link.depot.device.Barred)
    (hraw : Username.valid? raw = some name) (now : Instant) :
    signup raw now d = (.error (.store d.link.depot.objection), d) := by
  have hnew : newAccount name d = (.error (.store d.link.depot.objection), d) := by
    rw [newAccount, bind_eq_of_ok (get_apply d), h.identity]
    exact bind_eq_of_error (cached_of_barred h hbarred _)
  unfold signup
  simp only [hraw]
  exact bind_eq_of_error hnew

/-- Nobody who is not signed in already can log in. -/
theorem login_of_barred (h : d.Standalone) (hbarred : d.link.depot.device.Barred)
    (hraw : Username.valid? raw = some name)
    (hne : d.progress.account.map Account.username ≠ some name) (now : Instant) :
    login raw now d = (.error (.store d.link.depot.objection), d) := by
  unfold login
  simp only [hraw]
  rw [bind_eq_of_ok (get_apply d), if_neg hne, h.identity]
  exact bind_eq_of_error (cached_of_barred h hbarred _)

/-- Nobody can leave. -/
theorem logout_of_barred (h : d.Standalone) (hbarred : d.link.depot.device.Barred)
    (hin : d.progress.account.isSome) (now : Instant) :
    logout now d = (.error (.store d.link.depot.objection), d) := by
  obtain ⟨account, haccount⟩ := Option.isSome_iff_exists.1 hin
  rw [logout, bind_eq_of_ok (get_apply d), haccount]
  exact bind_eq_of_error (stash_of_barred h hbarred hin)

/-! ### Whatever the snapshots are -/

/-- The desk after an account command is without an identity service, on a device that can be
relied on; and if corrupt data was what the command failed for, the snapshots cannot be read. -/
structure Blames (r : Except AccountError α × Desk Pair) : Prop where
  standalone : r.2.Standalone
  barred : ∀ key reason, r.1 = .error (.store (.corrupt key reason)) →
    r.2.link.depot.device.Barred

theorem blames_ok (h : d.Standalone) (a : α) : Blames (.ok a, d) := ⟨h, fun _ _ => nofun⟩

theorem blames_error (h : d.Standalone) {e : AccountError}
    (he : ∀ key reason, e ≠ .store (.corrupt key reason)) :
    Blames ((.error e, d) : Except AccountError α × Desk Pair) :=
  ⟨h, fun key reason heq => absurd (Except.error.inj heq) (he key reason)⟩

theorem blames_bind {x : Action AccountError (Desk Pair) α}
    {f : α → Action AccountError (Desk Pair) β} (hx : Blames (x d))
    (hf : ∀ a d', d'.Standalone → Blames (f a d')) : Blames ((x >>= f) d) := by
  rw [bind_apply]
  generalize x d = result at hx ⊢
  obtain ⟨e | a, d'⟩ := result
  · refine ⟨hx.standalone, fun key reason heq => ?_⟩
    exact hx.barred key reason (congrArg Except.error (Except.error.inj heq))
  · exact hf a d' hx.standalone

theorem blames_cached (h : d.Standalone) (key : String) :
    Blames ((onDepot (ExceptT.adapt .store (Saves.cached key)) :
      Action AccountError (Desk Pair) _) d) := by
  rcases Saves.cases_cache h.device with ⟨c, hc⟩ | hbarred
  · rw [onDepot_apply, adapt_apply, Saves.cached_apply, hc]
    exact blames_ok h _
  · rw [cached_of_barred h hbarred]
    exact ⟨h, fun _ _ _ => hbarred⟩

theorem blames_keep (h : d.Standalone) (key : String) (q : Progress) :
    Blames ((onDepot (ExceptT.adapt .store (Saves.keep key q)) :
      Action AccountError (Desk Pair) _) d) := by
  have hwrites : d.link.depot.device.failsWrite = false := h.device.writes
  rw [onDepot_apply, adapt_apply]
  rcases Saves.cases_cache h.device with ⟨c, hc⟩ | hbarred
  · rw [Saves.keep_pair, hc]
    dsimp only
    rw [hwrites]
    exact blames_ok (d := { d with link := { d.link with depot := d.link.depot.put .. } })
      ⟨h.identity, h.device.put _ _⟩ ()
  · rw [Saves.keep_of_barred h.device hbarred]
    exact ⟨h, fun _ _ _ => hbarred⟩

theorem blames_play (h : d.Standalone) (q : Progress) :
    Blames ((play q : Action AccountError (Desk Pair) Unit) d) :=
  ⟨⟨h.identity, h.device⟩, fun _ _ => nofun⟩

theorem blames_stash (h : d.Standalone) : Blames (stash d) := by
  rw [stash, bind_eq_of_ok (get_apply d)]
  cases d.progress.account with
  | none => exact blames_ok h ()
  | some account => exact blames_keep h _ _

theorem blames_newAccount (h : d.Standalone) (name : String) : Blames (newAccount name d) := by
  rw [newAccount, bind_eq_of_ok (get_apply d), h.identity]
  refine blames_bind (blames_cached h _) fun known d' hd' => ?_
  split
  · exact blames_bind (blames_error hd' (by simp)) fun _ _ hd => blames_ok hd _
  · exact blames_ok hd' _

theorem blames_enterNew (h : d.Standalone) (raw : String) (now : Instant) :
    Blames (enterNew raw now d) := by
  unfold enterNew
  cases Username.valid? raw with
  | none => exact blames_error h (by simp)
  | some name =>
    refine blames_bind (blames_newAccount h name) fun account d' hd' => ?_
    have hswitch : ∀ d : Desk Pair, d.Standalone → Blames
        ((do play ({ (← get).progress with account := some account }.touch now)
             return account : Action AccountError (Desk Pair) Account) d) := by
      intro d hd
      rw [bind_eq_of_ok (get_apply d)]
      exact blames_bind (blames_play hd _) fun _ _ hd => blames_ok hd _
    rw [bind_eq_of_ok (get_apply d')]
    split
    · exact blames_bind (blames_stash hd') fun _ _ hd =>
        blames_bind (blames_play hd _) fun _ d hd => hswitch d hd
    · exact hswitch d' hd'

theorem blames_welcome (h : d.Standalone) (account : Account) (q : Progress) :
    Blames (welcome account q d) := by
  cases account with
  | «local» username => exact blames_ok h _
  | cloud username id =>
    have hpush := Link.device_push id (.ofProgress q) d.link
    have hstandalone : Standalone { d with link := (Link.push id (.ofProgress q) d.link).2 } :=
      ⟨h.identity, hpush ▸ h.device⟩
    rw [welcome, bind_apply, attempt_apply]
    generalize Link.push id (.ofProgress q) d.link = pushed at hstandalone ⊢
    rcases pushed with ⟨_ | _, l⟩ <;> exact blames_ok hstandalone _

/-- Signing up fails for corrupt data only while the snapshots cannot be read. -/
theorem blames_signup (h : d.Standalone) (raw : String) (now : Instant) :
    Blames (signup raw now d) := by
  rw [signup_eq]
  refine blames_bind (blames_enterNew h raw now) fun account d' hd' => ?_
  rw [bind_eq_of_ok (get_apply d')]
  exact blames_bind (blames_keep hd' _ _) fun _ d hd => blames_welcome hd account _

theorem blames_loginLocal (h : d.Standalone) (name : String) : Blames (loginLocal name d) := by
  refine blames_bind (blames_cached h _) fun snapshot d' hd' => ?_
  cases snapshot with
  | none => exact blames_error hd' (by simp)
  | some snapshot =>
    exact blames_bind (blames_stash hd') fun _ _ hd =>
      blames_bind (blames_play hd _) fun _ _ hd => blames_ok hd _

theorem blames_login (h : d.Standalone) (raw : String) (now : Instant) :
    Blames (login raw now d) := by
  unfold login
  cases Username.valid? raw with
  | none => exact blames_error h (by simp)
  | some name =>
    dsimp only
    rw [bind_eq_of_ok (get_apply d), h.identity]
    split
    · exact blames_ok h _
    · exact blames_loginLocal h name

theorem blames_logout (h : d.Standalone) (now : Instant) : Blames (logout now d) := by
  rw [logout, bind_eq_of_ok (get_apply d)]
  cases d.progress.account with
  | none => exact blames_error h (by simp)
  | some account =>
    exact blames_bind (blames_stash h) fun _ _ hd =>
      blames_bind (blames_play hd _) fun _ _ hd => blames_ok hd _

/-- Synchronizing does not look at the snapshots. -/
theorem device_sync (d : Desk Pair) : (sync d).2.link.depot.device = d.link.depot.device := by
  rw [snd_sync]
  split
  · exact Link.device_push ..
  · rfl

theorem standalone_sync (h : d.Standalone) : (sync d).2.Standalone := by
  refine ⟨?_, (device_sync d).symm ▸ h.device⟩
  rw [snd_sync]
  split <;> exact h.identity

/-- What it is refused for is not what is kept anywhere. -/
theorem cases_sync (d : Desk Pair) :
    (∃ lines, (sync d).1 = .ok lines) ∨ (sync d).1 = .error .notSignedIn ∨
      (sync d).1 = .error .syncUnavailable := by
  rw [sync, bind_eq_of_ok (get_apply d)]
  rcases d.progress.account with _ | _ | ⟨username, id⟩
  · exact .inr (.inl rfl)
  · exact .inl ⟨_, rfl⟩
  · dsimp only
    split
    · rw [bind_apply, attempt_apply]
      rcases Link.push id (.ofProgress d.progress) d.link with ⟨_ | _, l⟩ <;> exact .inl ⟨_, rfl⟩
    · exact .inr (.inr rfl)

end Desk

end Questline
