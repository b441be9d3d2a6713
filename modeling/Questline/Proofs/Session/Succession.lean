import Questline.Proofs.Session.Custody
set_option autoImplicit false

/-!
# Sessions and the save of a profile

What each step of a session sends to the cloud unseen, and that this alone decides whether
it keeps to the succession of a profile's saves.  Signing up pushes to a profile of its own, a
login reconciles, and a logout does not reach the cloud at all; what is left is the command to
synchronize, and what a courier or a retry sends.
-/

namespace Questline

open Time (Instant)
open Questline.Action

/-! ## Lines -/

/-- What a command sends to the cloud unseen. -/
def Command.Simple.sends? (p : Progress) : Command.Simple → Option (String × SaveRecord)
  | .sync => (p.account.bind Account.profileId?).map fun id => (id, .ofProgress p)
  | _ => none

/-- The game can be stored, the stores can be relied on, and there is a cloud or not. -/
structure Desk.Within (I : Pair → Prop) (configured : Bool) (d : Desk Pair) : Prop where
  game : d.progress.Storable
  depot : I d.link.depot
  configured : d.link.configured = configured

theorem Desk.Within.upholds {I : Pair → Prop} {b : Bool} {d : Desk Pair} (h : d.Within I b) :
    d.Upholds Place.Stored I b :=
  ⟨h.game, h.depot, h.configured⟩

namespace Scene

variable {New : String → Prop} {I : Pair → Prop} {b : Bool} {id : String} {since : Cloud}
  {s : Scene Pair} {now : Instant}

theorem sends?_of_ne {c : Command.Simple} (hc : c ≠ .sync) (p : Progress) : c.sends? p = none := by
  cases c with
  | sync => exact absurd rfl hc
  | _ => rfl

theorem leaves_dispatch (hs : s.progress.Storable) (hnow : now.Valid) (threshold : UInt32)
    (line : String) (c : Command.Simple) :
    s.desk.link.Leaves id (c.sends? s.progress)
      (s.dispatch threshold line now c).2.desk.link.depot := by
  by_cases hc : c = .sync
  · subst hc
    rw [dispatch_sync, desk_onDesk, Desk.snd_sync, show s.desk.progress = s.progress from rfl,
      Command.Simple.sends?]
    cases s.progress.account.bind Account.profileId? with
    | none => exact Link.leaves_none fun _ hl => hl
    | some id' => exact Link.leaves_push ⟨s.progress, hs, rfl⟩
  · rw [sends?_of_ne hc]
    refine Link.leaves_none fun since hl => ?_
    have hdesk : s.desk.Within (Pair.Follows id since) s.desk.link.configured := ⟨hs, hl, rfl⟩
    exact (upholds_dispatch Place.lasting_stored (Pair.Follows.steady id since).custody hdesk.upholds
      hnow threshold line fun heq => absurd heq hc).depot

/-- A line sends what its command sends. -/
theorem leaves_execute (hs : s.progress.Storable) (hnow : now.Valid) (threshold : UInt32)
    (line : String) :
    s.desk.link.Leaves id ((Command.parse (Text.trimmed line)).first.sends? s.progress)
      (s.execute threshold line now).2.desk.link.depot := by
  cases hline : (Text.trimmed line).isEmpty with
  | true =>
    rw [execute_of_isEmpty s threshold now hline, Command.parse_of_isEmpty hline]
    exact Link.leaves_none fun _ hl => hl
  | false =>
    obtain ⟨o, after, hexecute, -, hafter⟩ := s.exists_execute threshold now hline
    rw [hexecute]
    dsimp only
    rw [link_withProgress, hafter]
    exact leaves_dispatch hs hnow threshold (Text.trimmed line) _

theorem storable_execute (hI : Pair.Steady New I) (h : s.desk.Within I b) (hnow : now.Valid)
    (threshold : UInt32) (line : String) :
    (s.execute threshold line now).2.progress.Storable :=
  kind_execute Place.lasting_stored hI.custody h.upholds hnow threshold line

end Scene

/-! ## Sessions -/

/-- What is played and what waits for the courier can be stored. -/
structure Session.HoldsGames (s : Session Pair) : Prop where
  game : s.progress.Storable
  waiting : ∀ p, s.courier.waiting = some p → ∃ q : Progress, q.Storable ∧ p.record = .ofProgress q

/-- What is played can be stored, the stores can be relied on, and there is a cloud or not. -/
structure Session.Within (I : Pair → Prop) (configured : Bool) (s : Session Pair) : Prop where
  games : s.HoldsGames
  depot : I s.depot
  configured : s.link.configured = configured

namespace Session

variable {New : String → Prop} {I : Pair → Prop} {b : Bool} {id : String} {since : Cloud}
  {s : Session Pair} {now : Instant} {moment : Moment}

theorem contains_stored_iff : s.Contains (fun _ => True) Place.Stored ↔ s.HoldsGames :=
  ⟨fun h => ⟨h.game, h.waiting⟩, fun h => ⟨h.game, h.waiting, trivial⟩⟩

theorem upholds_stored_iff : s.Upholds (fun _ => True) Place.Stored I b ↔ s.Within I b :=
  ⟨fun h => ⟨contains_stored_iff.1 h.toContains, h.depot, h.configured⟩,
    fun h => ⟨contains_stored_iff.2 h.games, h.depot, h.configured⟩⟩

/-! ### Settling -/

theorem cloud_settle (s : Session Pair) (now : Instant) (moment : Moment) :
    (s.settle now moment).depot.cloud = s.depot.cloud := by
  rw [depot_settle, Saves.save, Depot.save_pair]
  split <;> rfl

theorem keeps_settle (hI : Pair.Steady New I) (hs : s.progress.Storable) (hnow : now.Valid)
    (h : I s.depot) : I (s.settle now moment).depot := by
  rw [depot_settle]
  exact (hI.custody.save (hs.touch hnow)).snd h

/-! ### Turns -/

-- What the line leaves is named before anything is compared with it.

/-- A turn sends what its command sends. -/
theorem leaves_execute (hs : s.HoldsGames) (hl : s.depot.Follows id since) (hnow : now.Valid)
    (line : String) :
    s.link.Leaves id ((Command.parse (Text.trimmed line)).first.sends? s.progress)
      (s.execute line now moment).2.depot := by
  have hscene : s.link.Leaves id ((Command.parse (Text.trimmed line)).first.sends? s.progress)
      (s.scene.execute s.settings.threshold line now).2.desk.link.depot :=
    Scene.leaves_execute hs.game hnow s.settings.threshold line
  have hdesk : s.scene.desk.Within (Pair.Follows id since) s.link.configured := ⟨hs.game, hl, rfl⟩
  have hgame := Scene.storable_execute (Pair.Follows.steady id since) hdesk hnow
    s.settings.threshold line
  cases hb : Text.isBlankText line.toList with
  | true =>
    rw [execute_snd_of_blank s now moment hb]
    generalize (s.scene.execute s.settings.threshold line now).2 = scene at hscene ⊢
    exact hscene
  | false =>
    rw [execute_snd s now moment hb]
    generalize (s.scene.execute s.settings.threshold line now).2 = scene at hscene hgame ⊢
    have hp := hgame.evaluate s.settings.threshold scene.fs hnow
    generalize (scene.progress.evaluate s.settings.threshold scene.fs now).2 = p at hp ⊢
    exact hscene.then (fun since h => keeps_settle (Pair.Follows.steady id since) hp hnow h)
      (cloud_settle ..)

theorem holdsGames_execute (hs : s.HoldsGames) (hl : s.depot.Follows id since) (hnow : now.Valid)
    (line : String) : (s.execute line now moment).2.HoldsGames := by
  have hwithin : s.Within (Pair.Follows id since) s.link.configured := ⟨hs, hl, rfl⟩
  exact contains_stored_iff.1 (contains_execute Place.lasting_stored
    (Pair.Follows.steady id since).custody (upholds_stored_iff.2 hwithin) hnow line)

/-! ### Resuming -/

theorem HoldsGames.withLink (hs : s.HoldsGames) (l : Link Pair) : (s.withLink l).HoldsGames :=
  ⟨hs.game, hs.waiting⟩

/-- Coming back to the game keeps to what the stores can be relied on for. -/
theorem within_resume (hI : Pair.Steady New I) (h : s.Within I b) (hnow : now.Valid) :
    (s.resume now moment).2.Within I b :=
  upholds_stored_iff.1
    (upholds_resume Place.lasting_stored hI.custody (upholds_stored_iff.2 h) hnow)

/-! ### Retrying and leaving -/

/-- What a retry sends. -/
def retries? (s : Session Pair) : Option (String × SaveRecord) :=
  if s.link.pending then Command.Simple.sync.sends? s.progress else none

theorem leaves_retryPending (hs : s.HoldsGames) :
    s.link.Leaves id s.retries? (retryPending s).2.depot := by
  unfold retryPending retries? Command.Simple.sends?
  cases s.progress.account.bind Account.profileId? with
  | none =>
    rw [Option.map_none, ite_self]
    exact Link.leaves_none fun _ hl => hl
  | some id' =>
    have hdepot : (s.onLink (Link.retry id' (.ofProgress s.progress))).2.depot =
        (Link.retry id' (.ofProgress s.progress) s.link).2.depot := rfl
    dsimp only
    rw [hdepot, Link.retry_snd]
    by_cases hp : s.link.pending = true
    · rw [if_pos hp, if_pos hp]
      exact Link.leaves_push ⟨s.progress, hs.game, rfl⟩
    · rw [if_neg hp, if_neg hp]
      exact Link.leaves_none fun _ hl => hl

theorem holdsGames_retryPending (hs : s.HoldsGames) : (retryPending s).2.HoldsGames :=
  contains_stored_iff.1 (contains_retryPending (contains_stored_iff.2 hs))

theorem leaves_elapse (hs : s.HoldsGames) (time : Nat) :
    s.link.Leaves id ((s.courier.takeDue time).1.map Parcel.content) (s.elapse time).depot := by
  refine Parcel.leaves_sendAny fun p hp => hs.waiting p ?_
  exact Courier.waiting_of_takeDue hp

theorem holdsGames_elapse (hs : s.HoldsGames) (time : Nat) : (s.elapse time).HoldsGames :=
  contains_stored_iff.1 (contains_elapse (contains_stored_iff.2 hs) time)

theorem leaves_drop (hs : s.HoldsGames) :
    s.link.Leaves id (s.courier.waiting.map Parcel.content) s.drop :=
  Parcel.leaves_sendAny hs.waiting

/-- The game is kept before what waits is sent. -/
theorem leaves_close (hs : s.HoldsGames) :
    s.link.Leaves id (s.courier.waiting.map Parcel.content) s.close := by
  have hdrop : s.persist.link.Leaves id (s.courier.waiting.map Parcel.content) s.close :=
    Parcel.leaves_sendAny hs.waiting
  refine hdrop.of_cloud_eq (fun since hl =>
    ((Pair.Follows.steady id since).custody.save hs.game).snd hl) ?_ rfl
  have hdepot : s.persist.link.depot =
      ((Saves.save s.progress : Action StoreError Pair Unit) s.link.depot).2 := rfl
  rw [hdepot, Saves.save, Depot.save_pair]
  split <;> rfl

end Session

end Questline
