import Questline.Proofs.Session.Everywhere
import Questline.Proofs.Session.Pending
set_option autoImplicit false

/-!
# What is kept is what is played

After every line that is not blank, and after coming back, the store of the device has the game
that is being played, whichever account it is of and wherever it came from.  A session that is
opened then goes on with the same game, for there is nothing to repair in a game in play.
-/

namespace Questline

open Time (Instant)

/-- The stores keep games in play, and the one on the device can be relied on. -/
def Pair.Entrusted (p : Pair) : Prop := p.Keeps Place.Played ∧ p.device.Reliable

theorem Pair.custody_entrusted : Pair.Custody (fun _ => True) Place.Played Pair.Entrusted :=
  (Pair.custody_keeps Place.Played).reliable

namespace Session

variable {s : Session Pair} {b : Bool} {now : Instant} {moment : Moment}

/-- The store of the device has the game that is being played, and can be relied on. -/
structure Kept (s : Session Pair) : Prop where
  game : s.progress.InPlay
  text : s.depot.device.entries.get? Saves.stateKey = some s.progress.toText
  device : s.depot.device.Reliable

/-- Settling keeps the game. -/
theorem kept_settle (h : s.Upholds (fun _ => True) Place.Played Pair.Entrusted b)
    (hnow : now.Valid) : (s.settle now moment).Kept := by
  have hdepot := depot_settle_of_reliable h.depot.2 now moment
  refine ⟨?_, ?_, ?_⟩
  · rw [progress_settle]
    exact Progress.InPlay.touch h.game hnow
  · rw [hdepot, progress_settle]
    exact s.depot.get?_put_self .device _ _
  · rw [hdepot]
    exact h.depot.2.put _ _

theorem kept_execute (h : s.Upholds (fun _ => True) Place.Played Pair.Entrusted b)
    (hnow : now.Valid) {line : String} (hblank : Text.isBlankText line.toList = false) :
    (s.execute line now moment).2.Kept := by
  obtain ⟨s', hs', hupholds⟩ := exists_settle_of_execute Place.lasting_played
    Pair.custody_entrusted h hnow (fun _ _ => trivial) hblank moment
  rw [hs']
  exact kept_settle hupholds hnow

theorem kept_resume (h : s.Upholds (fun _ => True) Place.Played Pair.Entrusted b)
    (hnow : now.Valid) : (s.resume now moment).2.Kept := by
  obtain ⟨s', hs', hupholds⟩ := exists_settle_of_resume Place.lasting_played
    Pair.custody_entrusted h hnow moment
  rw [hs']
  exact kept_settle hupholds hnow

/-- Whoever opens a session on that store goes on with the game. -/
theorem Kept.enter (h : s.Kept) {p : Pair} (hp : p.device = s.depot.device) (settings : Settings)
    (services : Services) (now : Instant) :
    ∃ s', Session.enter settings services now p = (.ok s', p) ∧ s'.progress = s.progress := by
  have hreads : p.device.failsRead = false := by
    rw [hp]
    exact h.device.reads
  have htext : p.device.entries.get? Saves.stateKey = some s.progress.toText := by
    rw [hp]
    exact h.text
  exact ⟨_, enter_of_text h.game.toStorable hreads htext settings services now,
    h.game.repair_eq_self⟩

end Session

namespace Fleet

/-- The step ends with keeping the game: a line that is not blank, or coming back. -/
def Step.Settles : Step → Prop
  | .run line _ => Text.isBlankText line.toList = false
  | .resume _ => True
  | _ => False

variable {f : Fleet} {name : String}

/-- A session that takes such a step on a store it can rely on is kept. -/
theorem kept_stepSession (h : f.Upholds (fun _ => True) Place.Played)
    (hstore : (f.device name).store.Reliable) {s : Session Pair} (hs : f.session? name = some s)
    (moment : Moment) {st : Step} (hst : st.Settles) (hnow : st.Timely) :
    (stepSession s moment st).2.Kept := by
  have hupholds := h.session? hs
  have hdepot : s.depot = f.surroundings name := by
    unfold Fleet.session? at hs
    obtain ⟨s', -, rfl⟩ := Option.map_eq_some_iff.1 hs
    rfl
  have hentrusted : s.Upholds (fun _ => True) Place.Played Pair.Entrusted s.link.configured :=
    ⟨hupholds.toContains, ⟨hupholds.depot, by rw [hdepot]; exact hstore⟩, hupholds.configured⟩
  cases st with
  | run line now =>
    rw [stepSession_run]
    exact Session.kept_execute hentrusted hnow hst
  | resume now =>
    rw [stepSession_resume]
    exact Session.kept_resume hentrusted hnow
  | _ => exact hst.elim

/-- Whatever has befallen the fleet before, once a device whose store can be relied on has
carried out a line that is not blank, or come back, any session that is opened on its store goes
on with the game that is being played there. -/
theorem progress_reopened (naming : Nat → String) (clock : Instant) (wording : Wording)
    {is : List Incident} (his : ∀ i ∈ is, i.Timely)
    (hf : f = (founded naming clock wording).undergo is)
    (hstore : (f.device name).store.Reliable) {s : Session Pair}
    (hs : (f.device name).session = some s) {st : Step} (hst : st.Settles) (hnow : st.Timely) :
    ∃ live, ((f.befall (.event (.act name st))).device name).session = some live ∧
      ∀ (settings : Settings) (services : Services) (now : Instant) (p : Pair),
        p.device = ((f.befall (.event (.act name st))).device name).store →
        ∃ s', Session.enter settings services now p = (.ok s', p) ∧
          s'.progress = live.progress := by
  have hupholds : f.Upholds (fun _ => True) Place.Played := by
    rw [hf]
    exact (upholds_founded naming clock wording).undergo Place.lasting_played his
      fun i _ => i.opensAt_any
  have hturned : f.turned.Upholds (fun _ => True) Place.Played :=
    ⟨hupholds.depot, hupholds.session⟩
  have hopen : f.turned.session? name = some (s.withDepot (f.turned.surroundings name)) := by
    rw [Fleet.session?, show (f.turned.device name).session = some s from hs]
    rfl
  have hstays : st.Stays := by
    cases st <;> first | exact trivial | exact hst.elim
  have hkept := kept_stepSession hturned hstore hopen f.turned.moment hst hnow
  have hafter : f.befall (.event (.act name st)) = f.turned.absorb name
      (stepSession (s.withDepot (f.turned.surroundings name)) f.turned.moment st).2.depot
      (some (stepSession (s.withDepot (f.turned.surroundings name)) f.turned.moment st).2) := by
    rw [befall, happen_act, act_of_session hopen hstays]
  generalize (stepSession (s.withDepot (f.turned.surroundings name)) f.turned.moment st).2 = live
    at hkept hafter
  rw [hafter, device_absorb_self]
  exact ⟨live, rfl, fun settings services now p hp => hkept.enter hp settings services now⟩

/-- A session is opened on a device whose store has failed for a while. -/
def lapse : List Incident := [
  .event (.act "a" (.enter .initial ⟨true, true⟩ none ⟨0, 0⟩)),
  .device "a" true true true,
  .device "a" false false false]

/-- The player completes a quest then, and finds it completed in whatever session is opened next
on the device. -/
theorem progress_reopened_lapse :
    let f := (founded (fun _ => "p") ⟨0, 0⟩ .silent).undergo lapse
    let f' := f.befall (.event (.act "a" (.run "pwd" ⟨2, 0⟩)))
    (∀ i ∈ lapse, i.Timely) ∧ (f.device "a").store.Reliable ∧
      (f.device "a").session.isSome = true ∧ (Step.run "pwd" ⟨2, 0⟩).Settles ∧
      ∀ (settings : Settings) (services : Services) (now : Instant) (p : Pair),
        p.device = (f'.device "a").store →
        ∃ s', Session.enter settings services now p = (.ok s', p) ∧
          s'.progress.isComplete "plains-pwd" = true := by
  intro f f'
  have his : ∀ i ∈ lapse, i.Timely := by decide +kernel
  have hstore : (f.device "a").store.Reliable := ⟨by decide +kernel, by decide +kernel⟩
  have hopen : (f.device "a").session.isSome = true := by decide +kernel
  have hst : (Step.run "pwd" ⟨2, 0⟩).Settles := by
    change Text.isBlankText "pwd".toList = false
    decide +kernel
  have hquest :
      ((f'.device "a").session.any fun s => s.progress.isComplete "plains-pwd") = true := by
    decide +kernel
  obtain ⟨s, hs⟩ := Option.isSome_iff_exists.1 hopen
  obtain ⟨live, hlive, hreopened⟩ :=
    progress_reopened (fun _ => "p") ⟨0, 0⟩ .silent his rfl hstore hs hst (by decide)
  refine ⟨his, hstore, hopen, hst, fun settings services now p hp => ?_⟩
  obtain ⟨s', hs', hgame⟩ := hreopened settings services now p hp
  rw [show (f'.device "a").session = some live from hlive] at hquest
  exact ⟨s', hs', by rw [hgame]; exact hquest⟩

end Fleet

end Questline
