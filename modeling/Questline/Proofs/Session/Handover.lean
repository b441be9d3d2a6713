import Questline.Proofs.Account.Switch
import Questline.Proofs.Quest.Evaluation
import Questline.Proofs.Session.Turn
import Questline.Store.Memory
set_option autoImplicit false

/-!
# Handing the game over to the next player

A logout, and a signup of a player who is signed in, start a new game.  The turn goes
on, though: the quests are judged once more, and the file system on which they are
judged is the one that the player before has left.  So the new game is a fresh one
exactly if no open quest holds on that file system.
-/

namespace Questline

open Time (Instant)
open Questline.Action

variable {w : Type} [Depot w]

/-- The command passes the game on to another player: it logs out, or signs up while
somebody is signed in. -/
def Command.Simple.HandsOver (p : Progress) (c : Command.Simple) : Prop :=
  c = .logout ∨ ∃ raw, c = .signup (some raw) ∧ p.account.isSome

/-- Whose game it is after the command. -/
def Command.Simple.Receives (c : Command.Simple) (account : Option Account) : Prop :=
  (c = .logout ∧ account = none) ∨
    ∃ raw a, c = .signup (some raw) ∧ account = some a ∧ Username.valid? raw = some a.username

/-- A fresh game with an account or without one, in whose log stands one line. -/
def Progress.begun (account : Option Account) (line output : String) (now : Instant) : Progress :=
  { Progress.fresh now with account := account, log := [⟨line, output, now⟩] }

theorem Progress.logCommand_fresh (account : Option Account) (line output : String) (now : Instant) :
    ({ Progress.fresh now with account := account } : Progress).logCommand line output now =
      .begun account line output now := by
  unfold logCommand begun
  rw [newest_eq_self (by simp [fresh, logCapacity])]
  rfl

namespace Scene

omit [Depot w] in
/-- A command on the desk has succeeded if the action has. -/
theorem exists_of_status_onDesk {s : Scene w} {act : Action AccountError (Desk w) (List String)}
    (h : (s.onDesk act).1.status = .ok) :
    ∃ lines d, act s.desk = (.ok lines, d) ∧ (s.onDesk act).2 = { s with desk := d } := by
  unfold onDesk at h ⊢
  rcases hact : act s.desk with ⟨e | lines, d⟩
  · rw [hact] at h
    cases h
  · exact ⟨lines, d, rfl, rfl⟩

/-- Passing the game on leaves a fresh one, and the file system as it was. -/
theorem dispatch_of_handsOver {s : Scene w} {threshold : UInt32} {line : String} {now : Instant}
    {c : Command.Simple} (hc : c.HandsOver s.progress)
    (hok : (s.dispatch threshold line now c).1.status = .ok) :
    ∃ account, c.Receives account ∧
      (s.dispatch threshold line now c).2.progress =
        { Progress.fresh now with account := account } ∧
      (s.dispatch threshold line now c).2.fs = s.fs := by
  rcases hc with rfl | ⟨raw, rfl, hsome⟩
  · rw [dispatch_logout] at hok ⊢
    obtain ⟨lines, d, hact, hs⟩ := exists_of_status_onDesk hok
    refine ⟨none, .inl ⟨rfl, rfl⟩, ?_, by rw [hs]⟩
    rw [hs]
    exact (Desk.meets_logout now).ok rfl hact
  · rw [dispatch_signup] at hok ⊢
    obtain ⟨lines, d, hact, hs⟩ := exists_of_status_onDesk hok
    obtain ⟨account, hname, hp⟩ := (Desk.meets_signup raw now).ok rfl hact
    refine ⟨some account, .inr ⟨raw, account, rfl, rfl, hname⟩, ?_, by rw [hs]⟩
    rw [hs]
    exact hp.trans (Desk.signedUp_of_isSome hsome account now)

/-- The game that passing it on leaves, before the quests are judged. -/
theorem execute_of_handsOver {s : Scene w} {threshold : UInt32} {line : String} {now : Instant}
    (hc : (Command.parse (Text.trimmed line)).first.HandsOver s.progress)
    (hok : (s.execute threshold line now).1.status = .ok) :
    (Text.trimmed line).isEmpty = false ∧
    ∃ account, (Command.parse (Text.trimmed line)).first.Receives account ∧
      (s.execute threshold line now).2.progress =
        .begun account (Text.trimmed line) (s.execute threshold line now).1.text now ∧
      (s.execute threshold line now).2.fs = s.fs := by
  have hline : (Text.trimmed line).isEmpty = false := by
    cases hb : (Text.trimmed line).isEmpty with
    | false => rfl
    | true =>
      rw [Command.parse_of_isEmpty hb] at hc
      rcases hc with h | ⟨raw, h, -⟩ <;> cases h
  refine ⟨hline, ?_⟩
  obtain ⟨o, after, hexecute, hstatus, hafter⟩ := s.exists_execute threshold now hline
  rw [hexecute] at hok ⊢
  obtain ⟨account, hr, hp, hfs⟩ := dispatch_of_handsOver hc (hstatus.symm.trans hok)
  rw [← hafter] at hp hfs
  dsimp only
  refine ⟨account, hr, ?_, ?_⟩
  · rw [progress_withProgress, hp, Progress.logCommand_fresh]
  · rw [fs_withProgress, hfs]

end Scene

namespace Session

/-- Passing the game on makes the next player's game a fresh one, with the command in its
log, and judges the quests on it.  It is still fresh after that exactly if none of the
quests that are open to a new player holds on the file system that was left. -/
theorem progress_execute_of_handsOver {s : Session w} {line : String} {now : Instant}
    {moment : Moment} (hc : (Command.parse (Text.trimmed line)).first.HandsOver s.progress)
    (hok : (s.execute line now moment).1.outcome.status = .ok) :
    ∃ account, (Command.parse (Text.trimmed line)).first.Receives account ∧
      let output := (s.execute line now moment).1.outcome.text
      let begun := Progress.begun account (Text.trimmed line) output now
      let after := (s.execute line now moment).2
      after.scene.fs = s.scene.fs ∧
      after.progress = (begun.evaluate s.settings.threshold s.scene.fs now).2 ∧
      (after.progress = begun ↔
        ∀ q ∈ Quest.catalog, begun.isUnlocked s.settings.threshold q.zone = true →
          q.check.holds begun.log s.scene.fs = false) := by
  rw [outcome_execute] at hok ⊢
  obtain ⟨hline, account, hr, hp, hfs⟩ := Scene.execute_of_handsOver hc hok
  refine ⟨account, hr, ?_⟩
  intro output begun after
  have hafter : after.progress = (begun.evaluate s.settings.threshold s.scene.fs now).2 := by
    rw [show after = _ from execute_snd s now moment (not_isBlankText_of_trimmed hline),
      progress_settle, progress_withProgress, hp, hfs]
    exact Progress.touch_evaluate rfl rfl
  refine ⟨?_, hafter, ?_⟩
  · rw [show after = _ from execute_snd s now moment (not_isBlankText_of_trimmed hline), fs_settle,
      fs_withProgress, hfs]
  · rw [hafter, Progress.evaluate_eq_self_iff]
    refine forall₂_congr fun q _ => ?_
    have hnone : begun.isComplete q.id = false := rfl
    rw [Progress.Ready]
    simp [hnone]

/-- The directory that one player has made completes a quest for the guest after a
logout. -/
theorem logout_beside_practice :
    ∃ s : Session Pair, (s.execute "logout" ⟨3, 0⟩ ⟨0, 0⟩).1.outcome.status = .ok ∧
      (s.execute "logout" ⟨3, 0⟩ ⟨0, 0⟩).2.progress ≠
        .begun none "logout" (s.execute "logout" ⟨3, 0⟩ ⟨0, 0⟩).1.outcome.text ⟨3, 0⟩ := by
  let played : Progress := { Progress.fresh ⟨0, 0⟩ with account := some (.local "hero") }
  let s₀ : Session Pair := start .initial ⟨false, false⟩ ⟨.empty, .empty, ⟨0, 0⟩, .silent⟩ played
  let made : FileSystem := (FileSystem.starter.mkdir "practice").toOption.getD .starter
  let s : Session Pair := { s₀ with scene := { s₀.scene with fs := made } }
  have hparse : Command.parse (Text.trimmed "logout") = .simple .logout := by decide +kernel
  have hc : (Command.parse (Text.trimmed "logout")).first.HandsOver s.progress := by
    rw [hparse]
    exact .inl rfl
  have hok : (s.execute "logout" ⟨3, 0⟩ ⟨0, 0⟩).1.outcome.status = .ok := by
    rw [outcome_execute]
    decide +kernel
  obtain ⟨account, hr, -, -, hiff⟩ := progress_execute_of_handsOver hc hok
  rw [hparse] at hr
  obtain ⟨-, rfl⟩ | ⟨_, _, h, -⟩ := hr
  · refine ⟨s, hok, fun heq => ?_⟩
    have hthere : (made.lookup? "/home/adventurer/practice").isSome = true := by decide +kernel
    have hmade : ∃ q ∈ Quest.catalog, q.zone = .plains ∧ ∀ log, q.check.holds log made = true :=
      ⟨Quest.catalog[5], List.getElem_mem _, rfl, fun _ => hthere⟩
    obtain ⟨q, hq, hzone, hholds⟩ := hmade
    have hnot := hiff.1 heq q hq (by rw [hzone]; rfl)
    rw [show s.scene.fs = made from rfl, hholds] at hnot
    cases hnot
  · cases h

end Session

end Questline
