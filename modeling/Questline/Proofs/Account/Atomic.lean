import Questline.Proofs.Account.Switch
import Questline.Store.Memory
set_option autoImplicit false

/-!
# Account commands that fail

An account command works on the game that is being played, and every call it makes
to the stores and to the cloud on its way can fail.  A failure leaves the game as it
was, with one exception: a signup, or a login to the cloud, ends by keeping a snapshot
of the game it has already switched to, and if that snapshot cannot be kept the
command fails with the game switched.
-/

namespace Questline

open Time (Instant)
open Questline.Action

variable {w : Type} [Depot w]

/-! ## Account commands -/

/-- The commands that change who is playing. -/
inductive AccountCommand where
  | signup (raw : String)
  | login (raw : String)
  | logout
  deriving DecidableEq, Repr

namespace AccountCommand

/-- Carries out a command. -/
def run (now : Instant) : AccountCommand → Action AccountError (Desk w) (List String)
  | .signup raw => Desk.signup raw now
  | .login raw => Desk.login raw now
  | .logout => Desk.logout now

/-- A command up to the snapshot that closes it, if one does.  Tells whose that is. -/
def enter (now : Instant) : AccountCommand → Action AccountError (Desk w) (Option Account)
  | .signup raw => do return some (← Desk.enterNew raw now)
  | .login raw => Desk.enterKnown raw now
  | .logout => do
    let _ ← Desk.logout now
    return none

/-- The command gets as far as the snapshot that closes it, and that cannot be kept. -/
def ClosingFails (c : AccountCommand) (now : Instant) (d : Desk w) : Prop :=
  ∃ account t e u, c.enter now d = (.ok (some account), t) ∧
    Desk.keepSnapshot account t.progress t = (.error e, u)

/-- A part that keeps the game whenever it fails, put before a snapshot and a part that
cannot fail: the game is only left switched if it was the snapshot that failed. -/
theorem cases_of_closed_eq_error {α : Type} {x : Action AccountError (Desk w) α}
    (account : α → Account) {rest : α → Progress → Action AccountError (Desk w) (List String)}
    {d d' : Desk w} {e : AccountError}
    (hx : Meets (fun t => t.progress = d.progress) x
      (fun a t => t.progress.account = some (account a)) (fun t => t.progress = d.progress))
    (hrest : ∀ a p, Meets (fun t => t.progress = p) (rest a p) (fun _ t => t.progress = p)
      (fun _ => False))
    (h : (x >>= fun a => get >>= fun t =>
      Desk.keepSnapshot (account a) t.progress >>= fun _ => rest a t.progress) d
        = (.error e, d')) :
    ((∀ a t, x d ≠ (.ok a, t)) ∧ d'.progress = d.progress) ∨
      ∃ a t, x d = (.ok a, t) ∧ Desk.keepSnapshot (account a) t.progress t = (.error e, d') ∧
        d'.progress = t.progress ∧ t.progress.account = some (account a) := by
  rcases cases_of_bind_eq_error h with hfail | ⟨a, t, ha, h⟩
  · refine .inl ⟨fun a t ht => ?_, hx.error rfl hfail⟩
    rw [hfail] at ht
    cases ht
  · rw [bind_eq_of_ok (get_apply t)] at h
    rcases cases_of_bind_eq_error h with hkeep | ⟨_, u, hkeep, h⟩
    · exact .inr ⟨a, t, ha, hkeep, (Desk.meets_onDepot _).error rfl hkeep, hx.ok rfl ha⟩
    · exact ((hrest a t.progress).error ((Desk.meets_onDepot _).ok rfl hkeep) h).elim

/-- How a command fails: before the switch, with the game as it was, or at the snapshot
that closes it, with the game switched. -/
def FailsAs (c : AccountCommand) (now : Instant) (d d' : Desk w) (e : AccountError) : Prop :=
  ((∀ account t, c.enter now d ≠ (.ok (some account), t)) ∧ d'.progress = d.progress) ∨
    ∃ account t, c.enter now d = (.ok (some account), t) ∧
      Desk.keepSnapshot account t.progress t = (.error e, d') ∧
      d'.progress = t.progress ∧ t.progress.account = some account

theorem failsAs_signup {raw : String} {now : Instant} {d d' : Desk w} {e : AccountError}
    (h : Desk.signup raw now d = (.error e, d')) : FailsAs (.signup raw) now d d' e := by
  rw [Desk.signup_eq] at h
  have hx : Meets (fun t : Desk w => t.progress = d.progress) (Desk.enterNew raw now)
      (fun a t => t.progress.account = some (id a)) (fun t => t.progress = d.progress) :=
    (Desk.meets_enterNew raw now).mono (fun _ h => h) (fun _ _ h => h.2 ▸ rfl) fun _ h => h
  rcases cases_of_closed_eq_error id hx (fun a p => Desk.meets_welcome a p) h with
    ⟨hx, hp⟩ | ⟨account, t, hx, hkeep, hp, ha⟩
  · refine .inl ⟨fun account t ht => ?_, hp⟩
    obtain ⟨a, u, ha, -⟩ := exists_of_bind_eq_ok ht
    exact hx a u ha
  · exact .inr ⟨account, t, bind_eq_of_ok hx, hkeep, hp, ha⟩

theorem failsAs_login {raw : String} {now : Instant} {d d' : Desk w} {e : AccountError}
    (h : Desk.login raw now d = (.error e, d')) : FailsAs (.login raw) now d d' e := by
  unfold Desk.login at h
  unfold FailsAs enter Desk.enterKnown
  cases hv : Username.valid? raw with
  | none =>
    simp only [hv] at h ⊢
    cases h
    exact .inl ⟨fun _ _ => nofun, rfl⟩
  | some name =>
    simp only [hv, bind_eq_of_ok (get_apply d)] at h ⊢
    split at h
    · cases h
    · rename_i hname
      simp only [if_neg hname]
      split at h
      · rename_i hid
        simp only [if_pos hid]
        rw [Desk.loginCloud_eq] at h
        rcases cases_of_closed_eq_error Prod.fst (Desk.meets_enterCloud name now)
          (fun _ _ => meets_pure fun _ h => h) h with
          ⟨hx, hp⟩ | ⟨entered, t, hx, hkeep, hp, ha⟩
        · refine .inl ⟨fun account t ht => ?_, hp⟩
          obtain ⟨a, u, ha, -⟩ := exists_of_bind_eq_ok ht
          exact hx a u ha
        · exact .inr ⟨entered.1, t, bind_eq_of_ok hx, hkeep, hp, ha⟩
      · rename_i hid
        simp only [if_neg hid]
        refine .inl ⟨fun account t ht => ?_, (Desk.meets_loginLocal name).error rfl h⟩
        rw [bind_eq_of_error h] at ht
        cases ht

theorem failsAs_logout {now : Instant} {d d' : Desk w} {e : AccountError}
    (h : Desk.logout now d = (.error e, d')) : FailsAs .logout now d d' e := by
  refine .inl ⟨fun account t ht => ?_, (Desk.meets_logout now).error rfl h⟩
  rw [enter, bind_eq_of_error h] at ht
  cases ht

/-- A command that fails leaves the game as it was, unless what failed is the snapshot
that closes it: then the game is the one that the command has switched to. -/
theorem progress_of_run_eq_error {c : AccountCommand} {now : Instant} {d d' : Desk w}
    {e : AccountError} (h : c.run now d = (.error e, d')) :
    (¬ c.ClosingFails now d → d'.progress = d.progress) ∧
      (c.ClosingFails now d → ∃ account t, c.enter now d = (.ok (some account), t) ∧
        d'.progress = t.progress ∧ d'.progress.account = some account) := by
  have hfails : FailsAs c now d d' e := by
    cases c with
    | signup raw => exact failsAs_signup h
    | login raw => exact failsAs_login h
    | logout => exact failsAs_logout h
  rcases hfails with ⟨hnone, hp⟩ | ⟨account, t, henter, hkeep, hp, ha⟩
  · exact ⟨fun _ => hp, fun ⟨account, t, _, _, henter, _⟩ => (hnone account t henter).elim⟩
  · exact ⟨fun hc => (hc ⟨account, t, e, d', henter, hkeep⟩).elim,
      fun _ => ⟨account, t, henter, hp, hp ▸ ha⟩⟩

/-- On a device that cannot be written to, a guest whose signup fails is signed up. -/
theorem account_of_failed_signup :
    ∃ (d d' : Desk Pair) (e : AccountError), d.progress.account = none ∧
      (AccountCommand.signup "hero").run ⟨1, 0⟩ d = (.error e, d') ∧
      d'.progress.account = some (.local "hero") := by
  let d : Desk Pair :=
    { progress := .fresh ⟨0, 0⟩
      link := ⟨⟨{ Memory.empty with failsWrite := true }, .empty, ⟨0, 0⟩, .silent⟩, false, false⟩
      identity := false }
  let d' : Desk Pair :=
    { d with progress := { d.progress with account := some (.local "hero") }.touch ⟨1, 0⟩ }
  let e : AccountError := .store (.io Saves.accountsKey .injected)
  have hname : Username.valid? "hero" = some "hero" := Username.valid?_eq_some_self (by decide)
  -- The spelling is left open, so that only its reading is evaluated.
  have hcourse : ∀ raw, Username.valid? raw = some "hero" →
      (AccountCommand.signup raw).enter ⟨1, 0⟩ d = (.ok (some (.local "hero")), d') ∧
        (AccountCommand.signup raw).run ⟨1, 0⟩ d = (.error e, d') := by
    intro raw hraw
    constructor
    · rw [enter]
      unfold Desk.enterNew
      rw [hraw]
      rfl
    · rw [run]
      unfold Desk.signup
      rw [hraw]
      rfl
  obtain ⟨henter, hrun⟩ := hcourse "hero" hname
  have hfails : (AccountCommand.signup "hero").ClosingFails ⟨1, 0⟩ d :=
    ⟨.local "hero", d', e, d', henter, rfl⟩
  obtain ⟨account, t, ht, -, ha⟩ := (progress_of_run_eq_error hrun).2 hfails
  cases henter.symm.trans ht
  exact ⟨d, d', e, rfl, hrun, ha⟩

end AccountCommand

end Questline
