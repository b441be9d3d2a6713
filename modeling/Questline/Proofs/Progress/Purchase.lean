import Questline.Progress.Codec
import Questline.Proofs.Progress.Boost
import Questline.Shell.Scene
set_option autoImplicit false

/-!
# What a purchase changes

The price is paid to the coin, and one value is raised towards its cap.  A save may come with a
value above the cap, and then the purchase brings the value down to it.
-/

namespace Questline

namespace Upgrade

/-- The share is a number that has not become less, unless it was above the cap, which it has
now. -/
def ShareRises (x y : Float) : Prop := y.isNaN = false ∧ (¬ y < x ∨ 0.5 < x ∧ y = 0.5)

/-- The number has not become less, unless it was above the cap, which it has now; nothing is
said of a number so large that it cannot be counted on by the step. -/
def CountRises (step cap n m : UInt32) : Prop :=
  n.toNat + step.toNat < UInt32.size → n ≤ m ∨ cap < n ∧ m = cap

/-- No value but that of the upgrade has changed, and that one has risen. -/
def Raises (b b' : Upgrades) : Upgrade → Prop
  | .xpBoost => b' = { b with xpBoost := b'.xpBoost } ∧ ShareRises b.xpBoost b'.xpBoost
  | .coinBoost => b' = { b with coinBoost := b'.coinBoost } ∧ ShareRises b.coinBoost b'.coinBoost
  | .offlineCap => b' = { b with offlineCapHours := b'.offlineCapHours } ∧
      CountRises 2 12 b.offlineCapHours b'.offlineCapHours
  | .hintBoost => b' = { b with hintCooldownReduction := b'.hintCooldownReduction } ∧
      CountRises 5 20 b.hintCooldownReduction b'.hintCooldownReduction

theorem shareRises_raisedBoost (x : Float) : ShareRises x (raisedBoost x) := by
  refine ⟨isNaN_raisedBoost x, ?_⟩
  by_cases hless : raisedBoost x < x
  · have hcap := lt_of_raisedBoost_lt hless
    exact .inr ⟨hcap, raisedBoost_of_lt hcap⟩
  · exact .inl hless

theorem countRises_min (step cap n : UInt32) : CountRises step cap n (min (n + step) cap) := by
  intro hfits
  have hsum : (n + step).toNat = n.toNat + step.toNat := by
    rw [UInt32.toNat_add]
    exact Nat.mod_eq_of_lt hfits
  change n ≤ (if n + step ≤ cap then n + step else cap) ∨
    cap < n ∧ (if n + step ≤ cap then n + step else cap) = cap
  split
  · left
    rw [UInt32.le_iff_toNat_le]
    omega
  · rcases UInt32.le_or_lt n cap with hle | hlt
    · exact .inl hle
    · exact .inr ⟨hlt, rfl⟩

theorem raises_apply (u : Upgrade) (b : Upgrades) : u.Raises b (u.apply b) := by
  cases u with
  | xpBoost => exact ⟨rfl, shareRises_raisedBoost _⟩
  | coinBoost => exact ⟨rfl, shareRises_raisedBoost _⟩
  | offlineCap => exact ⟨rfl, countRises_min 2 12 _⟩
  | hintBoost => exact ⟨rfl, countRises_min 5 20 _⟩

end Upgrade

/-- The game after the upgrade has been bought: nothing has changed but the coins, which are
fewer by the price, and the value of the upgrade. -/
structure Upgrade.Bought (u : Upgrade) (p p' : Progress) : Prop where
  paid : p'.player.coins.toNat + u.cost.toNat = p.player.coins.toNat
  rest : p' = { p with
    player := { p.player with coins := p'.player.coins }
    upgrades := p'.upgrades }
  raised : u.Raises p.upgrades p'.upgrades

/-- A purchase that is not refused is one of the upgrade of that name. -/
theorem Progress.bought_of_purchase {p p' : Progress} {id : String} {u : Upgrade}
    (h : p.purchase id = .ok (u, p')) : Upgrade.ofId? id = some u ∧ u.Bought p p' := by
  unfold Progress.purchase at h
  split at h
  · cases h
  · rename_i v hv
    split at h
    · cases h
    · rename_i hcost
      cases h
      have hle : u.cost ≤ p.player.coins := UInt64.not_lt.1 hcost
      have hpaid : (p.player.coins - u.cost).toNat + u.cost.toNat = p.player.coins.toNat := by
        rw [UInt64.toNat_sub_of_le _ _ hle]
        exact Nat.sub_add_cancel (UInt64.le_iff_toNat_le.1 hle)
      exact ⟨hv, hpaid, rfl, u.raises_apply p.upgrades⟩

/-- Whoever buys either is refused, and then nothing changes, or gives exactly the price for an
upgrade of which nothing is lost that its cap allows. -/
theorem Scene.buy_never_worse {w : Type} (s : Scene w) (id : String) :
    (∃ e, s.progress.purchase id = .error e ∧ (s.buy id).2 = s) ∨
      ∃ u p, s.progress.purchase id = .ok (u, p) ∧ Upgrade.ofId? id = some u ∧
        (s.buy id).2 = s.withProgress p ∧ u.Bought s.progress p := by
  unfold Scene.buy
  cases hp : s.progress.purchase id with
  | error e => exact .inl ⟨e, rfl, rfl⟩
  | ok r =>
    obtain ⟨u, p⟩ := r
    obtain ⟨hid, hbought⟩ := Progress.bought_of_purchase hp
    exact .inr ⟨u, p, rfl, hid, rfl, hbought⟩

/-- A save with a hundred hours has twelve left once two more have been bought. -/
theorem Progress.purchase_lowers_hours :
    ∃ p p' : Progress, Progress.ofText? ⟨0, 0⟩
          "\x7b\"player\":\x7b\"coins\":40\x7d,\"upgrades\":\x7b\"offlineCapHours\":100\x7d\x7d" =
        some p ∧
      p.purchase "offline-cap" = .ok (.offlineCap, p') ∧
        p.upgrades.offlineCapHours = 100 ∧ p'.upgrades.offlineCapHours = 12 := by
  have hrun : ((Progress.ofText? ⟨0, 0⟩
        "\x7b\"player\":\x7b\"coins\":40\x7d,\"upgrades\":\x7b\"offlineCapHours\":100\x7d\x7d").bind
      fun p => (p.purchase "offline-cap").toOption.map fun r =>
        (r.1, p.upgrades.offlineCapHours, r.2.upgrades.offlineCapHours)) =
      some (.offlineCap, 100, 12) := by
    decide +kernel
  obtain ⟨p, hload, hbuy⟩ := Option.bind_eq_some_iff.1 hrun
  obtain ⟨⟨u, p'⟩, hok, hvalues⟩ := Option.map_eq_some_iff.1 hbuy
  cases hp : p.purchase "offline-cap" with
  | error e =>
    rw [hp] at hok
    cases hok
  | ok r =>
    rw [hp] at hok
    cases hok
    obtain ⟨rfl, hhours⟩ := Prod.mk.inj hvalues
    obtain ⟨hbefore, hafter⟩ := Prod.mk.inj hhours
    exact ⟨p, p', hload, hp, hbefore, hafter⟩

end Questline
