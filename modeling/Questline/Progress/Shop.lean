import Questline.Progress.Player
set_option autoImplicit false

/-!
# Progress: the shop

Four upgrades can be bought, each as often as the coins last.  Buying past the
cap of an upgrade costs coins and leaves its value at the cap.
-/

namespace Questline

/-- What a player has bought. -/
structure Upgrades where
  xpBoost : Float
  coinBoost : Float
  offlineCapHours : UInt32
  /-- Seconds taken off the time between hints. -/
  hintCooldownReduction : UInt32
  deriving DecidableEq, Inhabited

/-- What a player starts with. -/
def Upgrades.initial : Upgrades := ⟨0.0, 0.0, 8, 0⟩

/-- An upgrade on sale. -/
inductive Upgrade where
  | xpBoost
  | coinBoost
  | offlineCap
  | hintBoost
  deriving DecidableEq, Repr

namespace Upgrade

/-- All upgrades in the order in which they are shown. -/
def all : List Upgrade := [.xpBoost, .coinBoost, .offlineCap, .hintBoost]

/-- The name by which an upgrade is bought. -/
def id : Upgrade → String
  | .xpBoost => "xp-boost"
  | .coinBoost => "coin-boost"
  | .offlineCap => "offline-cap"
  | .hintBoost => "hint-boost"

/-- The name by which an upgrade is shown. -/
def name : Upgrade → String
  | .xpBoost => "XP Booster"
  | .coinBoost => "Coin Magnet"
  | .offlineCap => "Long Rest"
  | .hintBoost => "Quick Thinking"

/-- What an upgrade does. -/
def description : Upgrade → String
  | .xpBoost => "+10% XP from quests"
  | .coinBoost => "+10% coins from quests"
  | .offlineCap => "+2h offline cap (max 12h)"
  | .hintBoost => "-5s hint cooldown"

/-- What an upgrade costs. -/
def cost : Upgrade → UInt64
  | .xpBoost => 30
  | .coinBoost => 30
  | .offlineCap => 40
  | .hintBoost => 25

/-- The upgrade bought by that name. -/
def ofId? (s : String) : Option Upgrade := all.find? fun u => u.id == s

/-- A boost after one more purchase. -/
def raisedBoost (x : Float) : Float :=
  let y := x + 0.1
  if y < 0.5 then y else 0.5

/-- What has been bought, with one more of an upgrade. -/
def apply (u : Upgrade) (b : Upgrades) : Upgrades :=
  match u with
  | .xpBoost => { b with xpBoost := raisedBoost b.xpBoost }
  | .coinBoost => { b with coinBoost := raisedBoost b.coinBoost }
  | .offlineCap => { b with offlineCapHours := min (b.offlineCapHours + 2) 12 }
  | .hintBoost => { b with hintCooldownReduction := min (b.hintCooldownReduction + 5) 20 }

/-- The same, if the sum fits before it is capped. -/
def applied? (u : Upgrade) (b : Upgrades) : Option Upgrades :=
  match u with
  | .offlineCap => (sum32? b.offlineCapHours 2).map fun hours =>
    { b with offlineCapHours := min hours 12 }
  | .hintBoost => (sum32? b.hintCooldownReduction 5).map fun seconds =>
    { b with hintCooldownReduction := min seconds 20 }
  | u => some (u.apply b)

end Upgrade

/-- Why nothing was bought. -/
inductive PurchaseError where
  | unknownUpgrade
  | notEnoughCoins
  deriving DecidableEq, Repr

/-- The words in which a refused purchase is told. -/
def PurchaseError.message : PurchaseError → String
  | .unknownUpgrade => "Upgrade not found"
  | .notEnoughCoins => "Not enough coins"

end Questline
