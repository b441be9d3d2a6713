import Questline.Progress.Basic
set_option autoImplicit false

/-!
# Progress: coming back

What happens when a player comes back: coins for the hours away, up to a cap,
and one more day of the streak if the last visit was a day ago.
-/

namespace Questline

open Time (Instant Span)

/-- Coins earned while away. -/
structure AwayReport where
  away : Span
  coins : UInt64
  deriving DecidableEq, Repr

/-- A span in hours. -/
def hoursOf (s : Span) : Float :=
  let ms := s.millis
  (if ms < 0 then -(UInt64.ofNat ms.natAbs).toFloat else (UInt64.ofNat ms.toNat).toFloat) / 3600000.0

/-- The report as it is told. -/
def AwayReport.message (r : AwayReport) : String :=
  let hours := Decimal.fixed 2 (hoursOf r.away)
  s!"Welcome back! You were away for {hours}h and earned {r.coins} coins."

/-- Coins for hours at a rate, with a boost; a boost that is no number gives none. -/
def awayCoins (hours : Float) (rate : UInt32) (boost : Float) : UInt64 :=
  let b := if boost < 0.0 then 0.0 else if boost > maxBoost then maxBoost else boost
  (hours * rate.toFloat * (1.0 + b)).toUInt64

namespace Progress

/-- Turns the time since the last activity into coins. -/
def accrueOffline (p : Progress) (now : Instant) (rate : UInt32) : Option AwayReport × Progress :=
  let away : Span := max (now.since p.lastActive) 0
  let cap := Span.ofHours (Int.ofNat p.upgrades.offlineCapHours.toNat)
  let coins := awayCoins (hoursOf (min away cap)) rate p.upgrades.coinBoost
  let p := { p with lastActive := now }
  if coins = 0 then (none, p)
  else (some ⟨away, coins⟩, { p with player := { p.player with coins := p.player.coins + coins } })

/-- The same, if the purse can hold the coins. -/
def accrueOffline? (p : Progress) (now : Instant) (rate : UInt32) :
    Option (Option AwayReport × Progress) :=
  match p.accrueOffline now rate with
  | (none, p) => some (none, p)
  | (some report, after) => (sum64? p.player.coins report.coins).map fun coins =>
    (some report, { after with player := { after.player with coins := coins } })

/-- Counts the day: the first visit counts as one, a visit a day later adds one,
and one after a longer time starts over. -/
def updateStreak (p : Progress) (now : Instant) : Progress :=
  let passed := (now.since p.streak.lastCheck).days
  let days :=
    if passed ≤ 0 then (if p.streak.days = 0 then 1 else p.streak.days)
    else if passed = 1 then p.streak.days + 1
    else 1
  { p with streak := ⟨now, days⟩ }

/-- The same, if the days can be counted. -/
def updateStreak? (p : Progress) (now : Instant) : Option Progress :=
  if (now.since p.streak.lastCheck).days = 1 then
    (sum32? p.streak.days 1).map fun days => { p with streak := ⟨now, days⟩ }
  else some (p.updateStreak now)

end Progress

end Questline
