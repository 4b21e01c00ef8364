import Stablecoin.Ledger.Basic
import Stablecoin.TargetPrice
import Stablecoin.Venue

set_option autoImplicit false

/-! # Prices and the peg gate

The target price comes from the crawl that governance sets; the market price comes from the
venue. Minting is allowed while the market price is not below the band under the target price. -/

namespace Stablecoin.Ledger.Config

/-- The target price at a time. -/
def targetPrice (c : Config) (now : Seconds) : Except Fault Amount :=
  targetPriceAt c.currentPrice c.nextPrice c.periodStart.toNat c.periodLength.toNat now.toNat

/-- The market price. Without a venue the market is taken to be on target. -/
def marketPrice (c : Config) (env : Env) : Except Fault Amount :=
  match c.venue with
  | some venue => Venue.askPrice env.querier venue
  | none => c.targetPrice env.now

/-- The peg gate: the market price is at least the target price less the spread. -/
def mintAllowed (c : Config) (env : Env) : Except Fault Bool := do
  let target ← c.targetPrice env.now
  let floor ← applyRatio target (← complement c.arbSpread)
  let market ← c.marketPrice env
  return decide (floor ≤ market)

variable {c : Config} {env env' : Env}

/-- The market price depends on the time and on what the venue answers, -/
theorem marketPrice_congr (now : env'.now = env.now)
    (price : ∀ venue ∈ c.venue,
      Venue.askPrice env'.querier venue = Venue.askPrice env.querier venue) :
    c.marketPrice env' = c.marketPrice env := by
  unfold marketPrice
  split
  · rename_i venue hvenue
    exact price venue hvenue
  · rw [now]

/-- and so does the peg gate. -/
theorem mintAllowed_congr (now : env'.now = env.now)
    (price : ∀ venue ∈ c.venue,
      Venue.askPrice env'.querier venue = Venue.askPrice env.querier venue) :
    c.mintAllowed env' = c.mintAllowed env := by
  rw [mintAllowed, mintAllowed, now, marketPrice_congr now price]

end Stablecoin.Ledger.Config
