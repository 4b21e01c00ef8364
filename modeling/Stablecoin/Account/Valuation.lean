import Stablecoin.Account.Basic
import Stablecoin.Account.Error
import Stablecoin.Backend
import Stablecoin.Ledger.Client

set_option autoImplicit false

/-! # Valuing an account

The assets of an account in quote currency, the ratio of its equity to them, and whether it is in
default. Stablecoin, owned or owed, counts at the target price. -/

namespace Stablecoin.Account

/-- All that an account holds. -/
structure Valuation where
  /-- The value of the investment. -/
  assetValue : Amount
  quoteBalance : Amount
  stablecoinBalance : Amount
  targetPrice : Amount

/-- The equity, which is the value less the debt, as a ratio of the value. Without any value
    the ratio is one if there is no debt either. -/
def equityRatio (value debt : Amount) : Except Fault Ratio :=
  if value = 0 then .ok (if debt = 0 then Ratio.one else 0)
  else if value ≤ debt then .ok 0
  else do
    let equity ← value.minus debt
    let ratio ← mulDiv equity precision value.toNat
    return UInt32.ofNat ratio.toNat

/-- An account is in default when its equity ratio is below the minimum. -/
def isDefaulted (ratio minEquityRatio : Ratio) : Bool :=
  decide (ratio < minEquityRatio)

namespace Valuation

/-- The investment, the quote currency and the stablecoin together. -/
def currentValue (v : Valuation) : Except Fault Amount := do
  let held ← (v.assetValue.checkedAdd v.quoteBalance).mapError Fault.overflow
  let stablecoin ← quoteValue v.stablecoinBalance v.targetPrice
  (held.checkedAdd stablecoin).mapError Fault.overflow

/-- What the account holds of a currency. -/
def balanceOf (v : Valuation) : Asset → Amount
  | .quote => v.quoteBalance
  | .stablecoin => v.stablecoinBalance

/-- The value of an amount of a currency. -/
def valueOf (v : Valuation) (asset : Asset) (amount : Amount) : Except Fault Amount :=
  match asset with
  | .quote => .ok amount
  | .stablecoin => quoteValue amount v.targetPrice

/-- The value of a debt in stablecoin. -/
def debtValue (v : Valuation) (borrowed : Amount) : Except Fault Amount :=
  quoteValue borrowed v.targetPrice

/-- The equity ratio under a debt in stablecoin. -/
def equityRatio (v : Valuation) (borrowed : Amount) : Except Fault Ratio := do
  let value ← v.currentValue
  let debt ← v.debtValue borrowed
  Account.equityRatio value debt

end Valuation

/-- The value of the investment: as stated, or else as the backend answers. -/
def assetValue (a : Account) (env : Env) : Except Fault Amount :=
  match a.position.statedValue with
  | some value => .ok value
  | none => Backend.askAssetValue env.querier a.config.backend env.self

/-- The quote currency of the account. -/
def quoteBalance (a : Account) (env : Env) : Amount :=
  env.querier.bankBalance env.self a.config.quoteDenom

/-- The stablecoin of the account. -/
def stablecoinBalance (a : Account) (env : Env) : Except Fault Amount :=
  Ledger.askBalance env.querier a.config.ledger env.self

/-- All that the account holds now. -/
def valuation (a : Account) (env : Env) : Except Fault Valuation := do
  let assetValue ← a.assetValue env
  let stablecoinBalance ← a.stablecoinBalance env
  let targetPrice ← Ledger.askTargetPrice env.querier a.config.ledger
  return { assetValue, quoteBalance := a.quoteBalance env, stablecoinBalance, targetPrice }

/-! ## The fee -/

/-- The fee at a time: what is on record, and what has accrued on the debt since. -/
def Position.feeAt (p : Position) (spreadFee : Ratio) (now : Seconds) :
    Except Fault Amount := do
  let pending ← annualFee p.borrowed spreadFee.toNat (now.toNat - p.checkpoint.toNat)
  (p.accruedFee.checkedAdd pending).mapError Fault.overflow

/-- Puts the fee on record up to a time. This comes before every change of debt or rate. -/
def Position.checkpointAt (p : Position) (spreadFee : Ratio) (now : Seconds) :
    Except Fault Position := do
  return { p with accruedFee := ← p.feeAt spreadFee now, checkpoint := now }

/-- The value of the investment, where it is stated, follows the money that goes in and out. -/
def adjustStated (value : Option Amount) (invested divested : Amount) : Option Amount :=
  value.map fun v => (v.saturatingAdd invested).saturatingSub divested

/-- The position after money went to the backend or came from it. -/
def Position.adjust (p : Position) (invested divested : Amount) : Position :=
  { p with statedValue := adjustStated p.statedValue invested divested }

/-! ## Conditions -/

/-- The sender is the borrower. -/
def requireBorrower (a : Account) (sender : Address) : Except Error Unit :=
  require (sender = a.config.borrower) .onlyBorrower

/-- The account is not paused. -/
def requireActive (a : Account) : Except Error Unit :=
  require (¬ a.position.paused) .paused

/-! ## Actions -/

/-- A message to the ledger. -/
def tellLedger (a : Account) (message : Json) : Action :=
  .execute a.config.ledger message []

/-- A message to the backend. -/
def tellBackend (a : Account) (message : Backend.Message) (funds : List Coin) : Action :=
  .execute a.config.backend message.toJson funds

/-- An amount of quote currency as coins. -/
def quoteCoins (a : Account) (amount : Amount) : List Coin :=
  [⟨a.config.quoteDenom, amount⟩]

end Stablecoin.Account
