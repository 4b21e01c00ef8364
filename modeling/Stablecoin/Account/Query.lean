import Stablecoin.Account.Message
import Stablecoin.Account.Valuation

set_option autoImplicit false

/-! # Questions to an account -/

namespace Stablecoin.Account

/-- The equity ratio under the debt of the account. -/
def currentEquityRatio (a : Account) (env : Env) : Except Fault Ratio := do
  (← a.valuation env).equityRatio a.position.borrowed

/-- The debt and the fee on it. -/
def totalDebt (a : Account) (env : Env) : Except Fault Amount := do
  let fee ← a.position.feeAt a.risk.spreadFee env.now
  (a.position.borrowed.checkedAdd fee).mapError Fault.overflow

/-- The debt, the value and the state of the account together. -/
def positionAnswer (a : Account) (env : Env) : Except Fault Json := do
  let v ← a.valuation env
  let ratio ← v.equityRatio a.position.borrowed
  let fee ← a.position.feeAt a.risk.spreadFee env.now
  let value ← v.currentValue
  return .obj [
    ("sweep_borrowed", .amount a.position.borrowed),
    ("accrued_fee", .amount fee),
    ("asset_value", .amount v.assetValue),
    ("current_value", .amount value),
    ("equity_ratio", .word32 ratio),
    ("is_defaulted", .bool (isDefaulted ratio a.risk.minEquityRatio)),
    ("paused", .bool a.position.paused)]

/-- Answers a query. -/
def query (a : Account) (env : Env) : Query → Except Fault Json
  | .config => .ok a.config.toJson
  | .riskConfig => .ok a.risk.toJson
  | .position => a.positionAnswer env
  | .equityRatio => do return .word32 (← a.currentEquityRatio env)
  | .isDefaulted => do
    return .bool (isDefaulted (← a.currentEquityRatio env) a.risk.minEquityRatio)
  | .assetValue => do return .amount (← a.valuation env).assetValue
  | .currentValue => do return .amount (← (← a.valuation env).currentValue)
  | .debt => do return .amount (← a.totalDebt env)

end Stablecoin.Account
