import Stablecoin.Account.Basic

set_option autoImplicit false

/-! # Messages and queries of an account -/

namespace Stablecoin.Account

/-- How an account is set up. -/
structure Setup where
  name : String
  ledger : String
  borrower : String
  backend : String
  venue : String
  quoteDenom : String
  /-- All zero if absent. -/
  risk : Option RiskConfig

/-- What an account can be told to do. -/
inductive Message where
  | configure (risk : RiskConfig)
  | borrow (amount : Amount)
  | repay (amount : Amount)
  | payFee
  /-- Invests quote currency, and sells stablecoin for what is short of it. -/
  | invest (amount : Amount) (slippage : Ratio)
  /-- Takes quote currency back, and buys stablecoin with it if a slippage is given. -/
  | divest (amount : Amount) (slippage : Option Ratio)
  | sell (amount minAmountOut : Amount)
  | buy (amount minAmountOut : Amount)
  /-- Sends the rewards of the backend to the borrower. -/
  | collect
  | withdraw (asset : Asset) (amount : Amount)
  /-- Borrows, sells and invests the proceeds. -/
  | autoInvest (amount : Amount) (slippage : Ratio)
  /-- States the value of the investment, or leaves it to the backend again. -/
  | stateValue (value : Option Amount)
  | pause
  | unpause
  | liquidate

/-- What an account can be asked. -/
inductive Query where
  | config
  | riskConfig
  | position
  | equityRatio
  | isDefaulted
  | assetValue
  | currentValue
  | debt

/-- Reads a setup. -/
def Setup.ofJson? (j : Json) : Option Setup := do
  let r ← j.fields? ["name", "sweep", "borrower", "yield_backend", "amm", "quote_denom",
    "risk_config"]
  return {
    name := ← Json.required r "name" Json.str?
    ledger := ← Json.required r "sweep" Json.str?
    borrower := ← Json.required r "borrower" Json.str?
    backend := ← Json.required r "yield_backend" Json.str?
    venue := ← Json.required r "amm" Json.str?
    quoteDenom := ← Json.required r "quote_denom" Json.str?
    risk := ← Json.optional r "risk_config" RiskConfig.ofJson? }

/-- Reads a message. -/
def Message.ofJson? (j : Json) : Option Message := do
  let (tag, body) ← j.variant?
  match tag with
  | "configure" => return .configure (← RiskConfig.ofJson? body)
  | "borrow" => do
    let r ← body.fields? ["amount"]
    return .borrow (← Json.required r "amount" Json.amount?)
  | "repay" => do
    let r ← body.fields? ["amount"]
    return .repay (← Json.required r "amount" Json.amount?)
  | "pay_fee" => do
    body.unit?
    return .payFee
  | "invest" => do
    let r ← body.fields? ["amount", "slippage"]
    return .invest (← Json.required r "amount" Json.amount?)
      (← Json.required r "slippage" Json.word32?)
  | "divest" => do
    let r ← body.fields? ["amount", "slippage"]
    return .divest (← Json.required r "amount" Json.amount?)
      (← Json.optional r "slippage" Json.word32?)
  | "sell_sweep_on_amm" => do
    let r ← body.fields? ["amount", "min_amount_out"]
    return .sell (← Json.required r "amount" Json.amount?)
      (← Json.required r "min_amount_out" Json.amount?)
  | "buy_sweep_on_amm" => do
    let r ← body.fields? ["amount", "min_amount_out"]
    return .buy (← Json.required r "amount" Json.amount?)
      (← Json.required r "min_amount_out" Json.amount?)
  | "collect" => do
    body.unit?
    return .collect
  | "withdraw" => do
    let r ← body.fields? ["asset", "amount"]
    return .withdraw (← Json.required r "asset" Asset.ofJson?)
      (← Json.required r "amount" Json.amount?)
  | "auto_invest" => do
    let r ← body.fields? ["amount", "slippage"]
    return .autoInvest (← Json.required r "amount" Json.amount?)
      (← Json.required r "slippage" Json.word32?)
  | "update_value" => do
    let r ← body.fields? ["value"]
    return .stateValue (← Json.optional r "value" Json.amount?)
  | "pause" => do
    body.unit?
    return .pause
  | "unpause" => do
    body.unit?
    return .unpause
  | "liquidate" => do
    body.unit?
    return .liquidate
  | _ => none

/-- Reads a query. No query has fields. -/
def Query.ofJson? (j : Json) : Option Query := do
  let (tag, body) ← j.variant?
  body.unit?
  match tag with
  | "config" => return .config
  | "risk_config" => return .riskConfig
  | "position" => return .position
  | "equity_ratio" => return .equityRatio
  | "is_defaulted" => return .isDefaulted
  | "asset_value" => return .assetValue
  | "current_value" => return .currentValue
  | "debt" => return .debt
  | _ => none

end Stablecoin.Account
