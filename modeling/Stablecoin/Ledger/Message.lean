import Stablecoin.Ledger.Basic
import Stablecoin.Text.Base64

set_option autoImplicit false

/-! # Messages and queries of a ledger -/

namespace Stablecoin.Ledger

/-- How a ledger is set up. -/
structure Setup where
  name : String
  symbol : String
  decimals : UInt8
  /-- The sender if absent. -/
  owner : Option String
  /-- Both anchors of the target price; one whole if absent. -/
  targetPrice : Option Amount
  arbSpread : Ratio
  /-- A week if absent. -/
  periodLength : Option Seconds
  venue : Option String
  /-- The owner if absent. -/
  treasury : Option String
  balancer : Option String
  /-- The owner if absent. -/
  collateralAgency : Option String
  policy : Option String

/-- What a ledger can be told to do. -/
inductive Message where
  | transfer (recipient : String) (amount : Amount)
  /-- Takes from an owner's balance what the owner allowed the sender. -/
  | transferFrom (owner recipient : String) (amount : Amount)
  /-- A transfer to a contract, which is then told of it. -/
  | send (contract : String) (amount : Amount) (payload : List UInt8)
  | increaseAllowance (spender : String) (amount : Amount)
  | decreaseAllowance (spender : String) (amount : Amount)
  | mint (recipient : String) (amount : Amount)
  /-- Burns from the minter's own balance. -/
  | burn (amount : Amount)
  | addMinter (minter : String) (maxAmount : Amount)
  | removeMinter (minter : String)
  | setMinterMaxAmount (minter : String) (maxAmount : Amount)
  | setMinterEnabled (minter : String) (enabled : Bool)
  | setPolicy (policy : Option String)
  | setTreasury (treasury : String)
  | setBalancer (balancer : String)
  | setCollateralAgency (agency : String)
  | setVenue (venue : String)
  | pause
  | unpause
  | setPeriodLength (length : Seconds)
  | setStepValue (step : Ratio)
  | startPeriod
  | setArbSpread (spread : Ratio)
  | setInterestRate (rate : Int64)
  | setTargetPrice (current next : Amount)
  | nominateOwner (owner : String)
  | acceptOwnership

/-- What a ledger can be asked. -/
inductive Query where
  | config
  | tokenInfo
  | balance (address : String)
  | allowance (owner spender : String)
  | minter (minter : String)
  | minters (offset limit : Option Nat)
  | isValidMinter (minter : String)
  | targetPrice
  | marketPrice
  | isMintAllowed
  | quoteValue (amount : Amount)
  | stablecoinAmount (amount : Amount)

/-! ## Bytes in messages -/

/-- Bytes as JSON: Base64 text. -/
def binary (bytes : List UInt8) : Json :=
  .str (String.ofList (Base64.write bytes))

/-- Reads bytes. -/
def binary? : Json → Option (List UInt8)
  | .str s => Base64.read? s.toList
  | _ => none

@[simp] theorem binary?_binary (bytes : List UInt8) : binary? (binary bytes) = some bytes := by
  simp [binary?, binary, Base64.read?_write]

/-! ## Reading -/

/-- Reads a setup. -/
def Setup.ofJson? (j : Json) : Option Setup := do
  let r ← j.fields? ["name", "symbol", "decimals", "owner", "target_price", "arb_spread",
    "period_time", "amm", "treasury", "balancer", "collateral_agency", "transfer_approver"]
  return {
    name := ← Json.required r "name" Json.str?
    symbol := ← Json.required r "symbol" Json.str?
    decimals := ← Json.required r "decimals" Json.word8?
    owner := ← Json.optional r "owner" Json.str?
    targetPrice := ← Json.optional r "target_price" Json.amount?
    arbSpread := ← Json.required r "arb_spread" Json.word32?
    periodLength := ← Json.optional r "period_time" Json.word64?
    venue := ← Json.optional r "amm" Json.str?
    treasury := ← Json.optional r "treasury" Json.str?
    balancer := ← Json.optional r "balancer" Json.str?
    collateralAgency := ← Json.optional r "collateral_agency" Json.str?
    policy := ← Json.optional r "transfer_approver" Json.str? }

/-- Reads a message. -/
def Message.ofJson? (j : Json) : Option Message := do
  let (tag, body) ← j.variant?
  match tag with
  | "transfer" => do
    let r ← body.fields? ["recipient", "amount"]
    return .transfer (← Json.required r "recipient" Json.str?)
      (← Json.required r "amount" Json.amount?)
  | "transfer_from" => do
    let r ← body.fields? ["owner", "recipient", "amount"]
    return .transferFrom (← Json.required r "owner" Json.str?)
      (← Json.required r "recipient" Json.str?) (← Json.required r "amount" Json.amount?)
  | "send" => do
    let r ← body.fields? ["contract", "amount", "msg"]
    return .send (← Json.required r "contract" Json.str?)
      (← Json.required r "amount" Json.amount?) (← Json.required r "msg" binary?)
  | "increase_allowance" => do
    let r ← body.fields? ["spender", "amount"]
    return .increaseAllowance (← Json.required r "spender" Json.str?)
      (← Json.required r "amount" Json.amount?)
  | "decrease_allowance" => do
    let r ← body.fields? ["spender", "amount"]
    return .decreaseAllowance (← Json.required r "spender" Json.str?)
      (← Json.required r "amount" Json.amount?)
  | "minter_mint" => do
    let r ← body.fields? ["recipient", "amount"]
    return .mint (← Json.required r "recipient" Json.str?) (← Json.required r "amount" Json.amount?)
  | "minter_burn_from" => do
    let r ← body.fields? ["amount"]
    return .burn (← Json.required r "amount" Json.amount?)
  | "add_minter" => do
    let r ← body.fields? ["minter", "max_amount"]
    return .addMinter (← Json.required r "minter" Json.str?)
      (← Json.required r "max_amount" Json.amount?)
  | "remove_minter" => do
    let r ← body.fields? ["minter"]
    return .removeMinter (← Json.required r "minter" Json.str?)
  | "set_minter_max_amount" => do
    let r ← body.fields? ["minter", "max_amount"]
    return .setMinterMaxAmount (← Json.required r "minter" Json.str?)
      (← Json.required r "max_amount" Json.amount?)
  | "set_minter_enabled" => do
    let r ← body.fields? ["minter", "is_enabled"]
    return .setMinterEnabled (← Json.required r "minter" Json.str?)
      (← Json.required r "is_enabled" Json.bool?)
  | "set_transfer_approver" => do
    let r ← body.fields? ["approver"]
    return .setPolicy (← Json.optional r "approver" Json.str?)
  | "set_treasury" => do
    let r ← body.fields? ["treasury"]
    return .setTreasury (← Json.required r "treasury" Json.str?)
  | "set_balancer" => do
    let r ← body.fields? ["balancer"]
    return .setBalancer (← Json.required r "balancer" Json.str?)
  | "set_collateral_agent" => do
    let r ← body.fields? ["agent"]
    return .setCollateralAgency (← Json.required r "agent" Json.str?)
  | "set_amm" => do
    let r ← body.fields? ["amm"]
    return .setVenue (← Json.required r "amm" Json.str?)
  | "pause" => do
    body.unit?
    return .pause
  | "unpause" => do
    body.unit?
    return .unpause
  | "set_period_time" => do
    let r ← body.fields? ["period_time"]
    return .setPeriodLength (← Json.required r "period_time" Json.word64?)
  | "set_step_value" => do
    let r ← body.fields? ["step_value"]
    return .setStepValue (← Json.required r "step_value" Json.word32?)
  | "start_new_period" => do
    body.unit?
    return .startPeriod
  | "set_arb_spread" => do
    let r ← body.fields? ["arb_spread"]
    return .setArbSpread (← Json.required r "arb_spread" Json.word32?)
  | "set_interest_rate" => do
    let r ← body.fields? ["interest_rate"]
    return .setInterestRate (← Json.required r "interest_rate" Json.signed64?)
  | "set_target_price" => do
    let r ← body.fields? ["current", "next"]
    return .setTargetPrice (← Json.required r "current" Json.amount?)
      (← Json.required r "next" Json.amount?)
  | "transfer_ownership" => do
    let r ← body.fields? ["new_owner"]
    return .nominateOwner (← Json.required r "new_owner" Json.str?)
  | "accept_ownership" => do
    body.unit?
    return .acceptOwnership
  | _ => none

/-- Reads a query. -/
def Query.ofJson? (j : Json) : Option Query := do
  let (tag, body) ← j.variant?
  match tag with
  | "config" => do
    body.unit?
    return .config
  | "token_info" => do
    body.unit?
    return .tokenInfo
  | "balance" => do
    let r ← body.fields? ["address"]
    return .balance (← Json.required r "address" Json.str?)
  | "allowance" => do
    let r ← body.fields? ["owner", "spender"]
    return .allowance (← Json.required r "owner" Json.str?) (← Json.required r "spender" Json.str?)
  | "minter" => do
    let r ← body.fields? ["minter"]
    return .minter (← Json.required r "minter" Json.str?)
  | "minters" => do
    let r ← body.fields? ["offset", "limit"]
    return .minters (← Json.optional r "offset" (Json.natBelow? UInt32.size))
      (← Json.optional r "limit" (Json.natBelow? UInt32.size))
  | "is_valid_minter" => do
    let r ← body.fields? ["minter"]
    return .isValidMinter (← Json.required r "minter" Json.str?)
  | "target_price" => do
    body.unit?
    return .targetPrice
  | "amm_price" => do
    body.unit?
    return .marketPrice
  | "is_mint_allowed" => do
    body.unit?
    return .isMintAllowed
  | "convert_to_usd" => do
    let r ← body.fields? ["amount"]
    return .quoteValue (← Json.required r "amount" Json.amount?)
  | "convert_to_sweep" => do
    let r ← body.fields? ["amount"]
    return .stablecoinAmount (← Json.required r "amount" Json.amount?)
  | _ => none

end Stablecoin.Ledger
