import Stablecoin.FixedPoint
import Stablecoin.Holdings
import Stablecoin.Host
import Stablecoin.Text.Description

set_option autoImplicit false

/-! # The stablecoin ledger

The ledger keeps the balances of the stablecoin, what holders allow others to spend, and the
minters, each with a cap. Its governance sets the roles and the target price. -/

namespace Stablecoin

/-- Roles and parameters of a ledger. -/
structure Ledger.Config where
  owner : Address
  treasury : Address
  balancer : Option Address
  collateralAgency : Address
  /-- The swap venue whose price is the market price. -/
  venue : Option Address
  /-- The policy that is asked before anyone receives stablecoin. -/
  policy : Option Address
  paused : Bool
  /-- How far the market price may lie below the target before minting stops, in millionths. -/
  arbSpread : Ratio
  currentPrice : Amount
  nextPrice : Amount
  periodStart : Seconds
  /-- The length of a target price crawl. -/
  periodLength : Seconds
  interestRate : Int64
  stepValue : Ratio

/-- The name and the size of the stablecoin. -/
structure Ledger.Token where
  name : String
  symbol : String
  decimals : UInt8
  supply : Amount

/-- What the ledger knows of a minter. -/
structure Ledger.Minter where
  maxAmount : Amount
  minted : Amount
  listed : Bool
  enabled : Bool

/-- What each owner allows each spender to take, by owner and spender. -/
abbrev Ledger.Allowances := Holdings (Address × Address)

/-- A ledger that is set up. -/
structure Ledger where
  config : Ledger.Config
  token : Ledger.Token
  /-- The listed minters. -/
  registry : List Address
  /-- Everyone who was ever a minter. -/
  minters : Table Address Ledger.Minter
  balances : Holdings Address
  allowances : Ledger.Allowances
  /-- Who may accept the ownership. -/
  nominee : Option Address

namespace Ledger

/-- The identity of a ledger. -/
def version : Version := ⟨"crates.io:sweep-coin", "0.1.0"⟩

/-- What is known of an address that never was a minter. -/
def Minter.unknown : Minter := ⟨0, 0, false, false⟩

/-- What is known of an address as a minter. -/
def minter (l : Ledger) (a : Address) : Minter :=
  (l.minters.find? a).getD .unknown

/-! ## The configuration as JSON and as text -/

/-- The fields of the configuration as JSON. -/
def Config.fields (c : Config) : List (String × Json) :=
  [ ("owner", .str c.owner),
    ("treasury", .str c.treasury),
    ("balancer", .option .str c.balancer),
    ("collateral_agency", .str c.collateralAgency),
    ("amm", .option .str c.venue),
    ("transfer_approver", .option .str c.policy),
    ("paused", .bool c.paused),
    ("arb_spread", .word32 c.arbSpread),
    ("current_target_price", .amount c.currentPrice),
    ("next_target_price", .amount c.nextPrice),
    ("period_start", .word64 c.periodStart),
    ("period_time", .word64 c.periodLength),
    ("interest_rate", .signed64 c.interestRate),
    ("step_value", .word32 c.stepValue)]

/-- The configuration as JSON. -/
def Config.toJson (c : Config) : Json := .obj c.fields

/-- Reads a configuration. -/
def Config.ofJson? (j : Json) : Option Config := do
  let r ← j.fields? ["owner", "treasury", "balancer", "collateral_agency", "amm",
    "transfer_approver", "paused", "arb_spread", "current_target_price", "next_target_price",
    "period_start", "period_time", "interest_rate", "step_value"]
  return {
    owner := ← Json.required r "owner" Json.str?
    treasury := ← Json.required r "treasury" Json.str?
    balancer := ← Json.optional r "balancer" Json.str?
    collateralAgency := ← Json.required r "collateral_agency" Json.str?
    venue := ← Json.optional r "amm" Json.str?
    policy := ← Json.optional r "transfer_approver" Json.str?
    paused := ← Json.required r "paused" Json.bool?
    arbSpread := ← Json.required r "arb_spread" Json.word32?
    currentPrice := ← Json.required r "current_target_price" Json.amount?
    nextPrice := ← Json.required r "next_target_price" Json.amount?
    periodStart := ← Json.required r "period_start" Json.word64?
    periodLength := ← Json.required r "period_time" Json.word64?
    interestRate := ← Json.required r "interest_rate" Json.signed64?
    stepValue := ← Json.required r "step_value" Json.word32? }

/-- A configuration that is written as JSON reads back. -/
@[simp] theorem Config.ofJson?_toJson (c : Config) : Config.ofJson? c.toJson = some c := by
  have keys : Json.fields? ["owner", "treasury", "balancer", "collateral_agency", "amm",
      "transfer_approver", "paused", "arb_spread", "current_target_price", "next_target_price",
      "period_start", "period_time", "interest_rate", "step_value"] c.toJson = some c.fields :=
    Json.fields?_of_keys rfl
  have owner : Json.required c.fields "owner" Json.str? = some c.owner :=
    Json.required_of_lookup rfl rfl
  have treasury : Json.required c.fields "treasury" Json.str? = some c.treasury :=
    Json.required_of_lookup rfl rfl
  have balancer : Json.optional c.fields "balancer" Json.str? = some c.balancer :=
    Json.optional_of_lookup rfl
  have agency : Json.required c.fields "collateral_agency" Json.str? = some c.collateralAgency :=
    Json.required_of_lookup rfl rfl
  have venue : Json.optional c.fields "amm" Json.str? = some c.venue :=
    Json.optional_of_lookup rfl
  have policy : Json.optional c.fields "transfer_approver" Json.str? = some c.policy :=
    Json.optional_of_lookup rfl
  have paused : Json.required c.fields "paused" Json.bool? = some c.paused :=
    Json.required_of_lookup rfl rfl
  have spread : Json.required c.fields "arb_spread" Json.word32? = some c.arbSpread :=
    Json.required_of_lookup rfl (Json.word32?_word32 _)
  have current : Json.required c.fields "current_target_price" Json.amount? = some c.currentPrice :=
    Json.required_of_lookup rfl (Json.amount?_amount _)
  have next : Json.required c.fields "next_target_price" Json.amount? = some c.nextPrice :=
    Json.required_of_lookup rfl (Json.amount?_amount _)
  have start : Json.required c.fields "period_start" Json.word64? = some c.periodStart :=
    Json.required_of_lookup rfl (Json.word64?_word64 _)
  have length : Json.required c.fields "period_time" Json.word64? = some c.periodLength :=
    Json.required_of_lookup rfl (Json.word64?_word64 _)
  have rate : Json.required c.fields "interest_rate" Json.signed64? = some c.interestRate :=
    Json.required_of_lookup rfl (Json.signed64?_signed64 _)
  have step : Json.required c.fields "step_value" Json.word32? = some c.stepValue :=
    Json.required_of_lookup rfl (Json.word32?_word32 _)
  exact Json.then_of_read keys <| Json.then_of_read owner <| Json.then_of_read treasury <|
    Json.then_of_read balancer <| Json.then_of_read agency <| Json.then_of_read venue <|
    Json.then_of_read policy <| Json.then_of_read paused <| Json.then_of_read spread <|
    Json.then_of_read current <| Json.then_of_read next <| Json.then_of_read start <|
    Json.then_of_read length <| Json.then_of_read rate <| Json.then_of_read step rfl

/-- The configuration in an attribute. -/
def Config.describe (c : Config) : String :=
  Describe.record "Config" [
    ("owner", Describe.address c.owner),
    ("treasury", Describe.address c.treasury),
    ("balancer", Describe.option Describe.address c.balancer),
    ("collateral_agency", Describe.address c.collateralAgency),
    ("amm", Describe.option Describe.address c.venue),
    ("transfer_approver", Describe.option Describe.address c.policy),
    ("paused", Describe.bool c.paused),
    ("arb_spread", Describe.word32 c.arbSpread),
    ("current_target_price", Describe.amount c.currentPrice),
    ("next_target_price", Describe.amount c.nextPrice),
    ("period_start", Describe.word64 c.periodStart),
    ("period_time", Describe.word64 c.periodLength),
    ("interest_rate", Describe.signed64 c.interestRate),
    ("step_value", Describe.word32 c.stepValue)]

/-- The token as JSON. -/
def Token.toJson (t : Token) : Json :=
  .obj [("name", .str t.name), ("symbol", .str t.symbol), ("decimals", .word8 t.decimals),
    ("total_supply", .amount t.supply)]

/-- A minter as JSON. -/
def Minter.toJson (m : Minter) : Json :=
  .obj [("max_amount", .amount m.maxAmount), ("minted_amount", .amount m.minted),
    ("is_listed", .bool m.listed), ("is_enabled", .bool m.enabled)]

end Ledger

end Stablecoin
