import Stablecoin.FixedPoint
import Stablecoin.Host
import Stablecoin.Text.Description

set_option autoImplicit false

/-! # The collateral account

An account borrows stablecoin from a ledger, on which it is a minter, and holds the assets that
back it: quote currency and stablecoin of its own, and what it has invested with a backend. -/

namespace Stablecoin.Account

/-- Whom an account deals with. It is fixed when the account is set up. -/
structure Config where
  name : String
  ledger : Address
  borrower : Address
  backend : Address
  venue : Address
  /-- The currency of the bank that counts as quote currency. -/
  quoteDenom : String

/-- The risk parameters, which the borrower sets. Ratios are in millionths. -/
structure RiskConfig where
  minEquityRatio : Ratio
  /-- The annual fee on the debt. -/
  spreadFee : Ratio
  maxBorrow : Amount
  liquidatorDiscount : Ratio
  callDelay : Seconds
  autoInvestMinEquityRatio : Ratio
  autoInvestMinAmount : Amount
  autoInvestEnabled : Bool
  metadataUrl : String

/-- The debt and its fee. -/
structure Position where
  /-- The stablecoin owed. -/
  borrowed : Amount
  /-- The fee up to the checkpoint. -/
  accruedFee : Amount
  /-- The time up to which the fee is reckoned. -/
  checkpoint : Seconds
  /-- The value of the investment as the collateral agency states it, if it does. -/
  statedValue : Option Amount
  paused : Bool

/-- The two currencies that an account holds itself. -/
inductive Asset where
  | quote
  | stablecoin
deriving DecidableEq

/-- What becomes of the proceeds of a swap. -/
inductive AfterSwap where
  | hold
  /-- Up to that much of the quote currency is invested. -/
  | invest (amount : Amount)
  /-- All that the swap brought in is invested. -/
  | investReceived

/-- A swap whose outcome is awaited. -/
structure PendingSwap where
  assetOut : Asset
  balanceBefore : Amount
  minAmountOut : Amount
  afterSwap : AfterSwap

/-- A divestment whose proceeds are awaited, to buy stablecoin with them. -/
structure PendingDivest where
  quoteBefore : Amount
  slippage : Ratio

end Account

/-- A collateral account that is set up. -/
structure Account where
  config : Account.Config
  risk : Account.RiskConfig
  position : Account.Position
  swap : Option Account.PendingSwap
  divest : Option Account.PendingDivest

namespace Account

/-- The identity of an account. -/
def version : Version := ⟨"crates.io:stabilizer", "0.1.0"⟩

/-- The risk parameters of an account that is set up without any. -/
def RiskConfig.zero : RiskConfig where
  minEquityRatio := 0
  spreadFee := 0
  maxBorrow := 0
  liquidatorDiscount := 0
  callDelay := 0
  autoInvestMinEquityRatio := 0
  autoInvestMinAmount := 0
  autoInvestEnabled := false
  metadataUrl := ""

/-! ## Records as JSON -/

/-- The configuration as JSON. -/
def Config.toJson (c : Config) : Json :=
  .obj [("name", .str c.name), ("sweep", .str c.ledger), ("borrower", .str c.borrower),
    ("yield_backend", .str c.backend), ("amm", .str c.venue), ("quote_denom", .str c.quoteDenom)]

/-- The risk parameters as JSON. -/
def RiskConfig.toJson (r : RiskConfig) : Json :=
  .obj [
    ("min_equity_ratio", .word32 r.minEquityRatio),
    ("spread_fee", .word32 r.spreadFee),
    ("max_borrow", .amount r.maxBorrow),
    ("liquidator_discount", .word32 r.liquidatorDiscount),
    ("call_delay", .word64 r.callDelay),
    ("auto_invest_min_equity_ratio", .word32 r.autoInvestMinEquityRatio),
    ("auto_invest_min_amount", .amount r.autoInvestMinAmount),
    ("auto_invest_enabled", .bool r.autoInvestEnabled),
    ("metadata_url", .str r.metadataUrl)]

/-- Reads risk parameters. -/
def RiskConfig.ofJson? (j : Json) : Option RiskConfig := do
  let r ← j.fields? ["min_equity_ratio", "spread_fee", "max_borrow", "liquidator_discount",
    "call_delay", "auto_invest_min_equity_ratio", "auto_invest_min_amount", "auto_invest_enabled",
    "metadata_url"]
  return {
    minEquityRatio := ← Json.required r "min_equity_ratio" Json.word32?
    spreadFee := ← Json.required r "spread_fee" Json.word32?
    maxBorrow := ← Json.required r "max_borrow" Json.amount?
    liquidatorDiscount := ← Json.required r "liquidator_discount" Json.word32?
    callDelay := ← Json.required r "call_delay" Json.word64?
    autoInvestMinEquityRatio := ← Json.required r "auto_invest_min_equity_ratio" Json.word32?
    autoInvestMinAmount := ← Json.required r "auto_invest_min_amount" Json.amount?
    autoInvestEnabled := ← Json.required r "auto_invest_enabled" Json.bool?
    metadataUrl := ← Json.required r "metadata_url" Json.str? }

/-- The position as JSON. -/
def Position.toJson (p : Position) : Json :=
  .obj [("sweep_borrowed", .amount p.borrowed), ("accrued_fee", .amount p.accruedFee),
    ("fee_checkpoint", .word64 p.checkpoint),
    ("asset_value_override", .option .amount p.statedValue), ("paused", .bool p.paused)]

/-- A currency as JSON. -/
def Asset.toJson : Asset → Json
  | .quote => .str "quote"
  | .stablecoin => .str "sweep"

/-- Reads a currency. -/
def Asset.ofJson? : Json → Option Asset
  | .str "quote" => some .quote
  | .str "sweep" => some .stablecoin
  | _ => none

/-- What becomes of the proceeds, as JSON. -/
def AfterSwap.toJson : AfterSwap → Json
  | .hold => .str "hold"
  | .invest amount => .tagged "invest" [("amount", .amount amount)]
  | .investReceived => .str "invest_received"

/-- An awaited swap as JSON. -/
def PendingSwap.toJson (s : PendingSwap) : Json :=
  .obj [("asset_out", s.assetOut.toJson), ("balance_before", .amount s.balanceBefore),
    ("min_amount_out", .amount s.minAmountOut), ("after_swap", s.afterSwap.toJson)]

/-- An awaited divestment as JSON. -/
def PendingDivest.toJson (d : PendingDivest) : Json :=
  .obj [("quote_before", .amount d.quoteBefore), ("slippage", .word32 d.slippage)]

/-! ## Records in attributes -/

/-- The configuration in an attribute. -/
def Config.describe (c : Config) : String :=
  Describe.record "Config" [
    ("name", Describe.string c.name),
    ("sweep", Describe.address c.ledger),
    ("borrower", Describe.address c.borrower),
    ("yield_backend", Describe.address c.backend),
    ("amm", Describe.address c.venue),
    ("quote_denom", Describe.string c.quoteDenom)]

/-- The risk parameters in an attribute. -/
def RiskConfig.describe (r : RiskConfig) : String :=
  Describe.record "RiskConfig" [
    ("min_equity_ratio", Describe.word32 r.minEquityRatio),
    ("spread_fee", Describe.word32 r.spreadFee),
    ("max_borrow", Describe.amount r.maxBorrow),
    ("liquidator_discount", Describe.word32 r.liquidatorDiscount),
    ("call_delay", Describe.word64 r.callDelay),
    ("auto_invest_min_equity_ratio", Describe.word32 r.autoInvestMinEquityRatio),
    ("auto_invest_min_amount", Describe.amount r.autoInvestMinAmount),
    ("auto_invest_enabled", Describe.bool r.autoInvestEnabled),
    ("metadata_url", Describe.string r.metadataUrl)]

/-- A currency in an attribute. -/
def Asset.describe : Asset → String
  | .quote => "Quote"
  | .stablecoin => "Sweep"

end Account

end Stablecoin
