import Stablecoin.Account.Liquidation
import Stablecoin.Account.Message
import Stablecoin.Account.Reply

set_option autoImplicit false

/-! # The account as a contract

How an account is set up, how the ledger's roles govern it, and what it does with each message. -/

namespace Stablecoin.Account

/-- All ratios among the risk parameters are at most one. -/
def RiskConfig.check (r : RiskConfig) : Except Error Unit := do
  requireRatio r.minEquityRatio
  requireRatio r.spreadFee
  requireRatio r.liquidatorDiscount
  requireRatio r.autoInvestMinEquityRatio

/-- Sets up an account without debt. -/
def setUp (env : Env) (s : Setup) : Except Error (Account × Response) := do
  let ledger ← validAddress s.ledger
  let borrower ← validAddress s.borrower
  let backend ← validAddress s.backend
  let venue ← validAddress s.venue
  let config : Config :=
    { name := s.name, ledger, borrower, backend, venue, quoteDenom := s.quoteDenom }
  let risk := s.risk.getD .zero
  risk.check
  let position : Position :=
    { borrowed := 0, accruedFee := 0, checkpoint := env.now, statedValue := none, paused := false }
  return ({ config, risk, position, swap := none, divest := none },
    { attributes := [("method", "instantiate"), ("config", config.describe),
        ("contract_address", env.self)] })

/-- Replaces the risk parameters. The fee so far is reckoned at the old rate. -/
def configure (a : Account) (env : Env) (sender : Address) (risk : RiskConfig) :
    Except Error (Account × Response) := do
  a.requireBorrower sender
  risk.check
  let position ← a.position.checkpointAt a.risk.spreadFee env.now
  return ({ a with position, risk },
    { attributes := [("method", "configure"), ("risk_config", risk.describe)] })

/-- Takes the value of the investment from the collateral agency of the ledger. -/
def stateValue (a : Account) (env : Env) (sender : Address) (value : Option Amount) :
    Except Error (Account × Response) := do
  let ledger ← Ledger.askConfig env.querier a.config.ledger
  require (sender = ledger.collateralAgency) .notCollateralAgency
  return ({ a with position := { a.position with statedValue := value } },
    { attributes := [("method", "update_value"),
        ("value", Describe.option Describe.amount value)] })

/-- Pauses the account or lets it go on, at the word of the owner of the ledger. -/
def setPaused (a : Account) (env : Env) (sender : Address) (paused : Bool) :
    Except Error (Account × Response) := do
  let ledger ← Ledger.askConfig env.querier a.config.ledger
  require (sender = ledger.owner) .notGovernance
  return ({ a with position := { a.position with paused } },
    { attributes := [("method", if paused then "pause" else "unpause"),
        ("paused", Describe.bool paused)] })

/-- Carries out a message. -/
def execute (a : Account) (env : Env) (sender : Address) :
    Message → Except Error (Account × Response)
  | .configure risk => a.configure env sender risk
  | .borrow amount => a.borrow env sender amount
  | .repay amount => a.repay env sender amount
  | .payFee => a.payFee env sender
  | .invest amount slippage => a.invest env sender amount slippage
  | .divest amount slippage => a.divestFrom env sender amount slippage
  | .sell amount minAmountOut => a.sell env sender amount minAmountOut
  | .buy amount minAmountOut => a.buy env sender amount minAmountOut
  | .collect => a.collect sender
  | .withdraw asset amount => a.withdraw env sender asset amount
  | .autoInvest amount slippage => a.autoInvest env sender amount slippage
  | .stateValue value => a.stateValue env sender value
  | .pause => a.setPaused env sender true
  | .unpause => a.setPaused env sender false
  | .liquidate => a.liquidate env sender

end Stablecoin.Account
