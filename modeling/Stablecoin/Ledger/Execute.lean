import Stablecoin.Ledger.Governance

set_option autoImplicit false

/-! # The ledger as a contract

How a ledger is set up and what it does with each message. -/

namespace Stablecoin.Ledger

/-- One whole: the target price unless another is given. -/
def defaultPrice : Amount := ⟨1000000, by decide⟩

/-- A week: the length of a crawl unless another is given. -/
def defaultPeriodLength : Seconds := 604800

/-- The size of one adjustment of the target price at first. -/
def defaultStepValue : Ratio := 2500

/-- Sets up a ledger without any stablecoin. -/
def setUp (env : Env) (sender : Address) (s : Setup) : Except Error (Ledger × Response) := do
  let owner ← match s.owner with
    | some owner => validAddress owner
    | none => pure sender
  let price := s.targetPrice.getD defaultPrice
  require (price ≠ 0) .zeroAmount
  require (s.arbSpread.toNat ≤ precision) (.invalidRatio s.arbSpread)
  let treasury ← s.treasury.mapM validAddress
  let balancer ← s.balancer.mapM validAddress
  let agency ← s.collateralAgency.mapM validAddress
  let venue ← s.venue.mapM validAddress
  let policy ← s.policy.mapM validAddress
  let config : Config := {
    owner
    treasury := treasury.getD owner
    balancer
    collateralAgency := agency.getD owner
    venue
    policy
    paused := false
    arbSpread := s.arbSpread
    currentPrice := price
    nextPrice := price
    periodStart := env.now
    periodLength := s.periodLength.getD defaultPeriodLength
    interestRate := 0
    stepValue := defaultStepValue }
  let ledger : Ledger := {
    config
    token := { name := s.name, symbol := s.symbol, decimals := s.decimals, supply := 0 }
    registry := []
    minters := .empty
    balances := .empty
    allowances := .empty
    nominee := none }
  return (ledger, { attributes := [("method", "instantiate"), ("config", config.describe),
    ("contract_address", env.self)] })

/-- Carries out a message. -/
def execute (l : Ledger) (env : Env) (sender : Address) : Message → Except Error (Ledger × Response)
  | .transfer recipient amount => l.transfer env sender recipient amount
  | .transferFrom owner recipient amount => l.transferFrom env sender owner recipient amount
  | .send contract amount payload => l.send env sender contract amount payload
  | .increaseAllowance spender amount => l.increaseAllowance sender spender amount
  | .decreaseAllowance spender amount => l.decreaseAllowance sender spender amount
  | .mint recipient amount => l.mint env sender recipient amount
  | .burn amount => l.burn sender amount
  | .addMinter minter maxAmount => l.addMinter sender minter maxAmount
  | .removeMinter minter => l.removeMinter sender minter
  | .setMinterMaxAmount minter maxAmount => l.setMinterMaxAmount sender minter maxAmount
  | .setMinterEnabled minter enabled => l.setMinterEnabled sender minter enabled
  | .setPolicy policy => l.setPolicy sender policy
  | .setTreasury treasury => l.setTreasury sender treasury
  | .setBalancer balancer => l.setBalancer sender balancer
  | .setCollateralAgency agency => l.setCollateralAgency sender agency
  | .setVenue venue => l.setVenue sender venue
  | .pause => l.setPaused sender true
  | .unpause => l.setPaused sender false
  | .setPeriodLength length => l.setPeriodLength sender length
  | .setStepValue step => l.setStepValue sender step
  | .startPeriod => l.startPeriod env sender
  | .setArbSpread spread => l.setArbSpread sender spread
  | .setInterestRate rate => l.setInterestRate sender rate
  | .setTargetPrice current next => l.setTargetPrice sender current next
  | .nominateOwner owner => l.nominateOwner sender owner
  | .acceptOwnership => l.acceptOwnership sender

/-- Carries out a message where no ledger is set up yet. There are allowances already, but no
    minters, no nominee, and no configuration. -/
def executeVacant (allowances : Allowances) (sender : Address) :
    Message → Except Error (Allowances × Response)
  | .increaseAllowance spender amount => allowances.increase sender spender amount
  | .decreaseAllowance spender amount => allowances.decrease sender spender amount
  | .burn _ => .error .invalidMinter
  | .acceptOwnership => .error .unauthorized
  | _ => .error (.fault .missing)

end Stablecoin.Ledger
