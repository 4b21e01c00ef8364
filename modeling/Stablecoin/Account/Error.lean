import Stablecoin.FixedPoint

set_option autoImplicit false

/-! # Why an account refuses -/

namespace Stablecoin.Account

/-- The causes for which an account refuses a message. -/
inductive Error where
  | fault (f : Fault)
  /-- The debt or a payout would not be an amount. -/
  | overflow (o : Overflow)
  | onlyBorrower
  | notGovernance
  | notCollateralAgency
  | notBalancer
  | paused
  | zeroAddress
  | zeroAmount
  | invalidRatio (ratio : Ratio)
  | exceedsMaxBorrow (maxBorrow : Amount)
  | excessRepayment
  | notEnoughBalance
  | equityRatioExceeded
  | notDefaulted
  | slippageExceeded (received minAmountOut : Amount)
  | autoInvestDisabled
  | autoInvestMinAmount
  | autoInvestMinRatio
  | noFeeDue

/-- The wording of an error. -/
def Error.message : Error → Option String
  | .fault f => f.message
  | .overflow o => some o.message
  | .onlyBorrower => some "Info.sender is not the borrower"
  | .notGovernance => some "Info.sender is not the ledger's governance multisig"
  | .notCollateralAgency => some "Info.sender is not the ledger's collateral agency"
  | .notBalancer => some "Info.sender is not the ledger's balancer"
  | .paused => some "Stabilizer is paused"
  | .zeroAddress => some "Zero address detected"
  | .zeroAmount => some "Zero amount detected"
  | .invalidRatio ratio =>
    some ("Ratio must be within [0, 1_000_000]: " ++ Decimal.write ratio.toNat)
  | .exceedsMaxBorrow maxBorrow => some ("Borrow would exceed max borrow: " ++ maxBorrow.toText)
  | .excessRepayment => some "Repayment exceeds outstanding debt"
  | .notEnoughBalance => some "Not enough balance"
  | .equityRatioExceeded => some "Withdrawal would take the equity ratio below its minimum"
  | .notDefaulted => some "Stabilizer is not defaulted"
  | .slippageExceeded received minAmountOut =>
    some ("Swap returned " ++ received.toText ++ ", below the minimum of " ++ minAmountOut.toText)
  | .autoInvestDisabled => some "Auto invest is disabled"
  | .autoInvestMinAmount => some "Auto invest amount is below the minimum"
  | .autoInvestMinRatio => some "Equity ratio is below the auto invest minimum"
  | .noFeeDue => some "No fee to pay"

instance : MonadLift (Except Fault) (Except Error) := ⟨Except.mapError .fault⟩

@[simp] theorem monadLift_eq_ok_iff {α : Type} {x : Except Fault α} {a : α} :
    (monadLift x : Except Error α) = .ok a ↔ x = .ok a :=
  mapError_eq_ok_iff

@[simp] theorem monadLift_eq_error_iff {α : Type} {x : Except Fault α} {e : Error} :
    (monadLift x : Except Error α) = .error e ↔ ∃ f, x = .error f ∧ .fault f = e :=
  mapError_eq_error_iff

/-- The address that a message names. A blank one is told apart from those the chain rejects. -/
def validAddress (text : String) : Except Error Address := do
  require (¬ Text.isBlank text) .zeroAddress
  Address.validate text

/-- A ratio is at most one. -/
def requireRatio (ratio : Ratio) : Except Error Unit :=
  require (ratio.toNat ≤ precision) (.invalidRatio ratio)

end Stablecoin.Account
