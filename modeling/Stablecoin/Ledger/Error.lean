import Stablecoin.FixedPoint

set_option autoImplicit false

/-! # Why a ledger refuses -/

namespace Stablecoin.Ledger

/-- The causes for which a ledger refuses a message. -/
inductive Error where
  | fault (f : Fault)
  /-- A balance, an allowance, a minted amount or the supply would not be an amount. -/
  | overflow (o : Overflow)
  | unauthorized
  | notGovernance
  | notOwnerOrBalancer
  | zeroAddress
  | zeroAmount
  | minterExists
  | invalidMinter
  | mintCapReached
  | maxAmountBelowMinted (minted : Amount)
  | burnExceedsMinted
  | mintNotAllowed
  | transferNotAllowed
  | paused
  | notEnoughBalance
  | insufficientAllowance
  | invalidRatio (ratio : Ratio)

/-- The wording of an error. -/
def Error.message : Error → Option String
  | .fault f => f.message
  | .overflow o => some o.message
  | .unauthorized => some "Unauthorized"
  | .notGovernance => some "Info.sender is not the governance multisig"
  | .notOwnerOrBalancer => some "Info.sender is neither the governance multisig nor the balancer"
  | .zeroAddress => some "Zero address detected"
  | .zeroAmount => some "Zero amount detected"
  | .minterExists => some "Minter already exists"
  | .invalidMinter => some "Invalid minter"
  | .mintCapReached => some "Mint cap reached"
  | .maxAmountBelowMinted minted =>
    some ("Max amount can't be below the amount already minted: " ++ minted.toText)
  | .burnExceedsMinted => some "Burn amount exceeds the minter's minted amount"
  | .mintNotAllowed =>
    some "Minting is blocked while the market price is below the target band"
  | .transferNotAllowed => some "Transfer not allowed"
  | .paused => some "Ledger is paused"
  | .notEnoughBalance => some "Not enough balance"
  | .insufficientAllowance => some "Insufficient allowance"
  | .invalidRatio ratio =>
    some ("Ratio must be within [0, 1_000_000]: " ++ Decimal.write ratio.toNat)

instance : MonadLift (Except Fault) (Except Error) := ⟨Except.mapError .fault⟩

@[simp] theorem monadLift_eq_ok_iff {α : Type} {x : Except Fault α} {a : α} :
    (monadLift x : Except Error α) = .ok a ↔ x = .ok a :=
  mapError_eq_ok_iff

@[simp] theorem monadLift_eq_error_iff {α : Type} {x : Except Fault α} {e : Error} :
    (monadLift x : Except Error α) = .error e ↔ ∃ f, x = .error f ∧ .fault f = e :=
  mapError_eq_error_iff

/-- The address that a message names. A blank one is told apart from those the chain rejects. -/
def validAddress (text : String) : Except Error Address := do
  require (¬ Text.isBlank text) .zeroAddress
  Address.validate text

end Stablecoin.Ledger
