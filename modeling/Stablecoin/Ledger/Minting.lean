import Stablecoin.Ledger.Transfer

set_option autoImplicit false

/-! # Minting and burning

A listed and enabled minter may mint up to its cap while the peg gate is open. A listed minter may
burn from its own balance what it has minted, and so makes room under its cap. -/

namespace Stablecoin.Ledger

/-- A minter that is listed, enabled or not. -/
def listedMinter (l : Ledger) (a : Address) : Except Error Minter := do
  require (l.minter a).listed .invalidMinter
  return l.minter a

/-- Writes what is known of a minter. -/
def setMinter (l : Ledger) (a : Address) (m : Minter) : Ledger :=
  { l with minters := l.minters.insert a m }

@[simp] theorem minter_setMinter_self (l : Ledger) (a : Address) (m : Minter) :
    (l.setMinter a m).minter a = m := by
  simp [minter, setMinter]

/-- Raises the supply. -/
def raiseSupply (l : Ledger) (amount : Amount) : Except Error Ledger := do
  let supply ← (l.token.supply.checkedAdd amount).mapError Error.overflow
  return { l with token := { l.token with supply } }

/-- Lowers the supply. -/
def lowerSupply (l : Ledger) (amount : Amount) : Except Error Ledger := do
  let supply ← (l.token.supply.checkedSub amount).mapError Error.overflow
  return { l with token := { l.token with supply } }

/-- Mints to a recipient under the sender's cap. -/
def mint (l : Ledger) (env : Env) (sender : Address) (recipient : String) (amount : Amount) :
    Except Error (Ledger × Response) := do
  let minter := l.minter sender
  require (minter.listed ∧ minter.enabled) .invalidMinter
  require (¬ l.config.paused) .paused
  let recipient ← validAddress recipient
  require (amount ≠ 0) .zeroAmount
  let minted ← (minter.minted.checkedAdd amount).mapError Error.overflow
  require (minted ≤ minter.maxAmount) .mintCapReached
  require ((← l.config.mintAllowed env) = true) .mintNotAllowed
  checkRecipient l.config env recipient
  let l := l.setMinter sender { minter with minted }
  let l ← l.credit recipient amount
  let l ← l.raiseSupply amount
  return (l, { attributes := [("method", "minter_mint"), ("minter", sender),
    ("recipient", recipient), ("amount", amount.toText), ("minted_amount", minted.toText)] })

/-- Burns from the sender's own balance. -/
def burn (l : Ledger) (sender : Address) (amount : Amount) : Except Error (Ledger × Response) := do
  let minter ← l.listedMinter sender
  require (amount ≠ 0) .zeroAmount
  require (amount ≤ minter.minted) .burnExceedsMinted
  let l ← l.debit sender amount
  let l ← l.lowerSupply amount
  let minted ← minter.minted.minus amount
  return (l.setMinter sender { minter with minted },
    { attributes := [("method", "minter_burn_from"), ("minter", sender),
        ("amount", amount.toText), ("minted_amount", minted.toText)] })

end Stablecoin.Ledger
