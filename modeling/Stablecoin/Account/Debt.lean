import Stablecoin.Account.Valuation

set_option autoImplicit false

/-! # Debt, fee and withdrawals

The borrower draws stablecoin against the account, pays it back, pays the fee, and takes out what
the minimum equity ratio does not need. -/

namespace Stablecoin.Account

/-- Books new debt, and the mint that pays it out to the account. -/
def increaseDebt (a : Account) (env : Env) (amount : Amount) : Except Error (Account × Action) := do
  require (amount ≠ 0) .zeroAmount
  let borrowed ← (a.position.borrowed.checkedAdd amount).mapError Error.overflow
  require (borrowed ≤ a.risk.maxBorrow) (.exceedsMaxBorrow a.risk.maxBorrow)
  let position ← a.position.checkpointAt a.risk.spreadFee env.now
  return ({ a with position := { position with borrowed } },
    a.tellLedger (Ledger.mintJson env.self amount))

/-- Draws new stablecoin into the account. Whether the account bears it shows later. -/
def borrow (a : Account) (env : Env) (sender : Address) (amount : Amount) :
    Except Error (Account × Response) := do
  a.requireBorrower sender
  a.requireActive
  let (a, mint) ← a.increaseDebt env amount
  return (a, {
    attributes := [("method", "borrow"), ("amount", amount.toText),
      ("sweep_borrowed", a.position.borrowed.toText)]
    outgoing := [{ action := mint }] })

/-- Burns stablecoin of the account against its debt. -/
def repay (a : Account) (env : Env) (sender : Address) (amount : Amount) :
    Except Error (Account × Response) := do
  a.requireBorrower sender
  require (amount ≠ 0) .zeroAmount
  require (amount ≤ a.position.borrowed) .excessRepayment
  let balance ← a.stablecoinBalance env
  require (amount ≤ balance) .notEnoughBalance
  let position ← a.position.checkpointAt a.risk.spreadFee env.now
  let borrowed ← position.borrowed.minus amount
  return ({ a with position := { position with borrowed } }, {
    attributes := [("method", "repay"), ("amount", amount.toText),
      ("sweep_borrowed", borrowed.toText)]
    outgoing := [{ action := a.tellLedger (Ledger.burnJson amount) }] })

/-- Sends the fee that is due to the treasury of the ledger. -/
def payFee (a : Account) (env : Env) (sender : Address) : Except Error (Account × Response) := do
  a.requireBorrower sender
  let fee ← a.position.feeAt a.risk.spreadFee env.now
  require (fee ≠ 0) .noFeeDue
  let balance ← a.stablecoinBalance env
  require (fee ≤ balance) .notEnoughBalance
  let treasury := (← Ledger.askConfig env.querier a.config.ledger).treasury
  let position := { a.position with accruedFee := 0, checkpoint := env.now }
  return ({ a with position }, {
    attributes := [("method", "pay_fee"), ("fee", fee.toText), ("treasury", treasury)]
    outgoing := [{ action := a.tellLedger (Ledger.transferJson treasury fee) }] })

/-- While there is debt, a withdrawal must leave the value at or above the debt, and the equity
    ratio at or above its minimum. -/
def requireSolventAfter (a : Account) (v : Valuation) (withdrawn : Amount) :
    Except Error Unit := do
  if a.position.borrowed = 0 then return
  let value := (← v.currentValue).saturatingSub withdrawn
  let debt ← v.debtValue a.position.borrowed
  require (debt ≤ value) .equityRatioExceeded
  require (a.risk.minEquityRatio ≤ (← equityRatio value debt)) .equityRatioExceeded

/-- Sends currency of the account to the borrower. -/
def withdraw (a : Account) (env : Env) (sender : Address) (asset : Asset) (amount : Amount) :
    Except Error (Account × Response) := do
  a.requireBorrower sender
  a.requireActive
  require (amount ≠ 0) .zeroAmount
  let v ← a.valuation env
  let withdrawn ← v.valueOf asset amount
  require (amount ≤ v.balanceOf asset) .notEnoughBalance
  a.requireSolventAfter v withdrawn
  let action := match asset with
    | .quote => .send a.config.borrower (a.quoteCoins amount)
    | .stablecoin => a.tellLedger (Ledger.transferJson a.config.borrower amount)
  return (a, {
    attributes := [("method", "withdraw"), ("asset", asset.describe), ("amount", amount.toText),
      ("recipient", a.config.borrower)]
    outgoing := [{ action }] })

end Stablecoin.Account
