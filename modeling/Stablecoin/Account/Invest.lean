import Stablecoin.Account.Debt

set_option autoImplicit false

/-! # Investing and swapping

Quote currency goes to the backend and comes back; stablecoin and quote currency are swapped at
the venue. A swap is checked when it is done: the account writes down its balance before
(`PendingSwap`), and hears from the chain when the venue has paid. -/

namespace Stablecoin.Account

/-- The number under which an account hears that a swap is done. -/
def swapReply : Nat := 1

/-- The number under which an account hears that a divestment is done. -/
def divestReply : Nat := 2

/-! ## Actions -/

/-- Sends quote currency to the backend. -/
def investAction (a : Account) (amount : Amount) : Action :=
  a.tellBackend .invest (a.quoteCoins amount)

/-- Takes quote currency from the backend. -/
def divestAction (a : Account) (amount : Amount) : Action :=
  a.tellBackend (.divest amount) []

/-- Sends stablecoin to the venue to be sold. -/
def sellAction (a : Account) (amount minAmountOut : Amount) : Action :=
  a.tellLedger (Ledger.sendJson a.config.venue amount (Venue.sellPayload minAmountOut))

/-- Sends quote currency to the venue to buy stablecoin. -/
def buyAction (a : Account) (amount minAmountOut : Amount) : Action :=
  .execute a.config.venue (Venue.swapJson minAmountOut) (a.quoteCoins amount)

/-! ## Messages of the borrower -/

/-- Invests quote currency. Stablecoin is sold for what is short of it, at the target price less
    the slippage at worst. -/
def invest (a : Account) (env : Env) (sender : Address) (amount : Amount) (slippage : Ratio) :
    Except Error (Account × Response) := do
  a.requireBorrower sender
  a.requireActive
  requireRatio slippage
  require (amount ≠ 0) .zeroAmount
  let v ← a.valuation env
  let attributes := [("method", "invest"), ("amount", amount.toText),
    ("slippage", Describe.word32 slippage)]
  if amount ≤ v.quoteBalance then
    return ({ a with position := a.position.adjust amount 0 },
      { attributes, outgoing := [{ action := a.investAction amount }] })
  let shortfall ← amount.minus v.quoteBalance
  let sold ← stablecoinAmount shortfall v.targetPrice
  require (sold ≤ v.stablecoinBalance) .notEnoughBalance
  let minAmountOut ← applyRatio shortfall (← complement slippage)
  let swap : PendingSwap :=
    { assetOut := .quote, balanceBefore := v.quoteBalance, minAmountOut,
      afterSwap := .invest amount }
  return ({ a with swap := some swap }, {
    attributes := attributes ++ [("sweep_sold", sold.toText)]
    outgoing := [{ action := a.sellAction sold minAmountOut, replyId := some swapReply }] })

/-- Takes quote currency from the backend, and buys stablecoin with it if a slippage is given. -/
def divestFrom (a : Account) (env : Env) (sender : Address) (amount : Amount)
    (slippage : Option Ratio) : Except Error (Account × Response) := do
  a.requireBorrower sender
  require (amount ≠ 0) .zeroAmount
  let v ← a.valuation env
  require (amount ≤ v.assetValue) .notEnoughBalance
  let a := { a with position := a.position.adjust 0 amount }
  let attributes := [("method", "divest"), ("amount", amount.toText)]
  match slippage with
  | some slippage =>
    requireRatio slippage
    return ({ a with divest := some { quoteBefore := v.quoteBalance, slippage } }, {
      attributes := attributes ++ [("slippage", Describe.word32 slippage)]
      outgoing := [{ action := a.divestAction amount, replyId := some divestReply }] })
  | none => return (a, { attributes, outgoing := [{ action := a.divestAction amount }] })

/-- Sells stablecoin for at least so much quote currency. -/
def sell (a : Account) (env : Env) (sender : Address) (amount minAmountOut : Amount) :
    Except Error (Account × Response) := do
  a.requireBorrower sender
  a.requireActive
  require (amount ≠ 0) .zeroAmount
  let v ← a.valuation env
  require (amount ≤ v.stablecoinBalance) .notEnoughBalance
  let swap : PendingSwap :=
    { assetOut := .quote, balanceBefore := v.quoteBalance, minAmountOut, afterSwap := .hold }
  return ({ a with swap := some swap }, {
    attributes := [("method", "sell_sweep_on_amm"), ("amount", amount.toText),
      ("min_amount_out", minAmountOut.toText)]
    outgoing := [{ action := a.sellAction amount minAmountOut, replyId := some swapReply }] })

/-- Buys at least so much stablecoin for quote currency. -/
def buy (a : Account) (env : Env) (sender : Address) (amount minAmountOut : Amount) :
    Except Error (Account × Response) := do
  a.requireBorrower sender
  a.requireActive
  require (amount ≠ 0) .zeroAmount
  let v ← a.valuation env
  require (amount ≤ v.quoteBalance) .notEnoughBalance
  let swap : PendingSwap :=
    { assetOut := .stablecoin, balanceBefore := v.stablecoinBalance, minAmountOut,
      afterSwap := .hold }
  return ({ a with swap := some swap }, {
    attributes := [("method", "buy_sweep_on_amm"), ("amount", amount.toText),
      ("min_amount_out", minAmountOut.toText)]
    outgoing := [{ action := a.buyAction amount minAmountOut, replyId := some swapReply }] })

/-- Sends the rewards of the backend to the borrower. -/
def collect (a : Account) (sender : Address) : Except Error (Account × Response) := do
  a.requireBorrower sender
  return (a, {
    attributes := [("method", "collect"), ("recipient", a.config.borrower)]
    outgoing := [{ action := a.tellBackend (.collect a.config.borrower) [] }] })

/-! ## The balancer -/

/-- Borrows, sells what is borrowed, at the target price less the slippage at worst, and invests
    the proceeds. Only the balancer of the ledger may do this, and only within bounds that the
    borrower set. -/
def autoInvest (a : Account) (env : Env) (sender : Address) (amount : Amount) (slippage : Ratio) :
    Except Error (Account × Response) := do
  let ledger ← Ledger.askConfig env.querier a.config.ledger
  require (some sender = ledger.balancer) .notBalancer
  a.requireActive
  requireRatio slippage
  require a.risk.autoInvestEnabled .autoInvestDisabled
  require (a.risk.autoInvestMinAmount ≤ amount) .autoInvestMinAmount
  let v ← a.valuation env
  let ratio ← v.equityRatio a.position.borrowed
  require (a.risk.autoInvestMinEquityRatio ≤ ratio) .autoInvestMinRatio
  let (a, mint) ← a.increaseDebt env amount
  let value ← quoteValue amount v.targetPrice
  let minAmountOut ← applyRatio value (← complement slippage)
  let swap : PendingSwap :=
    { assetOut := .quote, balanceBefore := v.quoteBalance, minAmountOut,
      afterSwap := .investReceived }
  return ({ a with swap := some swap }, {
    attributes := [("method", "auto_invest"), ("amount", amount.toText),
      ("sweep_borrowed", a.position.borrowed.toText)]
    outgoing := [{ action := mint },
      { action := a.sellAction amount minAmountOut, replyId := some swapReply }] })

end Stablecoin.Account
