import Stablecoin.Account.Invest

set_option autoImplicit false

/-! # When a swap or a divestment is done

The account compares its balance with the one that it wrote down before. -/

namespace Stablecoin.Account

/-- What of a swap's proceeds is to be invested, given the balance after it and what it brought
    in. -/
def AfterSwap.investment (s : AfterSwap) (balance received : Amount) : Option Amount :=
  match s with
  | .hold => none
  | .invest amount => some (min amount balance)
  | .investReceived => some received

/-- The balance of one of the two currencies. -/
def balanceOf (a : Account) (env : Env) : Asset → Except Fault Amount
  | .quote => .ok (a.quoteBalance env)
  | .stablecoin => a.stablecoinBalance env

/-- Checks what the swap brought in, and invests what is to be invested. -/
def swapDone (a : Account) (env : Env) : Except Error (Account × Response) := do
  let swap ← orMissing a.swap
  let a := { a with swap := none }
  let balance ← a.balanceOf env swap.assetOut
  let received := balance.saturatingSub swap.balanceBefore
  require (swap.minAmountOut ≤ received) (.slippageExceeded received swap.minAmountOut)
  let attributes := [("method", "handle_swap_reply"), ("asset_out", swap.assetOut.describe),
    ("received", received.toText)]
  match (swap.afterSwap.investment balance received).filter (· ≠ 0) with
  | some amount =>
    return ({ a with position := a.position.adjust amount 0 }, {
      attributes := attributes ++ [("invested", amount.toText)]
      outgoing := [{ action := a.investAction amount }] })
  | none => return (a, { attributes })

/-- Buys stablecoin with what the backend paid. -/
def divestDone (a : Account) (env : Env) : Except Error (Account × Response) := do
  let divest ← orMissing a.divest
  let a := { a with divest := none }
  let received := (a.quoteBalance env).saturatingSub divest.quoteBefore
  let attributes := [("method", "handle_divest_reply"), ("divested", received.toText)]
  if received = 0 then
    return (a, { attributes })
  let price ← Ledger.askTargetPrice env.querier a.config.ledger
  let fair ← stablecoinAmount received price
  let minAmountOut ← applyRatio fair (← complement divest.slippage)
  let balanceBefore ← a.stablecoinBalance env
  let swap : PendingSwap :=
    { assetOut := .stablecoin, balanceBefore, minAmountOut, afterSwap := .hold }
  return ({ a with swap := some swap }, {
    attributes
    outgoing := [{ action := a.buyAction received minAmountOut, replyId := some swapReply }] })

/-- Hears that an action is done. -/
def reply (a : Account) (env : Env) (id : Nat) : Except Error (Account × Response) :=
  if id = swapReply then a.swapDone env
  else if id = divestReply then a.divestDone env
  else .error (.fault (.invalidReply id))

/-- Hears that an action is done where no account is set up yet. -/
def replyVacant (id : Nat) : Fault :=
  if id = swapReply ∨ id = divestReply then .missing else .invalidReply id

end Stablecoin.Account
