import Stablecoin.Account.Invest

set_option autoImplicit false

/-! # Liquidation

Anyone who covers the debt of a defaulted account is paid its value and a discount on top, as far
as the assets reach: in quote currency first, then from the investment, then in stablecoin. -/

namespace Stablecoin.Account

/-- What a liquidator is paid. -/
structure Payout where
  fromQuote : Amount
  fromBackend : Amount
  /-- From the first two together. -/
  quotePaid : Amount
  stablecoinPaid : Amount

/-- The value a liquidator is entitled to: the debt and the discount on it, at most everything. -/
def entitlement (v : Valuation) (debt : Amount) (discount : Ratio) : Except Fault Amount := do
  let debtValue ← v.debtValue debt
  let discounted ← applyRatio debtValue (min (precision + discount.toNat) (UInt32.size - 1))
  let value ← v.currentValue
  return min discounted value

/-- Pays a value out of quote currency, the investment and stablecoin, in this order. -/
def payout (v : Valuation) (entitled : Amount) : Except Fault Payout := do
  let fromQuote := min entitled v.quoteBalance
  let afterQuote ← entitled.minus fromQuote
  let fromBackend := min afterQuote v.assetValue
  let afterBackend ← afterQuote.minus fromBackend
  let quotePaid ← fromQuote.plus fromBackend
  let stablecoin ← stablecoinAmount afterBackend v.targetPrice
  return { fromQuote, fromBackend, quotePaid, stablecoinPaid := min stablecoin v.stablecoinBalance }

/-- The actions that settle a liquidation: the debt is pulled in and burned, then each part of the
    payout that is not zero is paid. -/
def settlement (a : Account) (self liquidator : Address) (debt : Amount) (p : Payout) :
    List Action :=
  [a.tellLedger (Ledger.transferFromJson liquidator self debt),
    a.tellLedger (Ledger.burnJson debt)]
    ++ (if p.fromBackend = 0 then [] else [a.divestAction p.fromBackend])
    ++ (if p.quotePaid = 0 then [] else [.send liquidator (a.quoteCoins p.quotePaid)])
    ++ (if p.stablecoinPaid = 0 then []
        else [a.tellLedger (Ledger.transferJson liquidator p.stablecoinPaid)])

/-- Closes a defaulted account. The fee is forfeited with the debt. -/
def liquidate (a : Account) (env : Env) (sender : Address) : Except Error (Account × Response) := do
  let v ← a.valuation env
  let debt := a.position.borrowed
  let ratio ← v.equityRatio debt
  require (debt ≠ 0 ∧ isDefaulted ratio a.risk.minEquityRatio) .notDefaulted
  let entitled ← entitlement v debt a.risk.liquidatorDiscount
  let p ← payout v entitled
  let stablecoinValue ← quoteValue p.stablecoinPaid v.targetPrice
  let paidValue ← (stablecoinValue.checkedAdd p.quotePaid).mapError Error.overflow
  let position := { a.position.adjust 0 p.fromBackend with
    borrowed := 0, accruedFee := 0, checkpoint := env.now }
  return ({ a with position }, {
    attributes := [("method", "liquidate"), ("liquidator", sender), ("debt", debt.toText),
      ("equity_ratio", Describe.word32 ratio), ("quote_paid", p.quotePaid.toText),
      ("sweep_paid", p.stablecoinPaid.toText), ("payout_value", paidValue.toText)]
    outgoing := (a.settlement env.self sender debt p).map fun action => { action } })

end Stablecoin.Account
