import Stablecoin.Ledger.Message
import Stablecoin.Ledger.Price

set_option autoImplicit false

/-! # Questions to a ledger -/

namespace Stablecoin.Ledger

/-- The length of a page of minters unless another is asked for. -/
def defaultPage : Nat := 32

/-- The greatest length of a page of minters. -/
def maxPage : Nat := 64

/-- A page of the registry. -/
def minterPage (l : Ledger) (offset limit : Option Nat) : List Address :=
  (l.registry.drop (offset.getD 0)).take (min (limit.getD defaultPage) maxPage)

/-- A balance as JSON. -/
def balanceAnswer (balance : Amount) : Json :=
  .obj [("balance", .amount balance)]

/-- Reads a balance, whatever else stands beside it. -/
def balanceAnswer? (j : Json) : Option Amount := do
  let r ← (← j.shallow?).openFields?
  Json.required r "balance" Json.amount?

@[simp] theorem balanceAnswer?_balanceAnswer (balance : Amount) :
    balanceAnswer? (balanceAnswer balance) = some balance :=
  Json.then_of_read (Json.shallow?_of_depth rfl) <| Json.then_of_read rfl <|
    Json.required_of_lookup rfl (Json.amount?_amount _)

/-- An allowance as JSON. Allowances do not run out with time. -/
def allowanceAnswer (allowance : Amount) : Json :=
  .obj [("allowance", .amount allowance), ("expires", .tagged "never" [])]

/-- Answers a query. -/
def query (l : Ledger) (env : Env) : Query → Except Fault Json
  | .config => .ok l.config.toJson
  | .tokenInfo => .ok l.token.toJson
  | .balance address => do
    return balanceAnswer (l.balances.get (← Address.validate address))
  | .allowance owner spender => do
    let owner ← Address.validate owner
    let spender ← Address.validate spender
    return allowanceAnswer (l.allowances.get (owner, spender))
  | .minter minter => do
    return (l.minter (← Address.validate minter)).toJson
  | .minters offset limit => .ok (.texts (l.minterPage offset limit))
  | .isValidMinter minter => do
    let m := l.minter (← Address.validate minter)
    return .bool (m.listed && m.enabled)
  | .targetPrice => do return .amount (← l.config.targetPrice env.now)
  | .marketPrice => do return .amount (← l.config.marketPrice env)
  | .isMintAllowed => do return .bool (← l.config.mintAllowed env)
  | .quoteValue amount => do
    return .amount (← Stablecoin.quoteValue amount (← l.config.targetPrice env.now))
  | .stablecoinAmount amount => do
    return .amount (← Stablecoin.stablecoinAmount amount (← l.config.targetPrice env.now))

/-- Answers a query where no ledger is set up yet. -/
def queryVacant (allowances : Allowances) : Query → Except Fault Json
  | .balance address => do
    let _ ← Address.validate address
    return balanceAnswer 0
  | .allowance owner spender => do
    let owner ← Address.validate owner
    let spender ← Address.validate spender
    return allowanceAnswer (allowances.get (owner, spender))
  | .minter minter => do
    let _ ← Address.validate minter
    return Minter.unknown.toJson
  | .isValidMinter minter => do
    let _ ← Address.validate minter
    return .bool false
  | _ => .error .missing

end Stablecoin.Ledger
