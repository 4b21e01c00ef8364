import Stablecoin.Ledger.Error
import Stablecoin.Ledger.Price
import Stablecoin.Policy.Message

set_option autoImplicit false

/-! # Moving stablecoin

Every movement lowers one balance and raises another; the recipient has to be acceptable to the
transfer policy, and the ledger must not be paused. -/

namespace Stablecoin.Ledger

/-! ## Single entries -/

/-- Raises a balance. -/
def credit (l : Ledger) (a : Address) (amount : Amount) : Except Error Ledger := do
  let balance ← ((l.balances.get a).checkedAdd amount).mapError Error.overflow
  return { l with balances := l.balances.set a balance }

/-- Lowers a balance. -/
def debit (l : Ledger) (a : Address) (amount : Amount) : Except Error Ledger := do
  let balance ← ((l.balances.get a).checkedSub amount).mapError fun _ => Error.notEnoughBalance
  return { l with balances := l.balances.set a balance }

/-- Lowers what an owner allows a spender to take. -/
def useAllowance (l : Ledger) (owner spender : Address) (amount : Amount) :
    Except Error Ledger := do
  let left ← ((l.allowances.get (owner, spender)).checkedSub amount).mapError
    fun _ => Error.insufficientAllowance
  return { l with allowances := l.allowances.set (owner, spender) left }

/-! ## Conditions -/

/-- The transfer policy, if there is one, admits the recipient. -/
def checkRecipient (c : Config) (env : Env) (recipient : Address) : Except Error Unit :=
  match c.policy with
  | none => .ok ()
  | some policy => do
    require ((← Policy.askAllowed env.querier policy recipient) = true) .transferNotAllowed

/-- Who may receive depends on what the policy answers. -/
theorem checkRecipient_congr {c : Config} {env env' : Env} {recipient : Address}
    (admission : ∀ policy ∈ c.policy, Policy.askAllowed env'.querier policy recipient
      = Policy.askAllowed env.querier policy recipient) :
    checkRecipient c env' recipient = checkRecipient c env recipient := by
  unfold checkRecipient
  split
  · rfl
  · rename_i policy hpolicy
    rw [admission policy hpolicy]

/-- Stablecoin may move to the recipient. -/
def checkMovement (c : Config) (env : Env) (recipient : Address) : Except Error Unit := do
  require (¬ c.paused) .paused
  checkRecipient c env recipient

/-! ## Messages of holders -/

/-- Moves stablecoin from the sender to a recipient. -/
def transfer (l : Ledger) (env : Env) (sender : Address) (recipient : String) (amount : Amount) :
    Except Error (Ledger × Response) := do
  let recipient ← validAddress recipient
  require (amount ≠ 0) .zeroAmount
  checkMovement l.config env recipient
  let l ← l.debit sender amount
  let l ← l.credit recipient amount
  return (l, { attributes := [("method", "transfer"), ("from", sender), ("to", recipient),
    ("amount", amount.toText)] })

/-- Moves stablecoin that its owner allows the sender to take. -/
def transferFrom (l : Ledger) (env : Env) (sender : Address) (owner recipient : String)
    (amount : Amount) : Except Error (Ledger × Response) := do
  let owner ← validAddress owner
  let recipient ← validAddress recipient
  require (amount ≠ 0) .zeroAmount
  checkMovement l.config env recipient
  let l ← l.useAllowance owner sender amount
  let l ← l.debit owner amount
  let l ← l.credit recipient amount
  return (l, { attributes := [("method", "transfer_from"), ("from", owner), ("to", recipient),
    ("by", sender), ("amount", amount.toText)] })

/-- Moves stablecoin from the sender to a contract and then tells the contract. -/
def send (l : Ledger) (env : Env) (sender : Address) (contract : String) (amount : Amount)
    (payload : List UInt8) : Except Error (Ledger × Response) := do
  let contract ← validAddress contract
  require (amount ≠ 0) .zeroAmount
  checkMovement l.config env contract
  let l ← l.debit sender amount
  let l ← l.credit contract amount
  return (l, {
    attributes := [("method", "send"), ("from", sender), ("to", contract),
      ("amount", amount.toText)]
    outgoing := [{ action := .execute contract (Venue.receiveJson sender amount payload) [] }] })

/-! ## Allowances -/

namespace Allowances

/-- Changes what the sender allows a spender to take. Nobody has an allowance on themselves. -/
def change (as : Allowances) (sender : Address) (spender : String) (method : String)
    (update : Amount → Except Error Amount) : Except Error (Allowances × Response) := do
  let spender ← validAddress spender
  require (spender ≠ sender) .unauthorized
  let allowance ← update (as.get (sender, spender))
  return (as.set (sender, spender) allowance,
    { attributes := [("method", method), ("owner", sender), ("spender", spender),
        ("allowance", allowance.toText)] })

/-- Raises an allowance. -/
def increase (as : Allowances) (sender : Address) (spender : String) (amount : Amount) :
    Except Error (Allowances × Response) :=
  as.change sender spender "increase_allowance" fun a => (a.checkedAdd amount).mapError .overflow

/-- Lowers an allowance, to nothing at the least. -/
def decrease (as : Allowances) (sender : Address) (spender : String) (amount : Amount) :
    Except Error (Allowances × Response) :=
  as.change sender spender "decrease_allowance" fun a => .ok (a.saturatingSub amount)

end Allowances

/-- Raises what the sender allows a spender to take. -/
def increaseAllowance (l : Ledger) (sender : Address) (spender : String) (amount : Amount) :
    Except Error (Ledger × Response) := do
  let (allowances, response) ← l.allowances.increase sender spender amount
  return ({ l with allowances }, response)

/-- Lowers what the sender allows a spender to take. -/
def decreaseAllowance (l : Ledger) (sender : Address) (spender : String) (amount : Amount) :
    Except Error (Ledger × Response) := do
  let (allowances, response) ← l.allowances.decrease sender spender amount
  return ({ l with allowances }, response)

end Stablecoin.Ledger
