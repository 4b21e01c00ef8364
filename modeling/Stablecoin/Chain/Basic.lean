import Stablecoin.Chain.Contract

set_option autoImplicit false

/-! # The chain

Contracts by address, a bank that keeps the balances of all currencies, and the time of the block.
Contracts see one another through queries (`Chain.ask`), which change nothing. -/

namespace Stablecoin

/-- The state of a chain whose contracts from outside have states of type `σ`. -/
structure Chain (σ : Type) where
  /-- The time of the block. -/
  now : Seconds
  contracts : Table Address (Contract σ)
  /-- What each address has of each currency. -/
  bank : Holdings (Address × String)

namespace Chain

variable {σ : Type}

/-- Why a step on the chain fails. -/
inductive Error where
  /-- The contract at an address fails. -/
  | contract (address : Address) (e : Contract.Error)
  | noSuchContract (address : Address)
  /-- A reply is for an address without a contract. -/
  | noListener (address : Address)
  | insufficientFunds (payer : Address) (coin : Coin)
  /-- A transaction entered contracts more often than allowed. -/
  | exhausted

/-- The wording of an error. -/
def Error.message : Error → Option String
  | .contract _ e => e.message
  | .noSuchContract a | .noListener a => some ("no such contract: " ++ a)
  | .insufficientFunds payer coin =>
    some (payer ++ " has less than " ++ coin.amount.toText ++ " " ++ coin.denom)
  | .exhausted => some "out of calls"

/-- A chain without contracts or money. -/
def empty (now : Seconds) : Chain σ :=
  { now, contracts := .empty, bank := .empty }

/-! ## Contracts -/

/-- The contract at an address. -/
def contract? (c : Chain σ) (a : Address) : Option (Contract σ) :=
  c.contracts.find? a

/-- Puts a contract at an address. -/
def put (c : Chain σ) (a : Address) (k : Contract σ) : Chain σ :=
  { c with contracts := c.contracts.insert a k }

@[simp] theorem contract?_put_self (c : Chain σ) (a : Address) (k : Contract σ) :
    (c.put a k).contract? a = some k := by
  simp [contract?, put]

theorem contract?_put_of_ne (c : Chain σ) {a b : Address} (k : Contract σ) (h : a ≠ b) :
    (c.put a k).contract? b = c.contract? b :=
  Table.find?_insert_of_ne _ _ h

@[simp] theorem put_put (c : Chain σ) (b : Address) (k k' : Contract σ) :
    (c.put b k).put b k' = c.put b k' := by
  simp only [put, Table.insert_insert]

/-- The order of writes does not matter where a contract stands already. -/
theorem put_comm (c : Chain σ) {b b' : Address} (k k' : Contract σ) (hb : b ≠ b')
    (stands : c.contract? b ≠ none) : (c.put b k).put b' k' = (c.put b' k').put b k := by
  simp only [put, Table.insert_comm k k' hb stands]

/-! ## Money -/

/-- What an address has of a currency. -/
def balance (c : Chain σ) (a : Address) (denom : String) : Amount :=
  c.bank.get (a, denom)

/-- Sets what an address has of a currency. -/
def setBalance (c : Chain σ) (a : Address) (denom : String) (amount : Amount) : Chain σ :=
  { c with bank := c.bank.set (a, denom) amount }

/-- Moves a coin from one address to another. A balance that cannot take in all of it stays at
    the largest amount. -/
def pay (c : Chain σ) (payer payee : Address) (coin : Coin) : Except Error (Chain σ) := do
  let left ← ((c.balance payer coin.denom).checkedSub coin.amount).mapError
    fun _ => Error.insufficientFunds payer coin
  let c := c.setBalance payer coin.denom left
  return c.setBalance payee coin.denom ((c.balance payee coin.denom).saturatingAdd coin.amount)

/-- Moves coins from one address to another, one after the other. -/
def payAll (c : Chain σ) (payer payee : Address) (coins : List Coin) : Except Error (Chain σ) :=
  coins.foldlM (fun c coin => c.pay payer payee coin) c

/-! ## Queries -/

/-- How deep queries may nest. -/
def queryDepth : Nat := 10

/-- What the contract at an address answers to a query of another contract, with queries nested at
    most so deep. -/
def ask [Outside σ] (c : Chain σ) : Nat → Address → Json → Except Fault Json
  | 0, _, _ => .error (.queryFailed (some "queries are nested too deep"))
  | depth + 1, a, query =>
    match c.contract? a with
    | none => .error (.noContract a)
    | some k =>
      (k.query ⟨a, c.now, ⟨c.ask depth, c.balance⟩⟩ query).mapError fun e => .queryFailed e.message

/-- How a contract looks at the chain. -/
def querier [Outside σ] (c : Chain σ) : Querier :=
  { ask := c.ask queryDepth, bankBalance := c.balance }

/-- What the contract at an address sees when it runs. -/
def env [Outside σ] (c : Chain σ) (a : Address) : Env :=
  { self := a, now := c.now, querier := c.querier }

/-- What the contract at an address answers to a query from outside the chain. -/
def query [Outside σ] (c : Chain σ) (a : Address) (query : Json) : Except Error Json :=
  match c.contract? a with
  | none => .error (.noSuchContract a)
  | some k => (k.query (c.env a) query).mapError (.contract a)

end Chain

end Stablecoin
