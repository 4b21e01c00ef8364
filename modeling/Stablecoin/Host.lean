import Stablecoin.Fault
import Stablecoin.Json.Decoding

set_option autoImplicit false

/-! # Contracts and their host

What the chain hands to a contract when it runs it (`Env`), and what the contract hands back
besides its new state (`Response`): attributes that report what happened, and actions that the
chain carries out after it. Messages, queries and answers travel as JSON. -/

namespace Stablecoin

/-- An amount of a currency of the bank. -/
structure Coin where
  denom : String
  amount : Amount
deriving DecidableEq

/-- What a contract asks the chain to do. -/
inductive Action where
  /-- Run another contract with a message and some of the sender's funds. -/
  | execute (contract : Address) (message : Json) (funds : List Coin)
  /-- Move coins in the bank. -/
  | send (recipient : Address) (coins : List Coin)

/-- An action, and the number under which its sender wants to hear of its success. -/
structure Outgoing where
  action : Action
  replyId : Option Nat := none

/-- What a contract hands back. -/
structure Response where
  attributes : List (String × String)
  outgoing : List Outgoing := []

/-- How a contract looks at the rest of the chain. -/
structure Querier where
  /-- What the contract at an address answers to a query. -/
  ask : Address → Json → Except Fault Json
  /-- What an address has in the bank. -/
  bankBalance : Address → String → Amount

/-- The answer to a query, decoded. -/
def Querier.askFor {α : Type} (q : Querier) (decode : Json → Option α) (contract : Address)
    (query : Json) : Except Fault α := do
  orMalformed (decode (← q.ask contract query))

/-- What a contract sees when it runs: its own address, the time of the block in seconds, and the
    chain as it is when the contract is entered. -/
structure Env where
  self : Address
  now : Seconds
  querier : Querier

/-- The identity that a contract of this library writes down when it is set up. -/
structure Version where
  contract : String
  version : String

/-- The version record as JSON. -/
def Version.toJson (v : Version) : Json :=
  .obj [("contract", .str v.contract), ("version", .str v.version)]

end Stablecoin
