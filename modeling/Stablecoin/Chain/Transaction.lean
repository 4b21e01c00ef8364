import Stablecoin.Chain.Basic

set_option autoImplicit false

/-! # Transactions

A transaction enters one contract and then carries out, in order and each to its end, the actions
that come back; when an action is done whose sender wants to hear of it, the sender is entered
again before the next action. What is still to do is a list of calls, the next one first: each call
that is carried out puts its own calls in front. A failure anywhere fails the transaction, which
then leaves no trace in the chain. -/

namespace Stablecoin.Chain

variable {σ : Type}

/-- Something that the chain has to carry out. -/
inductive Call where
  | execute (sender contract : Address) (message : Json) (funds : List Coin)
  | reply (contract : Address) (id : Nat)
  | send (sender recipient : Address) (coins : List Coin)

/-- How a contract was entered. -/
inductive Entry where
  | setUp
  | execute
  | reply

/-- The record of one entry into a contract. -/
structure Record where
  contract : Address
  entry : Entry
  response : Response

/-- An action of a contract as a call. -/
def Call.ofAction (self : Address) : Action → Call
  | .execute contract message funds => .execute self contract message funds
  | .send recipient coins => .send self recipient coins

/-- What has to be carried out for an action: the action, and the reply to it if one is wanted. -/
def Call.ofOutgoing (self : Address) (o : Outgoing) : List Call :=
  Call.ofAction self o.action :: match o.replyId with
    | some id => [.reply self id]
    | none => []

/-- What has to be carried out after an entry. -/
def Record.calls (r : Record) : List Call :=
  r.response.outgoing.flatMap (Call.ofOutgoing r.contract)

/-- Enters the contract at an address. -/
def enter (c : Chain σ) (a : Address) (entry : Entry)
    (run : Contract σ → Except Contract.Error (Contract σ × Response)) :
    Except Error (Chain σ × Record) :=
  match c.contract? a with
  | none => .error (.noSuchContract a)
  | some k => do
    let (k, response) ← (run k).mapError (Error.contract a)
    return (c.put a k, { contract := a, entry, response })

/-- Sends a message to a contract with funds, and runs the contract. -/
def execute [Outside σ] (c : Chain σ) (sender a : Address) (message : Json) (funds : List Coin) :
    Except Error (Chain σ × Record) := do
  require (c.contract? a).isSome (.noSuchContract a)
  let c ← c.payAll sender a funds
  c.enter a .execute fun k => k.execute (c.env a) sender funds message

/-- Tells a contract that an action is done. -/
def reply [Outside σ] (c : Chain σ) (a : Address) (id : Nat) : Except Error (Chain σ × Record) := do
  require (c.contract? a).isSome (.noListener a)
  c.enter a .reply fun k => k.reply (c.env a) id

/-- Puts a contract at an address and sets it up. -/
def setUp [Outside σ] (c : Chain σ) (a : Address) (k : Contract σ) (sender : Address)
    (message : Json) : Except Error (Chain σ × Record) :=
  let c := c.put a k
  c.enter a .setUp fun k => k.setUp (c.env a) sender message

/-- Carries out one call: the chain after it, the record of the entry if it entered a contract, and
    the calls that follow from it. -/
def perform [Outside σ] (c : Chain σ) : Call → Except Error (Chain σ × List Record × List Call)
  | .execute sender a message funds => do
    let (c, r) ← c.execute sender a message funds
    return (c, [r], r.calls)
  | .reply a id => do
    let (c, r) ← c.reply a id
    return (c, [r], r.calls)
  | .send sender recipient coins => do
    let c ← c.payAll sender recipient coins
    return (c, [], [])

/-- Carries out calls and all that follows from them, within a limit on the number of calls. -/
def run [Outside σ] : Nat → Chain σ → List Call → Except Error (Chain σ × List Record)
  | _, c, [] => .ok (c, [])
  | 0, _, _ :: _ => .error .exhausted
  | limit + 1, c, call :: rest => do
    let (c, records, next) ← c.perform call
    let (c, later) ← run limit c (next ++ rest)
    return (c, records ++ later)

/-- How many calls a transaction may take. -/
def callLimit : Nat := 100000

/-- A transaction: an entry into a contract and all that follows from it. -/
def transact [Outside σ] (c : Chain σ) (call : Call) : Except Error (Chain σ × List Record) :=
  run callLimit c [call]

end Stablecoin.Chain
