import Stablecoin.Chain.Report

set_option autoImplicit false

/-! # Scripts

A script is a row of steps on a chain with collaborators. A step that fails leaves the chain as it
was, and the script goes on. -/

namespace Stablecoin

/-- A step of a script. -/
inductive Step where
  /-- Puts a contract at an address. -/
  | deploy (address : Address) (contract : Contract Collaborator)
  /-- Puts a contract at an address and sets it up. -/
  | setUp (address : Address) (contract : Contract Collaborator) (sender : Address) (message : Json)
  /-- A whole transaction. -/
  | transact (call : Chain.Call)
  /-- Only the first entry of a transaction; the actions that come back are not carried out. -/
  | execute (sender address : Address) (message : Json) (funds : List Coin)
  /-- Only the first entry after a reply. -/
  | reply (address : Address) (id : Nat)
  | query (address : Address) (query : Json)
  | advance (seconds : Seconds)
  | setTime (seconds : Seconds)
  | setBalance (address : Address) (denom : String) (amount : Amount)
  /-- Sets what a backend keeps for an account. -/
  | setDeposit (backend account : Address) (amount : Amount)

namespace Step

/-- What a step yields. -/
inductive Result where
  | done
  | records (rs : List Chain.Record)
  | answer (value : Json)

/-- The chain after one entry, and its record. -/
def single (x : Except Chain.Error (Chain Collaborator × Chain.Record)) :
    Except Chain.Error (Chain Collaborator × Result) :=
  x.map fun r => (r.1, .records [r.2])

/-- Takes a step. -/
def run (c : Chain Collaborator) : Step → Except Chain.Error (Chain Collaborator × Result)
  | .deploy a k => .ok (c.put a k, .done)
  | .setUp a k sender message => single (c.setUp a k sender message)
  | .transact call => (c.transact call).map fun r => (r.1, .records r.2)
  | .execute sender a message funds => single (c.execute sender a message funds)
  | .reply a id => single (c.reply a id)
  | .query a q => (c.query a q).map fun answer => (c, .answer answer)
  | .advance seconds => .ok ({ c with now := c.now + seconds }, .done)
  | .setTime seconds => .ok ({ c with now := seconds }, .done)
  | .setBalance a denom amount => .ok (c.setBalance a denom amount, .done)
  | .setDeposit backend account amount =>
    match c.contract? backend with
    | some (.outside (.backend denom payoutRatio deposits)) =>
      .ok (c.put backend (.outside (.backend denom payoutRatio (deposits.set account amount))),
        .done)
    | _ => .ok (c, .done)

end Step

/-- What a script shows of a step: its result and what it changed, or why it failed. -/
abbrev Outcome := Except Chain.Error (Step.Result × List (String × Json))

/-- Takes the steps one after the other. -/
def runScript (c : Chain Collaborator) : List Step → List Outcome
  | [] => []
  | s :: rest =>
    match s.run c with
    | .ok (c', result) => .ok (result, Chain.changes c c') :: runScript c' rest
    | .error e => .error e :: runScript c rest

end Stablecoin
