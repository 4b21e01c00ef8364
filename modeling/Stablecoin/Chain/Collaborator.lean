import Stablecoin.Chain.Transaction

set_option autoImplicit false

/-! # Collaborators

Simple contracts from outside that ledgers, accounts and policies can be tried out with: one that
gives fixed answers, a venue that swaps at a fixed price, and a backend that keeps deposits. -/

namespace Stablecoin

/-- A contract from outside with simple behaviour. -/
inductive Collaborator where
  /-- Answers each query with the value under the name of the query. -/
  | stub (answers : List (String × Json))
  /-- Swaps the stablecoin of a ledger and a currency of the bank at a fixed price. -/
  | venue (ledger : Address) (denom : String) (price : Amount)
  /-- Keeps deposits in a currency of the bank, and pays them back at a ratio in millionths. -/
  | backend (denom : String) (payoutRatio : Amount) (deposits : Holdings Address)

namespace Collaborator

/-- How much of a currency comes with a message: the first coin of that currency counts, and any
    other is kept without being credited. -/
def attached (denom : String) (funds : List Coin) : Amount :=
  ((funds.find? fun coin => coin.denom = denom).map Coin.amount).getD 0

/-- A response with one action and without attributes. -/
def acting (action : Action) : Response :=
  { attributes := [], outgoing := [{ action }] }

/-- What a backend pays as a reward. -/
def reward : Coin := ⟨"ureward", ⟨1000, by decide⟩⟩

/-- Carries out an order or a notice of a venue. -/
def trade (ledger : Address) (denom : String) (price : Amount) (sender : Address)
    (funds : List Coin) : Venue.Message → Except Fault Response
  | .swap _ => do
    let bought ← stablecoinAmount (attached denom funds) price
    return acting (.execute ledger (Ledger.transferJson sender bought) [])
  | .receive seller amount _ => do
    let paid ← quoteValue amount price
    return acting (.send seller [⟨denom, paid⟩])

/-- Carries out a message to a backend. -/
def keep (denom : String) (payoutRatio : Amount) (deposits : Holdings Address) (sender : Address)
    (funds : List Coin) : Backend.Message → Except Fault (Holdings Address × Response)
  | .invest => do
    let deposit ← ((deposits.get sender).checkedAdd (attached denom funds)).mapError Fault.overflow
    return (deposits.set sender deposit, { attributes := [] })
  | .divest amount => do
    let deposit ← ((deposits.get sender).checkedSub amount).mapError Fault.overflow
    let paid ← quoteValue amount payoutRatio
    return (deposits.set sender deposit, acting (.send sender [⟨denom, paid⟩]))
  | .collect recipient => return (deposits, acting (.send recipient [reward]))

/-- Carries out a message. -/
def execute (c : Collaborator) (sender : Address) (funds : List Coin) (message : Json) :
    Except Fault (Collaborator × Response) :=
  match c with
  | .stub answers => .ok (.stub answers, { attributes := [] })
  | .venue ledger denom price => do
    let m ← orMalformed (Venue.Message.ofJson? message)
    return (c, ← trade ledger denom price sender funds m)
  | .backend denom payoutRatio deposits => do
    let m ← orMalformed (Backend.Message.ofJson? message)
    let (deposits, response) ← keep denom payoutRatio deposits sender funds m
    return (.backend denom payoutRatio deposits, response)

/-- The name under which a query is known: the key of its first field, and no text at all for a
    query without fields. -/
def queryName : Json → String
  | .obj ((name, _) :: _) => name
  | _ => ""

/-- Answers a query. -/
def query : Collaborator → Json → Except Outside.Error Json
  | .stub answers, q =>
    match Table.lookup (queryName q) answers with
    | some answer => .ok answer
    | none => .error (.noAnswer (queryName q))
  | .venue _ _ price, q =>
    if Venue.isPriceQuery q then .ok (Venue.priceAnswer price) else .error (.fault .malformed)
  | .backend _ _ deposits, q =>
    match Backend.Query.ofJson? q with
    | some (.assetValue account) | some (.currentValue account) =>
      .ok (.amount (deposits.get account))
    | none => .error (.fault .malformed)

/-- Collaborators listen to no reply, and see nothing of the chain. -/
instance : Outside Collaborator where
  execute c _ sender funds message := (c.execute sender funds message).mapError .fault
  reply _ _ _ := none
  query c _ q := c.query q

end Collaborator

end Stablecoin
