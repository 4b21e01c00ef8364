import Stablecoin.Host

set_option autoImplicit false

/-! # Yield backends

How contracts speak with a backend that invests quote currency for them, and what a backend
understands. -/

namespace Stablecoin.Backend

/-- What a backend can be told to do. -/
inductive Message where
  /-- Invests the attached quote currency. -/
  | invest
  /-- Pays quote currency back to the sender. -/
  | divest (amount : Amount)
  /-- Pays rewards to a recipient. -/
  | collect (recipient : String)

/-- What a backend can be asked: what it holds for an account, in quote currency. -/
inductive Query where
  | assetValue (account : String)
  /-- Counts also what is not invested. -/
  | currentValue (account : String)

/-- A message as JSON. -/
def Message.toJson : Message → Json
  | .invest => .tagged "invest" []
  | .divest amount => .tagged "divest" [("amount", .amount amount)]
  | .collect recipient => .tagged "collect" [("recipient", .str recipient)]

/-- Reads a message. -/
def Message.ofJson? (j : Json) : Option Message := do
  let (tag, body) ← j.variant?
  match tag with
  | "invest" => do
    body.unit?
    return .invest
  | "divest" => do
    let r ← body.fields? ["amount"]
    return .divest (← Json.required r "amount" Json.amount?)
  | "collect" => do
    let r ← body.fields? ["recipient"]
    return .collect (← Json.required r "recipient" Json.str?)
  | _ => none

/-- A query as JSON. -/
def Query.toJson : Query → Json
  | .assetValue account => .tagged "asset_value" [("account", .str account)]
  | .currentValue account => .tagged "current_value" [("account", .str account)]

/-- Reads a query. -/
def Query.ofJson? (j : Json) : Option Query := do
  let (tag, body) ← j.variant?
  match tag with
  | "asset_value" => do
    let r ← body.fields? ["account"]
    return .assetValue (← Json.required r "account" Json.str?)
  | "current_value" => do
    let r ← body.fields? ["account"]
    return .currentValue (← Json.required r "account" Json.str?)
  | _ => none

@[simp] theorem Message.ofJson?_toJson (m : Message) : Message.ofJson? m.toJson = some m := by
  cases m with
  | invest => rfl
  | divest amount =>
    exact Json.then_of_read (Json.variant?_tagged _ _) <|
      Json.then_of_read (Json.fields?_of_keys rfl) <|
      Json.then_of_read (Json.required_of_lookup rfl (Json.amount?_amount _)) rfl
  | collect recipient => rfl

@[simp] theorem Query.ofJson?_toJson (q : Query) : Query.ofJson? q.toJson = some q := by
  cases q <;> rfl

/-- Asks a backend what it holds for an account. -/
def askAssetValue (q : Querier) (backend account : Address) : Except Fault Amount :=
  q.askFor Json.amount? backend (Query.assetValue account).toJson

end Stablecoin.Backend
