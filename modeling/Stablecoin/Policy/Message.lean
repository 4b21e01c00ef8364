import Stablecoin.Policy.Mode

set_option autoImplicit false

/-! # Messages and queries of a transfer policy -/

namespace Stablecoin.Policy

/-- How a policy is set up. The owner is the sender unless another is named. -/
structure Setup where
  owner : Option String
  mode : Mode

/-- What the owner of a policy can tell it to do. -/
inductive Message where
  | list (address : String)
  | unlist (address : String)
  | updateOwner (owner : String)

/-- What a policy can be asked. -/
inductive Query where
  | config
  /-- May the address receive? -/
  | isAllowed (address : String)
  | isListed (address : String)

/-- Reads a setup. -/
def Setup.ofJson? (j : Json) : Option Setup := do
  let r ← j.fields? ["owner", "mode"]
  return {
    owner := ← Json.optional r "owner" Json.str?
    mode := ← Json.required r "mode" Mode.ofJson? }

/-- Reads a message. -/
def Message.ofJson? (j : Json) : Option Message := do
  let (tag, body) ← j.variant?
  match tag with
  | "list" => do
    let r ← body.fields? ["address"]
    return .list (← Json.required r "address" Json.str?)
  | "unlist" => do
    let r ← body.fields? ["address"]
    return .unlist (← Json.required r "address" Json.str?)
  | "update_owner" => do
    let r ← body.fields? ["owner"]
    return .updateOwner (← Json.required r "owner" Json.str?)
  | _ => none

/-- A query as JSON. -/
def Query.toJson : Query → Json
  | .config => .tagged "config" []
  | .isAllowed address => .tagged "is_allowed" [("address", .str address)]
  | .isListed address => .tagged "is_listed" [("address", .str address)]

/-- Reads a query. -/
def Query.ofJson? (j : Json) : Option Query := do
  let (tag, body) ← j.variant?
  match tag with
  | "config" => do
    body.unit?
    return .config
  | "is_allowed" => do
    let r ← body.fields? ["address"]
    return .isAllowed (← Json.required r "address" Json.str?)
  | "is_listed" => do
    let r ← body.fields? ["address"]
    return .isListed (← Json.required r "address" Json.str?)
  | _ => none

@[simp] theorem Query.ofJson?_toJson (q : Query) : Query.ofJson? q.toJson = some q := by
  cases q <;> rfl

/-- Asks a policy whether an address may receive. -/
def askAllowed (q : Querier) (policy address : Address) : Except Fault Bool :=
  q.askFor Json.bool? policy (Query.isAllowed address).toJson

end Stablecoin.Policy
