import Stablecoin.Policy.Message
import Stablecoin.Text.Description

set_option autoImplicit false

/-! # The transfer policy

A policy answers one question: may this address receive? Its owner keeps the list on which the
answer rests, and can hand the policy over; its mode is fixed when it is set up. -/

namespace Stablecoin

/-- A transfer policy that is set up. -/
structure Policy where
  owner : Address
  mode : Policy.Mode
  listed : List Address

namespace Policy

/-- Why a policy refuses a message. -/
inductive Error where
  | fault (f : Fault)
  | unauthorized
  | alreadyListed
  | notListed

/-- The wording of an error. -/
def Error.message : Error → Option String
  | .fault f => f.message
  | .unauthorized => some "Unauthorized"
  | .alreadyListed => some "Address is already listed"
  | .notListed => some "Address is not listed"

instance : MonadLift (Except Fault) (Except Error) := ⟨Except.mapError .fault⟩

@[simp] theorem monadLift_eq_ok_iff {α : Type} {x : Except Fault α} {a : α} :
    (monadLift x : Except Error α) = .ok a ↔ x = .ok a :=
  mapError_eq_ok_iff

@[simp] theorem monadLift_eq_error_iff {α : Type} {x : Except Fault α} {e : Error} :
    (monadLift x : Except Error α) = .error e ↔ ∃ f, x = .error f ∧ .fault f = e :=
  mapError_eq_error_iff

/-- The identity of a policy. -/
def version : Version := ⟨"crates.io:transfer-approver", "0.1.0"⟩

/-- Whether an address may receive. -/
def allows (p : Policy) (a : Address) : Bool :=
  p.mode.allows (decide (a ∈ p.listed))

/-- The owner and the mode as JSON. -/
def configJson (p : Policy) : Json :=
  .obj [("owner", .str p.owner), ("mode", p.mode.toJson)]

/-! ## Entry points -/

/-- Sets up a policy with an empty list. -/
def setUp (sender : Address) (s : Setup) : Except Error (Policy × Response) := do
  let owner ← match s.owner with
    | some owner => Address.validate owner
    | none => pure sender
  return (⟨owner, s.mode, []⟩,
    { attributes := [("method", "instantiate"), ("owner", owner), ("mode", s.mode.describe)] })

/-- Carries out a message of the owner. -/
def execute (p : Policy) (sender : Address) (m : Message) : Except Error (Policy × Response) := do
  require (sender = p.owner) .unauthorized
  match m with
  | .list text =>
    let a ← Address.validate text
    require (a ∉ p.listed) .alreadyListed
    return ({ p with listed := p.listed ++ [a] },
      { attributes := [("method", "list"), ("address", a)] })
  | .unlist text =>
    let a ← Address.validate text
    require (a ∈ p.listed) .notListed
    return ({ p with listed := p.listed.filter (· ≠ a) },
      { attributes := [("method", "unlist"), ("address", a)] })
  | .updateOwner text =>
    let owner ← Address.validate text
    return ({ p with owner }, { attributes := [("method", "update_owner"), ("owner", owner)] })

/-- Answers a query. -/
def query (p : Policy) : Query → Except Fault Json
  | .config => .ok p.configJson
  | .isAllowed text => do return .bool (p.allows (← Address.validate text))
  | .isListed text => do return .bool (decide ((← Address.validate text) ∈ p.listed))

/-- Answers a query where no policy is set up yet: nothing is listed, and there is no mode. -/
def queryVacant : Query → Except Fault Json
  | .isListed text => do
    let _ ← Address.validate text
    return .bool false
  | _ => .error .missing

end Policy

end Stablecoin
