import Stablecoin.Account.Execute
import Stablecoin.Account.Query
import Stablecoin.Ledger.Execute
import Stablecoin.Ledger.Client
import Stablecoin.Policy.Basic

set_option autoImplicit false

/-! # Contracts on a chain

What can stand at an address: a ledger, an account or a policy, each set up or still vacant, or a
contract from outside this library. Of a contract from outside nothing is assumed but that it is a
function of its own state and of what it sees (`Outside`); a state may hold any behaviour. -/

namespace Stablecoin

/-- Why a contract from outside fails. -/
inductive Outside.Error where
  | fault (f : Fault)
  /-- It has no answer to a query of that name. -/
  | noAnswer (name : String)

/-- The wording of an error. -/
def Outside.Error.message : Outside.Error → Option String
  | .fault f => f.message
  | .noAnswer name => some ("no answer for " ++ name)

/-- Contracts from outside, with states of type `σ`. -/
class Outside (σ : Type) where
  /-- Carries out a message from a sender who attached funds. -/
  execute : σ → Env → Address → List Coin → Json → Except Outside.Error (σ × Response)
  /-- Hears that an action is done; `none` if the contract never listens. -/
  reply : σ → Env → Nat → Option (Except Outside.Error (σ × Response))
  /-- Answers a query. -/
  query : σ → Env → Json → Except Outside.Error Json

/-- What stands at an address. -/
inductive Contract (σ : Type) where
  | ledger (l : Ledger)
  | vacantLedger (allowances : Ledger.Allowances)
  | account (a : Account)
  | vacantAccount
  | policy (p : Policy)
  | vacantPolicy
  | outside (s : σ)

/-- Why a contract fails. -/
inductive Contract.Error where
  | fault (f : Fault)
  | ledger (e : Ledger.Error)
  | account (e : Account.Error)
  | policy (e : Policy.Error)
  | outside (e : Outside.Error)
  /-- The contract cannot be entered in this way. -/
  | noEntryPoint

namespace Contract

/-- The wording of an error. -/
def Error.message : Error → Option String
  | .fault f => f.message
  | .ledger e => e.message
  | .account e => e.message
  | .policy e => e.message
  | .outside e => e.message
  | .noEntryPoint => some "no such entry point"

instance : MonadLift (Except Fault) (Except Error) := ⟨Except.mapError .fault⟩

@[simp] theorem monadLift_eq_ok_iff {α : Type} {x : Except Fault α} {a : α} :
    (monadLift x : Except Error α) = .ok a ↔ x = .ok a :=
  mapError_eq_ok_iff

@[simp] theorem monadLift_eq_error_iff {α : Type} {x : Except Fault α} {e : Error} :
    (monadLift x : Except Error α) = .error e ↔ ∃ f, x = .error f ∧ .fault f = e :=
  mapError_eq_error_iff

variable {σ : Type}

/-! ## What an entry leaves behind -/

/-- A ledger and its response. -/
def ofLedger (x : Except Ledger.Error (Ledger × Response)) :
    Except Error (Contract σ × Response) :=
  (x.mapError .ledger).map fun r => (.ledger r.1, r.2)

/-- An account and its response. -/
def ofAccount (x : Except Account.Error (Account × Response)) :
    Except Error (Contract σ × Response) :=
  (x.mapError .account).map fun r => (.account r.1, r.2)

/-- A policy and its response. -/
def ofPolicy (x : Except Policy.Error (Policy × Response)) :
    Except Error (Contract σ × Response) :=
  (x.mapError .policy).map fun r => (.policy r.1, r.2)

/-- A contract from outside and its response. -/
def ofOutside (x : Except Outside.Error (σ × Response)) : Except Error (Contract σ × Response) :=
  (x.mapError .outside).map fun r => (.outside r.1, r.2)

/-! ## Entry points -/

/-- Sets up a vacant contract. -/
def setUp (c : Contract σ) (env : Env) (sender : Address) (message : Json) :
    Except Error (Contract σ × Response) :=
  match c with
  | .vacantLedger _ => do
    let s ← orMalformed (Ledger.Setup.ofJson? message)
    ofLedger (Ledger.setUp env sender s)
  | .vacantAccount => do
    let s ← orMalformed (Account.Setup.ofJson? message)
    ofAccount (Account.setUp env s)
  | .vacantPolicy => do
    let s ← orMalformed (Policy.Setup.ofJson? message)
    ofPolicy (Policy.setUp sender s)
  | _ => .error .noEntryPoint

/-- Carries out a message. -/
def execute [Outside σ] (c : Contract σ) (env : Env) (sender : Address) (funds : List Coin)
    (message : Json) : Except Error (Contract σ × Response) :=
  match c with
  | .ledger l => do
    let m ← orMalformed (Ledger.Message.ofJson? message)
    ofLedger (l.execute env sender m)
  | .vacantLedger allowances => do
    let m ← orMalformed (Ledger.Message.ofJson? message)
    ((Ledger.executeVacant allowances sender m).mapError .ledger).map
      fun r => (.vacantLedger r.1, r.2)
  | .account a => do
    let m ← orMalformed (Account.Message.ofJson? message)
    ofAccount (a.execute env sender m)
  | .vacantAccount => do
    let _ ← orMalformed (Account.Message.ofJson? message)
    .error (.fault .missing)
  | .policy p => do
    let m ← orMalformed (Policy.Message.ofJson? message)
    ofPolicy (p.execute sender m)
  | .vacantPolicy => do
    let _ ← orMalformed (Policy.Message.ofJson? message)
    .error (.fault .missing)
  | .outside s => ofOutside (Outside.execute s env sender funds message)

/-- Hears that an action is done. -/
def reply [Outside σ] (c : Contract σ) (env : Env) (id : Nat) :
    Except Error (Contract σ × Response) :=
  match c with
  | .account a => ofAccount (a.reply env id)
  | .vacantAccount => .error (.fault (Account.replyVacant id))
  | .outside s =>
    match Outside.reply s env id with
    | some x => ofOutside x
    | none => .error .noEntryPoint
  | _ => .error .noEntryPoint

/-- Answers a query. -/
def query [Outside σ] (c : Contract σ) (env : Env) (query : Json) : Except Error Json :=
  match c with
  | .ledger l => do
    let q ← orMalformed (Ledger.Query.ofJson? query)
    l.query env q
  | .vacantLedger allowances => do
    let q ← orMalformed (Ledger.Query.ofJson? query)
    Ledger.queryVacant allowances q
  | .account a => do
    let q ← orMalformed (Account.Query.ofJson? query)
    a.query env q
  | .vacantAccount => do
    let _ ← orMalformed (Account.Query.ofJson? query)
    .error (.fault .missing)
  | .policy p => do
    let q ← orMalformed (Policy.Query.ofJson? query)
    p.query q
  | .vacantPolicy => do
    let q ← orMalformed (Policy.Query.ofJson? query)
    Policy.queryVacant q
  | .outside s => (Outside.query s env query).mapError .outside

end Contract

end Stablecoin
