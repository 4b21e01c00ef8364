import Stablecoin.Address
import Stablecoin.Amount
import Stablecoin.Check

set_option autoImplicit false

/-! # Faults

The causes of failure that do not belong to one kind of contract: arithmetic, decoding, addresses
and queries. Each contract has causes of its own besides. -/

namespace Stablecoin

/-- A time, or a length of time, in seconds. -/
abbrev Seconds := UInt64

/-- A failure that any contract can meet. -/
inductive Fault where
  /-- A product is to be divided by zero. -/
  | zeroDenominator
  /-- A quotient does not fit into an amount. -/
  | conversion
  | overflow (o : Overflow)
  /-- A message, a query or an answer is not of the expected form. -/
  | malformed
  /-- A stored record is read that was never written. -/
  | missing
  | invalidReply (id : Nat)
  | invalidAddress (r : Address.Rejection)
  /-- A query went to an address without a contract. -/
  | noContract (a : Address)
  /-- A queried contract failed; the reason is its wording, if it has one. -/
  | queryFailed (reason : Option String)
  /-- An amount left its range, or a ratio was above one, where the rules promise otherwise. -/
  | outOfRange
deriving DecidableEq

/-- The wording of a fault; some have none. -/
def Fault.message : Fault → Option String
  | .zeroDenominator => some "Generic error: mul_div: zero denominator"
  | .conversion => some "Conversion error: "
  | .overflow o => some ("Overflow: " ++ o.message)
  | .malformed => none
  | .missing => none
  | .invalidReply id => some ("Generic error: invalid reply id: " ++ Decimal.write id)
  | .invalidAddress r => some r.message
  | .noContract a => some ("Generic error: Querier system error: No such contract: " ++ a)
  | .queryFailed reason =>
    some ("Generic error: Querier contract error: " ++ reason.getD "query failed")
  | .outOfRange => none

/-- The address that a message names, if the chain accepts it. -/
def Address.validate (text : String) : Except Fault Address :=
  (Address.check text).mapError .invalidAddress

/-- A value that a decoder found, or the fault that it found none. -/
def orMalformed {α : Type} : Option α → Except Fault α
  | some a => .ok a
  | none => .error .malformed

/-- A record that was written, or the fault that it was not. -/
def orMissing {α : Type} : Option α → Except Fault α
  | some a => .ok a
  | none => .error .missing

@[simp] theorem orMalformed_eq_ok_iff {α : Type} {x : Option α} {a : α} :
    orMalformed x = .ok a ↔ x = some a := by
  cases x <;> simp [orMalformed]

@[simp] theorem orMissing_eq_ok_iff {α : Type} {x : Option α} {a : α} :
    orMissing x = .ok a ↔ x = some a := by
  cases x <;> simp [orMissing]

end Stablecoin
