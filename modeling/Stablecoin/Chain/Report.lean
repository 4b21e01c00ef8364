import Stablecoin.Chain.Collaborator
import Stablecoin.Json.Printer

set_option autoImplicit false

/-! # What a step changed

The state of a contract is shown in sections, each a JSON value under a name. A report lists the
balances and the sections that differ between two states of a chain. -/

namespace Stablecoin

/-! ## Objects in order -/

/-- An object with its fields in the order of their keys. -/
def Json.sorted (fields : List (String × Json)) : Json :=
  .obj (fields.mergeSort fun a b => decide (a.1 ≤ b.1))

/-- Holdings as an object; who has nothing is left out. -/
def Holdings.toJson (h : Holdings Address) : Json :=
  .sorted (h.nonzero.map fun e => (e.1, .amount e.2))

/-- What is held under pairs of keys, as objects by first key inside which the second key stands.
    Who has nothing is left out. -/
def Holdings.toNested (h : Holdings (String × String)) : List (String × Json) :=
  let owners := (h.nonzero.map fun e => e.1.1).eraseDups
  owners.map fun owner =>
    (owner, .sorted ((h.nonzero.filter fun e => e.1.1 = owner).map
      fun e => (e.1.2, .amount e.2)))

/-! ## Sections -/

/-- The sections of a ledger. -/
def Ledger.sections (l : Ledger) : List (String × Json) :=
  [("config", l.config.toJson),
    ("token_info", l.token.toJson),
    ("minters", .texts l.registry),
    ("minter_info", .sorted (l.minters.toList.map fun e => (e.1, e.2.toJson))),
    ("balances", l.balances.toJson),
    ("allowances", .sorted l.allowances.toNested),
    ("ownership_transfer", .option .str l.nominee),
    ("version", Ledger.version.toJson)]

/-- The sections of a ledger that is not set up. -/
def Ledger.vacantSections (allowances : Ledger.Allowances) : List (String × Json) :=
  [("config", .null),
    ("token_info", .null),
    ("minters", .null),
    ("minter_info", .obj []),
    ("balances", .obj []),
    ("allowances", .sorted allowances.toNested),
    ("ownership_transfer", .null),
    ("version", .null)]

/-- The sections of an account. -/
def Account.sections (a : Account) : List (String × Json) :=
  [("config", a.config.toJson),
    ("risk_config", a.risk.toJson),
    ("position", a.position.toJson),
    ("swap", .option PendingSwap.toJson a.swap),
    ("divest", .option PendingDivest.toJson a.divest),
    ("version", Account.version.toJson)]

/-- The sections of an account that is not set up. -/
def Account.vacantSections : List (String × Json) :=
  ["config", "risk_config", "position", "swap", "divest", "version"].map fun name => (name, .null)

/-- The sections of a policy. -/
def Policy.sections (p : Policy) : List (String × Json) :=
  [("config", p.configJson),
    ("listed", .texts (p.listed.mergeSort fun a b => decide (a ≤ b))),
    ("version", Policy.version.toJson)]

/-- The sections of a policy that is not set up. -/
def Policy.vacantSections : List (String × Json) :=
  [("config", .null), ("listed", .arr []), ("version", .null)]

/-- The sections of a collaborator. Only a backend has a state that shows. -/
def Collaborator.sections : Collaborator → List (String × Json)
  | .backend _ _ deposits => [("deposits", deposits.toJson)]
  | _ => []

/-- The sections of a contract. -/
def Contract.sections : Contract Collaborator → List (String × Json)
  | .ledger l => l.sections
  | .vacantLedger allowances => Ledger.vacantSections allowances
  | .account a => a.sections
  | .vacantAccount => Account.vacantSections
  | .policy p => p.sections
  | .vacantPolicy => Policy.vacantSections
  | .outside s => s.sections

/-! ## Differences -/

namespace Chain

/-- The fields that an earlier list did not hold with the same values. What only the earlier list
    holds is not a change. -/
def changedFields (before after : List (String × Json)) : List (String × Json) :=
  after.filter fun f => (Table.lookup f.1 before).map Json.print ≠ some f.2.print

/-- The accounts at the bank that changed, each whole. -/
def changedBalances (before after : Chain Collaborator) : List (String × Json) :=
  let old := before.bank.toNested
  let new := after.bank.toNested
  let holders := ((old ++ new).map Prod.fst).eraseDups
  holders.filterMap fun a =>
    let now := (Table.lookup a new).getD (.obj [])
    if ((Table.lookup a old).getD (.obj [])).print = now.print then none else some (a, now)

/-- The contracts with sections that changed, and these sections. -/
def changedContracts (before after : Chain Collaborator) : List (String × Json) :=
  after.contracts.toList.filterMap fun (a, k) =>
    let changed := match before.contract? a with
      | some old => changedFields old.sections k.sections
      | none => k.sections
    if changed.isEmpty then none else some ("contract:" ++ a, .obj changed)

/-- All that changed between two states of a chain. -/
def changes (before after : Chain Collaborator) : List (String × Json) :=
  let balances := changedBalances before after
  (if balances.isEmpty then [] else [("bank", .obj balances)]) ++ changedContracts before after

end Chain

end Stablecoin
