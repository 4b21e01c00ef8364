import Stablecoin.Ledger.Minting

set_option autoImplicit false

/-! # Governance of a ledger

The owner keeps the registry of minters and sets roles and parameters; the balancer may set prices
and rates besides. A new owner has to accept. -/

namespace Stablecoin.Ledger

/-! ## Who may -/

/-- The sender is the owner. -/
def requireOwner (l : Ledger) (sender : Address) : Except Error Unit :=
  require (sender = l.config.owner) .notGovernance

/-- The sender is the owner or the balancer. -/
def requireOwnerOrBalancer (l : Ledger) (sender : Address) : Except Error Unit :=
  require (sender = l.config.owner ∨ some sender = l.config.balancer) .notOwnerOrBalancer

/-! ## Minters -/

/-- Removes an entry of the registry; the last entry takes its place. -/
def swapRemove (a : Address) (registry : List Address) : List Address :=
  match registry.getLast? with
  | none => []
  | some last => if a ∈ registry then registry.dropLast.replace a last else registry

/-- Lists a minter with a cap. One that was removed starts afresh. -/
def addMinter (l : Ledger) (sender : Address) (minter : String) (maxAmount : Amount) :
    Except Error (Ledger × Response) := do
  l.requireOwner sender
  let a ← validAddress minter
  require (maxAmount ≠ 0) .zeroAmount
  require (¬ (l.minter a).listed) .minterExists
  let l := l.setMinter a { maxAmount, minted := 0, listed := true, enabled := true }
  return ({ l with registry := l.registry ++ [a] },
    { attributes := [("method", "add_minter"), ("minter", a), ("max_amount", maxAmount.toText)] })

/-- Takes a minter off the registry. What it has minted stays on record. -/
def removeMinter (l : Ledger) (sender : Address) (minter : String) :
    Except Error (Ledger × Response) := do
  l.requireOwner sender
  let a ← validAddress minter
  let m ← l.listedMinter a
  let l := { l with registry := swapRemove a l.registry }
  return (l.setMinter a { m with listed := false },
    { attributes := [("method", "remove_minter"), ("minter", a),
        ("minted_amount", m.minted.toText)] })

/-- Sets the cap of a listed minter, not below what it has minted. -/
def setMinterMaxAmount (l : Ledger) (sender : Address) (minter : String) (maxAmount : Amount) :
    Except Error (Ledger × Response) := do
  l.requireOwner sender
  let a ← validAddress minter
  let m ← l.listedMinter a
  require (m.minted ≤ maxAmount) (.maxAmountBelowMinted m.minted)
  return (l.setMinter a { m with maxAmount },
    { attributes := [("method", "set_minter_max_amount"), ("minter", a),
        ("max_amount", maxAmount.toText)] })

/-- Lets a listed minter mint, or not. -/
def setMinterEnabled (l : Ledger) (sender : Address) (minter : String) (enabled : Bool) :
    Except Error (Ledger × Response) := do
  l.requireOwner sender
  let a ← validAddress minter
  let m ← l.listedMinter a
  return (l.setMinter a { m with enabled },
    { attributes := [("method", "set_minter_enabled"), ("minter", a),
        ("is_enabled", Describe.bool enabled)] })

/-! ## Roles and parameters -/

/-- A change of the configuration that only the owner may make. The change names the attribute
    that reports it. -/
def configure (l : Ledger) (sender : Address)
    (change : Config → Except Error (Config × String × String)) :
    Except Error (Ledger × Response) := do
  l.requireOwner sender
  let (config, report) ← change l.config
  return ({ l with config }, { attributes := [("method", "update_config"), report] })

/-- Sets or removes the transfer policy. -/
def setPolicy (l : Ledger) (sender : Address) (policy : Option String) :
    Except Error (Ledger × Response) :=
  l.configure sender fun c => do
    let policy ← policy.mapM validAddress
    return ({ c with policy },
      "transfer_approver", Describe.option Describe.address policy)

/-- Sets the treasury. -/
def setTreasury (l : Ledger) (sender : Address) (treasury : String) :
    Except Error (Ledger × Response) :=
  l.configure sender fun c => do
    let treasury ← validAddress treasury
    return ({ c with treasury }, "treasury", treasury)

/-- Sets the balancer. -/
def setBalancer (l : Ledger) (sender : Address) (balancer : String) :
    Except Error (Ledger × Response) :=
  l.configure sender fun c => do
    let balancer ← validAddress balancer
    return ({ c with balancer := some balancer }, "balancer", balancer)

/-- Sets the collateral agency. -/
def setCollateralAgency (l : Ledger) (sender : Address) (agency : String) :
    Except Error (Ledger × Response) :=
  l.configure sender fun c => do
    let agency ← validAddress agency
    return ({ c with collateralAgency := agency }, "collateral_agency", agency)

/-- Sets the swap venue. -/
def setVenue (l : Ledger) (sender : Address) (venue : String) :
    Except Error (Ledger × Response) :=
  l.configure sender fun c => do
    let venue ← validAddress venue
    return ({ c with venue := some venue }, "amm", venue)

/-- Stops all movement of stablecoin but burning, or allows it again. -/
def setPaused (l : Ledger) (sender : Address) (paused : Bool) : Except Error (Ledger × Response) :=
  l.configure sender fun c => return ({ c with paused }, "paused", Describe.bool paused)

/-- Sets the length of a crawl. -/
def setPeriodLength (l : Ledger) (sender : Address) (length : Seconds) :
    Except Error (Ledger × Response) :=
  l.configure sender fun c =>
    return ({ c with periodLength := length }, "period_time", Describe.word64 length)

/-- Sets the size of one adjustment of the target price. -/
def setStepValue (l : Ledger) (sender : Address) (step : Ratio) :
    Except Error (Ledger × Response) :=
  l.configure sender fun c =>
    return ({ c with stepValue := step }, "step_value", Describe.word32 step)

/-- Makes the next target price the current one and starts the crawl anew. -/
def startPeriod (l : Ledger) (env : Env) (sender : Address) : Except Error (Ledger × Response) := do
  l.requireOwner sender
  let config := { l.config with currentPrice := l.config.nextPrice, periodStart := env.now }
  return ({ l with config }, { attributes := [("method", "start_new_period"),
    ("target_price", config.currentPrice.toText), ("period_start", Describe.word64 env.now)] })

/-- Sets how far the market price may lie below the target. -/
def setArbSpread (l : Ledger) (sender : Address) (spread : Ratio) :
    Except Error (Ledger × Response) := do
  l.requireOwnerOrBalancer sender
  require (spread.toNat ≤ precision) (.invalidRatio spread)
  return ({ l with config := { l.config with arbSpread := spread } },
    { attributes := [("method", "set_arb_spread"), ("arb_spread", Describe.word32 spread)] })

/-- Sets the interest rate. -/
def setInterestRate (l : Ledger) (sender : Address) (rate : Int64) :
    Except Error (Ledger × Response) := do
  l.requireOwnerOrBalancer sender
  return ({ l with config := { l.config with interestRate := rate } },
    { attributes := [("method", "set_interest_rate"), ("interest_rate", Describe.signed64 rate)] })

/-- Sets both anchors of the crawl and leaves its time alone. -/
def setTargetPrice (l : Ledger) (sender : Address) (current next : Amount) :
    Except Error (Ledger × Response) := do
  l.requireOwnerOrBalancer sender
  require (current ≠ 0 ∧ next ≠ 0) .zeroAmount
  return ({ l with config := { l.config with currentPrice := current, nextPrice := next } },
    { attributes := [("method", "set_target_price"), ("current_target_price", current.toText),
        ("next_target_price", next.toText)] })

/-! ## Ownership -/

/-- Names who may accept the ownership. -/
def nominateOwner (l : Ledger) (sender : Address) (owner : String) :
    Except Error (Ledger × Response) := do
  l.requireOwner sender
  let owner ← validAddress owner
  return ({ l with nominee := some owner },
    { attributes := [("method", "transfer_ownership"), ("owner_transfer", owner)] })

/-- Makes the nominee, who has to be the sender, the owner. -/
def acceptOwnership (l : Ledger) (sender : Address) : Except Error (Ledger × Response) := do
  require (l.nominee = some sender) .unauthorized
  return ({ l with nominee := none, config := { l.config with owner := sender } },
    { attributes := [("method", "accept_ownership"), ("owner", sender)] })

end Stablecoin.Ledger
