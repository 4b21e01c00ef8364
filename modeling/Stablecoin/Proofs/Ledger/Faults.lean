import Stablecoin.Proofs.Ledger.Prices

set_option autoImplicit false

/-! # A ledger does not slip

Whatever a ledger is told or asked, it does not divide by zero, and no amount or ratio that it takes
to be in range is out of range. For the prices this is because they are usable, and for a burn
because its amount has been compared with what the minter has minted. -/

namespace Stablecoin.Ledger

variable {α : Type} {f : Fault} {l : Ledger} {env : Env} {sender : Address}

@[simp] theorem avoids_monadLift_iff {e : Error} {x : Except Fault α} :
    Avoids e (monadLift x : Except Error α) ↔ ∀ f, .fault f = e → Avoids f x :=
  avoids_mapError_iff

variable (slip : f.Slip)

include slip

theorem avoids_validAddress (text : String) : Avoids (.fault f) (validAddress text) := by
  simp [validAddress, liftM, avoids_validate slip]

/-! ## Movements -/

theorem avoids_checkRecipient (reports : env.querier.Reports) (c : Config) (recipient : Address) :
    Avoids (.fault f) (checkRecipient c env recipient) := by
  unfold checkRecipient
  split
  · exact avoids_ok _ _
  · simp [liftM, Policy.askAllowed, reports.avoids_askFor slip]

theorem avoids_checkMovement (reports : env.querier.Reports) (c : Config) (recipient : Address) :
    Avoids (.fault f) (checkMovement c env recipient) := by
  simp [checkMovement, avoids_checkRecipient slip reports]

theorem avoids_change (as : Allowances) (spender : String) (method : String)
    {update : Amount → Except Error Amount} (h : ∀ a, Avoids (.fault f) (update a)) :
    Avoids (.fault f) (as.change sender spender method update) := by
  simp [Allowances.change, avoids_validAddress slip, h]

theorem avoids_mapM_validAddress (name : Option String) :
    Avoids (.fault f) (name.mapM validAddress) := by
  cases name with
  | none => exact avoids_pure _ _
  | some text =>
    rw [Option.mapM_some, avoids_fmap_iff]
    exact avoids_validAddress slip text

/-! ## Every message and every query -/

omit slip in
theorem avoids_targetPrice (c : Config) (now : Seconds) : Avoids f (c.targetPrice now) := by
  obtain ⟨price, hprice, -⟩ := exists_targetPriceAt c.currentPrice c.nextPrice c.periodStart.toNat
    c.periodLength.toNat now.toNat
  rw [Config.targetPrice, hprice]
  exact avoids_ok _ _

theorem Config.Usable.avoids_mintAllowed {c : Config} (h : c.Usable)
    (reports : env.querier.Reports) : Avoids f (c.mintAllowed env) := by
  intro hfails
  obtain ⟨venue, -, hvenue⟩ := h.mintAllowed_eq_error_iff.1 hfails
  exact reports.avoids_askFor slip _ _ _ hvenue

theorem Config.Usable.avoids_marketPrice {c : Config} (h : c.Usable)
    (reports : env.querier.Reports) : Avoids f (c.marketPrice env) := by
  intro hfails
  obtain ⟨venue, -, hvenue⟩ := h.marketPrice_eq_error_iff.1 hfails
  exact reports.avoids_askFor slip _ _ _ hvenue

omit slip in
/-- What a burn takes off the counter of its minter has been compared with it. -/
theorem avoids_burn (amount : Amount) : Avoids (.fault f) (l.burn sender amount) := by
  suffices h : amount ≤ (l.minter sender).minted →
      Avoids f ((l.minter sender).minted.minus amount) by
    simp +contextual [burn, listedMinter, debit, lowerSupply, liftM, h]
  exact fun hcounted => avoids_minus fun _ => hcounted

theorem avoids_execute (usable : l.config.Usable) (reports : env.querier.Reports) (m : Message) :
    Avoids (.fault f) (l.execute env sender m) := by
  cases m with
  | transfer recipient amount =>
    simp [execute, transfer, avoids_validAddress slip, avoids_checkMovement slip reports, debit,
      credit]
  | transferFrom owner recipient amount =>
    simp [execute, transferFrom, avoids_validAddress slip, avoids_checkMovement slip reports,
      useAllowance, debit, credit]
  | send contract amount payload =>
    simp [execute, send, avoids_validAddress slip, avoids_checkMovement slip reports, debit, credit]
  | increaseAllowance spender amount =>
    simp [execute, increaseAllowance, Allowances.increase, avoids_change slip]
  | decreaseAllowance spender amount =>
    simp [execute, decreaseAllowance, Allowances.decrease, avoids_change slip]
  | mint recipient amount =>
    simp [execute, mint, avoids_validAddress slip, usable.avoids_mintAllowed slip reports,
      avoids_checkRecipient slip reports, liftM, credit, raiseSupply]
  | burn amount => exact avoids_burn amount
  | addMinter minter maxAmount =>
    simp [execute, addMinter, requireOwner, avoids_validAddress slip]
  | removeMinter minter =>
    simp [execute, removeMinter, requireOwner, listedMinter, avoids_validAddress slip]
  | setMinterMaxAmount minter maxAmount =>
    simp [execute, setMinterMaxAmount, requireOwner, listedMinter, avoids_validAddress slip]
  | setMinterEnabled minter enabled =>
    simp [execute, setMinterEnabled, requireOwner, listedMinter, avoids_validAddress slip]
  | setPolicy policy =>
    simp [execute, Ledger.setPolicy, configure, requireOwner, avoids_mapM_validAddress slip]
  | setTreasury treasury =>
    simp [execute, Ledger.setTreasury, configure, requireOwner, avoids_validAddress slip]
  | setBalancer balancer =>
    simp [execute, Ledger.setBalancer, configure, requireOwner, avoids_validAddress slip]
  | setCollateralAgency agency =>
    simp [execute, Ledger.setCollateralAgency, configure, requireOwner, avoids_validAddress slip]
  | setVenue venue =>
    simp [execute, Ledger.setVenue, configure, requireOwner, avoids_validAddress slip]
  | pause => simp [execute, setPaused, configure, requireOwner]
  | unpause => simp [execute, setPaused, configure, requireOwner]
  | setPeriodLength length => simp [execute, setPeriodLength, configure, requireOwner]
  | setStepValue step => simp [execute, setStepValue, configure, requireOwner]
  | startPeriod => simp [execute, startPeriod, requireOwner]
  | setArbSpread spread => simp [execute, setArbSpread, requireOwnerOrBalancer]
  | setInterestRate rate => simp [execute, setInterestRate, requireOwnerOrBalancer]
  | setTargetPrice current next => simp [execute, setTargetPrice, requireOwnerOrBalancer]
  | nominateOwner owner => simp [execute, nominateOwner, requireOwner, avoids_validAddress slip]
  | acceptOwnership => simp [execute, acceptOwnership]

/-- A ledger that is not set up yet does not slip either. -/
theorem avoids_executeVacant (allowances : Allowances) (sender : Address) (m : Message) :
    Avoids (.fault f) (executeVacant allowances sender m) := by
  cases m <;>
    simp [executeVacant, Allowances.increase, Allowances.decrease, avoids_change slip,
      slip.missing_ne]

theorem avoids_query (usable : l.config.Usable) (reports : env.querier.Reports) (q : Query) :
    Avoids f (l.query env q) := by
  cases q with
  | config => exact avoids_ok _ _
  | tokenInfo => exact avoids_ok _ _
  | minters offset limit => exact avoids_ok _ _
  | quoteValue amount => simp [query, avoids_targetPrice, avoids_quoteValue slip]
  | stablecoinAmount amount =>
    simp only [query, avoids_bind_iff, avoids_pure, implies_true, and_true]
    exact ⟨avoids_targetPrice _ _, fun price hprice => avoids_stablecoinAmount slip amount fun _ =>
      targetPriceAt_ne_zero usable.current usable.next hprice⟩
  | targetPrice => simp [query, avoids_targetPrice]
  | marketPrice => simp [query, usable.avoids_marketPrice slip reports]
  | isMintAllowed => simp [query, usable.avoids_mintAllowed slip reports]
  | _ => simp [query, avoids_validate slip]

theorem avoids_queryVacant (allowances : Allowances) (q : Query) :
    Avoids f (queryVacant allowances q) := by
  cases q <;> simp [queryVacant, avoids_validate slip, slip.missing_ne]

end Stablecoin.Ledger
