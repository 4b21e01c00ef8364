import Stablecoin.Ledger.Execute
import Stablecoin.Proofs.Movement

set_option autoImplicit false

/-! # What a message does to a ledger

`Step` lists, message by message, under which conditions a ledger carries a message out, the ledger
that comes of it and what it asks the chain to do. `step_of_execute` reads it off the code once;
laws about ledgers are case splits on `Step` and do not look at the code again. -/

namespace Stablecoin

/-! ## Addresses in messages -/

/-- A text that a ledger takes as an address. -/
def Address.Acceptable (text : String) : Prop :=
  Text.isBlank text = false ∧ 3 ≤ text.utf8ByteSize ∧ text.utf8ByteSize ≤ Address.maxSize ∧
    Address.isNormal text = true

theorem Address.validate_eq_ok_iff {text : String} {a : Address} :
    Address.validate text = .ok a ↔ Address.check text = .ok a :=
  mapError_eq_ok_iff

theorem Address.validate_of_acceptable {a : Address} (h : Address.Acceptable a) :
    Address.validate a = .ok a :=
  validate_eq_ok_iff.2 (check_eq_ok_iff.2 ⟨rfl, h.2⟩)

namespace Ledger

/-- A ledger takes an acceptable address as it stands. -/
theorem validAddress_eq_ok_iff {text : String} {a : Address} :
    validAddress text = .ok a ↔ a = text ∧ Address.Acceptable text := by
  simp only [validAddress, bind_eq_ok_iff, require_eq_ok_iff, exists_const, liftM,
    monadLift_eq_ok_iff, Address.validate_eq_ok_iff, Address.check_eq_ok_iff, Address.Acceptable,
    Bool.not_eq_true]
  constructor
  · rintro ⟨hblank, rfl, hsize⟩
    exact ⟨rfl, hblank, hsize⟩
  · rintro ⟨rfl, hblank, hsize⟩
    exact ⟨hblank, rfl, hsize⟩

/-- An optional address is taken as it stands, too. -/
theorem eq_of_mapM_validAddress {name : Option String} {a : Option Address}
    (h : name.mapM validAddress = .ok a) : a = name ∧ ∀ text ∈ name, Address.Acceptable text := by
  cases name with
  | none =>
    cases h
    simp
  | some text =>
    rw [Option.mapM_some] at h
    cases hv : validAddress text with
    | error e => rw [hv] at h; cases h
    | ok b =>
      obtain ⟨rfl, hacc⟩ := validAddress_eq_ok_iff.1 hv
      rw [hv] at h
      cases h
      simpa using hacc

/-! ## Single entries -/

variable {l l' : Ledger} {env : Env} {sender : Address} {r : Response}

theorem debit_eq_ok_iff {a : Address} {amount : Amount} :
    l.debit a amount = .ok l' ↔ ∃ left : Amount,
      (l.balances.get a).toNat = left.toNat + amount.toNat ∧
        l' = { l with balances := l.balances.set a left } := by
  simp only [debit, bind_eq_ok_iff, mapError_eq_ok_iff, Amount.checkedSub_eq_ok_iff, pure_eq_ok_iff,
    @eq_comm _ l']

theorem credit_eq_ok_iff {a : Address} {amount : Amount} :
    l.credit a amount = .ok l' ↔ ∃ grown : Amount,
      grown.toNat = (l.balances.get a).toNat + amount.toNat ∧
        l' = { l with balances := l.balances.set a grown } := by
  simp only [credit, bind_eq_ok_iff, mapError_eq_ok_iff, Amount.checkedAdd_eq_ok_iff,
    pure_eq_ok_iff, @eq_comm _ l']

/-- A debit and the credit after it are a movement. -/
theorem moves_of_debit_credit {l₁ : Ledger} {payer payee : Address} {amount : Amount}
    (hd : l.debit payer amount = .ok l₁) (hc : l₁.credit payee amount = .ok l') :
    ∃ balances, l.balances.Moves payer payee amount balances ∧ l' = { l with balances } := by
  obtain ⟨left, hleft, rfl⟩ := debit_eq_ok_iff.1 hd
  obtain ⟨grown, hgrown, rfl⟩ := credit_eq_ok_iff.1 hc
  exact ⟨_, ⟨left, grown, hleft, hgrown, rfl⟩, rfl⟩

theorem listedMinter_eq_ok_iff {a : Address} {m : Minter} :
    l.listedMinter a = .ok m ↔ m = l.minter a ∧ m.listed = true := by
  simp only [listedMinter, bind_eq_ok_iff, require_eq_ok_iff, exists_const, pure_eq_ok_iff]
  constructor
  · rintro ⟨hlisted, rfl⟩
    exact ⟨rfl, hlisted⟩
  · rintro ⟨rfl, hlisted⟩
    exact ⟨hlisted, rfl⟩

/-! ## The relation -/

/-- What a message that only changes the configuration makes of it. -/
inductive Config.Step (c : Config) (now : Seconds) (sender : Address) :
    Message → Config → Prop where
  | setPolicy {policy : Option String} (governs : sender = c.owner)
      (acceptable : ∀ text ∈ policy, Address.Acceptable text) :
      Step c now sender (.setPolicy policy) { c with policy }
  | setTreasury {treasury : String} (governs : sender = c.owner)
      (acceptable : Address.Acceptable treasury) :
      Step c now sender (.setTreasury treasury) { c with treasury }
  | setBalancer {balancer : String} (governs : sender = c.owner)
      (acceptable : Address.Acceptable balancer) :
      Step c now sender (.setBalancer balancer) { c with balancer := some balancer }
  | setCollateralAgency {agency : String} (governs : sender = c.owner)
      (acceptable : Address.Acceptable agency) :
      Step c now sender (.setCollateralAgency agency) { c with collateralAgency := agency }
  | setVenue {venue : String} (governs : sender = c.owner)
      (acceptable : Address.Acceptable venue) :
      Step c now sender (.setVenue venue) { c with venue := some venue }
  | pause (governs : sender = c.owner) : Step c now sender .pause { c with paused := true }
  | unpause (governs : sender = c.owner) : Step c now sender .unpause { c with paused := false }
  | setPeriodLength {length : Seconds} (governs : sender = c.owner) :
      Step c now sender (.setPeriodLength length) { c with periodLength := length }
  | setStepValue {step : Ratio} (governs : sender = c.owner) :
      Step c now sender (.setStepValue step) { c with stepValue := step }
  | startPeriod (governs : sender = c.owner) :
      Step c now sender .startPeriod { c with currentPrice := c.nextPrice, periodStart := now }
  | setArbSpread {spread : Ratio} (governs : sender = c.owner ∨ some sender = c.balancer)
      (bounded : spread.toNat ≤ precision) :
      Step c now sender (.setArbSpread spread) { c with arbSpread := spread }
  | setInterestRate {rate : Int64} (governs : sender = c.owner ∨ some sender = c.balancer) :
      Step c now sender (.setInterestRate rate) { c with interestRate := rate }
  | setTargetPrice {current next : Amount} (governs : sender = c.owner ∨ some sender = c.balancer)
      (positive : current ≠ 0 ∧ next ≠ 0) :
      Step c now sender (.setTargetPrice current next)
        { c with currentPrice := current, nextPrice := next }

/-- What a message makes of a ledger that carries it out, and what the ledger asks the chain to do
    after it. -/
inductive Step (l : Ledger) (env : Env) (sender : Address) :
    Message → Ledger → List Outgoing → Prop where
  | transfer {recipient : String} {amount : Amount} {balances : Holdings Address}
      (acceptable : Address.Acceptable recipient) (positive : amount ≠ 0)
      (movable : checkMovement l.config env recipient = .ok ())
      (moves : l.balances.Moves sender recipient amount balances) :
      Step l env sender (.transfer recipient amount) { l with balances } []
  | transferFrom {owner recipient : String} {amount left : Amount} {balances : Holdings Address}
      (acceptable : Address.Acceptable owner ∧ Address.Acceptable recipient) (positive : amount ≠ 0)
      (movable : checkMovement l.config env recipient = .ok ())
      (allowed : (l.allowances.get (owner, sender)).toNat = left.toNat + amount.toNat)
      (moves : l.balances.Moves owner recipient amount balances) :
      Step l env sender (.transferFrom owner recipient amount)
        { l with balances, allowances := l.allowances.set (owner, sender) left } []
  | send {contract : String} {amount : Amount} {payload : List UInt8} {balances : Holdings Address}
      (acceptable : Address.Acceptable contract) (positive : amount ≠ 0)
      (movable : checkMovement l.config env contract = .ok ())
      (moves : l.balances.Moves sender contract amount balances) :
      Step l env sender (.send contract amount payload) { l with balances }
        [{ action := .execute contract (Venue.receiveJson sender amount payload) [] }]
  | increaseAllowance {spender : String} {amount allowance : Amount}
      (acceptable : Address.Acceptable spender) (other : spender ≠ sender)
      (raised : allowance.toNat = (l.allowances.get (sender, spender)).toNat + amount.toNat) :
      Step l env sender (.increaseAllowance spender amount)
        { l with allowances := l.allowances.set (sender, spender) allowance } []
  | decreaseAllowance {spender : String} {amount : Amount}
      (acceptable : Address.Acceptable spender) (other : spender ≠ sender) :
      Step l env sender (.decreaseAllowance spender amount)
        { l with allowances := l.allowances.set (sender, spender)
                  ((l.allowances.get (sender, spender)).saturatingSub amount) } []
  | mint {recipient : String} {amount minted balance supply : Amount}
      (registered : (l.minter sender).listed = true ∧ (l.minter sender).enabled = true)
      (active : l.config.paused = false) (acceptable : Address.Acceptable recipient)
      (positive : amount ≠ 0)
      (counted : minted.toNat = (l.minter sender).minted.toNat + amount.toNat)
      (capped : minted ≤ (l.minter sender).maxAmount)
      (gate : l.config.mintAllowed env = .ok true)
      (admitted : checkRecipient l.config env recipient = .ok ())
      (credited : balance.toNat = (l.balances.get recipient).toNat + amount.toNat)
      (raised : supply.toNat = l.token.supply.toNat + amount.toNat) :
      Step l env sender (.mint recipient amount)
        { l with
          minters := l.minters.insert sender { l.minter sender with minted }
          balances := l.balances.set recipient balance
          token := { l.token with supply } } []
  | burn {amount minted balance supply : Amount} (listed : (l.minter sender).listed = true)
      (positive : amount ≠ 0)
      (debited : (l.balances.get sender).toNat = balance.toNat + amount.toNat)
      (lowered : l.token.supply.toNat = supply.toNat + amount.toNat)
      (counted : (l.minter sender).minted.toNat = minted.toNat + amount.toNat) :
      Step l env sender (.burn amount)
        { l with
          minters := l.minters.insert sender { l.minter sender with minted }
          balances := l.balances.set sender balance
          token := { l.token with supply } } []
  | addMinter {minter : String} {maxAmount : Amount} (governs : sender = l.config.owner)
      (acceptable : Address.Acceptable minter) (positive : maxAmount ≠ 0)
      (unlisted : (l.minter minter).listed = false) :
      Step l env sender (.addMinter minter maxAmount)
        { l with
          minters := l.minters.insert minter
            { maxAmount, minted := 0, listed := true, enabled := true }
          registry := l.registry ++ [minter] } []
  | removeMinter {minter : String} (governs : sender = l.config.owner)
      (acceptable : Address.Acceptable minter) (listed : (l.minter minter).listed = true) :
      Step l env sender (.removeMinter minter)
        { l with
          minters := l.minters.insert minter { l.minter minter with listed := false }
          registry := swapRemove minter l.registry } []
  | setMinterMaxAmount {minter : String} {maxAmount : Amount} (governs : sender = l.config.owner)
      (acceptable : Address.Acceptable minter) (listed : (l.minter minter).listed = true)
      (covered : (l.minter minter).minted ≤ maxAmount) :
      Step l env sender (.setMinterMaxAmount minter maxAmount)
        { l with minters := l.minters.insert minter { l.minter minter with maxAmount } } []
  | setMinterEnabled {minter : String} {enabled : Bool} (governs : sender = l.config.owner)
      (acceptable : Address.Acceptable minter) (listed : (l.minter minter).listed = true) :
      Step l env sender (.setMinterEnabled minter enabled)
        { l with minters := l.minters.insert minter { l.minter minter with enabled } } []
  | configure {m : Message} {config : Config} (step : l.config.Step env.now sender m config) :
      Step l env sender m { l with config } []
  | nominateOwner {owner : String} (governs : sender = l.config.owner)
      (acceptable : Address.Acceptable owner) :
      Step l env sender (.nominateOwner owner) { l with nominee := some owner } []
  | acceptOwnership (nominated : l.nominee = some sender) :
      Step l env sender .acceptOwnership
        { l with nominee := none, config := { l.config with owner := sender } } []

/-! ## Messages of holders -/

theorem step_of_transfer {recipient : String} {amount : Amount}
    (h : l.transfer env sender recipient amount = .ok (l', r)) :
    Step l env sender (.transfer recipient amount) l' r.outgoing := by
  simp only [transfer, bind_eq_ok_iff, require_eq_ok_iff, exists_const, validAddress_eq_ok_iff] at h
  obtain ⟨_, ⟨rfl, acceptable⟩, positive, _, movable, l₁, hdebit, l₂, hcredit, h⟩ := h
  obtain ⟨balances, moves, rfl⟩ := moves_of_debit_credit hdebit hcredit
  cases h
  exact .transfer acceptable positive movable moves

theorem step_of_transferFrom {owner recipient : String} {amount : Amount}
    (h : l.transferFrom env sender owner recipient amount = .ok (l', r)) :
    Step l env sender (.transferFrom owner recipient amount) l' r.outgoing := by
  simp only [transferFrom, bind_eq_ok_iff, require_eq_ok_iff, exists_const, validAddress_eq_ok_iff,
    useAllowance, mapError_eq_ok_iff, Amount.checkedSub_eq_ok_iff, pure_eq_ok_iff] at h
  obtain ⟨_, ⟨rfl, howner⟩, _, ⟨rfl, hrecipient⟩, positive, _, movable, _, ⟨left, allowed, rfl⟩, l₁,
    hdebit, l₂, hcredit, h⟩ := h
  obtain ⟨balances, moves, rfl⟩ := moves_of_debit_credit hdebit hcredit
  cases h
  exact .transferFrom ⟨howner, hrecipient⟩ positive movable allowed moves

theorem step_of_send {contract : String} {amount : Amount} {payload : List UInt8}
    (h : l.send env sender contract amount payload = .ok (l', r)) :
    Step l env sender (.send contract amount payload) l' r.outgoing := by
  simp only [send, bind_eq_ok_iff, require_eq_ok_iff, exists_const, validAddress_eq_ok_iff] at h
  obtain ⟨_, ⟨rfl, acceptable⟩, positive, _, movable, l₁, hdebit, l₂, hcredit, h⟩ := h
  obtain ⟨balances, moves, rfl⟩ := moves_of_debit_credit hdebit hcredit
  cases h
  exact .send acceptable positive movable moves

theorem step_of_increaseAllowance {spender : String} {amount : Amount}
    (h : l.increaseAllowance sender spender amount = .ok (l', r)) :
    Step l env sender (.increaseAllowance spender amount) l' r.outgoing := by
  simp only [increaseAllowance, Allowances.increase, Allowances.change, bind_eq_ok_iff,
    require_eq_ok_iff, exists_const, validAddress_eq_ok_iff, mapError_eq_ok_iff,
    Amount.checkedAdd_eq_ok_iff, pure_eq_ok_iff] at h
  obtain ⟨_, ⟨_, ⟨rfl, acceptable⟩, other, allowance, raised, rfl⟩, h⟩ := h
  cases h
  exact .increaseAllowance acceptable other raised

theorem step_of_decreaseAllowance {spender : String} {amount : Amount}
    (h : l.decreaseAllowance sender spender amount = .ok (l', r)) :
    Step l env sender (.decreaseAllowance spender amount) l' r.outgoing := by
  simp only [decreaseAllowance, Allowances.decrease, Allowances.change, bind_eq_ok_iff,
    require_eq_ok_iff, exists_const, validAddress_eq_ok_iff, pure_eq_ok_iff] at h
  obtain ⟨_, ⟨_, ⟨rfl, acceptable⟩, other, _, hallowance, rfl⟩, h⟩ := h
  cases hallowance
  cases h
  exact .decreaseAllowance acceptable other

/-! ## Minting and burning -/

theorem step_of_mint {recipient : String} {amount : Amount}
    (h : l.mint env sender recipient amount = .ok (l', r)) :
    Step l env sender (.mint recipient amount) l' r.outgoing := by
  simp only [mint, bind_eq_ok_iff, require_eq_ok_iff, exists_const, validAddress_eq_ok_iff,
    mapError_eq_ok_iff, Amount.checkedAdd_eq_ok_iff, liftM, monadLift_eq_ok_iff, raiseSupply,
    credit_eq_ok_iff, pure_eq_ok_iff, Bool.not_eq_true] at h
  obtain ⟨registered, active, _, ⟨rfl, acceptable⟩, positive, minted, counted, capped, _,
    gate, rfl, _, admitted, _, ⟨balance, credited, rfl⟩, _, ⟨supply, raised, rfl⟩, h⟩ := h
  cases h
  exact .mint registered active acceptable positive counted capped gate admitted credited raised

theorem step_of_burn {amount : Amount} (h : l.burn sender amount = .ok (l', r)) :
    Step l env sender (.burn amount) l' r.outgoing := by
  simp only [burn, bind_eq_ok_iff, require_eq_ok_iff, exists_const, listedMinter_eq_ok_iff,
    debit_eq_ok_iff, lowerSupply, mapError_eq_ok_iff, Amount.checkedSub_eq_ok_iff, liftM,
    monadLift_eq_ok_iff, Amount.minus_eq_ok_iff, pure_eq_ok_iff] at h
  obtain ⟨_, ⟨rfl, listed⟩, positive, -, _, ⟨balance, debited, rfl⟩, _, ⟨supply, lowered, rfl⟩,
    minted, counted, h⟩ := h
  cases h
  exact .burn listed positive debited lowered counted

/-! ## The registry -/

theorem step_of_addMinter {minter : String} {maxAmount : Amount}
    (h : l.addMinter sender minter maxAmount = .ok (l', r)) :
    Step l env sender (.addMinter minter maxAmount) l' r.outgoing := by
  simp only [addMinter, requireOwner, bind_eq_ok_iff, require_eq_ok_iff, exists_const,
    validAddress_eq_ok_iff, pure_eq_ok_iff, Bool.not_eq_true] at h
  obtain ⟨governs, _, ⟨rfl, acceptable⟩, positive, unlisted, h⟩ := h
  cases h
  exact .addMinter governs acceptable positive unlisted

theorem step_of_removeMinter {minter : String} (h : l.removeMinter sender minter = .ok (l', r)) :
    Step l env sender (.removeMinter minter) l' r.outgoing := by
  simp only [removeMinter, requireOwner, bind_eq_ok_iff, require_eq_ok_iff, exists_const,
    validAddress_eq_ok_iff, listedMinter_eq_ok_iff, pure_eq_ok_iff] at h
  obtain ⟨governs, _, ⟨rfl, acceptable⟩, _, ⟨rfl, listed⟩, h⟩ := h
  cases h
  exact .removeMinter governs acceptable listed

theorem step_of_setMinterMaxAmount {minter : String} {maxAmount : Amount}
    (h : l.setMinterMaxAmount sender minter maxAmount = .ok (l', r)) :
    Step l env sender (.setMinterMaxAmount minter maxAmount) l' r.outgoing := by
  simp only [setMinterMaxAmount, requireOwner, bind_eq_ok_iff, require_eq_ok_iff, exists_const,
    validAddress_eq_ok_iff, listedMinter_eq_ok_iff, pure_eq_ok_iff] at h
  obtain ⟨governs, _, ⟨rfl, acceptable⟩, _, ⟨rfl, listed⟩, covered, h⟩ := h
  cases h
  exact .setMinterMaxAmount governs acceptable listed covered

theorem step_of_setMinterEnabled {minter : String} {enabled : Bool}
    (h : l.setMinterEnabled sender minter enabled = .ok (l', r)) :
    Step l env sender (.setMinterEnabled minter enabled) l' r.outgoing := by
  simp only [setMinterEnabled, requireOwner, bind_eq_ok_iff, require_eq_ok_iff, exists_const,
    validAddress_eq_ok_iff, listedMinter_eq_ok_iff, pure_eq_ok_iff] at h
  obtain ⟨governs, _, ⟨rfl, acceptable⟩, _, ⟨rfl, listed⟩, h⟩ := h
  cases h
  exact .setMinterEnabled governs acceptable listed

/-! ## Roles and parameters -/

theorem configure_eq_ok {change : Config → Except Error (Config × String × String)}
    (h : l.configure sender change = .ok (l', r)) :
    sender = l.config.owner ∧ ∃ config report, change l.config = .ok (config, report) ∧
      l' = { l with config } ∧ r.outgoing = [] := by
  simp only [configure, requireOwner, bind_eq_ok_iff, require_eq_ok_iff, exists_const] at h
  obtain ⟨governs, ⟨config, report⟩, hchange, h⟩ := h
  cases h
  exact ⟨governs, config, report, hchange, rfl, rfl⟩

/-- A change of the configuration that depends on one address. -/
theorem configure_address_eq_ok {name : String}
    {change : Config → Address → Config × String × String}
    (h : (l.configure sender fun c => do return change c (← validAddress name)) = .ok (l', r)) :
    sender = l.config.owner ∧ Address.Acceptable name ∧
      l' = { l with config := (change l.config name).1 } ∧ r.outgoing = [] := by
  obtain ⟨governs, config, report, hchange, rfl, hout⟩ := configure_eq_ok h
  simp only [bind_eq_ok_iff, validAddress_eq_ok_iff, pure_eq_ok_iff] at hchange
  obtain ⟨_, ⟨rfl, acceptable⟩, hchange⟩ := hchange
  rw [hchange]
  exact ⟨governs, acceptable, rfl, hout⟩

/-- Every message that only changes the configuration. -/
theorem step_of_configure {m : Message} {config : Config}
    (step : l.config.Step env.now sender m config) (hl : l' = { l with config })
    (hout : r.outgoing = []) : Step l env sender m l' r.outgoing := by
  subst hl
  rw [hout]
  exact .configure step

theorem step_of_setPolicy {policy : Option String} (h : l.setPolicy sender policy = .ok (l', r)) :
    Step l env sender (.setPolicy policy) l' r.outgoing := by
  obtain ⟨governs, config, report, hchange, hl, hout⟩ := configure_eq_ok h
  simp only [bind_eq_ok_iff, pure_eq_ok_iff] at hchange
  obtain ⟨_, hpolicy, hchange⟩ := hchange
  obtain ⟨rfl, acceptable⟩ := eq_of_mapM_validAddress hpolicy
  cases hchange
  exact step_of_configure (.setPolicy governs acceptable) hl hout

theorem step_of_setTreasury {treasury : String} (h : l.setTreasury sender treasury = .ok (l', r)) :
    Step l env sender (.setTreasury treasury) l' r.outgoing := by
  obtain ⟨governs, acceptable, hl, hout⟩ := configure_address_eq_ok h
  exact step_of_configure (.setTreasury governs acceptable) hl hout

theorem step_of_setBalancer {balancer : String} (h : l.setBalancer sender balancer = .ok (l', r)) :
    Step l env sender (.setBalancer balancer) l' r.outgoing := by
  obtain ⟨governs, acceptable, hl, hout⟩ := configure_address_eq_ok h
  exact step_of_configure (.setBalancer governs acceptable) hl hout

theorem step_of_setCollateralAgency {agency : String}
    (h : l.setCollateralAgency sender agency = .ok (l', r)) :
    Step l env sender (.setCollateralAgency agency) l' r.outgoing := by
  obtain ⟨governs, acceptable, hl, hout⟩ := configure_address_eq_ok h
  exact step_of_configure (.setCollateralAgency governs acceptable) hl hout

theorem step_of_setVenue {venue : String} (h : l.setVenue sender venue = .ok (l', r)) :
    Step l env sender (.setVenue venue) l' r.outgoing := by
  obtain ⟨governs, acceptable, hl, hout⟩ := configure_address_eq_ok h
  exact step_of_configure (.setVenue governs acceptable) hl hout

theorem step_of_setPaused {paused : Bool} (h : l.setPaused sender paused = .ok (l', r)) :
    Step l env sender (if paused then .pause else .unpause) l' r.outgoing := by
  obtain ⟨governs, _, _, hchange, hl, hout⟩ := configure_eq_ok h
  cases hchange
  cases paused with
  | true => exact step_of_configure (.pause governs) hl hout
  | false => exact step_of_configure (.unpause governs) hl hout

theorem step_of_setPeriodLength {length : Seconds}
    (h : l.setPeriodLength sender length = .ok (l', r)) :
    Step l env sender (.setPeriodLength length) l' r.outgoing := by
  obtain ⟨governs, _, _, hchange, hl, hout⟩ := configure_eq_ok h
  cases hchange
  exact step_of_configure (.setPeriodLength governs) hl hout

theorem step_of_setStepValue {step : Ratio} (h : l.setStepValue sender step = .ok (l', r)) :
    Step l env sender (.setStepValue step) l' r.outgoing := by
  obtain ⟨governs, _, _, hchange, hl, hout⟩ := configure_eq_ok h
  cases hchange
  exact step_of_configure (.setStepValue governs) hl hout

theorem step_of_startPeriod (h : l.startPeriod env sender = .ok (l', r)) :
    Step l env sender .startPeriod l' r.outgoing := by
  simp only [startPeriod, requireOwner, bind_eq_ok_iff, require_eq_ok_iff, exists_const,
    pure_eq_ok_iff] at h
  obtain ⟨governs, h⟩ := h
  cases h
  exact .configure (.startPeriod governs)

theorem step_of_setArbSpread {spread : Ratio} (h : l.setArbSpread sender spread = .ok (l', r)) :
    Step l env sender (.setArbSpread spread) l' r.outgoing := by
  simp only [setArbSpread, requireOwnerOrBalancer, bind_eq_ok_iff, require_eq_ok_iff, exists_const,
    pure_eq_ok_iff] at h
  obtain ⟨governs, bounded, h⟩ := h
  cases h
  exact .configure (.setArbSpread governs bounded)

theorem step_of_setInterestRate {rate : Int64} (h : l.setInterestRate sender rate = .ok (l', r)) :
    Step l env sender (.setInterestRate rate) l' r.outgoing := by
  simp only [setInterestRate, requireOwnerOrBalancer, bind_eq_ok_iff, require_eq_ok_iff,
    exists_const, pure_eq_ok_iff] at h
  obtain ⟨governs, h⟩ := h
  cases h
  exact .configure (.setInterestRate governs)

theorem step_of_setTargetPrice {current next : Amount}
    (h : l.setTargetPrice sender current next = .ok (l', r)) :
    Step l env sender (.setTargetPrice current next) l' r.outgoing := by
  simp only [setTargetPrice, requireOwnerOrBalancer, bind_eq_ok_iff, require_eq_ok_iff,
    exists_const, pure_eq_ok_iff] at h
  obtain ⟨governs, positive, h⟩ := h
  cases h
  exact .configure (.setTargetPrice governs positive)

/-! ## Ownership -/

theorem step_of_nominateOwner {owner : String} (h : l.nominateOwner sender owner = .ok (l', r)) :
    Step l env sender (.nominateOwner owner) l' r.outgoing := by
  simp only [nominateOwner, requireOwner, bind_eq_ok_iff, require_eq_ok_iff, exists_const,
    validAddress_eq_ok_iff, pure_eq_ok_iff] at h
  obtain ⟨governs, _, ⟨rfl, acceptable⟩, h⟩ := h
  cases h
  exact .nominateOwner governs acceptable

theorem step_of_acceptOwnership (h : l.acceptOwnership sender = .ok (l', r)) :
    Step l env sender .acceptOwnership l' r.outgoing := by
  simp only [acceptOwnership, bind_eq_ok_iff, require_eq_ok_iff, exists_const, pure_eq_ok_iff] at h
  obtain ⟨nominated, h⟩ := h
  cases h
  exact .acceptOwnership nominated

/-! ## Every message -/

/-- A message that is carried out does what `Step` says. -/
theorem step_of_execute {m : Message} (h : l.execute env sender m = .ok (l', r)) :
    Step l env sender m l' r.outgoing := by
  cases m with
  | transfer recipient amount => exact step_of_transfer h
  | transferFrom owner recipient amount => exact step_of_transferFrom h
  | send contract amount payload => exact step_of_send h
  | increaseAllowance spender amount => exact step_of_increaseAllowance h
  | decreaseAllowance spender amount => exact step_of_decreaseAllowance h
  | mint recipient amount => exact step_of_mint h
  | burn amount => exact step_of_burn h
  | addMinter minter maxAmount => exact step_of_addMinter h
  | removeMinter minter => exact step_of_removeMinter h
  | setMinterMaxAmount minter maxAmount => exact step_of_setMinterMaxAmount h
  | setMinterEnabled minter enabled => exact step_of_setMinterEnabled h
  | setPolicy policy => exact step_of_setPolicy h
  | setTreasury treasury => exact step_of_setTreasury h
  | setBalancer balancer => exact step_of_setBalancer h
  | setCollateralAgency agency => exact step_of_setCollateralAgency h
  | setVenue venue => exact step_of_setVenue h
  | pause => exact step_of_setPaused h
  | unpause => exact step_of_setPaused h
  | setPeriodLength length => exact step_of_setPeriodLength h
  | setStepValue step => exact step_of_setStepValue h
  | startPeriod => exact step_of_startPeriod h
  | setArbSpread spread => exact step_of_setArbSpread h
  | setInterestRate rate => exact step_of_setInterestRate h
  | setTargetPrice current next => exact step_of_setTargetPrice h
  | nominateOwner owner => exact step_of_nominateOwner h
  | acceptOwnership => exact step_of_acceptOwnership h

/-- Only a send makes a ledger call anybody. -/
theorem Step.out_eq_nil {m : Message} {out : List Outgoing} (h : Step l env sender m l' out)
    (hm : ∀ contract amount payload, m ≠ .send contract amount payload) : out = [] := by
  cases h with
  | send acceptable positive movable moves => exact absurd rfl (hm _ _ _)
  | _ => rfl

end Ledger

end Stablecoin
