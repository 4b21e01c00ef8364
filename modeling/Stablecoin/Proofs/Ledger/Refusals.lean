import Stablecoin.Proofs.Ledger.Gate
import Stablecoin.Proofs.Ledger.Sound

set_option autoImplicit false

/-! # Exactly when stablecoin is moved or burnt

A movement and a burn make their checks and then write sums and differences that are checked once
more. The second checks never fire: who has something can give it to anybody, because all balances
together are the supply, and the supply is an amount (`Sound.exists_debit_credit`). So a message
that is refused is refused for one of its own conditions (`Sound.failsWith_execute`), and what it
takes to have stablecoin moved or burnt can be told without a word about overflows
(`moved_and_burnt_exactly_when`). -/

namespace Stablecoin

variable {ε α β : Type} {P : ε → Prop}

/-- A step fails with errors of one kind only. -/
def FailsWith (P : ε → Prop) (x : Except ε α) : Prop :=
  ∀ e, x = .error e → P e

@[simp] theorem failsWith_ok (a : α) : FailsWith P (.ok a) := nofun

@[simp] theorem failsWith_pure (a : α) : FailsWith P (pure a : Except ε α) := nofun

@[simp] theorem failsWith_error_iff {e : ε} : FailsWith P (.error e : Except ε α) ↔ P e := by
  simp [FailsWith]

@[simp] theorem failsWith_bind_iff {x : Except ε α} {f : α → Except ε β} :
    FailsWith P (x >>= f) ↔ FailsWith P x ∧ ∀ a, x = .ok a → FailsWith P (f a) := by
  cases x <;> simp

@[simp] theorem failsWith_require_iff {p : Prop} [Decidable p] {e : ε} :
    FailsWith P (require p e) ↔ (¬ p → P e) := by
  simp [FailsWith]

theorem Amount.pos_iff {a : Amount} : 0 < a ↔ a ≠ 0 := by
  rw [Amount.lt_iff, Ne, Amount.eq_zero_iff, Amount.toNat_zero, Nat.pos_iff_ne_zero]

namespace Ledger

/-- The ledger carries a message out. -/
def Succeeds (l : Ledger) (env : Env) (sender : Address) (m : Message) : Prop :=
  ∃ l' r, l.execute env sender m = .ok (l', r)

/-- A message moves stablecoin or burns it. -/
def Message.Spends : Message → Prop
  | .transfer .. | .transferFrom .. | .send .. | .burn .. => True
  | _ => False

/-- Why a ledger does not move or burn stablecoin: the message does not name an address, one of the
    conditions is not met, or the policy cannot be asked. -/
inductive Refusal (l : Ledger) (env : Env) : Error → Prop where
  | blank : Refusal l env .zeroAddress
  | rejected (r : Address.Rejection) : Refusal l env (.fault (.invalidAddress r))
  | zeroAmount : Refusal l env .zeroAmount
  | paused : Refusal l env .paused
  | notAllowed : Refusal l env .transferNotAllowed
  | unasked {policy a : Address} {f : Fault} (configured : l.config.policy = some policy)
      (fails : Policy.askAllowed env.querier policy a = .error f) : Refusal l env (.fault f)
  | unlisted : Refusal l env .invalidMinter
  | notMinted : Refusal l env .burnExceedsMinted
  | notHeld : Refusal l env .notEnoughBalance
  | notAllotted : Refusal l env .insufficientAllowance

variable {l l₁ : Ledger} {env : Env} {sender : Address} {m : Message} {amount : Amount} {e : Error}

/-! ## Failed checks -/

theorem validAddress_eq_error_iff {text : String} :
    validAddress text = .error e ↔ (Text.isBlank text = true ∧ e = .zeroAddress) ∨
      (Text.isBlank text = false ∧ ∃ r, Address.check text = .error r ∧
        e = .fault (.invalidAddress r)) := by
  simp only [validAddress, bind_eq_error_iff, require_eq_error_iff, require_eq_ok_iff, exists_const,
    liftM, monadLift_eq_error_iff, Address.validate, mapError_eq_error_iff, Bool.not_eq_true,
    Bool.not_eq_false]
  constructor
  · rintro (⟨hblank, rfl⟩ | ⟨hblank, f, ⟨r, hcheck, rfl⟩, rfl⟩)
    · exact .inl ⟨hblank, rfl⟩
    · exact .inr ⟨hblank, r, hcheck, rfl⟩
  · rintro (⟨hblank, rfl⟩ | ⟨hblank, r, hcheck, rfl⟩)
    · exact .inl ⟨hblank, rfl⟩
    · exact .inr ⟨hblank, _, ⟨r, hcheck, rfl⟩, rfl⟩

theorem checkRecipient_eq_error_iff {c : Config} {a : Address} :
    checkRecipient c env a = .error e ↔ ∃ policy, c.policy = some policy ∧
      ((Policy.askAllowed env.querier policy a = .ok false ∧ e = .transferNotAllowed) ∨
        ∃ f, Policy.askAllowed env.querier policy a = .error f ∧ e = .fault f) := by
  unfold checkRecipient
  split
  · rename_i hnone
    simp [hnone]
  · rename_i policy hsome
    simp only [hsome, Option.some.injEq, exists_eq_left', bind_eq_error_iff, liftM,
      monadLift_eq_error_iff, monadLift_eq_ok_iff, require_eq_error_iff]
    constructor
    · rintro (⟨f, hfails, rfl⟩ | ⟨answer, hanswer, hno, rfl⟩)
      · exact .inr ⟨f, hfails, rfl⟩
      · rw [Bool.not_eq_true] at hno
        exact .inl ⟨hno ▸ hanswer, rfl⟩
    · rintro (⟨hno, rfl⟩ | ⟨f, hfails, rfl⟩)
      · exact .inr ⟨false, hno, Bool.false_ne_true, rfl⟩
      · exact .inl ⟨f, hfails, rfl⟩

theorem debit_eq_error_iff {a : Address} :
    l.debit a amount = .error e ↔
      (l.balances.get a).toNat < amount.toNat ∧ e = .notEnoughBalance := by
  simp only [debit, bind_eq_error_iff, mapError_eq_error_iff, Amount.checkedSub_eq_error_iff,
    pure_ne_error, and_false, exists_false, or_false]
  constructor
  · rintro ⟨o, ⟨rfl, hlt⟩, rfl⟩
    exact ⟨hlt, rfl⟩
  · rintro ⟨hlt, rfl⟩
    exact ⟨_, ⟨rfl, hlt⟩, rfl⟩

/-! ## Every check refuses -/

theorem failsWith_validAddress (text : String) :
    FailsWith (Refusal l env) (validAddress text) := by
  intro e hfails
  rcases validAddress_eq_error_iff.1 hfails with ⟨-, rfl⟩ | ⟨-, r, -, rfl⟩
  · exact .blank
  · exact .rejected r

theorem failsWith_checkMovement (a : Address) :
    FailsWith (Refusal l env) (checkMovement l.config env a) := by
  simp only [checkMovement, failsWith_bind_iff, failsWith_require_iff]
  refine ⟨fun _ => .paused, fun _ _ e hfails => ?_⟩
  obtain ⟨policy, hpolicy, ⟨-, rfl⟩ | ⟨f, hasked, rfl⟩⟩ := checkRecipient_eq_error_iff.1 hfails
  · exact .notAllowed
  · exact .unasked hpolicy hasked

theorem failsWith_debit (l₁ : Ledger) (a : Address) (amount : Amount) :
    FailsWith (Refusal l env) (l₁.debit a amount) := by
  intro e hfails
  obtain ⟨-, rfl⟩ := debit_eq_error_iff.1 hfails
  exact .notHeld

theorem failsWith_useAllowance (l₁ : Ledger) (owner : Address) (amount : Amount) :
    FailsWith (Refusal l env) (l₁.useAllowance owner sender amount) := by
  intro e hfails
  simp only [useAllowance, bind_eq_error_iff, mapError_eq_error_iff, pure_ne_error, and_false,
    exists_false, or_false] at hfails
  obtain ⟨o, -, rfl⟩ := hfails
  exact .notAllotted

/-! ## Sums and differences that are there -/

/-- What has been taken from somebody can be given to anybody. -/
theorem Sound.exists_credit (h : l.Sound) {payer : Address} (payee : Address)
    (hdebit : l.debit payer amount = .ok l₁) : ∃ l₂, l₁.credit payee amount = .ok l₂ := by
  have held : amount ≤ l.balances.get payer := by
    obtain ⟨left, hleft, -⟩ := debit_eq_ok_iff.1 hdebit
    rw [Amount.le_iff]
    omega
  obtain ⟨l₁', l₂, hdebit', hcredit⟩ := h.exists_debit_credit payee held
  obtain rfl : l₁ = l₁' := Except.ok.inj (hdebit ▸ hdebit')
  exact ⟨l₂, hcredit⟩

/-- What has been taken from somebody can be taken from the supply. -/
theorem Sound.exists_lowerSupply (h : l.Sound) {a : Address}
    (hdebit : l.debit a amount = .ok l₁) : ∃ l₂, l₁.lowerSupply amount = .ok l₂ := by
  obtain ⟨left, hleft, rfl⟩ := debit_eq_ok_iff.1 hdebit
  have hpart := l.balances.get_le_total a
  have htotal := h.total
  obtain ⟨supply, hlowered⟩ := Amount.exists_checkedSub (a := l.token.supply) (b := amount) (by
    rw [Amount.le_iff]
    omega)
  simp only [lowerSupply, hlowered]
  exact ⟨_, rfl⟩

/-- An allowance has no part in what is sound. -/
theorem Sound.useAllowance (h : l.Sound) {owner : Address}
    (hspent : l.useAllowance owner sender amount = .ok l₁) : l₁.Sound := by
  simp only [Ledger.useAllowance, bind_eq_ok_iff, pure_eq_ok_iff] at hspent
  obtain ⟨left, -, rfl⟩ := hspent
  exact ⟨h.total, h.holder, h.minter, h.current, h.next⟩

/-! ## Failed messages -/

/-- A movement, once it has passed its checks, fails for want of stablecoin only. -/
theorem Sound.failsWith_debit_credit {α : Type} (h : l₁.Sound) (payer payee : Address)
    (amount : Amount) (x : α) :
    FailsWith (Refusal l env) (do
      let l₂ ← l₁.debit payer amount
      let l₃ ← l₂.credit payee amount
      return (l₃, x)) := by
  simp only [failsWith_bind_iff, failsWith_pure, implies_true, and_true]
  refine ⟨failsWith_debit l₁ payer amount, fun l₂ hdebit => ?_⟩
  obtain ⟨l₃, hcredit⟩ := h.exists_credit payee hdebit
  rw [hcredit]
  exact failsWith_ok l₃

theorem Sound.failsWith_burn (h : l.Sound) (sender : Address) (amount : Amount) :
    FailsWith (Refusal l env) (l.burn sender amount) := by
  simp only [burn, failsWith_bind_iff, failsWith_require_iff, failsWith_pure, listedMinter,
    bind_eq_ok_iff, require_eq_ok_iff, exists_const, pure_eq_ok_iff, implies_true, and_true]
  refine ⟨fun _ => .unlisted, ?_⟩
  rintro minter ⟨-, rfl⟩
  refine ⟨fun _ => .zeroAmount, fun _ _ => ⟨fun _ => .notMinted, fun _ hcounted => ?_⟩⟩
  refine ⟨failsWith_debit l sender amount, fun l₁ hdebit => ?_⟩
  obtain ⟨l₂, hlower⟩ := h.exists_lowerSupply hdebit
  obtain ⟨minted, hminted⟩ := Amount.exists_checkedSub hcounted
  have hminus : (l.minter sender).minted.minus amount = .ok minted :=
    Amount.minus_eq_ok_iff.2 (Amount.checkedSub_eq_ok_iff.1 hminted)
  rw [hlower, hminus]
  exact ⟨failsWith_ok l₂, fun _ _ => failsWith_ok minted⟩

/-- Whatever is not moved or burnt is refused for a reason of its own. -/
theorem Sound.failsWith_execute (h : l.Sound) (spends : m.Spends) :
    FailsWith (Refusal l env) (l.execute env sender m) := by
  cases m with
  | transfer recipient amount =>
    simp only [execute, transfer]
    refine failsWith_bind_iff.2 ⟨failsWith_validAddress recipient, fun payee _ => ?_⟩
    refine failsWith_bind_iff.2 ⟨failsWith_require_iff.2 fun _ => .zeroAmount, fun _ _ => ?_⟩
    refine failsWith_bind_iff.2 ⟨failsWith_checkMovement payee, fun _ _ => ?_⟩
    exact h.failsWith_debit_credit sender payee amount _
  | transferFrom owner recipient amount =>
    simp only [execute, transferFrom]
    refine failsWith_bind_iff.2 ⟨failsWith_validAddress owner, fun payer _ => ?_⟩
    refine failsWith_bind_iff.2 ⟨failsWith_validAddress recipient, fun payee _ => ?_⟩
    refine failsWith_bind_iff.2 ⟨failsWith_require_iff.2 fun _ => .zeroAmount, fun _ _ => ?_⟩
    refine failsWith_bind_iff.2 ⟨failsWith_checkMovement payee, fun _ _ => ?_⟩
    refine failsWith_bind_iff.2 ⟨failsWith_useAllowance l payer amount, fun l₁ hspent => ?_⟩
    exact (h.useAllowance hspent).failsWith_debit_credit payer payee amount _
  | send contract amount payload =>
    simp only [execute, send]
    refine failsWith_bind_iff.2 ⟨failsWith_validAddress contract, fun payee _ => ?_⟩
    refine failsWith_bind_iff.2 ⟨failsWith_require_iff.2 fun _ => .zeroAmount, fun _ _ => ?_⟩
    refine failsWith_bind_iff.2 ⟨failsWith_checkMovement payee, fun _ _ => ?_⟩
    exact h.failsWith_debit_credit sender payee amount _
  | burn amount => exact h.failsWith_burn sender amount
  | _ => exact spends.elim

/-! ## Messages that succeed -/

variable {recipient : Address}

theorem Succeeds.exists_step (h : l.Succeeds env sender m) :
    ∃ l' out, Step l env sender m l' out := by
  obtain ⟨l', r, hexec⟩ := h
  exact ⟨l', r.outgoing, step_of_execute hexec⟩

/-- A message that tells a contract moves as one that tells nobody does. -/
theorem succeeds_send_iff (payload : List UInt8) :
    l.Succeeds env sender (.send recipient amount payload)
      ↔ l.Succeeds env sender (.transfer recipient amount) := by
  simp only [Succeeds, execute, send, transfer, bind_eq_ok_iff, pure_eq_ok_iff, Prod.mk.injEq]
  constructor <;>
  · rintro ⟨-, -, payee, hpayee, _, hpositive, _, hmovable, l₂, hdebit, l₃, hcredit, -, -⟩
    exact ⟨_, _, payee, hpayee, _, hpositive, _, hmovable, l₂, hdebit, l₃, hcredit, rfl, rfl⟩

theorem Sound.succeeds_transfer_iff (h : l.Sound) (acceptable : Address.Acceptable recipient)
    (positive : amount ≠ 0) (isOpen : l.OpenTo env recipient) :
    l.Succeeds env sender (.transfer recipient amount) ↔ amount ≤ l.balances.get sender := by
  constructor
  · intro hsucceeds
    obtain ⟨l', out, hstep⟩ := hsucceeds.exists_step
    cases hstep with
    | transfer acceptable positive movable moves => exact moves.le_get
    | configure step => cases step
  · intro held
    obtain ⟨l', r, hexec, -⟩ :=
      h.exists_transfer acceptable positive (checkMovement_eq_ok_iff.2 isOpen) held
    exact ⟨l', r, hexec⟩

theorem Sound.succeeds_transferFrom_iff (h : l.Sound) {owner : Address}
    (acceptable : Address.Acceptable owner ∧ Address.Acceptable recipient) (positive : amount ≠ 0)
    (isOpen : l.OpenTo env recipient) :
    l.Succeeds env sender (.transferFrom owner recipient amount) ↔
      amount ≤ l.allowances.get (owner, sender) ∧ amount ≤ l.balances.get owner := by
  constructor
  · intro hsucceeds
    obtain ⟨l', out, hstep⟩ := hsucceeds.exists_step
    cases hstep with
    | transferFrom acceptable positive movable allowed moves =>
      refine ⟨?_, moves.le_get⟩
      rw [Amount.le_iff]
      omega
    | configure step => cases step
  · rintro ⟨allowed, held⟩
    obtain ⟨l', r, hexec, -⟩ := h.exists_transferFrom acceptable positive
      (checkMovement_eq_ok_iff.2 isOpen) allowed held
    exact ⟨l', r, hexec⟩

theorem Sound.succeeds_burn_iff (h : l.Sound) :
    l.Succeeds env sender (.burn amount) ↔ (l.minter sender).listed = true ∧ amount ≠ 0 ∧
      amount ≤ (l.minter sender).minted ∧ amount ≤ l.balances.get sender := by
  constructor
  · intro hsucceeds
    obtain ⟨l', out, hstep⟩ := hsucceeds.exists_step
    cases hstep with
    | burn listed positive debited lowered counted =>
      refine ⟨listed, positive, ?_, ?_⟩ <;>
      · rw [Amount.le_iff]
        omega
    | configure step => cases step
  · rintro ⟨listed, positive, counted, held⟩
    obtain ⟨l', r, hexec, -⟩ := h.exists_burn listed positive held counted
    exact ⟨l', r, hexec⟩

/-! ## Every ledger -/

/-- Exactly when stablecoin is moved or burnt, in every ledger that can be reached. If the recipient
    is acceptable, the amount is positive, and the ledger is open to the recipient, then a transfer
    and a transfer that tells a contract succeed just when the sender has the amount, and a transfer
    from an acceptable owner just when that owner has it and allows it. A burn succeeds just when
    the sender is a listed minter and the amount is positive and no greater than what it has minted
    and what it has; neither the pause nor the policy nor a price nor whether the minter is enabled
    matters. None of the four ever fails with an overflow, whoever sends it to whomever. If one
    fails with a fault then a text is rejected as an address, or the query to the policy failed with
    this fault. -/
theorem moved_and_burnt_exactly_when (h : l.Reachable) (env : Env) (sender : Address) :
    (∀ recipient amount, Address.Acceptable recipient → 0 < amount → l.OpenTo env recipient →
        (l.Succeeds env sender (.transfer recipient amount) ↔ amount ≤ l.balances.get sender) ∧
        (∀ payload, l.Succeeds env sender (.send recipient amount payload)
          ↔ amount ≤ l.balances.get sender) ∧
        ∀ owner, Address.Acceptable owner →
          (l.Succeeds env sender (.transferFrom owner recipient amount) ↔
            amount ≤ l.allowances.get (owner, sender) ∧ amount ≤ l.balances.get owner)) ∧
      (∀ amount, l.Succeeds env sender (.burn amount) ↔ (l.minter sender).listed = true ∧
        0 < amount ∧ amount ≤ min (l.minter sender).minted (l.balances.get sender)) ∧
      ∀ m : Message, m.Spends → ∀ e, l.execute env sender m = .error e →
        (∀ o, e ≠ .overflow o) ∧
        ∀ f, e = .fault f → (∃ r, f = .invalidAddress r) ∨
          ∃ policy ∈ l.config.policy, ∃ a, Policy.askAllowed env.querier policy a = .error f := by
  have hsound := h.sound
  refine ⟨?_, ?_, ?_⟩
  · intro recipient amount acceptable positive isOpen
    rw [Amount.pos_iff] at positive
    have htransfer : l.Succeeds env sender (.transfer recipient amount) ↔ _ :=
      hsound.succeeds_transfer_iff acceptable positive isOpen
    exact ⟨htransfer, fun payload => (succeeds_send_iff payload).trans htransfer,
      fun owner howner => hsound.succeeds_transferFrom_iff ⟨howner, acceptable⟩ positive isOpen⟩
  · intro amount
    rw [hsound.succeeds_burn_iff, Amount.pos_iff, Amount.le_iff (b := min _ _), Amount.toNat_min,
      Nat.le_min]
    rfl
  · intro m spends e hfails
    have hrefusal := hsound.failsWith_execute spends e hfails
    refine ⟨?_, ?_⟩
    · rintro o rfl
      cases hrefusal
    · rintro f rfl
      cases hrefusal with
      | rejected r => exact .inl ⟨r, rfl⟩
      | unasked configured fails => exact .inr ⟨_, configured, _, fails⟩

/-- A minter that is left with 40, and a holder of 50 that allows it 30. -/
def allottedRun : List Invocation :=
  mintedRun ++ [⟨aloneEnv, "alice", .increaseAllowance "minter" (.ofNat 30)⟩]

theorem moved_and_burnt_exactly_when_of_allottedRun :
    ∃ l : Ledger, l.Reachable ∧ Address.Acceptable "alice" ∧ l.OpenTo aloneEnv "alice" ∧
      l.Succeeds aloneEnv "minter" (.transfer "alice" (.ofNat 40)) ∧
      ¬ l.Succeeds aloneEnv "minter" (.send "alice" (.ofNat 41) []) ∧
      l.Succeeds aloneEnv "minter" (.transferFrom "alice" "alice" (.ofNat 30)) ∧
      ¬ l.Succeeds aloneEnv "minter" (.transferFrom "alice" "alice" (.ofNat 31)) ∧
      l.Succeeds aloneEnv "minter" (.burn (.ofNat 40)) ∧
      ¬ l.Succeeds aloneEnv "minter" (.burn (.ofNat 41)) ∧
      ∃ e, l.execute aloneEnv "alice" (.transfer "minter" (.ofNat 51)) = .error e ∧
        ∀ o, e ≠ .overflow o := by
  have hrun : ∃ l : Ledger, ∃ e, l.Reachable ∧ l.config.paused = false ∧ l.config.policy = none ∧
      (l.balances.get "minter").toNat = 40 ∧ (l.balances.get "alice").toNat = 50 ∧
      (l.allowances.get ("alice", "minter")).toNat = 30 ∧ (l.minter "minter").listed = true ∧
      (l.minter "minter").minted.toNat = 90 ∧
      l.execute aloneEnv "alice" (.transfer "minter" (.ofNat 51)) = .error e :=
    ⟨_, _, ⟨aloneEnv, "owner", plainSetup, _, _, allottedRun, rfl, rfl⟩, rfl, rfl, rfl, rfl, rfl,
      rfl, rfl, rfl⟩
  obtain ⟨l, e, hl, hactive, hpolicy, hminter, halice, hallowance, hlisted, hminted, hfails⟩ := hrun
  have acceptable : Address.Acceptable "alice" := ⟨by decide, by decide, by decide, by decide⟩
  have isOpen : l.OpenTo aloneEnv "alice" := ⟨hactive, by simp [hpolicy]⟩
  obtain ⟨hmoves, hburns, hrefused⟩ := moved_and_burnt_exactly_when hl aloneEnv "minter"
  obtain ⟨-, -, hrefused⟩ := moved_and_burnt_exactly_when hl aloneEnv "alice"
  have moves (n : Nat) (hn : 0 < Amount.ofNat n) := hmoves "alice" (.ofNat n) acceptable hn isOpen
  have takes (n : Nat) (hn : 0 < Amount.ofNat n) := (moves n hn).2.2 "alice" acceptable
  simp only [Amount.le_iff, hminter] at moves
  simp only [Amount.le_iff, halice, hallowance] at takes
  simp only [hlisted, true_and, Amount.le_iff, Amount.toNat_min, hminted, hminter] at hburns
  refine ⟨l, hl, acceptable, isOpen, (moves 40 (by decide)).1.2 (by decide), ?_,
    (takes 30 (by decide)).2 (by decide), ?_,
    (hburns (.ofNat 40)).2 (by decide), ?_, e, hfails,
    (hrefused (.transfer "minter" (.ofNat 51)) trivial e hfails).1⟩
  · rw [(moves 41 (by decide)).2.1 []]
    decide
  · rw [takes 31 (by decide)]
    decide
  · rw [hburns (.ofNat 41)]
    decide

end Ledger

end Stablecoin
