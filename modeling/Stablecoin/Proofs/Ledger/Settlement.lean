import Stablecoin.Proofs.Ledger.Minters

set_option autoImplicit false

/-! # Settling a debt on the ledger

A minter pulls stablecoin of a payer in and burns it, and may pay the payer some other stablecoin
after it. `Settled` says what has become of the ledger then. -/

namespace Stablecoin.Ledger

/-- A payer has covered a debt of a minter, and has been paid some stablecoin by it. -/
structure Settled (l l' : Ledger) (payer minter : Address) (debt paid : Amount) : Prop where
  config : l'.config = l.config
  supply : l.token.supply.toNat = l'.token.supply.toNat + debt.toNat
  minted : (l.minter minter).minted.toNat = (l'.minter minter).minted.toNat + debt.toNat
  allowance : (l.allowances.get (payer, minter)).toNat
    = (l'.allowances.get (payer, minter)).toNat + debt.toNat
  payer : (l.balances.get payer).toNat + paid.toNat
    = (l'.balances.get payer).toNat + debt.toNat
  minter : (l.balances.get minter).toNat = (l'.balances.get minter).toNat + paid.toNat

variable {l l₁ l' : Ledger} {env env' : Env} {payer minter : Address} {debt paid : Amount}
  {out out' : List Outgoing}

/-- What is pulled in is at hand to be burned. -/
theorem pulled_of_step (hne : payer ≠ minter)
    (h : l.Step env minter (.transferFrom payer minter debt) l' out) :
    l'.minter minter = l.minter minter ∧ debt ≤ l'.balances.get minter := by
  cases h with
  | configure step => cases step
  | transferFrom acceptable positive movable allowed moves =>
    have hpayee := moves.get_payee hne
    refine ⟨rfl, ?_⟩
    rw [Amount.le_iff]
    simp only
    omega

/-- A debt that is pulled in and burned is settled, with nothing paid so far. -/
theorem settled_of_steps (hne : payer ≠ minter)
    (hpull : l.Step env minter (.transferFrom payer minter debt) l₁ out)
    (hburn : l₁.Step env' minter (.burn debt) l' out') : Settled l l' payer minter debt 0 := by
  have hpulled := hpull.minted_add_overwritten minter
  have hburned := hburn.minted_add_overwritten minter
  simp only [if_true, overwritten, Message.net, Message.issued, Message.redeemed] at hpulled hburned
  cases hpull with
  | configure step => cases step
  | @transferFrom _ _ _ left balances acceptable positive movable allowed moves =>
    have hpayer := moves.get_payer hne
    have hminter := moves.get_payee hne
    cases hburn with
    | configure step => cases step
    | @burn _ minted balance supply listed positive debited lowered counted =>
      refine ⟨rfl, lowered, by omega, ?_, ?_, ?_⟩
      · simp only [Holdings.get_set_self]
        exact allowed
      · simp only [Holdings.get_set_of_ne _ _ hne.symm, Amount.toNat_zero]
        omega
      · simp only [Holdings.get_set_self, Amount.toNat_zero] at debited ⊢
        omega

/-- A transfer to the payer adds to what it has been paid. -/
theorem Settled.transfer (h : Settled l l₁ payer minter debt 0) (hne : payer ≠ minter)
    (hpay : l₁.Step env minter (.transfer payer paid) l' out) :
    Settled l l' payer minter debt paid := by
  cases hpay with
  | configure step => cases step
  | @transfer _ _ balances acceptable positive movable moves =>
    have hminter := moves.get_payer hne.symm
    have hpayer := moves.get_payee hne.symm
    have hpayer₁ := h.payer
    have hminter₁ := h.minter
    rw [Amount.toNat_zero] at hpayer₁ hminter₁
    exact ⟨h.config, h.supply, h.minted, h.allowance, by simp only; omega, by simp only; omega⟩

end Stablecoin.Ledger
