import Stablecoin.Proofs.Account.Resubmission
import Stablecoin.Proofs.Chain.Loan
import Stablecoin.Proofs.Ledger.Accounting
import Stablecoin.Proofs.Ledger.Commute

set_option autoImplicit false

/-! # Borrowing and repaying at once

Whoever borrows can repay as much in the same block, and then everything is as it was before
(`repay_undoes_borrow`). The mint has to pass a cap, a peg gate and a policy which the burn does not
look at, so all that the burn needs follows from what the mint has left behind (`Draws.redeems`).

One thing is not as it was, and nobody can see it: the fee up to now is on record. As no fee accrues
in no time, it is reported as before, so the two chains answer every query alike
(`Joint.mirrors_booked`). -/

namespace Stablecoin.Chain

open Account

variable {σ : Type} [Outside σ] {c c₁ : Chain σ} {self sender : Address} {a : Account} {l : Ledger}
  {amount : Amount} {f : Figures}

/-- The figures before anything is borrowed, but for a fee on record. -/
def figuresBefore (a : Account) (l : Ledger) (self : Address) (fee : Amount) : Figures where
  debt := a.position.borrowed
  fee
  minted := (l.minter self).minted
  held := l.balances.get self
  supply := l.token.supply

/-- What has been borrowed can be repaid, and the figures are as before. -/
theorem Draws.redeems {env : Env} {now : Seconds} (checked : a.risk.check = .ok ())
    (draws : Draws a now amount f) (mints : Mints l env self amount f) :
    Redeems (a.booked f now) (l.booked self f) now self amount (figuresBefore a l self f.fee) where
  positive := draws.positive
  repaid := draws.drawn
  fee := feeAt_booked checked f now
  valid := Address.validate_of_acceptable mints.acceptable
  listed := by
    rw [Ledger.minter_booked]
    exact mints.registered.1
  counted := by
    rw [Ledger.minter_booked]
    exact mints.counted
  debited := by
    rw [Ledger.get_balances_booked]
    exact mints.credited
  lowered := mints.raised

/-- A ledger on which a minter's figures are booked as they are agrees with itself. -/
theorem agrees_booked_before (listed : (l.minter self).listed = true) (fee : Amount) :
    l.Agrees (l.booked self (figuresBefore a l self fee)) where
  config := rfl
  token := rfl
  registry := rfl
  nominee := rfl
  minters b := by
    obtain ⟨entry, hentry⟩ := Option.isSome_iff_exists.1 (Ledger.exists_entry_of_listed listed)
    have hsame : { l.minter self with minted := (l.minter self).minted } = entry :=
      Ledger.minter_eq_of_find? hentry
    simp only [Ledger.booked, figuresBefore, hsame, Table.insert_of_find? hentry]
  balances b := Holdings.get_set_get _ _ _
  allowances _ _ := rfl

/-- With the figures as before, a chain answers as before. -/
theorem Joint.mirrors_booked {fee : Amount} (h : Joint c self a l) (checked : a.risk.check = .ok ())
    (due : a.position.feeAt a.risk.spreadFee c.now = .ok fee)
    (agrees : l.Agrees (l.booked self (figuresBefore a l self fee))) :
    Mirrors c (c.booked self a l (figuresBefore a l self fee)) where
  now := rfl
  balance := rfl
  contract? b := by
    have hjoint := h.booked (figuresBefore a l self fee)
    by_cases hself : b = self
    · subst hself
      refine .inr ⟨_, _, h.account, hjoint.account, fun env q hnow => ?_⟩
      -- the fee is on record, and reported as before
      have hfee : (a.onRecord fee c.now).position.feeAt a.risk.spreadFee env.now
          = a.position.feeAt a.risk.spreadFee env.now := by
        rw [hnow, due]
        exact feeAt_booked checked (figuresBefore a l b fee) c.now
      show (Contract.account (a.onRecord fee c.now)).query env q = _
      simp only [Contract.query, query_eq_of_feeAt hfee]
    · by_cases hledger : b = a.config.ledger
      · subst hledger
        refine .inr ⟨_, _, h.ledger, hjoint.ledger, fun env q _ => ?_⟩
        simp only [Contract.query, agrees.query_eq]
      · rw [contract?_booked hself hledger]
        cases c.contract? b with
        | none => exact .inl ⟨rfl, rfl⟩
        | some k => exact .inr ⟨k, k, rfl, rfl, fun _ _ _ => rfl⟩

/-- Repaying undoes borrowing, on every chain: once an amount is borrowed, its repayment by the
    borrower completes in the same block, and after it the ledger agrees with what it was on every
    balance, every allowance, the supply and every minter, the account owes, states and reports what
    it did, the money is where it was, and every query to whatever contract is answered as
    before. -/
theorem repay_undoes_borrow {drawing repaying : Call} {records : List Record}
    (h : Joint c self a l) (checked : a.risk.check = .ok ())
    (draws : drawing.Orders sender self (.borrow amount))
    (repays : repaying.Orders a.config.borrower self (.repay amount))
    (drawn : c.transact drawing = .ok (c₁, records)) :
    ∃ c₂ records₂ a₂ l₂, c₁.transact repaying = .ok (c₂, records₂) ∧ Joint c₂ self a₂ l₂ ∧
      l.Agrees l₂ ∧ a₂.config = a.config ∧ a₂.risk = a.risk ∧
      a₂.position.borrowed = a.position.borrowed ∧
      a₂.position.statedValue = a.position.statedValue ∧
      a₂.position.paused = a.position.paused ∧
      a₂.position.feeAt a₂.risk.spreadFee c.now = a.position.feeAt a.risk.spreadFee c.now ∧
      (∀ b denom, c₂.balance b denom = c.balance b denom) ∧
      (∀ b, b ≠ self → b ≠ a.config.ledger → c₂.contract? b = c.contract? b) ∧
      ∀ b q, c₂.query b q = c.query b q := by
  obtain ⟨-, f, draws, mints, rfl⟩ := (h.transact_borrow_iff draws).1 ⟨records, drawn⟩
  have hrepaid := ((h.booked f).transact_repay_iff repays).2
    ⟨rfl, _, draws.redeems checked mints, rfl⟩
  rw [h.booked_booked] at hrepaid
  obtain ⟨records₂, hrepaid⟩ := hrepaid
  have agrees := agrees_booked_before (a := a) mints.registered.1 f.fee
  have mirrors := h.mirrors_booked checked draws.fee agrees
  refine ⟨_, records₂, _, _, hrepaid, h.booked _, agrees, rfl, rfl, rfl, rfl, rfl, ?_,
    fun b denom => rfl, fun b => contract?_booked, mirrors.query_eq⟩
  rw [draws.fee]
  exact feeAt_booked checked _ c.now

/-- An account that owes 40 and a fee of 4 on it, and borrows and repays all that the ledger lets it
    mint. -/
theorem repay_undoes_borrow_of_lendingChain :
    ∃ c₁ records c₂ records₂ a₂ l₂,
      lendingChain.transact (lendingCall "borrow" (.ofNat 60)) = .ok (c₁, records) ∧
      c₁.transact (lendingCall "repay" (.ofNat 60)) = .ok (c₂, records₂) ∧
      Joint c₂ "account" a₂ l₂ ∧ l₂.token.supply = .ofNat 40 ∧
      a₂.position.feeAt a₂.risk.spreadFee lendingChain.now = .ok (.ofNat 4) ∧
      c₂.query "account" (.tagged "equity_ratio" []) = .ok (.word32 555555) := by
  have hdrawn : ∃ c₁ records, lendingChain.transact (lendingCall "borrow" (.ofNat 60))
      = .ok (c₁, records) := ⟨_, _, rfl⟩
  obtain ⟨c₁, records, drawn⟩ := hdrawn
  have draws : (lendingCall "borrow" (.ofNat 60)).Orders "borrower" "account"
      (.borrow (.ofNat 60)) := ⟨_, rfl, rfl⟩
  have repays : (lendingCall "repay" (.ofNat 60)).Orders "borrower" "account"
      (.repay (.ofNat 60)) := ⟨_, rfl, rfl⟩
  obtain ⟨c₂, records₂, a₂, l₂, repaid, h₂, agrees, -, -, -, -, -, hfee, -, -, answers⟩ :=
    repay_undoes_borrow joint_lendingChain rfl draws repays drawn
  refine ⟨c₁, records, c₂, records₂, a₂, l₂, drawn, repaid, h₂, ?_, ?_, ?_⟩
  · rw [agrees.token]
    rfl
  · rw [hfee]
    rfl
  · rw [answers]
    rfl

end Stablecoin.Chain
