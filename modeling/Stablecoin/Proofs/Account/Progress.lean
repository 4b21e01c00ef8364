import Stablecoin.Proofs.Account.Payout
import Stablecoin.Proofs.Account.Step

set_option autoImplicit false

/-! # What an account cannot refuse

A repayment needs nothing of the account but debt, stablecoin and a fee that can be counted
(`exists_repay`). A liquidation needs a default, and that the value that is due can be counted
(`exists_liquidate`): what is paid is then a part of what the account is worth. -/

namespace Stablecoin.Account

variable {a : Account} {env : Env} {sender : Address} {amount : Amount}

/-- A step of the arithmetic that succeeds does so in an operation of the account. -/
@[simp] theorem liftM_ok {α : Type} (x : α) :
    (liftM (Except.ok x : Except Fault α) : Except Error α) = .ok x := rfl

/-! ## Repayment -/

theorem exists_repay {balance fee : Amount} (authorized : sender = a.config.borrower)
    (positive : amount ≠ 0) (owed : amount ≤ a.position.borrowed)
    (held : a.stablecoinBalance env = .ok balance) (enough : amount ≤ balance)
    (due : a.position.feeAt a.risk.spreadFee env.now = .ok fee) :
    ∃ a' r, a.execute env sender (.repay amount) = .ok (a', r) ∧
      a.position.borrowed.toNat = a'.position.borrowed.toNat + amount.toNat ∧
      a'.config = a.config ∧
      r.outgoing = [{ action := a.tellLedger (Ledger.burnJson amount) }] := by
  obtain ⟨borrowed, hleft⟩ := Amount.exists_checkedSub owed
  have hborrowed := Amount.checkedSub_eq_ok_iff.1 hleft
  have hminus : a.position.borrowed.minus amount = .ok borrowed :=
    Amount.minus_eq_ok_iff.2 hborrowed
  have hcheckpoint : a.position.checkpointAt a.risk.spreadFee env.now
      = .ok { a.position with accruedFee := fee, checkpoint := env.now } :=
    checkpointAt_eq_ok_iff.2 ⟨fee, due, rfl⟩
  simp only [execute, repay, requireBorrower, require_of _ authorized, require_of _ positive,
    require_of _ owed, held, require_of _ enough, hcheckpoint, hminus, liftM_ok, ok_bind]
  exact ⟨_, _, rfl, hborrowed, rfl, rfl⟩

/-! ## Default -/

theorem minEquityRatio_le_of_check {risk : RiskConfig} (h : risk.check = .ok ()) :
    risk.minEquityRatio.toNat ≤ precision := by
  simp only [RiskConfig.check, requireRatio, bind_eq_ok_iff, require_eq_ok_iff, exists_const] at h
  exact h.1

/-- Only an account that owes something can be in default. -/
theorem indebted_of_isDefaulted {v : Valuation} {ratio : Ratio} (checked : a.risk.check = .ok ())
    (measured : v.equityRatio a.position.borrowed = .ok ratio)
    (defaulted : isDefaulted ratio a.risk.minEquityRatio = true) : a.position.borrowed ≠ 0 := by
  intro hzero
  obtain ⟨value, debt, -, howed, hratio⟩ := Valuation.equityRatio_eq_ok_iff.1 measured
  rw [Valuation.debtValue_eq_ok_iff, hzero, Amount.toNat_zero, Nat.zero_mul, Nat.zero_div] at howed
  have hshare := toNat_of_equityRatio hratio
  -- without debt all of the value is equity
  have hone : equityShare value.toNat 0 = precision := by
    unfold equityShare
    split
    · rfl
    · rename_i hvalue
      rw [Nat.sub_zero, Nat.mul_comm, Nat.mul_div_cancel _ (Nat.pos_of_ne_zero hvalue)]
  rw [howed, hone] at hshare
  have hmin := minEquityRatio_le_of_check checked
  rw [isDefaulted, decide_eq_true_eq, UInt32.lt_iff_toNat_lt] at defaulted
  omega

/-- An account that says that it is in default has a value, a debt and a ratio. -/
theorem query_isDefaulted_eq_true (h : a.query env .isDefaulted = .ok (.bool true)) :
    ∃ v ratio, a.valuation env = .ok v ∧ v.equityRatio a.position.borrowed = .ok ratio ∧
      isDefaulted ratio a.risk.minEquityRatio = true := by
  simp only [query, currentEquityRatio, bind_eq_ok_iff, pure_eq_ok_iff, Json.bool.injEq] at h
  obtain ⟨ratio, ⟨v, valued, measured⟩, defaulted⟩ := h
  exact ⟨v, ratio, valued, measured, defaulted⟩

/-! ## Liquidation -/

variable {v : Valuation}

/-- The value that a liquidator is entitled to can be told as soon as the value of the debt and the
    discount on it can. -/
theorem exists_entitlement {debt value debtValue : Amount} {discount : Ratio}
    (bounded : discount.toNat ≤ precision) (current : v.currentValue = .ok value)
    (owed : v.debtValue debt = .ok debtValue)
    (inRange : debtValue.toNat * (precision + discount.toNat) / precision < Amount.size) :
    ∃ entitled, entitlement v debt discount = .ok entitled ∧ entitled.toNat ≤ v.worth := by
  have hfactor : min (precision + discount.toNat) (UInt32.size - 1)
      = precision + discount.toNat := by
    have hsize : precision + precision ≤ UInt32.size - 1 := by decide
    omega
  have hdiscounted : applyRatio debtValue (min (precision + discount.toNat) (UInt32.size - 1))
      = .ok ⟨_, inRange⟩ := by
    rw [applyRatio_eq_ok_iff, hfactor]
  refine ⟨min ⟨_, inRange⟩ value, ?_, ?_⟩
  · simp only [entitlement, owed, hdiscounted, current, ok_bind]
    rfl
  · rw [Amount.toNat_min, ← Valuation.currentValue_eq_ok_iff.1 current]
    exact Nat.min_le_right _ _

/-- What is left of an amount after as much of it as possible has been taken from a source. -/
theorem exists_rest (amount source : Amount) :
    ∃ rest : Amount, amount.toNat = rest.toNat + (min amount source).toNat := by
  have hle : min amount source ≤ amount := by
    rw [Amount.le_iff, Amount.toNat_min]
    exact Nat.min_le_left _ _
  obtain ⟨rest, hrest⟩ := Amount.exists_checkedSub hle
  exact ⟨rest, Amount.checkedSub_eq_ok_iff.1 hrest⟩

/-- Any part of what an account is worth can be paid out. -/
theorem exists_payout {entitled : Amount} (priced : v.targetPrice ≠ 0)
    (hworth : entitled.toNat ≤ v.worth) : ∃ p, payout v entitled = .ok p := by
  obtain ⟨afterQuote, hquote⟩ := exists_rest entitled v.quoteBalance
  obtain ⟨afterBackend, hbackend⟩ := exists_rest afterQuote v.assetValue
  have hentitled := entitled.isLt
  obtain ⟨quotePaid, hpaid⟩ : ∃ quotePaid : Amount, quotePaid.toNat
      = (min entitled v.quoteBalance).toNat + (min afterQuote v.assetValue).toNat :=
    ⟨⟨_, by omega⟩, rfl⟩
  -- what is left to pay is covered by stablecoin, so there is no more of it than the account has
  have hleft : afterBackend.toNat
      ≤ v.stablecoinBalance.toNat * v.targetPrice.toNat / precision := by
    rw [Amount.toNat_min] at hquote hbackend
    unfold Valuation.worth at hworth
    generalize v.stablecoinBalance.toNat * v.targetPrice.toNat / precision = value at hworth ⊢
    omega
  obtain ⟨stablecoin, hstablecoin⟩ : ∃ stablecoin : Amount, stablecoin.toNat
      = afterBackend.toNat * precision / v.targetPrice.toNat :=
    ⟨⟨_, Nat.lt_of_le_of_lt (amount_le_of_le_value hleft) v.stablecoinBalance.isLt⟩, rfl⟩
  have hprice : v.targetPrice.toNat ≠ 0 := fun hzero => priced (Amount.eq_zero_iff.2 hzero)
  simp only [payout, Amount.minus_eq_ok_iff.2 hquote, Amount.minus_eq_ok_iff.2 hbackend,
    Amount.plus_eq_ok_iff.2 hpaid, stablecoinAmount_eq_ok_iff.2 ⟨hprice, hstablecoin⟩, ok_bind]
  exact ⟨_, rfl⟩

/-- An account that is in default can be liquidated, by whomever. -/
theorem exists_liquidate {debtValue : Amount} {ratio : Ratio} (checked : a.risk.check = .ok ())
    (valued : a.valuation env = .ok v) (priced : v.targetPrice ≠ 0)
    (measured : v.equityRatio a.position.borrowed = .ok ratio)
    (defaulted : isDefaulted ratio a.risk.minEquityRatio = true)
    (owed : v.debtValue a.position.borrowed = .ok debtValue)
    (inRange : debtValue.toNat * (precision + a.risk.liquidatorDiscount.toNat) / precision
      < Amount.size) :
    ∃ a' r p due, a.execute env sender .liquidate = .ok (a', r) ∧ a'.config = a.config ∧
      p.Covers v due ∧ due ≤ v.worth ∧
      r.outgoing = (a.settlement env.self sender a.position.borrowed p).map
        fun action => { action } := by
  have indebted := indebted_of_isDefaulted checked measured defaulted
  obtain ⟨value, debtValue', current, howed, -⟩ := Valuation.equityRatio_eq_ok_iff.1 measured
  cases owed.symm.trans howed
  obtain ⟨entitled, hentitled, hworth⟩ :=
    exists_entitlement (discount_le_of_check checked) current owed inRange
  obtain ⟨p, hpayout⟩ := exists_payout priced hworth
  have covers := covers_of_payout hpayout hworth
  -- the value of what is paid is no more than what is due
  have hvalue := covers.value_le
  have hlt := entitled.isLt
  have hstablecoin : quoteValue p.stablecoinPaid v.targetPrice
      = .ok ⟨p.stablecoinPaid.toNat * v.targetPrice.toNat / precision, by omega⟩ :=
    quoteValue_eq_ok_iff.2 rfl
  have hsum : Amount.checkedAdd
      ⟨p.stablecoinPaid.toNat * v.targetPrice.toNat / precision, by omega⟩ p.quotePaid
      = .ok ⟨p.stablecoinPaid.toNat * v.targetPrice.toNat / precision + p.quotePaid.toNat,
          by omega⟩ :=
    Amount.checkedAdd_eq_ok_iff.2 rfl
  simp only [execute, liquidate, valued, measured, require_of _ (And.intro indebted defaulted),
    hentitled, hpayout, hstablecoin, hsum, mapError_ok, liftM_ok, ok_bind]
  exact ⟨_, _, p, _, rfl, rfl, covers, hworth, rfl⟩

end Stablecoin.Account
