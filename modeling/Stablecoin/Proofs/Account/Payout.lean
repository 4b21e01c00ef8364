import Stablecoin.Proofs.Account.Step
import Stablecoin.Proofs.Account.Valuation

set_option autoImplicit false

/-! # The payout of a liquidation

A liquidator is due the value of the debt and a discount on it, at most all that the account is
worth. `Payout.Covers` says what is paid for a value that is due: quote currency first, then from
the investment, then stablecoin; never more than is due, and less by no more than rounding takes. -/

namespace Stablecoin.Account

/-! ## What is due -/

/-- The value that is due to a liquidator, as a number. -/
def due (v : Valuation) (debt : Amount) (discount : Ratio) : Nat :=
  min (debt.toNat * v.targetPrice.toNat / precision * (precision + discount.toNat) / precision)
    v.worth

theorem discount_le_of_check {risk : RiskConfig} (h : risk.check = .ok ()) :
    risk.liquidatorDiscount.toNat ≤ precision := by
  simp only [RiskConfig.check, requireRatio, bind_eq_ok_iff, require_eq_ok_iff, exists_const] at h
  exact h.2.2.1

/-- A payout covers a value that is due, as far as the order of the assets and rounding allow. -/
structure Payout.Covers (p : Payout) (v : Valuation) (due : Nat) : Prop where
  fromQuote : p.fromQuote.toNat = min due v.quoteBalance.toNat
  fromBackend : p.fromBackend.toNat = min (due - v.quoteBalance.toNat) v.assetValue.toNat
  quotePaid_eq_add : p.quotePaid.toNat = p.fromQuote.toNat + p.fromBackend.toNat
  quotePaid : p.quotePaid.toNat = min due (v.quoteBalance.toNat + v.assetValue.toNat)
  priced : v.targetPrice ≠ 0
  stablecoinPaid : p.stablecoinPaid.toNat
    = (due - p.quotePaid.toNat) * precision / v.targetPrice.toNat
  enough : p.stablecoinPaid ≤ v.stablecoinBalance

theorem covers_of_payout {v : Valuation} {entitled : Amount} {p : Payout}
    (h : payout v entitled = .ok p) (hworth : entitled.toNat ≤ v.worth) :
    p.Covers v entitled.toNat := by
  simp only [payout, bind_eq_ok_iff, Amount.minus_eq_ok_iff, Amount.plus_eq_ok_iff,
    stablecoinAmount_eq_ok_iff, pure_eq_ok_iff] at h
  obtain ⟨afterQuote, hquote, afterBackend, hbackend, quotePaid, hpaid, stablecoin,
    ⟨hprice, hamount⟩, rfl⟩ := h
  simp only [Amount.toNat_min] at hquote hbackend hpaid
  have hafter : afterBackend.toNat = entitled.toNat - quotePaid.toNat := by omega
  have hleft : afterBackend.toNat
      ≤ v.stablecoinBalance.toNat * v.targetPrice.toNat / precision := by
    unfold Valuation.worth at hworth
    generalize v.stablecoinBalance.toNat * v.targetPrice.toNat / precision = value at hworth ⊢
    omega
  have henough : stablecoin.toNat ≤ v.stablecoinBalance.toNat := by
    rw [hamount]
    exact amount_le_of_le_value hleft
  refine ⟨?_, ?_, ?_, ?_, fun hzero => hprice (Amount.eq_zero_iff.1 hzero), ?_, ?_⟩
  · exact Amount.toNat_min _ _
  · simp only [Amount.toNat_min]
    omega
  · simp only [Amount.toNat_min]
    exact hpaid
  · simp only
    omega
  · rw [hafter] at hamount
    simp only [Amount.toNat_min]
    omega
  · rw [Amount.le_iff, Amount.toNat_min]
    exact Nat.min_le_right _ _

namespace Payout.Covers

variable {p : Payout} {v : Valuation} {due : Nat}

/-- No more than is due is paid. -/
theorem value_le (h : p.Covers v due) :
    p.quotePaid.toNat + p.stablecoinPaid.toNat * v.targetPrice.toNat / precision ≤ due := by
  have hle := value_amount_le (due - p.quotePaid.toNat) v.targetPrice.toNat
  have hquote := h.quotePaid
  rw [h.stablecoinPaid]
  omega

end Payout.Covers

end Stablecoin.Account
