import Stablecoin.Account.Query
import Stablecoin.Account.Liquidation
import Stablecoin.Proofs.Rounding

set_option autoImplicit false

/-! # Values and ratios of an account

The value of an account, its equity ratio and the solvency check as statements about numbers. -/

namespace Stablecoin.Account

/-! ## Values -/

theorem valuation_eq_ok_iff {a : Account} {env : Env} {v : Valuation} :
    a.valuation env = .ok v ↔ a.assetValue env = .ok v.assetValue ∧
      a.stablecoinBalance env = .ok v.stablecoinBalance ∧
      Ledger.askTargetPrice env.querier a.config.ledger = .ok v.targetPrice ∧
      v.quoteBalance = a.quoteBalance env := by
  simp only [valuation, bind_eq_ok_iff, pure_eq_ok_iff]
  constructor
  · rintro ⟨assetValue, hasset, stablecoinBalance, hstablecoin, targetPrice, hprice, rfl⟩
    exact ⟨hasset, hstablecoin, hprice, rfl⟩
  · rintro ⟨hasset, hstablecoin, hprice, hquote⟩
    exact ⟨_, hasset, _, hstablecoin, _, hprice, by rw [← hquote]⟩

namespace Valuation

variable {v : Valuation}

/-- The value as a number, in range or not. -/
def worth (v : Valuation) : Nat :=
  v.assetValue.toNat + v.quoteBalance.toNat
    + v.stablecoinBalance.toNat * v.targetPrice.toNat / precision

theorem currentValue_eq_ok_iff {value : Amount} :
    v.currentValue = .ok value ↔ value.toNat = v.worth := by
  simp only [currentValue, bind_eq_ok_iff, mapError_eq_ok_iff, Amount.checkedAdd_eq_ok_iff,
    quoteValue_eq_ok_iff, worth]
  constructor
  · rintro ⟨held, hheld, stablecoin, hstablecoin, hvalue⟩
    omega
  · intro hvalue
    -- the parts are in range because the whole is
    have hlt := value.isLt
    rw [hvalue] at hlt
    exact ⟨⟨_, Nat.lt_of_le_of_lt (Nat.le_add_right _ _) hlt⟩, rfl,
      ⟨_, Nat.lt_of_le_of_lt (Nat.le_add_left _ _) hlt⟩, rfl, hvalue⟩

theorem debtValue_eq_ok_iff {borrowed debt : Amount} :
    v.debtValue borrowed = .ok debt ↔
      debt.toNat = borrowed.toNat * v.targetPrice.toNat / precision :=
  quoteValue_eq_ok_iff

theorem equityRatio_eq_ok_iff {borrowed : Amount} {ratio : Ratio} :
    v.equityRatio borrowed = .ok ratio ↔ ∃ value debt, v.currentValue = .ok value ∧
      v.debtValue borrowed = .ok debt ∧ Account.equityRatio value debt = .ok ratio := by
  simp only [equityRatio, bind_eq_ok_iff]
  constructor
  · rintro ⟨value, hvalue, debt, hdebt, hratio⟩
    exact ⟨value, debt, hvalue, hdebt, hratio⟩
  · rintro ⟨value, debt, hvalue, hdebt, hratio⟩
    exact ⟨value, hvalue, debt, hdebt, hratio⟩

end Valuation

/-! ## Ratios -/

/-- The equity ratio as a number. -/
def equityShare (value debt : Nat) : Nat :=
  if value = 0 then if debt = 0 then precision else 0 else (value - debt) * precision / value

theorem equityShare_le (value debt : Nat) : equityShare value debt ≤ precision := by
  unfold equityShare
  split
  · split
    · exact Nat.le_refl _
    · exact Nat.zero_le _
  · exact Nat.div_le_of_le_mul (Nat.mul_le_mul_right _ (Nat.sub_le _ _))

theorem toNat_ofNat_of_le_precision {n : Nat} (h : n ≤ precision) : (UInt32.ofNat n).toNat = n :=
  UInt32.toNat_ofNat_of_lt' (Nat.lt_of_le_of_lt h (by decide))

/-- The equity ratio can always be told. -/
theorem exists_equityRatio (value debt : Amount) :
    ∃ ratio, equityRatio value debt = .ok ratio ∧
      ratio.toNat = equityShare value.toNat debt.toNat := by
  have hle := equityShare_le value.toNat debt.toNat
  unfold equityRatio
  by_cases hvalue : value = 0
  · subst hvalue
    rw [if_pos rfl]
    refine ⟨_, rfl, ?_⟩
    simp only [equityShare, Amount.toNat_zero, if_true, ← Amount.eq_zero_iff]
    split <;> rfl
  · have hpos : value.toNat ≠ 0 := fun h => hvalue (Amount.eq_zero_iff.2 h)
    rw [equityShare, if_neg hpos] at hle ⊢
    rw [if_neg hvalue]
    by_cases hcovered : value ≤ debt
    · rw [if_pos hcovered]
      rw [Amount.le_iff] at hcovered
      refine ⟨0, rfl, ?_⟩
      rw [Nat.sub_eq_zero_of_le hcovered, Nat.zero_mul, Nat.zero_div]
      rfl
    · rw [if_neg hcovered]
      rw [Amount.le_iff] at hcovered
      have hequity : value.minus debt
          = .ok ⟨value.toNat - debt.toNat, by have := value.isLt; omega⟩ := by
        rw [Amount.minus_eq_ok_iff]
        change value.toNat = value.toNat - debt.toNat + debt.toNat
        omega
      have hratio : mulDiv ⟨value.toNat - debt.toNat, by have := value.isLt; omega⟩ precision
          value.toNat = .ok ⟨_, Nat.lt_of_le_of_lt hle (by decide)⟩ :=
        mulDiv_eq_ok_iff.2 ⟨hpos, rfl⟩
      simp only [hequity, hratio, ok_bind]
      exact ⟨_, rfl, toNat_ofNat_of_le_precision hle⟩

theorem toNat_of_equityRatio {value debt : Amount} {ratio : Ratio}
    (h : equityRatio value debt = .ok ratio) :
    ratio.toNat = equityShare value.toNat debt.toNat := by
  obtain ⟨ratio', hratio', hshare⟩ := exists_equityRatio value debt
  rw [h] at hratio'
  cases hratio'
  exact hshare

theorem isDefaulted_eq_false_iff {ratio minEquityRatio : Ratio} :
    isDefaulted ratio minEquityRatio = false ↔ minEquityRatio ≤ ratio := by
  simp [isDefaulted, UInt32.not_lt]

/-! ## Solvency -/

/-- The value covers the debt, and what is left of it is at least the minimum share of the value. -/
def Solvent (minEquityRatio : Ratio) (value debt : Nat) : Prop :=
  debt ≤ value ∧ minEquityRatio.toNat * value ≤ (value - debt) * precision

instance (minEquityRatio : Ratio) (value debt : Nat) :
    Decidable (Solvent minEquityRatio value debt) :=
  inferInstanceAs (Decidable (_ ≤ _ ∧ _ ≤ _))

/-- Solvency is what the checks of values and ratios amount to. -/
theorem solvent_iff {value debt : Amount} {ratio minEquityRatio : Ratio}
    (h : equityRatio value debt = .ok ratio) (hmin : minEquityRatio.toNat ≤ precision) :
    Solvent minEquityRatio value.toNat debt.toNat ↔ debt ≤ value ∧ minEquityRatio ≤ ratio := by
  rw [Amount.le_iff, UInt32.le_iff_toNat_le, toNat_of_equityRatio h, Solvent, equityShare]
  refine and_congr_right fun hcovered => ?_
  by_cases hvalue : value.toNat = 0
  · have hdebt : debt.toNat = 0 := by omega
    simp [hvalue, hdebt, hmin]
  · rw [if_neg hvalue, Nat.le_div_iff_mul_le (Nat.pos_of_ne_zero hvalue)]

theorem requireSolventAfter_eq_ok_iff {a : Account} {v : Valuation} {withdrawn : Amount}
    (indebted : a.position.borrowed ≠ 0) :
    a.requireSolventAfter v withdrawn = .ok () ↔ ∃ value debt ratio, v.currentValue = .ok value ∧
      v.debtValue a.position.borrowed = .ok debt ∧ debt ≤ value.saturatingSub withdrawn ∧
      equityRatio (value.saturatingSub withdrawn) debt = .ok ratio ∧
      a.risk.minEquityRatio ≤ ratio := by
  simp only [requireSolventAfter, if_neg indebted, bind_eq_ok_iff, require_eq_ok_iff, exists_const,
    liftM, monadLift_eq_ok_iff]
  constructor
  · rintro ⟨value, hvalue, debt, hdebt, hcovered, ratio, hratio, hmin⟩
    exact ⟨value, debt, ratio, hvalue, hdebt, hcovered, hratio, hmin⟩
  · rintro ⟨value, debt, ratio, hvalue, hdebt, hcovered, hratio, hmin⟩
    exact ⟨value, hvalue, debt, hdebt, hcovered, ratio, hratio, hmin⟩

end Stablecoin.Account
