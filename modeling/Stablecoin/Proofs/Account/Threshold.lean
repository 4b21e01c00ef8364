import Stablecoin.Proofs.Account.Valuation

set_option autoImplicit false

/-! # The threshold of default

The equity ratio is rounded down before it is compared with the minimum, but as the minimum is a
whole number of millionths, rounding decides nothing: the ratio is below the minimum just when the
exact quotient is (`equityShare_lt_iff`). Everything else follows from that inequality, which is
linear in value and debt. More value never lowers the ratio, more debt never raises it, also where
there is no value at all, and an account that sits on its minimum is healthy
(`default_threshold_exact`). -/

namespace Stablecoin.Account

/-! ## The ratio as a number -/

/-- The ratio is below a minimum just when the exact equity is below that share of the value. -/
theorem equityShare_lt_iff {value : Nat} (valued : 0 < value) (debt minimum : Nat) :
    equityShare value debt < minimum ↔
      0 < minimum ∧ value * precision < minimum * value + debt * precision := by
  rw [equityShare, if_neg (Nat.ne_of_gt valued), Nat.div_lt_iff_lt_mul valued, Nat.sub_mul]
  have hminimum : 0 < minimum * value ↔ 0 < minimum :=
    ⟨Nat.pos_of_mul_pos_right, fun h => Nat.mul_pos h valued⟩
  rw [← hminimum]
  -- a debt above the value leaves no equity, and then only a minimum of zero is met
  omega

/-- Without debt all the value is equity. -/
theorem equityShare_clear (value : Nat) : equityShare value 0 = precision := by
  unfold equityShare
  split
  · rfl
  · rename_i hvalue
    rw [Nat.sub_zero, Nat.mul_div_cancel_left _ (Nat.pos_of_ne_zero hvalue)]

/-- Whatever share of the greater value is missing is missing of the smaller one too. -/
theorem equityShare_mono {value value' : Nat} (h : value ≤ value') (debt : Nat) :
    equityShare value debt ≤ equityShare value' debt := by
  rcases Nat.eq_zero_or_pos value with rfl | valued
  · by_cases clear : debt = 0
    · refine Nat.le_of_eq ?_
      rw [clear, equityShare_clear, equityShare_clear]
    · rw [equityShare, if_pos rfl, if_neg clear]
      exact Nat.zero_le _
  · refine Nat.le_of_not_lt fun hless => Nat.lt_irrefl (equityShare value debt) ?_
    obtain ⟨hpositive, hmissing⟩ :=
      (equityShare_lt_iff (Nat.lt_of_lt_of_le valued h) debt _).1 hless
    refine (equityShare_lt_iff valued debt _).2 ⟨hpositive, ?_⟩
    have hshare := equityShare_le value debt
    generalize equityShare value debt = minimum at hmissing hshare ⊢
    have hsplit : ∀ x, x * precision = minimum * x + (precision - minimum) * x := fun x => by
      rw [← Nat.add_mul, Nat.add_sub_cancel' hshare, Nat.mul_comm]
    have hslope : (precision - minimum) * value ≤ (precision - minimum) * value' :=
      Nat.mul_le_mul_left _ h
    rw [hsplit value'] at hmissing
    rw [hsplit value]
    omega

/-- More debt leaves less equity. -/
theorem equityShare_anti (value : Nat) {debt debt' : Nat} (h : debt ≤ debt') :
    equityShare value debt' ≤ equityShare value debt := by
  unfold equityShare
  split
  · split
    · exact Nat.le_of_eq (if_pos (by omega)).symm
    · exact Nat.zero_le _
  · exact Nat.div_le_div_right (Nat.mul_le_mul_right _ (Nat.sub_le_sub_left h value))

/-! ## The ratio and the check -/

/-- The check of a ratio that could be told. -/
theorem isDefaulted_iff {value debt : Amount} {ratio : Ratio}
    (h : equityRatio value debt = .ok ratio) (valued : 0 < value) (minimum : Ratio) :
    isDefaulted ratio minimum = true ↔ 0 < minimum.toNat ∧
      value.toNat * precision < minimum.toNat * value.toNat + debt.toNat * precision := by
  rw [isDefaulted, decide_eq_true_iff, UInt32.lt_iff_toNat_lt, toNat_of_equityRatio h]
  exact equityShare_lt_iff valued _ _

/-- An account whose value and debt can be told answers by the exact inequality. -/
theorem query_isDefaulted_of_valuation {a : Account} {env : Env} {v : Valuation}
    {value debt : Amount} (valued : a.valuation env = .ok v) (hvalue : v.currentValue = .ok value)
    (hdebt : v.debtValue a.position.borrowed = .ok debt) (hpositive : 0 < value) :
    a.query env .isDefaulted = .ok (.bool (decide (0 < a.risk.minEquityRatio.toNat ∧
      value.toNat * precision
        < a.risk.minEquityRatio.toNat * value.toNat + debt.toNat * precision))) := by
  obtain ⟨ratio, hratio, -⟩ := exists_equityRatio value debt
  have measured : a.currentEquityRatio env = .ok ratio := by
    simp only [currentEquityRatio, valued, Valuation.equityRatio, hvalue, hdebt, hratio, ok_bind]
  simp only [query, measured, ok_bind]
  change Except.ok (Json.bool (isDefaulted ratio a.risk.minEquityRatio)) = _
  congr 2
  rw [Bool.eq_iff_iff, isDefaulted_iff hratio hpositive, decide_eq_true_iff]

/-- The equity ratio can be told for all values and debts, is at most one, and is one without debt.
    It never falls as the value rises and never rises as the debt does. An account with some value
    is in default just when the exact inequality says so, and is healthy on its boundary. -/
theorem default_threshold_exact (value debt : Amount) :
    ∃ ratio, equityRatio value debt = .ok ratio ∧ ratio ≤ Ratio.one ∧
      (debt = 0 → ratio = Ratio.one) ∧
      (∀ value' ratio', value ≤ value' → equityRatio value' debt = .ok ratio' → ratio ≤ ratio') ∧
      (∀ debt' ratio', debt ≤ debt' → equityRatio value debt' = .ok ratio' → ratio' ≤ ratio) ∧
      (0 < value → ∀ minimum : Ratio,
        (isDefaulted ratio minimum = true ↔ 0 < minimum.toNat ∧
          value.toNat * precision < minimum.toNat * value.toNat + debt.toNat * precision) ∧
        (value.toNat * precision = minimum.toNat * value.toNat + debt.toNat * precision →
          isDefaulted ratio minimum = false)) := by
  obtain ⟨ratio, hratio, hshare⟩ := exists_equityRatio value debt
  refine ⟨ratio, hratio, ?bounded, ?clear, ?mono, ?anti, ?threshold⟩
  case bounded =>
    rw [UInt32.le_iff_toNat_le, hshare]
    exact equityShare_le _ _
  case clear =>
    rintro rfl
    refine UInt32.toNat_inj.1 ?_
    rw [hshare, Amount.toNat_zero, equityShare_clear, Ratio.toNat_one]
  case mono =>
    intro value' ratio' hle hratio'
    rw [UInt32.le_iff_toNat_le, hshare, toNat_of_equityRatio hratio']
    exact equityShare_mono hle _
  case anti =>
    intro debt' ratio' hle hratio'
    rw [UInt32.le_iff_toNat_le, hshare, toNat_of_equityRatio hratio']
    exact equityShare_anti _ hle
  case threshold =>
    intro valued minimum
    have hiff := isDefaulted_iff hratio valued minimum
    refine ⟨hiff, fun hboundary => ?_⟩
    rw [← Bool.not_eq_true, hiff]
    omega

/-- With a debt of 90 a value of 100 sits on a minimum of a tenth, and a value of 101 is healthy at
    108910 millionths and in default at one more: it has 108910.89 of equity. -/
theorem default_threshold_exact_of_rounding :
    ∃ ratio ratio', equityRatio ⟨100, by decide⟩ ⟨90, by decide⟩ = .ok ratio ∧
      equityRatio ⟨101, by decide⟩ ⟨90, by decide⟩ = .ok ratio' ∧ ratio ≤ ratio' ∧
      isDefaulted ratio 100000 = false ∧ isDefaulted ratio' 108910 = false ∧
      isDefaulted ratio' 108911 = true := by
  obtain ⟨ratio, hratio, -, -, hmono, -, hthreshold⟩ :=
    default_threshold_exact ⟨100, by decide⟩ ⟨90, by decide⟩
  obtain ⟨ratio', hratio', -, -, -, -, hthreshold'⟩ :=
    default_threshold_exact ⟨101, by decide⟩ ⟨90, by decide⟩
  have hiff := fun minimum => (hthreshold' (by decide) minimum).1
  refine ⟨ratio, ratio', hratio, hratio', hmono _ _ (by decide) hratio',
    (hthreshold (by decide) 100000).2 (by decide), ?_, (hiff 108911).2 (by decide)⟩
  rw [← Bool.not_eq_true, hiff]
  decide

end Stablecoin.Account
