import Stablecoin.FixedPoint

set_option autoImplicit false

/-! # Rounding

What the fixed-point operations give, as numbers, and how far rounding down can take a value from
the exact one. All bounds are cleared of denominators. -/

namespace Stablecoin

theorem precision_pos : 0 < precision := by decide

theorem applyRatio_eq_ok_iff {amount r : Amount} {ratio : Nat} :
    applyRatio amount ratio = .ok r ↔ r.toNat = amount.toNat * ratio / precision := by
  simp [applyRatio, mulDiv_eq_ok_iff, precision]

theorem quoteValue_eq_ok_iff {amount price r : Amount} :
    quoteValue amount price = .ok r ↔ r.toNat = amount.toNat * price.toNat / precision := by
  simp [quoteValue, mulDiv_eq_ok_iff, precision]

theorem stablecoinAmount_eq_ok_iff {value price r : Amount} :
    stablecoinAmount value price = .ok r ↔
      price.toNat ≠ 0 ∧ r.toNat = value.toNat * precision / price.toNat := by
  simp [stablecoinAmount, mulDiv_eq_ok_iff]

/-- A part of a number, rounded down, is no more than the whole. -/
theorem part_le {n d : Nat} (h : n ≤ d) (x : Nat) : x * n / d ≤ x := by
  refine Nat.div_le_of_le_mul ?_
  rw [Nat.mul_comm d]
  exact Nat.mul_le_mul_left _ h

/-- A share that leaves something out is no more than the whole. -/
theorem share_le {amount r : Amount} {left : Nat}
    (h : applyRatio amount (precision - left) = .ok r) : r ≤ amount := by
  rw [Amount.le_iff, applyRatio_eq_ok_iff.1 h]
  exact part_le (Nat.sub_le _ _) _

/-! ## Parts, sums and differences that are amounts -/

/-- A part of an amount is an amount. -/
theorem exists_mulDiv_le {a : Amount} {n d : Nat} (hn : n ≤ d) (hd : d ≠ 0) :
    ∃ part, mulDiv a n d = .ok part ∧ part ≤ a := by
  have hle : a.toNat * n / d ≤ a.toNat := part_le hn _
  exact ⟨⟨_, Nat.lt_of_le_of_lt hle a.isLt⟩, mulDiv_eq_ok_iff.2 ⟨hd, rfl⟩, hle⟩

theorem exists_minus {a b : Amount} (h : b ≤ a) :
    ∃ c, a.minus b = .ok c ∧ a.toNat = c.toNat + b.toNat := by
  obtain ⟨c, hc⟩ := Amount.exists_checkedSub h
  have hsum := Amount.checkedSub_eq_ok_iff.1 hc
  exact ⟨c, Amount.minus_eq_ok_iff.2 hsum, hsum⟩

theorem exists_plus {a b : Amount} (h : a.toNat + b.toNat < Amount.size) :
    ∃ c, a.plus b = .ok c ∧ c.toNat = a.toNat + b.toNat :=
  ⟨⟨_, h⟩, Amount.plus_eq_ok_iff.2 rfl, rfl⟩

/-! ## Values of parts -/

/-- Two amounts are worth what they are worth together, or one unit less when their fractions make
    up a whole. -/
theorem value_add (x y p : Nat) :
    (x + y) * p / precision = x * p / precision + y * p / precision
      + if precision ≤ x * p % precision + y * p % precision then 1 else 0 := by
  rw [Nat.add_mul]
  unfold precision
  split <;> omega

/-- A part is worth no more than the whole. -/
theorem value_mono {x y : Nat} (h : x ≤ y) (p : Nat) : x * p / precision ≤ y * p / precision :=
  Nat.div_le_div_right (Nat.mul_le_mul_right p h)

/-! ## Values in stablecoin -/

variable {p : Nat} (r : Nat)

/-- The stablecoin for a value is worth at most that value, before any rounding of its worth. -/
theorem amount_mul_le (p : Nat) : r * precision / p * p ≤ r * precision :=
  Nat.div_mul_le_self _ _

theorem value_amount_le (p : Nat) : r * precision / p * p / precision ≤ r :=
  Nat.div_le_of_le_mul (by rw [Nat.mul_comm precision r]; exact amount_mul_le r p)

/-- It falls short of the value by less than one stablecoin and one unit. -/
theorem lt_value_amount (hp : 0 < p) :
    r * precision < (r * precision / p * p / precision) * precision + precision + p := by
  have hunit : r * precision < p * (r * precision / p + 1) := Nat.lt_mul_div_succ _ hp
  have hvalue : r * precision / p * p
      < precision * (r * precision / p * p / precision + 1) :=
    Nat.lt_mul_div_succ _ precision_pos
  rw [Nat.mul_add, Nat.mul_one, Nat.mul_comm p] at hunit
  rw [Nat.mul_add, Nat.mul_one, Nat.mul_comm precision] at hvalue
  omega

variable {r}

/-- Whoever has stablecoin of that value has the stablecoin for it. -/
theorem amount_le_of_le_value {s : Nat} (h : r ≤ s * p / precision) :
    r * precision / p ≤ s := by
  have hr : r * precision ≤ s * p := (Nat.le_div_iff_mul_le precision_pos).1 h
  exact Nat.div_le_of_le_mul (by rw [Nat.mul_comm p s]; exact hr)

/-- The stablecoin for a value, sold at the same price, brings in less than the share of the value
    that the slippage leaves. -/
def RoundingSlips (value price slippage : Nat) : Prop :=
  value * precision / price * price / precision < value * (precision - slippage) / precision

instance (value price slippage : Nat) : Decidable (RoundingSlips value price slippage) :=
  inferInstanceAs (Decidable (_ < _))

theorem not_roundingSlips_zero (p slippage : Nat) : ¬ RoundingSlips 0 p slippage := by
  simp [RoundingSlips]

/-- That is so only of values of which the slippage lets less than one stablecoin slip. -/
theorem RoundingSlips.mul_lt {slippage : Nat} (hp : 0 < p) (h : RoundingSlips r p slippage) :
    r * slippage < p := by
  have hless : (r * precision / p * p / precision + 1) * precision ≤ r * (precision - slippage) :=
    (Nat.le_div_iff_mul_le precision_pos).1 h
  have hclose := lt_value_amount r hp
  have hunit := precision_pos
  rw [Nat.add_mul, Nat.one_mul, Nat.mul_sub] at hless
  omega

end Stablecoin
