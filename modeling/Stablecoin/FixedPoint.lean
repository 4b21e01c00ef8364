import Stablecoin.Fault

set_option autoImplicit false

/-! # Fixed-point arithmetic

Ratios and prices are counted in millionths. A product is divided exactly and then rounded down,
whatever the size of the product; only a quotient that is no amount is a fault
(`mulDiv_eq_ok_iff`). -/

namespace Stablecoin

/-- One whole: a ratio of one, or a price of one unit of quote currency. -/
def precision : Nat := 1000000

/-- A ratio in millionths, of 32 bits. -/
abbrev Ratio := UInt32

/-- A ratio of one. -/
def Ratio.one : Ratio := 1000000

theorem Ratio.toNat_one : Ratio.one.toNat = precision := rfl

/-- The seconds in a year of 365 days. -/
def secondsPerYear : Nat := 31536000

/-- `amount * numerator / denominator`, rounded down. -/
def mulDiv (amount : Amount) (numerator denominator : Nat) : Except Fault Amount :=
  if denominator = 0 then .error .zeroDenominator
  else match Amount.ofNat? (amount.toNat * numerator / denominator) with
    | some quotient => .ok quotient
    | none => .error .conversion

theorem mulDiv_eq_ok_iff {a r : Amount} {n d : Nat} :
    mulDiv a n d = .ok r ↔ d ≠ 0 ∧ r.toNat = a.toNat * n / d := by
  unfold mulDiv
  split
  · simp_all
  · split <;> rename_i h
    · rw [Amount.ofNat?_eq_some_iff] at h
      simp_all [Amount.ext_iff, eq_comm]
    · rw [Amount.ofNat?_eq_none_iff] at h
      have := r.isLt
      simp_all
      omega

/-- A share of an amount. -/
def applyRatio (amount : Amount) (ratio : Nat) : Except Fault Amount :=
  mulDiv amount ratio precision

/-- The value of an amount of stablecoin in quote currency. -/
def quoteValue (amount price : Amount) : Except Fault Amount :=
  mulDiv amount price.toNat precision

/-- The amount of stablecoin that a value in quote currency buys. -/
def stablecoinAmount (value price : Amount) : Except Fault Amount :=
  mulDiv value precision price.toNat

/-- The fee on a principal at an annual rate over some seconds. The fee of a whole year is rounded
    before it is spread over time. -/
def annualFee (principal : Amount) (rate seconds : Nat) : Except Fault Amount := do
  let yearly ← applyRatio principal rate
  mulDiv yearly seconds secondsPerYear

/-! ## Differences and sums that the rules keep in range -/

/-- What is missing from a ratio to one. -/
def complement (ratio : Ratio) : Except Fault Nat :=
  if ratio.toNat ≤ precision then .ok (precision - ratio.toNat) else .error .outOfRange

/-- The sum of two amounts where the rules promise that it is an amount. -/
def Amount.plus (a b : Amount) : Except Fault Amount :=
  (a.checkedAdd b).mapError fun _ => .outOfRange

/-- The difference of two amounts where the rules promise that it is an amount. -/
def Amount.minus (a b : Amount) : Except Fault Amount :=
  (a.checkedSub b).mapError fun _ => .outOfRange

theorem complement_eq_ok_iff {r : Ratio} {c : Nat} :
    complement r = .ok c ↔ r.toNat ≤ precision ∧ c = precision - r.toNat := by
  unfold complement
  split
  · simp_all [eq_comm]
  · simp; omega

theorem Amount.plus_eq_ok_iff {a b c : Amount} :
    a.plus b = .ok c ↔ c.toNat = a.toNat + b.toNat := by
  simp [Amount.plus, Amount.checkedAdd_eq_ok_iff]

theorem Amount.minus_eq_ok_iff {a b c : Amount} :
    a.minus b = .ok c ↔ a.toNat = c.toNat + b.toNat := by
  simp [Amount.minus, Amount.checkedSub_eq_ok_iff]

end Stablecoin
