import Stablecoin.Account.Basic
import Stablecoin.Proofs.Rounding

set_option autoImplicit false

/-! # Conversions between the two currencies

Stablecoin is valued in quote currency, and quote currency in stablecoin, at a price and rounded
down. Whoever converts an amount and converts what comes of it back has no more than before, and has
lost less than one unit of each of the two currencies (`exists_stablecoinAmount_back`,
`exists_quoteValue_back`). So conversions back and forth at a fixed price can go on for ever once
the first of them is in range (`exists_convertTimes`), and neither the stablecoin nor the quote
currency on the way ever grows (`convertTimes_le`). -/

namespace Stablecoin

open Account

/-! ## Back and forth -/

/-- The other one of the two currencies. -/
def Account.Asset.other : Asset → Asset
  | .quote => .stablecoin
  | .stablecoin => .quote

@[simp] theorem Account.Asset.other_other (asset : Asset) : asset.other.other = asset := by
  cases asset <;> rfl

/-- Converts an amount of one currency to the other. -/
def convert (price : Amount) : Asset → Amount → Except Fault Amount
  | .quote, value => stablecoinAmount value price
  | .stablecoin, amount => quoteValue amount price

/-- Converts an amount of a currency to the other, what comes of it back, and so on, so many
    times. -/
def convertTimes (price : Amount) : Nat → Asset → Amount → Except Fault Amount
  | 0, _, amount => .ok amount
  | n + 1, asset, amount => convert price asset amount >>= convertTimes price n asset.other

variable {price first second amount value : Amount} {asset : Asset}

theorem convertTimes_succ_eq_ok_iff {n : Nat} {last : Amount} :
    convertTimes price (n + 1) asset first = .ok last ↔
      ∃ second, convert price asset first = .ok second ∧
        convertTimes price n asset.other second = .ok last :=
  bind_eq_ok_iff

/-! ## Round trips -/

/-- What is no more than an amount is an amount. -/
theorem Amount.exists_of_le {n : Nat} {a : Amount} (h : n ≤ a.toNat) :
    ∃ b : Amount, b.toNat = n ∧ b ≤ a :=
  ⟨⟨n, Nat.lt_of_le_of_lt h a.isLt⟩, rfl, h⟩

/-- The stablecoin for the value of some stablecoin is no more than that, and less by less than what
    one unit of quote currency buys and one unit. -/
theorem exists_stablecoinAmount_back (positive : price ≠ 0)
    (h : quoteValue amount price = .ok value) :
    ∃ back, stablecoinAmount value price = .ok back ∧ back ≤ amount ∧
      (amount.toNat - back.toNat) * price.toNat < precision + price.toNat := by
  have hprice : price.toNat ≠ 0 := mt Amount.eq_zero_iff.2 positive
  have hvalue := quoteValue_eq_ok_iff.1 h
  obtain ⟨back, hback, hle⟩ := Amount.exists_of_le (amount_le_of_le_value (Nat.le_of_eq hvalue))
  refine ⟨back, stablecoinAmount_eq_ok_iff.2 ⟨hprice, hback⟩, hle, ?_⟩
  -- each of the two divisions leaves out less than its divisor
  have hout : amount.toNat * price.toNat < precision * (value.toNat + 1) := by
    rw [hvalue]
    exact Nat.lt_mul_div_succ _ precision_pos
  have hin : value.toNat * precision < price.toNat * (back.toNat + 1) := by
    rw [hback]
    exact Nat.lt_mul_div_succ _ (Nat.pos_of_ne_zero hprice)
  rw [Nat.mul_add, Nat.mul_one, Nat.mul_comm precision] at hout
  rw [Nat.mul_add, Nat.mul_one, Nat.mul_comm price.toNat] at hin
  rw [Nat.sub_mul]
  omega

/-- The value of the stablecoin for some quote currency is no more than that, and less by less than
    the value of one stablecoin and one unit. -/
theorem exists_quoteValue_back (h : stablecoinAmount value price = .ok amount) :
    ∃ back, quoteValue amount price = .ok back ∧ back ≤ value ∧
      (value.toNat - back.toNat) * precision < price.toNat + precision := by
  obtain ⟨hprice, hamount⟩ := stablecoinAmount_eq_ok_iff.1 h
  obtain ⟨back, hback, hle⟩ := Amount.exists_of_le (value_amount_le value.toNat price.toNat)
  rw [← hamount] at hback
  refine ⟨back, quoteValue_eq_ok_iff.2 hback, hle, ?_⟩
  have hclose := lt_value_amount value.toNat (Nat.pos_of_ne_zero hprice)
  rw [← hamount, ← hback] at hclose
  rw [Nat.sub_mul]
  omega

/-- What was converted can be converted back, and that never yields more than there was. -/
theorem exists_convert_back (positive : price ≠ 0) (h : convert price asset first = .ok second) :
    ∃ back, convert price asset.other second = .ok back ∧ back ≤ first := by
  cases asset with
  | quote =>
    obtain ⟨back, hback, hle, -⟩ := exists_quoteValue_back h
    exact ⟨back, hback, hle⟩
  | stablecoin =>
    obtain ⟨back, hback, hle, -⟩ := exists_stablecoinAmount_back positive h
    exact ⟨back, hback, hle⟩

/-! ## Chains of conversions -/

/-- After a first conversion that is in range, all others are. -/
theorem exists_convertTimes (positive : price ≠ 0) (h : convert price asset first = .ok second)
    (n : Nat) : ∃ last, convertTimes price n asset first = .ok last := by
  induction n generalizing asset first second with
  | zero => exact ⟨first, rfl⟩
  | succ n ih =>
    obtain ⟨back, hback, -⟩ := exists_convert_back positive h
    obtain ⟨last, hlast⟩ := ih hback
    exact ⟨last, convertTimes_succ_eq_ok_iff.2 ⟨second, h, hlast⟩⟩

/-- Round trips never yield more than there was. -/
theorem convertTimes_le_first (positive : price ≠ 0) {k : Nat} {last : Amount}
    (h : convertTimes price (2 * k) asset first = .ok last) : last ≤ first := by
  induction k generalizing first with
  | zero =>
    cases h
    exact Nat.le_refl _
  | succ k ih =>
    obtain ⟨second, hthere, h⟩ := convertTimes_succ_eq_ok_iff.1 h
    obtain ⟨third, hback, h⟩ := convertTimes_succ_eq_ok_iff.1 h
    obtain ⟨back, hback', hle⟩ := exists_convert_back positive hthere
    cases hback.symm.trans hback'
    rw [Asset.other_other] at h
    exact Nat.le_trans (ih h) hle

/-- Neither currency grows on the way: after a number of conversions there is no more of it than
    there was two conversions before, or four, or any even number. -/
theorem convertTimes_le (positive : price ≠ 0) {n k : Nat} {earlier last : Amount}
    (hearlier : convertTimes price n asset first = .ok earlier)
    (hlast : convertTimes price (n + 2 * k) asset first = .ok last) : last ≤ earlier := by
  induction n generalizing asset first with
  | zero =>
    cases hearlier
    rw [Nat.zero_add] at hlast
    exact convertTimes_le_first positive hlast
  | succ n ih =>
    rw [Nat.succ_add] at hlast
    obtain ⟨second, hsecond, hearlier⟩ := convertTimes_succ_eq_ok_iff.1 hearlier
    obtain ⟨_, hsecond', hlast⟩ := convertTimes_succ_eq_ok_iff.1 hlast
    cases hsecond.symm.trans hsecond'
    exact ih hearlier hlast

/-! ## Order and sums -/

/-- Less converts to no more, and is in range where more is. -/
theorem convert_mono (hle : first ≤ second) {converted : Amount}
    (h : convert price asset second = .ok converted) :
    ∃ less, convert price asset first = .ok less ∧ less ≤ converted := by
  cases asset with
  | quote =>
    obtain ⟨hprice, hconverted⟩ := stablecoinAmount_eq_ok_iff.1 h
    have hless : first.toNat * precision / price.toNat ≤ converted.toNat := by
      rw [hconverted]
      exact Nat.div_le_div_right (Nat.mul_le_mul_right _ hle)
    obtain ⟨less, hless, hle⟩ := Amount.exists_of_le hless
    exact ⟨less, stablecoinAmount_eq_ok_iff.2 ⟨hprice, hless⟩, hle⟩
  | stablecoin =>
    have hless : first.toNat * price.toNat / precision ≤ converted.toNat := by
      rw [quoteValue_eq_ok_iff.1 h]
      exact value_mono hle _
    obtain ⟨less, hless, hle⟩ := Amount.exists_of_le hless
    exact ⟨less, quoteValue_eq_ok_iff.2 hless, hle⟩

/-- Two amounts of stablecoin are worth as much as both together, or one unit less. -/
theorem quoteValue_of_sum {sum : Amount} (hsum : sum.toNat = first.toNat + second.toNat)
    (h : quoteValue sum price = .ok value) :
    ∃ v w, quoteValue first price = .ok v ∧ quoteValue second price = .ok w ∧
      v.toNat + w.toNat ≤ value.toNat ∧ value.toNat ≤ v.toNat + w.toNat + 1 := by
  have hfirst : first ≤ sum := by rw [Amount.le_iff]; omega
  have hsecond : second ≤ sum := by rw [Amount.le_iff]; omega
  have hconvert : convert price .stablecoin sum = .ok value := h
  obtain ⟨v, hv, -⟩ := convert_mono hfirst hconvert
  obtain ⟨w, hw, -⟩ := convert_mono hsecond hconvert
  have hvalue := quoteValue_eq_ok_iff.1 h
  rw [hsum, value_add, ← quoteValue_eq_ok_iff.1 hv, ← quoteValue_eq_ok_iff.1 hw] at hvalue
  refine ⟨v, w, hv, hw, ?_⟩
  split at hvalue <;> omega

/-- Conversions never create value. At any price but zero, stablecoin that is valued and converted
    back is no more than it was and has lost less than a unit of each currency, and so has quote
    currency that is converted to stablecoin and valued again; conversions back and forth never fail
    after the first one, and neither currency grows on the way; less of a currency converts to no
    more, and the value of a sum is the sum of the values or one unit above it. -/
theorem conversions_create_nothing (positive : price ≠ 0) :
    (∀ amount value, quoteValue amount price = .ok value →
      ∃ back, stablecoinAmount value price = .ok back ∧ back ≤ amount ∧
        (amount.toNat - back.toNat) * price.toNat < precision + price.toNat) ∧
    (∀ value amount, stablecoinAmount value price = .ok amount →
      ∃ back, quoteValue amount price = .ok back ∧ back ≤ value ∧
        (value.toNat - back.toNat) * precision < price.toNat + precision) ∧
    (∀ asset first second, convert price asset first = .ok second →
      ∀ n k, ∃ earlier last, convertTimes price n asset first = .ok earlier ∧
        convertTimes price (n + 2 * k) asset first = .ok last ∧ last ≤ earlier) ∧
    (∀ asset first second converted, first ≤ second → convert price asset second = .ok converted →
      ∃ less, convert price asset first = .ok less ∧ less ≤ converted) ∧
    ∀ first second sum value : Amount, sum.toNat = first.toNat + second.toNat →
      quoteValue sum price = .ok value →
      ∃ v w, quoteValue first price = .ok v ∧ quoteValue second price = .ok w ∧
        v.toNat + w.toNat ≤ value.toNat ∧ value.toNat ≤ v.toNat + w.toNat + 1 := by
  refine ⟨fun amount value => exists_stablecoinAmount_back positive,
    fun value amount => exists_quoteValue_back, ?_,
    fun asset first second converted hle h => convert_mono hle h,
    fun first second sum value => quoteValue_of_sum⟩
  intro asset first second h n k
  obtain ⟨earlier, hearlier⟩ := exists_convertTimes positive h n
  obtain ⟨last, hlast⟩ := exists_convertTimes positive h (n + 2 * k)
  exact ⟨earlier, last, hearlier, hlast, convertTimes_le positive hearlier hlast⟩

/-- At a price of 0.7, ten of the quote currency buy 14 stablecoin, which are worth nine; these buy
    12, which are worth eight. Three and four stablecoin are worth two each, and seven are worth
    four. -/
theorem conversions_create_nothing_at_seven_tenths :
    (∃ amount back : Amount, stablecoinAmount (.ofNat 10) (.ofNat 700000) = .ok amount ∧
      quoteValue amount (.ofNat 700000) = .ok back ∧ back.toNat = 9 ∧
      (10 - back.toNat) * precision < 700000 + precision) ∧
    (∃ last, convertTimes (.ofNat 700000) 4 .quote (.ofNat 10) = .ok last ∧ last.toNat = 8 ∧
      last.toNat ≤ 10) ∧
    ∃ v w, quoteValue (.ofNat 3) (.ofNat 700000) = .ok v ∧
      quoteValue (.ofNat 4) (.ofNat 700000) = .ok w ∧ v.toNat + w.toNat = 4 := by
  have positive : Amount.ofNat 700000 ≠ 0 := by decide
  obtain ⟨-, hvalued, hchain, -, hsum⟩ := conversions_create_nothing positive
  refine ⟨?_, ?_, ?_⟩
  · have bought : stablecoinAmount (.ofNat 10) (.ofNat 700000) = .ok (.ofNat 14) := by decide
    obtain ⟨back, hback, -, hlost⟩ := hvalued _ _ bought
    have hnine : back.toNat = 9 := (quoteValue_eq_ok_iff.1 hback).trans (by decide)
    exact ⟨_, back, bought, hback, hnine, hlost⟩
  · have bought : convert (.ofNat 700000) .quote (.ofNat 10) = .ok (.ofNat 14) := by decide
    obtain ⟨first, last, hfirst, hlast, hle⟩ := hchain .quote _ _ bought 0 2
    cases hfirst
    have hend : convertTimes (.ofNat 700000) 4 .quote (.ofNat 10) = .ok (.ofNat 8) := by decide
    cases hlast.symm.trans hend
    exact ⟨_, hend, rfl, hle⟩
  · have worth : quoteValue (.ofNat 7) (.ofNat 700000) = .ok (.ofNat 4) := by decide
    obtain ⟨v, w, hv, hw, -, -⟩ := hsum (.ofNat 3) (.ofNat 4) _ _ rfl worth
    refine ⟨v, w, hv, hw, ?_⟩
    rw [quoteValue_eq_ok_iff.1 hv, quoteValue_eq_ok_iff.1 hw]
    decide

end Stablecoin
