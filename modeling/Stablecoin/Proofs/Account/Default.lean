import Stablecoin.Proofs.Account.Progress

set_option autoImplicit false

/-! # Default

As far as the equity ratio of an account can be told, the account refuses a liquidation for want of
a default just when it answers that it is not in default (`liquidate_eq_notDefaulted_iff`). An
account without debt never is, and only a draw makes debt where there was none (`Step.clear`). -/

namespace Stablecoin.Account

variable {a a' : Account} {env : Env} {sender : Address}

/-! ## The gate -/

theorem currentEquityRatio_eq_ok_iff {ratio : Ratio} :
    a.currentEquityRatio env = .ok ratio ↔
      ∃ v, a.valuation env = .ok v ∧ v.equityRatio a.position.borrowed = .ok ratio :=
  bind_eq_ok_iff

/-- What comes after the gate fails for other reasons, so the gate alone tells that there is no
    default. -/
theorem liquidate_eq_notDefaulted_iff {ratio : Ratio} (checked : a.risk.check = .ok ())
    (measured : a.currentEquityRatio env = .ok ratio) :
    a.execute env sender .liquidate = .error .notDefaulted ↔
      a.query env .isDefaulted = .ok (.bool false) := by
  have hquery : a.query env .isDefaulted
      = .ok (.bool (isDefaulted ratio a.risk.minEquityRatio)) := by
    simp only [query, measured, ok_bind]
    rfl
  obtain ⟨v, valued, hratio⟩ := currentEquityRatio_eq_ok_iff.1 measured
  rw [hquery]
  simp only [execute, liquidate, valued, hratio, liftM_ok, ok_bind]
  cases hdefaulted : isDefaulted ratio a.risk.minEquityRatio with
  | false => simp [require]
  | true =>
    have indebted := indebted_of_isDefaulted checked hratio hdefaulted
    rw [require_of _ ⟨indebted, rfl⟩]
    simp [bind_eq_error_iff, liftM, pure, Except.pure]

/-- An account without debt is not in default. -/
theorem query_isDefaulted_of_clear {ratio : Ratio} (checked : a.risk.check = .ok ())
    (clear : a.position.borrowed = 0) (measured : a.currentEquityRatio env = .ok ratio) :
    a.query env .isDefaulted = .ok (.bool false) := by
  simp only [query, measured, ok_bind]
  cases hdefaulted : isDefaulted ratio a.risk.minEquityRatio with
  | false => rfl
  | true =>
    obtain ⟨v, -, hratio⟩ := currentEquityRatio_eq_ok_iff.1 measured
    exact absurd clear (indebted_of_isDefaulted checked hratio hdefaulted)

/-- Nor does it ever say that it is. -/
theorem query_isDefaulted_ne_true (checked : a.risk.check = .ok ())
    (clear : a.position.borrowed = 0) : a.query env .isDefaulted ≠ .ok (.bool true) := by
  intro h
  obtain ⟨v, ratio, -, hratio, hdefaulted⟩ := query_isDefaulted_eq_true h
  exact indebted_of_isDefaulted checked hratio hdefaulted clear

/-! ## Debt -/

def Message.liquidates : Message → Bool
  | .liquidate => true
  | _ => false

theorem Message.eq_liquidate {m : Message} (h : m.liquidates = true) : m = .liquidate := by
  cases m with
  | liquidate => rfl
  | _ => cases h

/-- The message adds to the debt. -/
def Message.draws : Message → Bool
  | .borrow _ => true
  | .autoInvest _ _ => true
  | _ => false

/-- An account without debt stays without unless it draws. -/
theorem Step.clear {m : Message} {out : List Outgoing} (h : Step a env sender m a' out)
    (quiet : m.draws = false) (clear : a.position.borrowed = 0) : a'.position.borrowed = 0 := by
  cases h with
  | borrow => cases quiet
  | autoInvest => cases quiet
  | repay authorized positive repaid held enough fee =>
    rw [clear, Amount.toNat_zero] at repaid
    have hleft := (Nat.add_eq_zero_iff.1 repaid.symm).1
    exact Amount.eq_zero_iff.2 hleft
  | liquidate => rfl
  | _ => exact clear

theorem Hears.clear {id : Nat} {out : List Outgoing} (h : Hears a env id a' out)
    (clear : a.position.borrowed = 0) : a'.position.borrowed = 0 := by
  cases h <;> exact clear

/-- A liquidation leaves no debt, and needs some. -/
theorem Step.of_liquidates {m : Message} {out : List Outgoing} (h : Step a env sender m a' out)
    (hm : m.liquidates = true) : a.position.borrowed ≠ 0 ∧ a'.position.borrowed = 0 := by
  obtain rfl := Message.eq_liquidate hm
  cases h with
  | liquidate valued measured indebted => exact ⟨indebted, rfl⟩

end Stablecoin.Account
