import Stablecoin.Proofs.Account.Faults

set_option autoImplicit false

/-! # Slippage

An account finds out that a swap slipped when it hears that the swap is done, and at no other time:
no message is refused for it (`execute_ne_slippageExceeded`), and a reply only if the swap brought
in less than was asked for (`slippage_of_reply`). -/

namespace Stablecoin.Account

variable {a : Account} {env : Env} {sender : Address} {received minAmountOut : Amount}

/-- No message is refused because a swap slipped: the checks have errors of their own. -/
theorem execute_ne_slippageExceeded (m : Message) :
    a.execute env sender m ≠ .error (.slippageExceeded received minAmountOut) := by
  change Avoids _ _
  cases m with
  | configure risk =>
    simp [execute, configure, requireBorrower, RiskConfig.check, requireRatio, liftM]
  | borrow amount => simp [execute, borrow, increaseDebt, requireBorrower, requireActive, liftM]
  | repay amount => simp [execute, repay, requireBorrower, liftM]
  | payFee => simp [execute, payFee, requireBorrower, liftM]
  | invest amount slippage =>
    simp only [execute, invest, avoids_bind_iff]
    refine ⟨by simp [requireBorrower], fun _ _ => ⟨by simp [requireActive], fun _ _ =>
      ⟨by simp [requireRatio], fun _ _ => ⟨by simp, fun _ _ => ⟨by simp [liftM], fun v _ => ?_⟩⟩⟩⟩⟩
    -- with enough quote currency nothing is left to fail
    split <;> simp [liftM]
  | divest amount slippage =>
    cases slippage <;> simp [execute, divestFrom, requireBorrower, requireRatio, liftM]
  | sell amount minAmountOut => simp [execute, sell, requireBorrower, requireActive, liftM]
  | buy amount minAmountOut => simp [execute, buy, requireBorrower, requireActive, liftM]
  | collect => simp [execute, collect, requireBorrower]
  | withdraw asset amount =>
    have hsolvent := avoids_requireSolventAfter_of_ne (a := a)
      (e := .slippageExceeded received minAmountOut) (by simp) (by simp)
    simp [execute, withdraw, requireBorrower, requireActive, liftM, hsolvent]
  | autoInvest amount slippage =>
    simp [execute, autoInvest, increaseDebt, requireActive, requireRatio, liftM]
  | stateValue value => simp [execute, stateValue, liftM]
  | pause => simp [execute, setPaused, liftM]
  | unpause => simp [execute, setPaused, liftM]
  | liquidate => simp [execute, liquidate, liftM]

/-- A reply at which a swap slipped tells that a swap is done, and the swap brought in less than was
    asked for. -/
theorem slippage_of_reply {id : Nat}
    (h : a.reply env id = .error (.slippageExceeded received minAmountOut)) :
    id = swapReply ∧ ∃ swap balance, a.swap = some swap ∧
      a.balanceOf env swap.assetOut = .ok balance ∧
      ¬ swap.minAmountOut ≤ balance.saturatingSub swap.balanceBefore := by
  unfold reply at h
  split at h
  · rename_i hid
    refine ⟨hid, ?_⟩
    simp only [swapDone, bind_eq_error_iff, require_eq_error_iff, liftM, monadLift_eq_ok_iff,
      monadLift_eq_error_iff, orMissing_eq_ok_iff, reduceCtorEq, and_false, exists_false,
      false_or] at h
    obtain ⟨swap, pending, balance, measured, h | ⟨_, -, h⟩⟩ := h
    · exact ⟨swap, balance, pending, measured, h.1⟩
    · split at h <;> cases h
  · split at h
    · simp only [divestDone, bind_eq_error_iff, liftM, monadLift_eq_error_iff, reduceCtorEq,
        and_false, exists_false, false_or] at h
      obtain ⟨divest, -, h⟩ := h
      split at h
      · cases h
      · simp [bind_eq_error_iff, fmap_eq_error_iff] at h
    · cases h

end Stablecoin.Account
