import Stablecoin.Proofs.Account.Step
import Stablecoin.Proofs.Account.Valuation
import Stablecoin.Proofs.Faults

set_option autoImplicit false

/-! # Why an account would slip

An account divides by the price that its ledger tells it, and takes slippages off a whole, some of
them long after it has checked them. `Guarded` says that the price and the stored slippage are as
they should be; then no message, no reply and no query makes the account slip. All the other sums
and differences that it takes to be in range are in range because of what it has compared before. -/

namespace Stablecoin.Account

variable {α : Type} {f : Fault} {a : Account} {env : Env} {sender : Address}

@[simp] theorem avoids_monadLift_iff {e : Error} {x : Except Fault α} :
    Avoids e (monadLift x : Except Error α) ↔ ∀ f, .fault f = e → Avoids f x :=
  avoids_mapError_iff

/-- A slip of the arithmetic is a slip of the account. -/
theorem avoids_fault_monadLift_iff {x : Except Fault α} :
    Avoids (.fault f) (monadLift x : Except Error α) ↔ Avoids f x := by
  simp

/-- The slippage that waits for a divestment is at most one. -/
def Bounded (a : Account) : Prop :=
  ∀ d ∈ a.divest, d.slippage.toNat ≤ precision

/-- Nothing that an account is told or has stored makes it slip in that way. -/
structure Guarded (a : Account) (env : Env) (f : Fault) : Prop where
  reports : env.querier.Reports
  priced : f = .zeroDenominator → ∀ price,
    Ledger.askTargetPrice env.querier a.config.ledger = .ok price → price ≠ 0
  bounded : f = .outOfRange → a.Bounded

variable (slip : f.Slip)

include slip

/-! ## Values -/

theorem avoids_currentValue (v : Valuation) : Avoids f v.currentValue := by
  simp only [Valuation.currentValue, avoids_bind_iff]
  exact ⟨avoids_overflow slip _, fun held _ => ⟨avoids_quoteValue slip _ _,
    fun stablecoin _ => avoids_overflow slip _⟩⟩

omit slip in
theorem avoids_equityRatio (value debt : Amount) : Avoids f (equityRatio value debt) := by
  obtain ⟨ratio, hratio, -⟩ := exists_equityRatio value debt
  rw [hratio]
  exact avoids_ok _ _

theorem Valuation.avoids_equityRatio (v : Valuation) (borrowed : Amount) :
    Avoids f (v.equityRatio borrowed) := by
  simp [Valuation.equityRatio, Valuation.debtValue, avoids_currentValue slip,
    avoids_quoteValue slip, Account.avoids_equityRatio]

namespace Guarded

variable (h : a.Guarded env f)

include h

theorem avoids_stablecoinBalance : Avoids f (a.stablecoinBalance env) :=
  h.reports.avoids_askFor slip _ _ _

theorem avoids_askConfig : Avoids f (Ledger.askConfig env.querier a.config.ledger) :=
  h.reports.avoids_askFor slip _ _ _

theorem avoids_askTargetPrice : Avoids f (Ledger.askTargetPrice env.querier a.config.ledger) :=
  h.reports.avoids_askFor slip _ _ _

theorem avoids_assetValue : Avoids f (a.assetValue env) := by
  unfold assetValue
  split
  · exact avoids_ok _ _
  · exact h.reports.avoids_askFor slip _ _ _

theorem avoids_valuation : Avoids f (a.valuation env) := by
  simp [valuation, h.avoids_assetValue slip, h.avoids_stablecoinBalance slip,
    h.avoids_askTargetPrice slip]

omit slip in
theorem targetPrice_ne_zero {v : Valuation} (hv : a.valuation env = .ok v)
    (hf : f = .zeroDenominator) : v.targetPrice ≠ 0 :=
  h.priced hf _ (valuation_eq_ok_iff.1 hv).2.2.1

end Guarded

/-! ## Debt and fee -/

theorem avoids_feeAt (p : Position) (spreadFee : Ratio) (now : Seconds) :
    Avoids f (p.feeAt spreadFee now) := by
  simp only [Position.feeAt, avoids_bind_iff]
  exact ⟨avoids_annualFee slip _ _ _, fun pending _ => avoids_overflow slip _⟩

theorem avoids_checkpointAt (p : Position) (spreadFee : Ratio) (now : Seconds) :
    Avoids f (p.checkpointAt spreadFee now) := by
  simp [Position.checkpointAt, avoids_feeAt slip]

theorem avoids_increaseDebt (amount : Amount) : Avoids (.fault f) (a.increaseDebt env amount) := by
  simp [increaseDebt, liftM, avoids_checkpointAt slip]

omit slip in
theorem avoids_check (r : RiskConfig) : Avoids (.fault f) r.check := by
  simp [RiskConfig.check, requireRatio]

/-- What is repaid has been compared with the debt. -/
theorem avoids_repay (h : a.Guarded env f) (amount : Amount) :
    Avoids (.fault f) (a.repay env sender amount) := by
  suffices hdebt : amount ≤ a.position.borrowed → ∀ position,
      a.position.checkpointAt a.risk.spreadFee env.now = .ok position →
      Avoids f (position.borrowed.minus amount) by
    simp +contextual [repay, requireBorrower, liftM, h.avoids_stablecoinBalance slip,
      avoids_checkpointAt slip, hdebt]
  intro hle position hposition
  obtain ⟨fee, -, rfl⟩ := checkpointAt_eq_ok_iff.1 hposition
  exact avoids_minus fun _ => hle

omit slip in
/-- The check of what a withdrawal leaves has one error of its own. -/
theorem avoids_requireSolventAfter_of_ne {e : Error} (hratio : .equityRatioExceeded ≠ e)
    (hfault : ∀ f, .fault f ≠ e) (v : Valuation) (withdrawn : Amount) :
    Avoids e (a.requireSolventAfter v withdrawn) := by
  unfold requireSolventAfter
  split
  · exact avoids_pure _ _
  · simp [liftM, hratio, hfault]

theorem avoids_requireSolventAfter (v : Valuation) (withdrawn : Amount) :
    Avoids (.fault f) (a.requireSolventAfter v withdrawn) := by
  unfold requireSolventAfter
  split
  · exact avoids_pure _ _
  · simp [liftM, avoids_currentValue slip, Valuation.debtValue, avoids_quoteValue slip,
      avoids_equityRatio]

theorem avoids_withdraw (h : a.Guarded env f) (asset : Asset) (amount : Amount) :
    Avoids (.fault f) (a.withdraw env sender asset amount) := by
  have hworth : ∀ v : Valuation, Avoids f (v.valueOf asset amount) := by
    intro v
    cases asset with
    | quote => exact avoids_ok _ _
    | stablecoin => exact avoids_quoteValue slip _ _
  simp [withdraw, requireBorrower, requireActive, liftM, h.avoids_valuation slip, hworth,
    avoids_requireSolventAfter slip]

/-! ## Investing and swapping -/

/-- What is short has been found to be short, and the slippage to be at most one. -/
theorem avoids_invest (h : a.Guarded env f) (amount : Amount) (slippage : Ratio) :
    Avoids (.fault f) (a.invest env sender amount slippage) := by
  simp only [invest, requireBorrower, requireActive, requireRatio, avoids_bind_iff,
    avoids_require_iff, reduceCtorEq, false_implies, true_and, require_eq_ok_iff, liftM,
    avoids_fault_monadLift_iff, monadLift_eq_ok_iff]
  intro _ _ _ _ _ hslippage _ _
  refine ⟨h.avoids_valuation slip, fun v hv => ?_⟩
  split
  · exact avoids_pure _ _
  · rename_i hshort
    have hminus : Avoids f (amount.minus v.quoteBalance) :=
      avoids_minus fun _ => Nat.le_of_not_le hshort
    simp [hminus, avoids_stablecoinAmount slip _ (h.targetPrice_ne_zero hv),
      avoids_complement fun _ => hslippage, avoids_applyRatio slip]

theorem avoids_divestFrom (h : a.Guarded env f) (amount : Amount) (slippage : Option Ratio) :
    Avoids (.fault f) (a.divestFrom env sender amount slippage) := by
  cases slippage <;>
    simp [divestFrom, requireBorrower, requireRatio, liftM, h.avoids_valuation slip]

theorem avoids_autoInvest (h : a.Guarded env f) (amount : Amount) (slippage : Ratio) :
    Avoids (.fault f) (a.autoInvest env sender amount slippage) := by
  have hcomplement : slippage.toNat ≤ precision → Avoids f (complement slippage) :=
    fun hslippage => avoids_complement fun _ => hslippage
  simp +contextual [autoInvest, requireActive, requireRatio, liftM, h.avoids_askConfig slip,
    h.avoids_valuation slip, Valuation.avoids_equityRatio slip, avoids_increaseDebt slip,
    avoids_quoteValue slip, hcomplement, avoids_applyRatio slip]

/-! ## Liquidation -/

theorem avoids_entitlement (v : Valuation) (debt : Amount) (discount : Ratio) :
    Avoids f (entitlement v debt discount) := by
  simp [entitlement, Valuation.debtValue, avoids_quoteValue slip, avoids_applyRatio slip,
    avoids_currentValue slip]

/-- Each part of a payout is at most what the parts before it have left. -/
theorem avoids_payout {v : Valuation} (priced : f = .zeroDenominator → v.targetPrice ≠ 0)
    (entitled : Amount) : Avoids f (payout v entitled) := by
  have hquote : min entitled v.quoteBalance ≤ entitled := by
    rw [Amount.le_iff, Amount.toNat_min]
    exact Nat.min_le_left _ _
  simp only [payout, avoids_bind_iff, avoids_pure, implies_true, and_true]
  refine ⟨avoids_minus fun _ => hquote, fun afterQuote hafter => ?_⟩
  have hbackend : min afterQuote v.assetValue ≤ afterQuote := by
    rw [Amount.le_iff, Amount.toNat_min]
    exact Nat.min_le_left _ _
  refine ⟨avoids_minus fun _ => hbackend, fun afterBackend _ => ⟨avoids_plus fun _ => ?_,
    fun _ _ => avoids_stablecoinAmount slip _ priced⟩⟩
  -- both parts together are at most the whole
  rw [Amount.minus_eq_ok_iff] at hafter
  rw [Amount.le_iff] at hbackend
  have hlt := entitled.isLt
  omega

theorem avoids_liquidate (h : a.Guarded env f) : Avoids (.fault f) (a.liquidate env sender) := by
  simp only [liquidate, avoids_bind_iff, liftM, avoids_fault_monadLift_iff, monadLift_eq_ok_iff]
  refine ⟨h.avoids_valuation slip, fun v hv => ?_⟩
  have hpayout := fun entitled => avoids_payout slip (h.targetPrice_ne_zero hv) entitled
  simp [Valuation.avoids_equityRatio slip, avoids_entitlement slip, hpayout,
    avoids_quoteValue slip]

/-! ## Every entry -/

theorem avoids_execute (h : a.Guarded env f) (m : Message) :
    Avoids (.fault f) (a.execute env sender m) := by
  cases m with
  | configure risk =>
    simp [execute, Account.configure, requireBorrower, liftM, avoids_check,
      avoids_checkpointAt slip]
  | borrow amount =>
    simp [execute, Account.borrow, requireBorrower, requireActive, avoids_increaseDebt slip]
  | repay amount => exact avoids_repay slip h amount
  | payFee =>
    simp [execute, Account.payFee, requireBorrower, liftM, avoids_feeAt slip,
      h.avoids_stablecoinBalance slip, h.avoids_askConfig slip]
  | invest amount slippage => exact avoids_invest slip h amount slippage
  | divest amount slippage => exact avoids_divestFrom slip h amount slippage
  | sell amount minAmountOut =>
    simp [execute, Account.sell, requireBorrower, requireActive, liftM, h.avoids_valuation slip]
  | buy amount minAmountOut =>
    simp [execute, Account.buy, requireBorrower, requireActive, liftM, h.avoids_valuation slip]
  | collect => simp [execute, Account.collect, requireBorrower]
  | withdraw asset amount => exact avoids_withdraw slip h asset amount
  | autoInvest amount slippage => exact avoids_autoInvest slip h amount slippage
  | stateValue value => simp [execute, Account.stateValue, liftM, h.avoids_askConfig slip]
  | pause => simp [execute, setPaused, liftM, h.avoids_askConfig slip]
  | unpause => simp [execute, setPaused, liftM, h.avoids_askConfig slip]
  | liquidate => exact avoids_liquidate slip h

theorem avoids_swapDone (h : a.Guarded env f) : Avoids (.fault f) (a.swapDone env) := by
  have hbalance : ∀ asset, Avoids f (balanceOf { a with swap := none } env asset) := by
    intro asset
    cases asset with
    | quote => exact avoids_ok _ _
    | stablecoin => exact h.reports.avoids_askFor slip _ _ _
  simp only [swapDone, avoids_bind_iff, liftM, avoids_fault_monadLift_iff, avoids_require_iff,
    reduceCtorEq, false_implies, true_and]
  refine ⟨avoids_orMissing slip _, fun swap _ => ⟨hbalance _, fun balance _ _ _ => ?_⟩⟩
  split <;> exact avoids_pure _ _

/-- The slippage that is taken off a whole was stored with the divestment. -/
theorem avoids_divestDone (h : a.Guarded env f) : Avoids (.fault f) (a.divestDone env) := by
  simp only [divestDone, avoids_bind_iff, liftM, avoids_fault_monadLift_iff, monadLift_eq_ok_iff]
  refine ⟨avoids_orMissing slip _, fun divest hdivest => ?_⟩
  have hslippage : Avoids f (complement divest.slippage) :=
    avoids_complement fun hf => h.bounded hf divest (orMissing_eq_ok_iff.1 hdivest)
  split
  · exact avoids_pure _ _
  · simp only [avoids_bind_iff, avoids_pure, avoids_fault_monadLift_iff, monadLift_eq_ok_iff]
    exact ⟨h.avoids_askTargetPrice slip, fun price hprice =>
      ⟨avoids_stablecoinAmount slip _ fun hf => h.priced hf price hprice, fun fair _ =>
        ⟨hslippage, fun left _ => ⟨avoids_applyRatio slip _ _, fun minAmountOut _ =>
          ⟨h.reports.avoids_askFor slip _ _ _, fun _ _ => trivial⟩⟩⟩⟩⟩

theorem avoids_reply (h : a.Guarded env f) (id : Nat) : Avoids (.fault f) (a.reply env id) := by
  unfold reply
  split
  · exact avoids_swapDone slip h
  · split
    · exact avoids_divestDone slip h
    · rw [avoids_error_iff]
      rintro ⟨⟩
      cases slip

theorem avoids_query (h : a.Guarded env f) (q : Query) : Avoids f (a.query env q) := by
  cases q with
  | config => exact avoids_ok _ _
  | riskConfig => exact avoids_ok _ _
  | position =>
    simp [query, positionAnswer, h.avoids_valuation slip, Valuation.avoids_equityRatio slip,
      avoids_feeAt slip, avoids_currentValue slip]
  | debt => simp [query, totalDebt, avoids_feeAt slip, avoids_overflow slip]
  | _ =>
    simp [query, currentEquityRatio, h.avoids_valuation slip, Valuation.avoids_equityRatio slip,
      avoids_currentValue slip]

/-! ## What every account keeps -/

omit slip

/-- The accounts that come of a setup and of messages and replies after it. -/
inductive Reachable : Account → Prop where
  | setUp {env : Env} {s : Setup} {a : Account} {r : Response} (born : setUp env s = .ok (a, r)) :
      Reachable a
  | execute {env : Env} {sender : Address} {m : Message} {a a' : Account} {r : Response}
      (before : Reachable a) (told : a.execute env sender m = .ok (a', r)) : Reachable a'
  | reply {env : Env} {id : Nat} {a a' : Account} {r : Response}
      (before : Reachable a) (heard : a.reply env id = .ok (a', r)) : Reachable a'

variable {a' : Account} {out : List Outgoing}

theorem Step.bounded {m : Message} (h : Step a env sender m a' out) (ha : a.Bounded) :
    a'.Bounded := by
  cases h with
  | divestToBuy authorized positive valued enough bounded =>
    rintro d ⟨⟩
    exact bounded
  | _ => exact ha

theorem Hears.bounded {id : Nat} (h : Hears a env id a' out) (ha : a.Bounded) : a'.Bounded := by
  cases h with
  | swapHeld => exact ha
  | swapInvested => exact ha
  | divestKept => exact nofun
  | divestSpent => exact nofun

/-- A slippage is checked before it is stored. -/
theorem Reachable.bounded (h : a.Reachable) : a.Bounded := by
  induction h with
  | setUp born =>
    simp only [Account.setUp, bind_eq_ok_iff] at born
    obtain ⟨ledger, -, borrower, -, backend, -, venue, -, -, -, ⟨⟩⟩ := born
    intro d hd
    cases hd
  | execute before told ih => exact (step_of_execute told).bounded ih
  | reply before heard ih => exact (hears_of_reply heard).bounded ih

end Stablecoin.Account
