import Stablecoin.Proofs.Chain.View

set_option autoImplicit false

/-! # Solvency after a withdrawal

Before it pays out, an account subtracts the value of what goes from the value of all that it has,
and checks that the rest is solvent. Values are rounded down one by one, so that what stays may be
worth one unit less than the check foresees (`Valuation.Slips`): this happens when the fractions of
what goes and of what stays make up a whole. A withdrawal of quote currency never does. The last
unit can be the one that solvency needs, and then the withdrawal leaves the account in default. -/

namespace Stablecoin

namespace Account

/-! ## What stays -/

namespace Valuation

/-- What the account holds after an amount of a currency has left it. -/
def less (v : Valuation) (asset : Asset) (amount : Amount) : Valuation :=
  match asset with
  | .quote => { v with quoteBalance := v.quoteBalance.saturatingSub amount }
  | .stablecoin => { v with stablecoinBalance := v.stablecoinBalance.saturatingSub amount }

/-- The fractions that rounding takes off the value of what goes and of what stays make up a
    whole. -/
def Slips (v : Valuation) (asset : Asset) (amount : Amount) : Prop :=
  asset = .stablecoin ∧
    precision ≤ (v.stablecoinBalance.toNat - amount.toNat) * v.targetPrice.toNat % precision
      + amount.toNat * v.targetPrice.toNat % precision

instance (v : Valuation) (asset : Asset) (amount : Amount) : Decidable (v.Slips asset amount) :=
  inferInstanceAs (Decidable (_ ∧ _ ≤ _))

variable {v : Valuation} {asset : Asset} {amount withdrawn : Amount}

@[simp] theorem targetPrice_less : (v.less asset amount).targetPrice = v.targetPrice := by
  cases asset <;> rfl

/-- What goes and what stays are worth what all is worth, or one unit less. -/
theorem worth_less (enough : amount ≤ v.balanceOf asset)
    (worth : v.valueOf asset amount = .ok withdrawn) :
    v.worth = (v.less asset amount).worth + withdrawn.toNat
      + if v.Slips asset amount then 1 else 0 := by
  rw [Amount.le_iff] at enough
  cases asset with
  | quote =>
    cases worth
    have hslips : ¬ v.Slips .quote amount := fun h => by cases h.1
    rw [if_neg hslips]
    simp only [balanceOf] at enough
    simp only [Valuation.worth, less, Amount.toNat_saturatingSub]
    omega
  | stablecoin =>
    have hworth := quoteValue_eq_ok_iff.1 worth
    simp only [balanceOf] at enough
    have hadd := value_add (v.stablecoinBalance.toNat - amount.toNat) amount.toNat
      v.targetPrice.toNat
    rw [Nat.sub_add_cancel enough] at hadd
    simp only [Valuation.worth, less, Amount.toNat_saturatingSub, Slips, true_and, hadd, hworth]
    omega

end Valuation

/-! ## The check and the state after it -/

variable {a : Account} {env : Env}

/-- Asked whether it is in default, an account that is worth something compares its ratio. -/
theorem query_isDefaulted_iff {v : Valuation} {ratio : Ratio}
    (valued : a.valuation env = .ok v) (measured : v.equityRatio a.position.borrowed = .ok ratio) :
    a.query env .isDefaulted = .ok (.bool false) ↔ a.risk.minEquityRatio ≤ ratio := by
  simp only [query, currentEquityRatio, valued, measured, ok_bind, pure_eq_ok_iff, Json.bool.injEq,
    isDefaulted_eq_false_iff]

/-- An account is solvent by its own account of itself: its value covers its debt, and it says that
    it is not in default. -/
def ReportsSolvent (a : Account) (env : Env) : Prop :=
  ∃ v value debt, a.valuation env = .ok v ∧ v.currentValue = .ok value ∧
    v.debtValue a.position.borrowed = .ok debt ∧ debt ≤ value ∧
    a.query env .isDefaulted = .ok (.bool false)

theorem reportsSolvent_iff {v : Valuation} {value debt : Amount}
    (hmin : a.risk.minEquityRatio.toNat ≤ precision) (valued : a.valuation env = .ok v)
    (current : v.currentValue = .ok value) (owed : v.debtValue a.position.borrowed = .ok debt) :
    a.ReportsSolvent env ↔ Solvent a.risk.minEquityRatio value.toNat debt.toNat := by
  -- there always is a ratio, so the account has an answer to the query
  obtain ⟨ratio, hratio, -⟩ := exists_equityRatio value debt
  have measured : v.equityRatio a.position.borrowed = .ok ratio :=
    Valuation.equityRatio_eq_ok_iff.2 ⟨value, debt, current, owed, hratio⟩
  rw [solvent_iff hratio hmin, ReportsSolvent]
  constructor
  · rintro ⟨v', value', debt', hvalued, hcurrent, howed, hcovered, hquery⟩
    cases valued.symm.trans hvalued
    cases current.symm.trans hcurrent
    cases owed.symm.trans howed
    exact ⟨hcovered, (query_isDefaulted_iff valued measured).1 hquery⟩
  · rintro ⟨hcovered, hquery⟩
    exact ⟨v, value, debt, valued, current, owed, hcovered,
      (query_isDefaulted_iff valued measured).2 hquery⟩

/-- What the check of a withdrawal lets pass is solvent with the value that the check foresees. -/
theorem solvent_of_requireSolventAfter {v : Valuation} {withdrawn : Amount}
    (indebted : a.position.borrowed ≠ 0) (solvent : a.requireSolventAfter v withdrawn = .ok ()) :
    a.risk.minEquityRatio.toNat ≤ precision ∧
    ∃ value debt, v.currentValue = .ok value ∧ v.debtValue a.position.borrowed = .ok debt ∧
      Solvent a.risk.minEquityRatio (value.toNat - withdrawn.toNat) debt.toNat := by
  obtain ⟨value, debt, ratio, hvalue, hdebt, hcovered, hratio, hmin⟩ :=
    (requireSolventAfter_eq_ok_iff indebted).1 solvent
  -- no ratio exceeds one, so neither does a minimum that one has reached
  have hone : a.risk.minEquityRatio.toNat ≤ precision := by
    have hle := equityShare_le (value.saturatingSub withdrawn).toNat debt.toNat
    rw [← toNat_of_equityRatio hratio] at hle
    exact Nat.le_trans (UInt32.le_iff_toNat_le.1 hmin) hle
  exact ⟨hone, value, debt, hvalue, hdebt, (solvent_iff hratio hone).2 ⟨hcovered, hmin⟩⟩

/-- With what stays after a withdrawal that the check let pass, an account reports solvency unless
    the withdrawal slips and one unit less is not solvent. -/
theorem reportsSolvent_less_iff {env' : Env} {v : Valuation} {asset : Asset}
    {amount withdrawn : Amount} (indebted : a.position.borrowed ≠ 0)
    (enough : amount ≤ v.balanceOf asset) (worth : v.valueOf asset amount = .ok withdrawn)
    (solvent : a.requireSolventAfter v withdrawn = .ok ())
    (valued : a.valuation env' = .ok (v.less asset amount)) :
    ∃ value debt, v.currentValue = .ok value ∧ v.debtValue a.position.borrowed = .ok debt ∧
      (a.ReportsSolvent env' ↔ ¬ (v.Slips asset amount ∧
        ¬ Solvent a.risk.minEquityRatio (value.toNat - withdrawn.toNat - 1) debt.toNat)) := by
  obtain ⟨hmin, value, debt, hvalue, hdebt, hsolvent⟩ :=
    solvent_of_requireSolventAfter indebted solvent
  refine ⟨value, debt, hvalue, hdebt, ?_⟩
  have hworth := Valuation.worth_less enough worth
  rw [← Valuation.currentValue_eq_ok_iff.1 hvalue] at hworth
  have hlt := value.isLt
  have hleft : (v.less asset amount).currentValue
      = .ok ⟨(v.less asset amount).worth, by omega⟩ :=
    Valuation.currentValue_eq_ok_iff.2 rfl
  have howed : (v.less asset amount).debtValue a.position.borrowed = .ok debt := by
    rw [Valuation.debtValue, Valuation.targetPrice_less]
    exact hdebt
  rw [reportsSolvent_iff hmin valued hleft howed]
  by_cases hslips : v.Slips asset amount
  · rw [if_pos hslips] at hworth
    have hless : value.toNat - withdrawn.toNat - 1 = (v.less asset amount).worth := by omega
    rw [hless]
    simp only [hslips, true_and, Decidable.not_not]
  · rw [if_neg hslips] at hworth
    have hless : value.toNat - withdrawn.toNat = (v.less asset amount).worth := by omega
    rw [hless] at hsolvent
    simp only [hslips, hsolvent, false_and, not_false_eq_true]

end Account

/-! ## The withdrawal on the chain -/

namespace Chain

open Account

variable {σ : Type} [Outside σ] {c c₁ c' : Chain σ} {self sender : Address} {a : Account}
  {l : Ledger}

/-- When the action of a withdrawal is carried out, the account holds what is left, and nothing else
    has changed for it. -/
theorem valuation_of_runs_withdraw {asset : Asset} {amount : Amount} {v : Valuation}
    {tr : List (Moment σ)} (h : Joint c self a l) (other : a.config.borrower ≠ self)
    (valued : a.valuation (c.env self) = .ok v)
    (hr : Runs (c.put self (.account a)) [Call.ofAction self (a.withdrawAction asset amount)] tr c')
    (same : a.assetValue (c'.env self) = .ok v.assetValue) :
    ∃ l', Joint c' self a l' ∧ a.valuation (c'.env self) = .ok (v.less asset amount) := by
  obtain ⟨-, ⟨hvalid, hstablecoin⟩, hprice, hquote⟩ := h.valuation_eq_ok_iff.1 valued
  replace h : Joint (c.put self (.account a)) self a l := h.put_account rfl
  cases asset with
  | quote =>
    have paid := Runs.payAll_eq_ok hr
    have h' := h.congr (contract?_of_payAll paid)
    refine ⟨l, h', h'.valuation_eq_ok_iff.2 ⟨same, ⟨hvalid, hstablecoin⟩, ?_, ?_⟩⟩
    · rw [(frame_of_payAll paid).2]
      exact hprice
    · obtain ⟨hleft, -⟩ := balance_of_pay paid other.symm
      change (c.balance self a.config.quoteDenom).toNat = _ at hleft
      apply Amount.ext
      simp only [Valuation.less, hquote, Amount.toNat_saturatingSub]
      omega
  | stablecoin =>
    obtain ⟨l', tr', -, step, hr'⟩ := h.runs_tellLedger
      (Ledger.Message.ofJson?_transferJson a.config.borrower amount) (by simp) hr
    cases hr'
    cases step with
    | configure step => cases step
    | @transfer _ _ balances acceptable positive movable moves =>
      have h' : Joint _ self a { l with balances } := h.put_ledger
      refine ⟨_, h', h'.valuation_eq_ok_iff.2 ⟨same, ⟨hvalid, ?_⟩, hprice, hquote⟩⟩
      have hleft := moves.get_payer other.symm
      apply Amount.ext
      simp only [Valuation.less, hstablecoin, Amount.toNat_saturatingSub]
      omega

/-- A withdrawal from an account in debt, once it is carried out, leaves the account solvent by its
    own account unless it slips and the check had not a unit to spare. The value of the investment
    is taken to be what it was. -/
theorem reportsSolvent_after_withdraw_iff {message : Json} {funds : List Coin}
    {records : List Record} {asset : Asset} {amount : Amount} {v : Valuation}
    (h : Joint c self a l) (indebted : a.position.borrowed ≠ 0) (other : a.config.borrower ≠ self)
    (decoded : Account.Message.ofJson? message = some (.withdraw asset amount))
    (paid : c.payAll sender self funds = .ok c₁) (valued : a.valuation (c₁.env self) = .ok v)
    (done : c.transact (.execute sender self message funds) = .ok (c', records))
    (same : a.assetValue (c'.env self) = .ok v.assetValue) :
    ∃ l' withdrawn value debt, Joint c' self a l' ∧
      a.valuation (c'.env self) = .ok (v.less asset amount) ∧
      v.valueOf asset amount = .ok withdrawn ∧ v.currentValue = .ok value ∧
      v.debtValue a.position.borrowed = .ok debt ∧
      (a.ReportsSolvent (c'.env self) ↔ ¬ (v.Slips asset amount ∧
        ¬ Solvent a.risk.minEquityRatio (value.toNat - withdrawn.toNat - 1) debt.toNat)) := by
  cases runs_of_run done with
  | step performs runs =>
    obtain ⟨c₂, m, a', out, paid', decoded', step, rfl, rfl⟩ := h.performs_account performs
    cases paid.symm.trans paid'
    cases decoded.symm.trans decoded'
    cases step with
    | withdraw authorized active positive valued' worth enough solvent =>
      cases valued.symm.trans valued'
      have h₁ := h.congr (contract?_of_payAll paid)
      obtain ⟨l', h', valued'⟩ := valuation_of_runs_withdraw h₁ other valued runs same
      obtain ⟨value, debt, current, owed, hiff⟩ :=
        reportsSolvent_less_iff indebted enough worth solvent valued'
      exact ⟨l', _, value, debt, h', valued', worth, current, owed, hiff⟩

/-- At a price of one half, an account has one unit of quote currency and the 18 units of stablecoin
    that it owes. -/
def halfPriceAccount : Account :=
  sampleAccount 100000 0 (.ofNat 18)

def halfPriceLedger : Ledger :=
  sampleLedger (.ofNat 500000) (.ofNat 18) .empty
    (Holdings.empty.set "account" (.ofNat 18)) .empty

def halfPriceChain : Chain Collaborator :=
  sampleChain halfPriceLedger halfPriceAccount .empty
    (Holdings.empty.set ("account", "uquote") (.ofNat 1))

/-- A unit of stablecoin is worth nothing by itself, and the other 17 are worth 8. -/
def unitWithdrawal : Json :=
  .tagged "withdraw" [("asset", .str "sweep"), ("amount", .amount (.ofNat 1))]

theorem defaults_after_unitWithdrawal :
    ∃ c' records, halfPriceChain.transact (.execute "borrower" "account" unitWithdrawal [])
      = .ok (c', records) ∧ ¬ halfPriceAccount.ReportsSolvent (c'.env "account") := by
  have hrun : ∃ c' records, halfPriceChain.transact
      (.execute "borrower" "account" unitWithdrawal []) = .ok (c', records) ∧
      halfPriceAccount.assetValue (c'.env "account") = .ok 0 := ⟨_, _, rfl, rfl⟩
  obtain ⟨c', records, done, same⟩ := hrun
  have hjoint : Joint halfPriceChain "account" halfPriceAccount halfPriceLedger :=
    joint_sampleChain _ _ _
  have decoded : Account.Message.ofJson? unitWithdrawal
      = some (.withdraw .stablecoin (.ofNat 1)) := by rfl
  have valued : halfPriceAccount.valuation (halfPriceChain.env "account")
      = .ok ⟨0, .ofNat 1, .ofNat 18, .ofNat 500000⟩ := by rfl
  obtain ⟨l', withdrawn, value, debt, -, -, worth, current, owed, hiff⟩ :=
    reportsSolvent_after_withdraw_iff hjoint (by decide) (by decide) decoded rfl valued done same
  have hworth : withdrawn.toNat = 0 := quoteValue_eq_ok_iff.1 worth
  have hvalue : value.toNat = 10 := Valuation.currentValue_eq_ok_iff.1 current
  have howed : debt.toNat = 9 := Valuation.debtValue_eq_ok_iff.1 owed
  refine ⟨c', records, done, fun hsolvent => hiff.1 hsolvent ⟨by decide, ?_⟩⟩
  rw [hworth, hvalue, howed]
  decide

end Chain

end Stablecoin
