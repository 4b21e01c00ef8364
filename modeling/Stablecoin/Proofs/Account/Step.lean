import Stablecoin.Account.Execute

set_option autoImplicit false

/-! # What a message or a reply does to an account

`Step` and `Hears` list, entry by entry, under which conditions an account carries it out, the
account that comes of it and what it asks the chain to do. `step_of_execute` and `hears_of_reply`
read them off the code once; laws about accounts are case splits on the two relations. -/

namespace Stablecoin.Account

/-! ## The relations -/

/-- Sends an amount of a currency to the borrower. -/
def withdrawAction (a : Account) (asset : Asset) (amount : Amount) : Action :=
  match asset with
  | .quote => .send a.config.borrower (a.quoteCoins amount)
  | .stablecoin => a.tellLedger (Ledger.transferJson a.config.borrower amount)

/-- What a message makes of an account that carries it out, and what the account asks the chain to
    do after it. -/
inductive Step (a : Account) (env : Env) (sender : Address) :
    Message → Account → List Outgoing → Prop where
  | configure {risk : RiskConfig} {accruedFee : Amount} (authorized : sender = a.config.borrower)
      (bounded : risk.check = .ok ())
      (fee : a.position.feeAt a.risk.spreadFee env.now = .ok accruedFee) :
      Step a env sender (.configure risk)
        { a with risk, position := { a.position with accruedFee, checkpoint := env.now } } []
  | borrow {amount borrowed accruedFee : Amount} (authorized : sender = a.config.borrower)
      (active : a.position.paused = false) (positive : amount ≠ 0)
      (drawn : borrowed.toNat = a.position.borrowed.toNat + amount.toNat)
      (capped : borrowed ≤ a.risk.maxBorrow)
      (fee : a.position.feeAt a.risk.spreadFee env.now = .ok accruedFee) :
      Step a env sender (.borrow amount)
        { a with position := { a.position with borrowed, accruedFee, checkpoint := env.now } }
        [{ action := a.tellLedger (Ledger.mintJson env.self amount) }]
  | repay {amount borrowed balance accruedFee : Amount} (authorized : sender = a.config.borrower)
      (positive : amount ≠ 0)
      (repaid : a.position.borrowed.toNat = borrowed.toNat + amount.toNat)
      (held : a.stablecoinBalance env = .ok balance) (enough : amount ≤ balance)
      (fee : a.position.feeAt a.risk.spreadFee env.now = .ok accruedFee) :
      Step a env sender (.repay amount)
        { a with position := { a.position with borrowed, accruedFee, checkpoint := env.now } }
        [{ action := a.tellLedger (Ledger.burnJson amount) }]
  | payFee {fee balance : Amount} {ledger : Ledger.Config} (authorized : sender = a.config.borrower)
      (due : a.position.feeAt a.risk.spreadFee env.now = .ok fee) (positive : fee ≠ 0)
      (held : a.stablecoinBalance env = .ok balance) (enough : fee ≤ balance)
      (asked : Ledger.askConfig env.querier a.config.ledger = .ok ledger) :
      Step a env sender .payFee
        { a with position := { a.position with accruedFee := 0, checkpoint := env.now } }
        [{ action := a.tellLedger (Ledger.transferJson ledger.treasury fee) }]
  | investIdle {amount : Amount} {slippage : Ratio} {v : Valuation}
      (authorized : sender = a.config.borrower) (active : a.position.paused = false)
      (bounded : slippage.toNat ≤ precision) (positive : amount ≠ 0)
      (valued : a.valuation env = .ok v) (enough : amount ≤ v.quoteBalance) :
      Step a env sender (.invest amount slippage)
        { a with position := a.position.adjust amount 0 } [{ action := a.investAction amount }]
  | investSold {amount shortfall sold minAmountOut : Amount} {slippage : Ratio} {v : Valuation}
      (authorized : sender = a.config.borrower) (active : a.position.paused = false)
      (bounded : slippage.toNat ≤ precision) (positive : amount ≠ 0)
      (valued : a.valuation env = .ok v)
      (missing : ¬ amount ≤ v.quoteBalance)
      (short : amount.toNat = shortfall.toNat + v.quoteBalance.toNat)
      (priced : stablecoinAmount shortfall v.targetPrice = .ok sold)
      (enough : sold ≤ v.stablecoinBalance)
      (least : applyRatio shortfall (precision - slippage.toNat) = .ok minAmountOut) :
      Step a env sender (.invest amount slippage)
        { a with swap := some { assetOut := .quote, balanceBefore := v.quoteBalance, minAmountOut,
                                afterSwap := .invest amount } }
        [{ action := a.sellAction sold minAmountOut, replyId := some swapReply }]
  | divest {amount : Amount} {v : Valuation} (authorized : sender = a.config.borrower)
      (positive : amount ≠ 0) (valued : a.valuation env = .ok v) (enough : amount ≤ v.assetValue) :
      Step a env sender (.divest amount none)
        { a with position := a.position.adjust 0 amount } [{ action := a.divestAction amount }]
  | divestToBuy {amount : Amount} {slippage : Ratio} {v : Valuation}
      (authorized : sender = a.config.borrower) (positive : amount ≠ 0)
      (valued : a.valuation env = .ok v) (enough : amount ≤ v.assetValue)
      (bounded : slippage.toNat ≤ precision) :
      Step a env sender (.divest amount (some slippage))
        { a with position := a.position.adjust 0 amount,
                 divest := some { quoteBefore := v.quoteBalance, slippage } }
        [{ action := a.divestAction amount, replyId := some divestReply }]
  | sell {amount minAmountOut : Amount} {v : Valuation} (authorized : sender = a.config.borrower)
      (active : a.position.paused = false) (positive : amount ≠ 0)
      (valued : a.valuation env = .ok v) (enough : amount ≤ v.stablecoinBalance) :
      Step a env sender (.sell amount minAmountOut)
        { a with swap := some { assetOut := .quote, balanceBefore := v.quoteBalance, minAmountOut,
                                afterSwap := .hold } }
        [{ action := a.sellAction amount minAmountOut, replyId := some swapReply }]
  | buy {amount minAmountOut : Amount} {v : Valuation} (authorized : sender = a.config.borrower)
      (active : a.position.paused = false) (positive : amount ≠ 0)
      (valued : a.valuation env = .ok v) (enough : amount ≤ v.quoteBalance) :
      Step a env sender (.buy amount minAmountOut)
        { a with swap := some { assetOut := .stablecoin, balanceBefore := v.stablecoinBalance,
                                minAmountOut, afterSwap := .hold } }
        [{ action := a.buyAction amount minAmountOut, replyId := some swapReply }]
  | collect (authorized : sender = a.config.borrower) :
      Step a env sender .collect a
        [{ action := a.tellBackend (.collect a.config.borrower) [] }]
  | withdraw {asset : Asset} {amount withdrawn : Amount} {v : Valuation}
      (authorized : sender = a.config.borrower) (active : a.position.paused = false)
      (positive : amount ≠ 0) (valued : a.valuation env = .ok v)
      (worth : v.valueOf asset amount = .ok withdrawn) (enough : amount ≤ v.balanceOf asset)
      (solvent : a.requireSolventAfter v withdrawn = .ok ()) :
      Step a env sender (.withdraw asset amount) a
        [{ action := a.withdrawAction asset amount }]
  | autoInvest {amount borrowed accruedFee value minAmountOut : Amount} {slippage ratio : Ratio}
      {ledger : Ledger.Config} {v : Valuation}
      (asked : Ledger.askConfig env.querier a.config.ledger = .ok ledger)
      (authorized : some sender = ledger.balancer) (active : a.position.paused = false)
      (bounded : slippage.toNat ≤ precision) (enabled : a.risk.autoInvestEnabled = true)
      (least : a.risk.autoInvestMinAmount ≤ amount) (valued : a.valuation env = .ok v)
      (measured : v.equityRatio a.position.borrowed = .ok ratio)
      (healthy : a.risk.autoInvestMinEquityRatio ≤ ratio) (positive : amount ≠ 0)
      (drawn : borrowed.toNat = a.position.borrowed.toNat + amount.toNat)
      (capped : borrowed ≤ a.risk.maxBorrow)
      (fee : a.position.feeAt a.risk.spreadFee env.now = .ok accruedFee)
      (priced : quoteValue amount v.targetPrice = .ok value)
      (fair : applyRatio value (precision - slippage.toNat) = .ok minAmountOut) :
      Step a env sender (.autoInvest amount slippage)
        { a with position := { a.position with borrowed, accruedFee, checkpoint := env.now },
                 swap := some { assetOut := .quote, balanceBefore := v.quoteBalance, minAmountOut,
                                afterSwap := .investReceived } }
        [{ action := a.tellLedger (Ledger.mintJson env.self amount) },
          { action := a.sellAction amount minAmountOut, replyId := some swapReply }]
  | stateValue {value : Option Amount} {ledger : Ledger.Config}
      (asked : Ledger.askConfig env.querier a.config.ledger = .ok ledger)
      (authorized : sender = ledger.collateralAgency) :
      Step a env sender (.stateValue value)
        { a with position := { a.position with statedValue := value } } []
  | pause {ledger : Ledger.Config}
      (asked : Ledger.askConfig env.querier a.config.ledger = .ok ledger)
      (authorized : sender = ledger.owner) :
      Step a env sender .pause { a with position := { a.position with paused := true } } []
  | unpause {ledger : Ledger.Config}
      (asked : Ledger.askConfig env.querier a.config.ledger = .ok ledger)
      (authorized : sender = ledger.owner) :
      Step a env sender .unpause { a with position := { a.position with paused := false } } []
  | liquidate {v : Valuation} {ratio : Ratio} {p : Payout}
      {entitled stablecoinValue paidValue : Amount}
      (valued : a.valuation env = .ok v) (measured : v.equityRatio a.position.borrowed = .ok ratio)
      (indebted : a.position.borrowed ≠ 0)
      (defaulted : isDefaulted ratio a.risk.minEquityRatio = true)
      (owed : entitlement v a.position.borrowed a.risk.liquidatorDiscount = .ok entitled)
      (paid : payout v entitled = .ok p)
      (priced : quoteValue p.stablecoinPaid v.targetPrice = .ok stablecoinValue)
      (summed : paidValue.toNat = stablecoinValue.toNat + p.quotePaid.toNat) :
      Step a env sender .liquidate
        { a with position := { a.position.adjust 0 p.fromBackend with
                                borrowed := 0, accruedFee := 0, checkpoint := env.now } }
        ((a.settlement env.self sender a.position.borrowed p).map fun action => { action })

/-- What a reply makes of an account that hears it, and what the account asks the chain to do
    after it. -/
inductive Hears (a : Account) (env : Env) : Nat → Account → List Outgoing → Prop where
  | swapHeld {swap : PendingSwap} {balance : Amount} (pending : a.swap = some swap)
      (measured : a.balanceOf env swap.assetOut = .ok balance)
      (enough : swap.minAmountOut ≤ balance.saturatingSub swap.balanceBefore)
      (idle : (swap.afterSwap.investment balance
        (balance.saturatingSub swap.balanceBefore)).filter (· ≠ 0) = none) :
      Hears a env swapReply { a with swap := none } []
  | swapInvested {swap : PendingSwap} {balance amount : Amount} (pending : a.swap = some swap)
      (measured : a.balanceOf env swap.assetOut = .ok balance)
      (enough : swap.minAmountOut ≤ balance.saturatingSub swap.balanceBefore)
      (invested : (swap.afterSwap.investment balance
        (balance.saturatingSub swap.balanceBefore)).filter (· ≠ 0) = some amount) :
      Hears a env swapReply { a with swap := none, position := a.position.adjust amount 0 }
        [{ action := a.investAction amount }]
  | divestKept {divest : PendingDivest} (pending : a.divest = some divest)
      (nothing : (a.quoteBalance env).saturatingSub divest.quoteBefore = 0) :
      Hears a env divestReply { a with divest := none } []
  | divestSpent {divest : PendingDivest} {received price fair minAmountOut balanceBefore : Amount}
      (pending : a.divest = some divest)
      (measured : received = (a.quoteBalance env).saturatingSub divest.quoteBefore)
      (something : received ≠ 0)
      (asked : Ledger.askTargetPrice env.querier a.config.ledger = .ok price)
      (priced : stablecoinAmount received price = .ok fair)
      (bounded : divest.slippage.toNat ≤ precision)
      (least : applyRatio fair (precision - divest.slippage.toNat) = .ok minAmountOut)
      (held : a.stablecoinBalance env = .ok balanceBefore) :
      Hears a env divestReply
        { a with divest := none,
                 swap := some { assetOut := .stablecoin, balanceBefore, minAmountOut,
                                afterSwap := .hold } }
        [{ action := a.buyAction received minAmountOut, replyId := some swapReply }]

variable {a a' : Account} {env : Env} {sender : Address} {r : Response}

/-! ## Debt, fee and withdrawals -/

theorem checkpointAt_eq_ok_iff {p p' : Position} {spreadFee : Ratio} {now : Seconds} :
    p.checkpointAt spreadFee now = .ok p' ↔ ∃ accruedFee, p.feeAt spreadFee now = .ok accruedFee ∧
      p' = { p with accruedFee, checkpoint := now } := by
  simp only [Position.checkpointAt, bind_eq_ok_iff, pure_eq_ok_iff, @eq_comm _ p']

theorem step_of_configure {risk : RiskConfig} (h : a.configure env sender risk = .ok (a', r)) :
    Step a env sender (.configure risk) a' r.outgoing := by
  simp only [configure, requireBorrower, bind_eq_ok_iff, require_eq_ok_iff, exists_const, liftM,
    monadLift_eq_ok_iff, checkpointAt_eq_ok_iff, pure_eq_ok_iff] at h
  obtain ⟨authorized, _, bounded, _, ⟨accruedFee, fee, rfl⟩, h⟩ := h
  cases h
  exact .configure authorized bounded fee

/-- New debt is within the cap, and the fee so far is on record before it. -/
theorem increaseDebt_eq_ok {amount : Amount} {action : Action}
    (h : a.increaseDebt env amount = .ok (a', action)) :
    amount ≠ 0 ∧ ∃ borrowed accruedFee : Amount,
      borrowed.toNat = a.position.borrowed.toNat + amount.toNat ∧ borrowed ≤ a.risk.maxBorrow ∧
      a.position.feeAt a.risk.spreadFee env.now = .ok accruedFee ∧
      a' = { a with position := { a.position with borrowed, accruedFee, checkpoint := env.now } } ∧
      action = a.tellLedger (Ledger.mintJson env.self amount) := by
  simp only [increaseDebt, bind_eq_ok_iff, require_eq_ok_iff, exists_const, mapError_eq_ok_iff,
    Amount.checkedAdd_eq_ok_iff, liftM, monadLift_eq_ok_iff, checkpointAt_eq_ok_iff,
    pure_eq_ok_iff] at h
  obtain ⟨positive, borrowed, drawn, capped, _, ⟨accruedFee, fee, rfl⟩, h⟩ := h
  cases h
  exact ⟨positive, borrowed, accruedFee, drawn, capped, fee, rfl, rfl⟩

theorem step_of_borrow {amount : Amount} (h : a.borrow env sender amount = .ok (a', r)) :
    Step a env sender (.borrow amount) a' r.outgoing := by
  simp only [borrow, requireBorrower, requireActive, bind_eq_ok_iff, require_eq_ok_iff,
    exists_const, pure_eq_ok_iff, Bool.not_eq_true] at h
  obtain ⟨authorized, active, ⟨_, _⟩, hdebt, h⟩ := h
  obtain ⟨positive, borrowed, accruedFee, drawn, capped, fee, rfl, rfl⟩ := increaseDebt_eq_ok hdebt
  cases h
  exact .borrow authorized active positive drawn capped fee

theorem step_of_repay {amount : Amount} (h : a.repay env sender amount = .ok (a', r)) :
    Step a env sender (.repay amount) a' r.outgoing := by
  simp only [repay, requireBorrower, bind_eq_ok_iff, require_eq_ok_iff, exists_const, liftM,
    monadLift_eq_ok_iff, checkpointAt_eq_ok_iff, Amount.minus_eq_ok_iff, pure_eq_ok_iff] at h
  obtain ⟨authorized, positive, -, balance, held, enough, _, ⟨accruedFee, fee, rfl⟩, borrowed,
    repaid, h⟩ := h
  cases h
  exact .repay authorized positive repaid held enough fee

theorem step_of_payFee (h : a.payFee env sender = .ok (a', r)) :
    Step a env sender .payFee a' r.outgoing := by
  simp only [payFee, requireBorrower, bind_eq_ok_iff, require_eq_ok_iff, exists_const, liftM,
    monadLift_eq_ok_iff, pure_eq_ok_iff] at h
  obtain ⟨authorized, fee, due, positive, balance, held, enough, ledger, asked, h⟩ := h
  cases h
  exact .payFee authorized due positive held enough asked

theorem step_of_withdraw {asset : Asset} {amount : Amount}
    (h : a.withdraw env sender asset amount = .ok (a', r)) :
    Step a env sender (.withdraw asset amount) a' r.outgoing := by
  simp only [withdraw, requireBorrower, requireActive, bind_eq_ok_iff, require_eq_ok_iff,
    exists_const, liftM, monadLift_eq_ok_iff, pure_eq_ok_iff, Bool.not_eq_true] at h
  obtain ⟨authorized, active, positive, v, valued, withdrawn, worth, enough, _, solvent, h⟩ := h
  cases h
  cases asset <;> exact .withdraw authorized active positive valued worth enough solvent

/-! ## Investing and swapping -/

theorem step_of_invest {amount : Amount} {slippage : Ratio}
    (h : a.invest env sender amount slippage = .ok (a', r)) :
    Step a env sender (.invest amount slippage) a' r.outgoing := by
  simp only [invest, requireBorrower, requireActive, requireRatio, bind_eq_ok_iff,
    require_eq_ok_iff, exists_const, liftM, monadLift_eq_ok_iff, Bool.not_eq_true] at h
  obtain ⟨authorized, active, bounded, positive, v, valued, h⟩ := h
  split at h
  · rename_i enough
    cases h
    exact .investIdle authorized active bounded positive valued enough
  · rename_i missing
    simp only [bind_eq_ok_iff, require_eq_ok_iff, exists_const, monadLift_eq_ok_iff,
      Amount.minus_eq_ok_iff, complement_eq_ok_iff, pure_eq_ok_iff] at h
    obtain ⟨shortfall, short, sold, priced, enough, _, ⟨-, rfl⟩, minAmountOut, least, h⟩ := h
    cases h
    exact .investSold authorized active bounded positive valued missing short priced enough least

theorem step_of_divest {amount : Amount} {slippage : Option Ratio}
    (h : a.divestFrom env sender amount slippage = .ok (a', r)) :
    Step a env sender (.divest amount slippage) a' r.outgoing := by
  simp only [divestFrom, requireBorrower, requireRatio, bind_eq_ok_iff, require_eq_ok_iff,
    exists_const, liftM, monadLift_eq_ok_iff] at h
  obtain ⟨authorized, positive, v, valued, enough, h⟩ := h
  cases slippage with
  | none =>
    cases h
    exact .divest authorized positive valued enough
  | some slippage =>
    simp only [bind_eq_ok_iff, require_eq_ok_iff, exists_const, pure_eq_ok_iff] at h
    obtain ⟨bounded, h⟩ := h
    cases h
    exact .divestToBuy authorized positive valued enough bounded

theorem step_of_sell {amount minAmountOut : Amount}
    (h : a.sell env sender amount minAmountOut = .ok (a', r)) :
    Step a env sender (.sell amount minAmountOut) a' r.outgoing := by
  simp only [sell, requireBorrower, requireActive, bind_eq_ok_iff, require_eq_ok_iff, exists_const,
    liftM, monadLift_eq_ok_iff, pure_eq_ok_iff, Bool.not_eq_true] at h
  obtain ⟨authorized, active, positive, v, valued, enough, h⟩ := h
  cases h
  exact .sell authorized active positive valued enough

theorem step_of_buy {amount minAmountOut : Amount}
    (h : a.buy env sender amount minAmountOut = .ok (a', r)) :
    Step a env sender (.buy amount minAmountOut) a' r.outgoing := by
  simp only [buy, requireBorrower, requireActive, bind_eq_ok_iff, require_eq_ok_iff, exists_const,
    liftM, monadLift_eq_ok_iff, pure_eq_ok_iff, Bool.not_eq_true] at h
  obtain ⟨authorized, active, positive, v, valued, enough, h⟩ := h
  cases h
  exact .buy authorized active positive valued enough

theorem step_of_collect (h : a.collect sender = .ok (a', r)) :
    Step a env sender .collect a' r.outgoing := by
  simp only [collect, requireBorrower, bind_eq_ok_iff, require_eq_ok_iff, exists_const,
    pure_eq_ok_iff] at h
  obtain ⟨authorized, h⟩ := h
  cases h
  exact .collect authorized

theorem step_of_autoInvest {amount : Amount} {slippage : Ratio}
    (h : a.autoInvest env sender amount slippage = .ok (a', r)) :
    Step a env sender (.autoInvest amount slippage) a' r.outgoing := by
  simp only [autoInvest, requireActive, requireRatio, bind_eq_ok_iff, require_eq_ok_iff,
    exists_const, liftM, monadLift_eq_ok_iff, complement_eq_ok_iff, pure_eq_ok_iff,
    Bool.not_eq_true] at h
  obtain ⟨ledger, asked, authorized, active, bounded, enabled, least, v, valued, ratio, measured,
    healthy, ⟨_, _⟩, hdebt, value, priced, _, ⟨-, rfl⟩, minAmountOut, fair, h⟩ := h
  obtain ⟨positive, borrowed, accruedFee, drawn, capped, fee, rfl, rfl⟩ := increaseDebt_eq_ok hdebt
  cases h
  exact .autoInvest asked authorized active bounded enabled least valued measured healthy positive
    drawn capped fee priced fair

/-! ## The roles of the ledger -/

theorem step_of_stateValue {value : Option Amount}
    (h : a.stateValue env sender value = .ok (a', r)) :
    Step a env sender (.stateValue value) a' r.outgoing := by
  simp only [stateValue, bind_eq_ok_iff, require_eq_ok_iff, exists_const, liftM,
    monadLift_eq_ok_iff, pure_eq_ok_iff] at h
  obtain ⟨ledger, asked, authorized, h⟩ := h
  cases h
  exact .stateValue asked authorized

theorem step_of_setPaused {paused : Bool} (h : a.setPaused env sender paused = .ok (a', r)) :
    Step a env sender (if paused then .pause else .unpause) a' r.outgoing := by
  simp only [setPaused, bind_eq_ok_iff, require_eq_ok_iff, exists_const, liftM,
    monadLift_eq_ok_iff, pure_eq_ok_iff] at h
  obtain ⟨ledger, asked, authorized, h⟩ := h
  cases h
  cases paused with
  | true => exact .pause asked authorized
  | false => exact .unpause asked authorized

/-! ## Liquidation -/

theorem step_of_liquidate (h : a.liquidate env sender = .ok (a', r)) :
    Step a env sender .liquidate a' r.outgoing := by
  simp only [liquidate, bind_eq_ok_iff, require_eq_ok_iff, exists_const, liftM,
    monadLift_eq_ok_iff, mapError_eq_ok_iff, Amount.checkedAdd_eq_ok_iff, pure_eq_ok_iff] at h
  obtain ⟨v, valued, ratio, measured, ⟨indebted, defaulted⟩, entitled, owed, p, paid,
    stablecoinValue, priced, paidValue, summed, h⟩ := h
  cases h
  exact .liquidate valued measured indebted defaulted owed paid priced summed

/-! ## Every message and every reply -/

/-- A message that is carried out does what `Step` says. -/
theorem step_of_execute {m : Message} (h : a.execute env sender m = .ok (a', r)) :
    Step a env sender m a' r.outgoing := by
  cases m with
  | configure risk => exact step_of_configure h
  | borrow amount => exact step_of_borrow h
  | repay amount => exact step_of_repay h
  | payFee => exact step_of_payFee h
  | invest amount slippage => exact step_of_invest h
  | divest amount slippage => exact step_of_divest h
  | sell amount minAmountOut => exact step_of_sell h
  | buy amount minAmountOut => exact step_of_buy h
  | collect => exact step_of_collect h
  | withdraw asset amount => exact step_of_withdraw h
  | autoInvest amount slippage => exact step_of_autoInvest h
  | stateValue value => exact step_of_stateValue h
  | pause => exact step_of_setPaused h
  | unpause => exact step_of_setPaused h
  | liquidate => exact step_of_liquidate h

theorem hears_of_swapDone (h : a.swapDone env = .ok (a', r)) :
    Hears a env swapReply a' r.outgoing := by
  simp only [swapDone, bind_eq_ok_iff, require_eq_ok_iff, exists_const, liftM,
    monadLift_eq_ok_iff, orMissing_eq_ok_iff] at h
  obtain ⟨swap, pending, balance, measured, enough, h⟩ := h
  split at h
  · rename_i amount invested
    cases h
    exact .swapInvested pending measured enough invested
  · rename_i idle
    cases h
    exact .swapHeld pending measured enough idle

theorem hears_of_divestDone (h : a.divestDone env = .ok (a', r)) :
    Hears a env divestReply a' r.outgoing := by
  simp only [divestDone, bind_eq_ok_iff, liftM, monadLift_eq_ok_iff, orMissing_eq_ok_iff] at h
  obtain ⟨divest, pending, h⟩ := h
  split at h
  · rename_i nothing
    cases h
    exact .divestKept pending nothing
  · rename_i something
    simp only [bind_eq_ok_iff, monadLift_eq_ok_iff, complement_eq_ok_iff, pure_eq_ok_iff] at h
    obtain ⟨price, asked, fair, priced, _, ⟨bounded, rfl⟩, minAmountOut, least, balanceBefore,
      held, h⟩ := h
    cases h
    exact .divestSpent pending rfl something asked priced bounded least held

/-- A reply that is heard does what `Hears` says. -/
theorem hears_of_reply {id : Nat} (h : a.reply env id = .ok (a', r)) :
    Hears a env id a' r.outgoing := by
  unfold reply at h
  split at h
  · rename_i hid
    subst hid
    exact hears_of_swapDone h
  · split at h
    · rename_i hid
      subst hid
      exact hears_of_divestDone h
    · cases h

/-! ## What an account keeps -/

/-- Whom an account deals with never changes. -/
theorem Step.config_eq {m : Message} {out : List Outgoing} (h : Step a env sender m a' out) :
    a'.config = a.config := by
  cases h <;> rfl

theorem Hears.config_eq {id : Nat} {out : List Outgoing} (h : Hears a env id a' out) :
    a'.config = a.config := by
  cases h <;> rfl

theorem risk_check_of_setUp {s : Setup} (h : setUp env s = .ok (a, r)) :
    a.risk.check = .ok () := by
  simp only [setUp, bind_eq_ok_iff] at h
  obtain ⟨ledger, -, borrower, -, backend, -, venue, -, _, checked, h⟩ := h
  cases h
  exact checked

/-- A new account owes nothing. -/
theorem borrowed_of_setUp {s : Setup} (h : setUp env s = .ok (a, r)) : a.position.borrowed = 0 := by
  simp only [setUp, bind_eq_ok_iff] at h
  obtain ⟨ledger, -, borrower, -, backend, -, venue, -, -, -, h⟩ := h
  cases h
  rfl

/-- Risk parameters are only replaced by such as pass the check. -/
theorem Step.risk_check {m : Message} {out : List Outgoing} (h : Step a env sender m a' out)
    (checked : a.risk.check = .ok ()) : a'.risk.check = .ok () := by
  cases h with
  | configure authorized bounded fee => exact bounded
  | _ => exact checked

theorem Hears.risk_check {id : Nat} {out : List Outgoing} (h : Hears a env id a' out)
    (checked : a.risk.check = .ok ()) : a'.risk.check = .ok () := by
  cases h <;> exact checked

/-! ## What replies overlook -/

/-- The account with its parameters and its position revised. -/
def revised (f : RiskConfig → RiskConfig) (p : Position → Position) (a : Account) : Account :=
  { a with risk := f a.risk, position := p a.position }

section Revised

variable {f : RiskConfig → RiskConfig} {p : Position → Position}
  (hp : ∀ q invested divested, (p q).adjust invested divested = p (q.adjust invested divested))

include hp

theorem swapDone_revised : (a.revised f p).swapDone env
    = (fun x => (x.1.revised f p, x.2)) <$> a.swapDone env := by
  simp only [swapDone, map_bind]
  refine bind_congr fun swap => bind_congr fun balance => bind_congr fun _ => ?_
  cases (swap.afterSwap.investment balance (balance.saturatingSub swap.balanceBefore)).filter
    (· ≠ 0) with
  | none => rfl
  | some amount =>
    simp only [revised, hp]
    rfl

omit hp in
theorem divestDone_revised : (a.revised f p).divestDone env
    = (fun x => (x.1.revised f p, x.2)) <$> a.divestDone env := by
  simp only [divestDone, map_bind, map_pure, apply_ite]
  rfl

/-- A reply does the same if parameters and position are revised in a way that does not meet the
    value that is stated. -/
theorem reply_revised (id : Nat) : (a.revised f p).reply env id
    = (fun x => (x.1.revised f p, x.2)) <$> a.reply env id := by
  unfold reply
  split
  · exact swapDone_revised hp
  · split
    · exact divestDone_revised
    · rfl

end Revised

end Stablecoin.Account
