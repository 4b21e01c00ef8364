import Stablecoin.Proofs.Account.Slippage
import Stablecoin.Proofs.Chain.Events
import Stablecoin.Proofs.Chain.Failures
import Stablecoin.Proofs.Chain.View
import Stablecoin.Proofs.Venue

set_option autoImplicit false

/-! # Slippage at a venue that trades at the target price

A draw that is invested and a divestment that buys stablecoin ask for a share of what the venue owes
for what they trade, so they never find that it slipped. An investment that sells stablecoin asks
for a share of what it is short of, and the stablecoin that it sells is worth less than that by the
rounding: it slips just if the rounding takes more than the slippage allows
(`fair_trade_slippage`).

`SlipsIff` is what the proof follows along the calls of a transaction: they fail for slippage only
if a condition holds, and complete only if it does not. -/

namespace Stablecoin

open Chain Account

variable {σ : Type} [Outside σ]

/-! ## Where slippage is found -/

namespace Contract

variable {k : Contract σ} {env : Env} {sender : Address} {received minAmountOut : Amount}

omit [Outside σ] in
theorem ofAccount_eq_error_iff {x : Except Account.Error (Account × Response)}
    {e : Account.Error} :
    (ofAccount x : Except Error (Contract σ × Response)) = .error (.account e) ↔ x = .error e := by
  cases x <;> simp [ofAccount, Except.map]

/-- No message fails because a swap slipped. -/
theorem execute_ne_slippageExceeded {funds : List Coin} {message : Json} :
    k.execute env sender funds message
      ≠ .error (.account (.slippageExceeded received minAmountOut)) := by
  change Avoids _ _
  cases k with
  | account a =>
    have ha : ∀ m, Avoids (.slippageExceeded received minAmountOut) (a.execute env sender m) :=
      Account.execute_ne_slippageExceeded
    simp [execute, ofAccount, liftM, ha]
  | ledger l => simp [execute, ofLedger, liftM]
  | policy p => simp [execute, ofPolicy, liftM]
  | outside s => simp [execute, ofOutside]
  | _ => simp [execute, liftM]

/-- A reply fails for it only if an account is replied to. -/
theorem eq_account_of_reply {id : Nat}
    (h : k.reply env id = .error (.account (.slippageExceeded received minAmountOut))) :
    ∃ a, k = .account a ∧ a.reply env id = .error (.slippageExceeded received minAmountOut) := by
  cases k with
  | account a => exact ⟨a, rfl, ofAccount_eq_error_iff.1 h⟩
  | outside s =>
    rw [reply] at h
    split at h
    · rename_i x hx
      cases x <;> cases h
    · cases h
  | _ => cases h

end Contract

namespace Chain

/-- The error is that a swap of an account slipped. -/
def Error.IsSlippage (e : Error) : Prop :=
  ∃ a received minAmountOut, e = .contract a (.account (.slippageExceeded received minAmountOut))

variable {c d : Chain σ} {self sender b : Address} {a : Account} {l : Ledger} {call : Call}
  {rest next : List Call} {e : Error}

theorem perform_execute_not_slippage {message : Json} {funds : List Coin}
    (h : c.perform (.execute sender b message funds) = .error e) : ¬ e.IsSlippage := by
  rintro ⟨_, received, minAmountOut, rfl⟩
  obtain ⟨rfl, c₁, k, -, -, hrun⟩ := of_perform_execute_eq_error h
  exact Contract.execute_ne_slippageExceeded hrun

theorem perform_send_not_slippage {recipient : Address} {coins : List Coin}
    (h : c.perform (.send sender recipient coins) = .error e) : ¬ e.IsSlippage := by
  rintro ⟨_, received, minAmountOut, rfl⟩
  exact perform_send_ne_error h

/-- A reply to an account fails for slippage only if it tells that a swap is done, which brought in
    less than was asked for. -/
theorem perform_reply_slippage {id : Nat} (stands : c.account? self = some a)
    (h : c.perform (.reply self id) = .error e) (slips : e.IsSlippage) :
    id = swapReply ∧ ∃ swap balance, a.swap = some swap ∧
      a.balanceOf (c.env self) swap.assetOut = .ok balance ∧
      ¬ swap.minAmountOut ≤ balance.saturatingSub swap.balanceBefore := by
  obtain ⟨_, received, minAmountOut, rfl⟩ := slips
  obtain ⟨rfl, k, found, hrun⟩ := of_perform_reply_eq_error h
  obtain ⟨a', rfl, hreply⟩ := Contract.eq_account_of_reply hrun
  cases (account?_eq_some_iff.1 stands).symm.trans found
  exact slippage_of_reply hreply

/-! ## Calls that slip or not -/

/-- Calls fail for slippage only if a condition holds, and complete only if it does not, provided
    that every call on the way meets another condition. -/
def SlipsIff (P : Moment σ → Prop) (slips : Prop) (c : Chain σ) (calls : List Call) : Prop :=
  ∀ limit, (∀ m ∈ trace limit c calls, P m) →
    (∀ e, run limit c calls = .error e → e.IsSlippage → slips) ∧
    ∀ d records, run limit c calls = .ok (d, records) → ¬ slips

namespace SlipsIff

variable {P : Moment σ → Prop} {slips slips' : Prop}

theorem nil (h : ¬ slips) : SlipsIff P slips c [] := by
  intro limit _
  have hrun : run limit c [] = .ok (c, []) := by cases limit <;> rfl
  rw [hrun]
  exact ⟨nofun, fun _ _ _ => h⟩

theorem congr {calls : List Call} (h : SlipsIff P slips c calls) (heq : slips ↔ slips') :
    SlipsIff P slips' c calls := by
  rw [← propext heq]
  exact h

/-- A call, and all that is to be done after it. -/
theorem step (failing : ∀ e, c.perform call = .error e → e.IsSlippage → slips)
    (going : P ⟨c, call⟩ → ∀ d next, Performs c call d next → SlipsIff P slips d (next ++ rest)) :
    SlipsIff P slips c (call :: rest) := by
  intro limit hP
  cases limit with
  | zero =>
    constructor
    · rintro e h ⟨_, _, _, rfl⟩
      cases h
    · intro d records h
      cases h
  | succ limit =>
    cases hperform : c.perform call with
    | error e =>
      have hrun : run (limit + 1) c (call :: rest) = .error e := by
        simp only [run, hperform, error_bind]
      rw [hrun]
      constructor
      · rintro _ ⟨⟩ hslips
        exact failing e hperform hslips
      · intro d records h
        cases h
    | ok x =>
      obtain ⟨d, records, next⟩ := x
      simp only [trace, hperform] at hP
      obtain ⟨hfails, hcompletes⟩ := going (hP _ (List.mem_cons_self ..)) d next
        (performs_of_perform hperform) limit fun m hm => hP m (List.mem_cons_of_mem _ hm)
      constructor
      · intro e h hslips
        simp only [run, hperform, ok_bind, bind_eq_error_iff, pure_ne_error, and_false,
          exists_false, or_false] at h
        exact hfails e h hslips
      · intro d' records' h
        simp only [run, hperform, ok_bind, bind_eq_ok_iff] at h
        obtain ⟨⟨d₁, later⟩, hrun, -⟩ := h
        exact hcompletes d₁ later hrun

theorem execute {message : Json} {funds : List Coin}
    (going : P ⟨c, .execute sender b message funds⟩ → ∀ d next,
      Performs c (.execute sender b message funds) d next → SlipsIff P slips d (next ++ rest)) :
    SlipsIff P slips c (.execute sender b message funds :: rest) :=
  step (fun _ h hslips => absurd hslips (perform_execute_not_slippage h)) going

theorem send {recipient : Address} {coins : List Coin}
    (going : ∀ d, c.payAll sender recipient coins = .ok d → SlipsIff P slips d rest) :
    SlipsIff P slips c (.send sender recipient coins :: rest) := by
  refine step (fun _ h hslips => absurd hslips (perform_send_not_slippage h)) ?_
  rintro - d next hp
  cases hp with
  | send paid => exact going d paid

end SlipsIff

/-! ## A fair venue and a plain backend -/

/-- Whatever stands at the venue of an account trades at a price, and whatever stands at its backend
    pays back in full what is taken from it. -/
structure Moment.Fair (home : Address) (config : Config) (price : Amount) (m : Moment σ) :
    Prop where
  venue : ∀ k, m.chain.contract? config.venue = some k → ∃ s, k = .outside s ∧
    Venue.TradesAt s config.ledger config.quoteDenom price
  backend : ∀ k, m.chain.contract? config.backend = some k → ∃ s, k = .outside s ∧
    Backend.PaysBack s home config.quoteDenom

/-- If whatever stands at an address is a contract from outside with a property, then such a
    contract has carried out what was called there. -/
theorem performs_outside {Q : σ → Prop} {message : Json} {funds : List Coin}
    (outside : ∀ k, c.contract? b = some k → ∃ s, k = .outside s ∧ Q s)
    (hp : Performs c (.execute sender b message funds) d next) :
    ∃ s c₁ s' r, c.contract? b = some (.outside s) ∧ Q s ∧
      c.payAll sender b funds = .ok c₁ ∧
      Outside.execute s (c₁.env b) sender funds message = .ok (s', r) ∧
      d = c₁.put b (.outside s') ∧ next = callsOf b r.outgoing := by
  cases hp with
  | execute found paid entered =>
    obtain ⟨s, rfl, hs⟩ := outside _ found
    obtain ⟨s', hexecute, rfl⟩ := Contract.ofOutside_eq_ok entered
    exact ⟨s, _, s', _, found, hs, paid, hexecute, rfl, rfl⟩

omit [Outside σ] in
/-- A contract from outside is neither the account nor its ledger. -/
theorem Joint.ne_of_outside {s : σ} (h : Joint c self a l)
    (found : c.contract? b = some (.outside s)) : b ≠ self ∧ b ≠ a.config.ledger := by
  constructor
  · rintro rfl
    rw [h.account] at found
    cases found
  · rintro rfl
    rw [h.ledger] at found
    cases found

/-- What the account tells its ledger, before it goes on. -/
theorem slipsIff_tellLedger {P : Moment σ → Prop} {slips : Prop} {message : Json}
    {m : Ledger.Message} (h : Joint c self a l)
    (decoded : Ledger.Message.ofJson? message = some m)
    (quiet : ∀ contract amount payload, m ≠ .send contract amount payload)
    (going : ∀ l', Joint (c.put a.config.ledger (.ledger l')) self a l' →
      SlipsIff P slips (c.put a.config.ledger (.ledger l')) rest) :
    SlipsIff P slips c (Call.ofAction self (a.tellLedger message) :: rest) := by
  apply SlipsIff.execute
  intro _ d next hp
  obtain ⟨_, m', l', out, paid, decoded', step, rfl, rfl⟩ := h.performs_ledger hp
  cases paid
  cases decoded.symm.trans decoded'
  rw [step.out_eq_nil quiet]
  exact going l' h.put_ledger

section Fair

variable {P : Moment σ → Prop} {slips : Prop} {price : Amount}
  (fair : ∀ m, P m → m.Fair self a.config price)

include fair

/-- What is invested is not swapped. -/
theorem slipsIff_invest {amount : Amount} (kept : ¬ slips) :
    SlipsIff P slips c [Call.ofAction self (a.investAction amount)] := by
  apply SlipsIff.execute
  intro hP d next hp
  obtain ⟨s, c₁, s', r, -, paysBack, -, hexecute, rfl, rfl⟩ :=
    performs_outside (fair _ hP).backend hp
  rw [paysBack.keeps hexecute]
  exact .nil kept

/-- A swap that is done slipped if it brought in less than was asked for. -/
theorem slipsIff_swapReply {swap : PendingSwap} (h : Joint c self a l)
    (pending : a.swap = some swap)
    (measured : ∀ balance, a.balanceOf (c.env self) swap.assetOut = .ok balance →
      (slips ↔ ¬ swap.minAmountOut ≤ balance.saturatingSub swap.balanceBefore)) :
    SlipsIff P slips c [.reply self swapReply] := by
  refine SlipsIff.step ?_ ?_
  · intro e hfail hslips
    obtain ⟨-, swap', balance, hpending, hbalance, hless⟩ :=
      perform_reply_slippage h.account?_eq hfail hslips
    cases pending.symm.trans hpending
    exact (measured balance hbalance).2 hless
  · intro hP d next hp
    obtain ⟨a', stands, htouches⟩ := touches_of_performs h.account?_eq hp
    cases htouches with
    | elsewhere other foreign => exact absurd rfl other
    | reply hears =>
      rw [List.append_nil]
      cases hears with
      | swapHeld pending' hbalance enough idle =>
        cases pending.symm.trans pending'
        exact .nil fun hslips => (measured _ hbalance).1 hslips enough
      | swapInvested pending' hbalance enough invested =>
        cases pending.symm.trans pending'
        exact slipsIff_invest fair fun hslips => (measured _ hbalance).1 hslips enough

/-- The reply to a sale at a fair venue. -/
theorem slipsIff_sell {sold minAmountOut : Amount} {afterSwap : AfterSwap} (h : Joint c self a l)
    (pending : a.swap = some { assetOut := .quote
                               balanceBefore := c.balance self a.config.quoteDenom
                               minAmountOut, afterSwap })
    (room : sold.toNat * price.toNat / precision ≤
        (c.balance a.config.venue a.config.quoteDenom).toNat →
      (c.balance self a.config.quoteDenom).toNat + sold.toNat * price.toNat / precision
        < Amount.size) :
    SlipsIff P (sold.toNat * price.toNat / precision < minAmountOut.toNat) c
      (callsOf self [{ action := a.sellAction sold minAmountOut, replyId := some swapReply }]) := by
  -- the ledger books the stablecoin over to the venue, and tells the venue
  apply SlipsIff.execute
  intro _ d next hp
  obtain ⟨_, m, l', out, paid, decoded, step, rfl, rfl⟩ := h.performs_ledger hp
  cases paid
  cases (Ledger.Message.ofJson?_sendJson _ _ _).symm.trans decoded
  have h₁ : Joint (c.put a.config.ledger (.ledger l')) self a l' := h.put_ledger
  cases step with
  | configure step => cases step
  | send acceptable positive movable moves =>
    -- the venue pays
    apply SlipsIff.execute
    intro hP d next hp
    obtain ⟨s, _, s', r, found, trades, paid, hexecute, rfl, rfl⟩ :=
      performs_outside (fair _ hP).venue hp
    cases paid
    obtain ⟨amount, hamount, hout⟩ := trades.pays hexecute
    rw [hout]
    apply SlipsIff.send
    intro d hpaid
    -- and the account finds that much more than before
    have hne := h₁.ne_of_outside found
    have h₂ := (h₁.put_other hne (k := .outside s')).congr (contract?_of_payAll hpaid)
    refine slipsIff_swapReply fair h₂ pending ?_
    intro balance hbalance
    cases hbalance
    obtain ⟨hvenue, hself⟩ := balance_of_pay hpaid hne.1
    have hreceived : (a.quoteBalance (d.env self)).saturatingSub
        (c.balance self a.config.quoteDenom) = amount := by
      have hroom := room (by
        rw [← hamount]
        exact Nat.le.intro ((Nat.add_comm ..).trans hvenue.symm))
      show (d.balance self a.config.quoteDenom).saturatingSub _ = amount
      rw [hself]
      exact Amount.saturatingSub_saturatingAdd (by rw [hamount]; exact hroom)
    rw [hreceived, Amount.le_iff, hamount, Nat.not_le]

/-- The reply to a purchase at a fair venue. -/
theorem slipsIff_buy {spent minAmountOut : Amount} {afterSwap : AfterSwap} (h : Joint c self a l)
    (pending : a.swap = some { assetOut := .stablecoin, balanceBefore := l.balances.get self
                               minAmountOut, afterSwap }) :
    SlipsIff P (spent.toNat * precision / price.toNat < minAmountOut.toNat) c
      (callsOf self [{ action := a.buyAction spent minAmountOut, replyId := some swapReply }]) := by
  -- the venue takes the quote currency, and tells the ledger
  apply SlipsIff.execute
  intro hP d next hp
  obtain ⟨s, c₁, s', r, found, trades, paid, hexecute, rfl, rfl⟩ :=
    performs_outside (fair _ hP).venue hp
  obtain ⟨bought, hbought, hout⟩ := trades.delivers hexecute
  rw [hout]
  have hne := h.ne_of_outside found
  have h₁ : Joint (c₁.put a.config.venue (.outside s')) self a l :=
    (h.congr (contract?_of_payAll paid)).put_other hne
  -- the ledger books the stablecoin over to the account
  apply SlipsIff.execute
  intro _ d next hp
  obtain ⟨_, m, l', out, paid, decoded, step, rfl, rfl⟩ := h₁.performs_ledger hp
  cases paid
  cases (Ledger.Message.ofJson?_transferJson _ _).symm.trans decoded
  cases step with
  | configure step => cases step
  | @transfer _ _ balances acceptable positive movable moves =>
    have h₂ : Joint ((c₁.put a.config.venue (.outside s')).put a.config.ledger
        (.ledger { l with balances })) self a { l with balances } := h₁.put_ledger
    refine slipsIff_swapReply fair h₂ pending ?_
    intro balance hbalance
    obtain ⟨-, rfl⟩ := h₂.askBalance_eq_ok_iff.1 hbalance
    have hreceived : (balances.get self).saturatingSub (l.balances.get self) = bought := by
      apply Amount.ext
      rw [Amount.toNat_saturatingSub, moves.get_payee hne.1, Nat.add_sub_cancel_left]
    show _ ↔ ¬ minAmountOut ≤ (balances.get self).saturatingSub (l.balances.get self)
    rw [hreceived, Amount.le_iff, hbought, Nat.not_le]

/-- A divestment that is done never slips: the least that is asked for is a share of what a fair
    venue gives for all that came back. -/
theorem slipsIff_divestReply (h : Joint c self a l)
    (priced : l.config.targetPrice c.now = .ok price) :
    SlipsIff P False c [.reply self divestReply] := by
  refine SlipsIff.step ?_ ?_
  · intro e hfail hslips
    obtain ⟨hid, -⟩ := perform_reply_slippage h.account?_eq hfail hslips
    exact absurd hid (by decide)
  · intro _ d next hp
    obtain ⟨a', stands, htouches⟩ := touches_of_performs h.account?_eq hp
    cases htouches with
    | elsewhere other foreign => exact absurd rfl other
    | reply hears =>
      rw [List.append_nil]
      have h₁ := h.put_account hears.config_eq
      cases hears with
      | divestKept pending nothing => exact .nil not_false
      | divestSpent pending measured something asked fairly bounded least held =>
        cases (h.askTargetPrice_eq_ok_iff.1 asked).symm.trans priced
        obtain ⟨-, rfl⟩ := h.askBalance_eq_ok_iff.1 held
        obtain ⟨-, hfair⟩ := stablecoinAmount_eq_ok_iff.1 fairly
        have hleast := share_le least
        rw [Amount.le_iff, hfair] at hleast
        refine (slipsIff_buy ?_ h₁ rfl).congr (iff_false_intro (Nat.not_lt.2 hleast))
        exact fair

/-- A divestment, together with the reply to it. -/
theorem slipsIff_divest {amount : Amount} (h : Joint c self a l)
    (priced : l.config.targetPrice c.now = .ok price) :
    SlipsIff P False c
      (callsOf self [{ action := a.divestAction amount, replyId := some divestReply }]) := by
  apply SlipsIff.execute
  intro hP d next hp
  obtain ⟨s, _, s', r, found, paysBack, paid, hexecute, rfl, rfl⟩ :=
    performs_outside (fair _ hP).backend hp
  cases paid
  rw [paysBack.pays hexecute]
  apply SlipsIff.send
  intro d hpaid
  have h₁ := (h.put_other (h.ne_of_outside found) (k := .outside s')).congr
    (contract?_of_payAll hpaid)
  refine slipsIff_divestReply fair h₁ ?_
  rw [(frame_of_payAll hpaid).2]
  exact priced

end Fair

/-! ## The three trades -/

variable {message : Json} {funds : List Coin} {amount price : Amount} {slippage : Ratio}

/-- A message to the account. -/
theorem slipsIff_message {P : Moment σ → Prop} {slips : Prop} {m : Account.Message}
    (h : Joint c self a l) (decoded : Account.Message.ofJson? message = some m)
    (going : ∀ c₁ a' out, c.payAll sender self funds = .ok c₁ → c₁.now = c.now →
      Joint c₁ self a l → a.Step (c₁.env self) sender m a' out →
      Joint (c₁.put self (.account a')) self a' l →
      SlipsIff P slips (c₁.put self (.account a')) (callsOf self out)) :
    SlipsIff P slips c [.execute sender self message funds] := by
  apply SlipsIff.execute
  intro _ d next hp
  obtain ⟨c₁, m', a', out, paid, decoded', step, rfl, rfl⟩ := h.performs_account hp
  cases decoded.symm.trans decoded'
  have h₁ := h.congr (contract?_of_payAll paid)
  rw [List.append_nil]
  exact going c₁ a' out paid (frame_of_payAll paid).2 h₁ step (h₁.put_account step.config_eq)

/-- A draw that is invested does not slip at a fair venue, if the account has room for what the
    venue has. -/
theorem slipsIff_autoInvest (h : Joint c self a l)
    (priced : l.config.targetPrice c.now = .ok price)
    (decoded : Account.Message.ofJson? message = some (.autoInvest amount slippage))
    (room : ∀ c₁, c.payAll sender self funds = .ok c₁ →
      (c₁.balance self a.config.quoteDenom).toNat
        + (c₁.balance a.config.venue a.config.quoteDenom).toNat < Amount.size) :
    SlipsIff (Moment.Fair self a.config price) False c [.execute sender self message funds] := by
  refine slipsIff_message h decoded ?_
  intro c₁ a' out paid hnow hpaid step h₁
  cases step with
  | autoInvest asked authorized active bounded enabled least valued measured healthy positive drawn
      capped fee worth share =>
    obtain ⟨-, -, hprice, hquote⟩ := hpaid.valuation_eq_ok_iff.1 valued
    rw [hnow, priced] at hprice
    cases hprice
    -- the least that is asked for is a share of what the venue pays
    have hshare := share_le share
    rw [Amount.le_iff, quoteValue_eq_ok_iff.1 worth] at hshare
    refine (slipsIff_tellLedger h₁ (Ledger.Message.ofJson?_mintJson _ _) nofun ?_ : _)
    intro l' h₂
    refine (slipsIff_sell (fun _ fair => fair) h₂ (by rw [hquote]; rfl) ?_).congr
      (iff_false_intro (Nat.not_lt.2 hshare))
    intro has
    exact Nat.lt_of_le_of_lt (Nat.add_le_add_left has _) (room c₁ paid)

/-- A divestment that buys stablecoin does not slip there either. -/
theorem slipsIff_divestToBuy (h : Joint c self a l)
    (priced : l.config.targetPrice c.now = .ok price)
    (decoded : Account.Message.ofJson? message = some (.divest amount (some slippage))) :
    SlipsIff (Moment.Fair self a.config price) False c [.execute sender self message funds] := by
  refine slipsIff_message h decoded ?_
  intro c₁ a' out paid hnow hpaid step h₁
  cases step with
  | divestToBuy authorized positive valued enough bounded =>
    refine (slipsIff_divest (fun _ fair => fair) h₁ ?_ : _)
    rw [← priced, ← hnow]
    rfl

/-- An investment slips there just if the rounding takes more than the slippage allows of what is
    short of it. -/
theorem slipsIff_invest_short {c₁ : Chain σ} (h : Joint c self a l)
    (priced : l.config.targetPrice c.now = .ok price)
    (decoded : Account.Message.ofJson? message = some (.invest amount slippage))
    (paid : c.payAll sender self funds = .ok c₁) :
    SlipsIff (Moment.Fair self a.config price)
      (RoundingSlips (amount.toNat - (c₁.balance self a.config.quoteDenom).toNat) price.toNat
        slippage.toNat)
      c [.execute sender self message funds] := by
  refine slipsIff_message h decoded ?_
  intro c₂ a' out paid' hnow hpaid step h₁
  cases paid.symm.trans paid'
  cases step with
  | investIdle authorized active bounded positive valued enough =>
    obtain ⟨-, -, -, hquote⟩ := hpaid.valuation_eq_ok_iff.1 valued
    rw [hquote, Amount.le_iff] at enough
    refine slipsIff_invest (fun _ fair => fair) ?_
    rw [Nat.sub_eq_zero_of_le enough]
    exact not_roundingSlips_zero _ _
  | @investSold _ shortfall _ _ _ v authorized active bounded positive valued missing short worth
      enough least =>
    obtain ⟨-, -, hprice, hquote⟩ := hpaid.valuation_eq_ok_iff.1 valued
    rw [hnow, priced] at hprice
    cases hprice
    obtain ⟨-, hsold⟩ := stablecoinAmount_eq_ok_iff.1 worth
    rw [hquote] at short
    refine ((slipsIff_sell (fun _ fair => fair) h₁ (by rw [hquote]; rfl) ?_).congr ?_ : _)
    · -- the proceeds only make up for what is missing from the amount
      intro _
      have hlt := amount.isLt
      have hworth := value_amount_le shortfall.toNat v.targetPrice.toNat
      rw [← hsold] at hworth
      show (c₁.balance self a.config.quoteDenom).toNat + _ < _
      omega
    · rw [RoundingSlips, hsold, applyRatio_eq_ok_iff.1 least, short, Nat.add_sub_cancel]

/-- At a venue that trades at the target price, with a backend that pays back what it is given,
    neither a draw that is invested nor a divestment that buys stablecoin ever slips. An investment
    that is short of quote currency slips just if the rounding takes more of what it is short of
    than the slippage allows, and never completes then. That can only be if the slippage allows less
    than the value of one stablecoin. -/
theorem fair_trade_slippage (h : Joint c self a l)
    (priced : l.config.targetPrice c.now = .ok price)
    (fair : ∀ m ∈ trace callLimit c [.execute sender self message funds],
      m.Fair self a.config price) :
    (Account.Message.ofJson? message = some (.autoInvest amount slippage) →
      (∀ c₁, c.payAll sender self funds = .ok c₁ →
        (c₁.balance self a.config.quoteDenom).toNat
          + (c₁.balance a.config.venue a.config.quoteDenom).toNat < Amount.size) →
      ∀ e, c.transact (.execute sender self message funds) = .error e → ¬ e.IsSlippage) ∧
    (Account.Message.ofJson? message = some (.divest amount (some slippage)) →
      ∀ e, c.transact (.execute sender self message funds) = .error e → ¬ e.IsSlippage) ∧
    (Account.Message.ofJson? message = some (.invest amount slippage) →
      ∀ c₁ short, c.payAll sender self funds = .ok c₁ →
        short = amount.toNat - (c₁.balance self a.config.quoteDenom).toNat →
        (∀ e, c.transact (.execute sender self message funds) = .error e → e.IsSlippage →
          RoundingSlips short price.toNat slippage.toNat ∧
          (price ≠ 0 → short * slippage.toNat < price.toNat)) ∧
        ∀ d records, c.transact (.execute sender self message funds) = .ok (d, records) →
          ¬ RoundingSlips short price.toNat slippage.toNat) := by
  refine ⟨?_, ?_, ?_⟩
  · intro decoded room
    exact (slipsIff_autoInvest h priced decoded room callLimit fair).1
  · intro decoded
    exact (slipsIff_divestToBuy h priced decoded callLimit fair).1
  · rintro decoded c₁ short paid rfl
    obtain ⟨fails, completes⟩ := slipsIff_invest_short h priced decoded paid callLimit fair
    refine ⟨?_, completes⟩
    intro e hfail hslips
    have hrounding := fails e hfail hslips
    refine ⟨hrounding, ?_⟩
    intro positive
    exact hrounding.mul_lt (Nat.pos_of_ne_zero (mt Amount.eq_zero_iff.2 positive))

/-! ## A fair venue on a small chain -/

/-- A contract from outside stands at an address whose state has a property. -/
def Holds (c : Chain σ) (b : Address) (Q : σ → Prop) : Prop :=
  ∃ s, c.contract? b = some (.outside s) ∧ Q s

section Holds

variable {Q : σ → Prop}
  (execute : ∀ {s env sender funds message s' r}, Q s →
    Outside.execute s env sender funds message = .ok (s', r) → Q s')
  (reply : ∀ {s env id s' r}, Q s → Outside.reply s env id = some (.ok (s', r)) → Q s')

include execute reply

/-- If the contract keeps the property whatever it does, it has it after every call. -/
theorem Holds.of_performs (hp : Performs c call d next) (h : c.Holds b Q) : d.Holds b Q := by
  obtain ⟨s, stands, hs⟩ := h
  cases hp with
  | @execute _ b' _ _ _ _ c₁ _ found paid entered =>
    by_cases hb : b' = b
    · subst hb
      cases stands.symm.trans found
      obtain ⟨s', hexecute, rfl⟩ := Contract.ofOutside_eq_ok entered
      exact ⟨s', contract?_put_self _ _ _, execute hs hexecute⟩
    · refine ⟨s, ?_, hs⟩
      rw [contract?_put_of_ne _ _ hb, contract?_of_payAll paid, stands]
  | @reply b' _ _ _ _ found heard =>
    by_cases hb : b' = b
    · subst hb
      cases stands.symm.trans found
      rw [Contract.reply] at heard
      split at heard
      · rename_i x hx
        obtain ⟨s', rfl, rfl⟩ := Contract.ofOutside_eq_ok heard
        exact ⟨s', contract?_put_self _ _ _, reply hs hx⟩
      · cases heard
    · refine ⟨s, ?_, hs⟩
      rw [contract?_put_of_ne _ _ hb, stands]
  | send paid => exact ⟨s, by rw [contract?_of_payAll paid, stands], hs⟩

/-- So it has it at every call of a transaction. -/
theorem Holds.of_mem_trace (h : c.Holds b Q) {limit : Nat} {calls : List Call} {m : Moment σ}
    (hm : m ∈ trace limit c calls) : m.chain.Holds b Q :=
  chain_of_mem_trace (fun hp hc => Holds.of_performs execute reply hp hc) h hm

end Holds

/-- The collaborators of an account, with a venue at the target price and a backend that pays back
    what it took in, stay fair whatever the transaction. -/
theorem fair_of_collaborators {c : Chain Collaborator} {config : Config}
    {deposits : Holdings Address}
    (venue : c.contract? config.venue
      = some (.outside (.venue config.ledger config.quoteDenom price)))
    (backend : c.contract? config.backend
      = some (.outside (.fairBackend config.quoteDenom deposits)))
    {limit : Nat} {calls : List Call} {m : Moment Collaborator} (hm : m ∈ trace limit c calls) :
    m.Fair self config price := by
  have hvenue : m.chain.Holds config.venue
      (Eq (.venue config.ledger config.quoteDenom price)) := by
    refine Holds.of_mem_trace ?_ nofun ⟨_, venue, rfl⟩ hm
    rintro _ env sender funds message s' r rfl h
    symm
    exact Collaborator.eq_of_execute_venue h
  have hbackend : m.chain.Holds config.backend
      (fun s => ∃ deposits, s = .fairBackend config.quoteDenom deposits) := by
    refine Holds.of_mem_trace ?_ nofun ⟨_, backend, deposits, rfl⟩ hm
    rintro _ env sender funds message s' r ⟨deposits, rfl⟩ h
    exact Collaborator.exists_of_execute_fairBackend h
  obtain ⟨s, stands, rfl⟩ := hvenue
  obtain ⟨s', stands', deposits', rfl⟩ := hbackend
  constructor
  · intro k found
    cases stands.symm.trans found
    exact ⟨_, rfl, Collaborator.tradesAt_venue _ _ _⟩
  · intro k found
    cases stands'.symm.trans found
    exact ⟨_, rfl, Collaborator.paysBack_fairBackend _ _ _⟩

/-- What a swap that slipped brought in and what was asked for, if a transaction failed for that. -/
def slipped? {α : Type} : Except Error α → Option (Amount × Amount)
  | .error (.contract _ (.account (.slippageExceeded received minAmountOut))) =>
    some (received, minAmountOut)
  | _ => none

theorem isSlippage_of_slipped? {α : Type} {x : Except Error α} {received minAmountOut : Amount}
    (h : slipped? x = some (received, minAmountOut)) : ∃ e, x = .error e ∧ e.IsSlippage := by
  unfold slipped? at h
  split at h
  · exact ⟨_, rfl, _, _, _, rfl⟩
  · cases h

/-- A ledger whose target price is 3, with a balancer, on which the account is a minter. -/
def tradingLedger : Ledger :=
  let l := sampleLedger (.ofNat 3000000) (.ofNat 110)
    (Table.empty.insert "account"
      { maxAmount := .ofNat 1000, minted := 0, listed := true, enabled := true })
    ((Holdings.empty.set "account" (.ofNat 10)).set "venue" (.ofNat 100)) .empty
  { l with config := { l.config with balancer := some "balancer" } }

/-- An account that the balancer may draw on. -/
def tradingAccount : Account :=
  let a := sampleAccount 0 0 0
  { a with risk := { a.risk with autoInvestEnabled := true } }

/-- The two, with a venue at the target price. The account has 10 of the stablecoin, has invested 50
    and has no quote currency. -/
def tradingChain : Chain Collaborator :=
  (sampleChain tradingLedger tradingAccount (Holdings.empty.set "account" (.ofNat 50))
    ((Holdings.empty.set ("backend", "uquote") (.ofNat 50)).set ("venue", "uquote")
      (.ofNat 100))).put "venue" (.outside (.venue "ledger" "uquote" (.ofNat 3000000)))

/-- Each of the three trades, of 4 and without any slippage. -/
def trade (tag : String) : Json :=
  .tagged tag [("amount", .amount (.ofNat 4)), ("slippage", .word32 0)]

/-- To invest 4 it sells one stablecoin, which is worth 3, and fails; the other two do not slip. -/
theorem fair_trade_slippage_of_tradingChain :
    (∃ e, tradingChain.transact (.execute "borrower" "account" (trade "invest") []) = .error e ∧
        e.IsSlippage) ∧
      (∀ d records, tradingChain.transact (.execute "borrower" "account" (trade "invest") [])
        ≠ .ok (d, records)) ∧
      (∀ e, tradingChain.transact (.execute "balancer" "account" (trade "auto_invest") [])
        = .error e → ¬ e.IsSlippage) ∧
      ∀ e, tradingChain.transact (.execute "borrower" "account" (trade "divest") [])
        = .error e → ¬ e.IsSlippage := by
  have h : Joint tradingChain "account" tradingAccount tradingLedger := ⟨rfl, rfl⟩
  have priced : tradingLedger.config.targetPrice tradingChain.now = .ok (.ofNat 3000000) := by
    decide
  have fair : ∀ {sender message}, ∀ m ∈ trace callLimit tradingChain
      [.execute sender "account" message []],
      m.Fair "account" tradingAccount.config (.ofNat 3000000) :=
    fun m hm => fair_of_collaborators rfl rfl hm
  refine ⟨?_, ?_, ?_, ?_⟩
  · have hslipped : slipped? (tradingChain.transact (.execute "borrower" "account"
        (trade "invest") [])) = some (.ofNat 3, .ofNat 4) := by
      decide +kernel
    exact isSlippage_of_slipped? hslipped
  · intro d records done
    have decoded : Account.Message.ofJson? (trade "invest") = some (.invest (.ofNat 4) 0) := by rfl
    obtain ⟨-, -, invest⟩ := fair_trade_slippage h priced fair
    exact (invest decoded tradingChain 4 rfl rfl).2 d records done (by decide)
  · have decoded : Account.Message.ofJson? (trade "auto_invest")
        = some (.autoInvest (.ofNat 4) 0) := by rfl
    obtain ⟨autoInvest, -⟩ := fair_trade_slippage h priced fair
    refine autoInvest decoded ?_
    rintro _ ⟨⟩
    decide
  · have decoded : Account.Message.ofJson? (trade "divest")
        = some (.divest (.ofNat 4) (some 0)) := by rfl
    obtain ⟨-, divest, -⟩ := fair_trade_slippage h priced fair
    exact divest decoded

end Chain

end Stablecoin
