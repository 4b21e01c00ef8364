import Stablecoin.Proofs.Chain.Custody
import Stablecoin.Proofs.Chain.Replies

set_option autoImplicit false

/-! # A draw that is invested touches only what it brings in

The balancer of a ledger may have an account borrow, sell what it has borrowed and invest the
proceeds. The stablecoin comes from the mint and goes to the venue (`Joint.runs_mint`,
`Sells.apart`), and what is invested is what the account has more, when the swap is done, than it
had before all that. So nothing that the account already had goes into the trade, and nothing of the
proceeds stays behind (`draw_invests_proceeds`). -/

namespace Stablecoin.Chain

open Account

variable {σ : Type} [Outside σ] {c c' d : Chain σ} {self sender : Address} {a : Account}
  {l : Ledger} {amount : Amount} {rest : List Call} {tr : List (Moment σ)}

/-! ## The parts of a draw -/

/-- What an account has its ledger mint for it, it has more than before. -/
theorem Joint.runs_mint (h : Joint c self a l)
    (hr : Runs c (.ofAction self (a.tellLedger (Ledger.mintJson self amount)) :: rest) tr d) :
    ∃ l₁ later, tr = ⟨c, .ofAction self (a.tellLedger (Ledger.mintJson self amount))⟩ :: later ∧
      Joint (c.put a.config.ledger (.ledger l₁)) self a l₁ ∧
      (l₁.balances.get self).toNat = (l.balances.get self).toNat + amount.toNat ∧
      Runs (c.put a.config.ledger (.ledger l₁)) rest later d := by
  obtain ⟨l₁, later, rfl, step, runs⟩ :=
    h.runs_tellLedger (Ledger.Message.ofJson?_mintJson _ _) nofun hr
  have hminted := step.balance_add_debited self
  simp only [Ledger.Message.debited, Ledger.Message.credited, if_true, Nat.add_zero] at hminted
  exact ⟨l₁, later, rfl, h.put_ledger, hminted, runs⟩

/-- What is forwarded is what an account has less, and all else is what others do. -/
theorem Forwards.apart (h : Joint c self a l) (f : Forwards c self a amount tr c')
    (quiet : ∀ m ∈ tr, ¬ m.call.Tells self) : ∃ c₁ l',
      (c.balance self a.config.quoteDenom).toNat
        = (c₁.balance self a.config.quoteDenom).toNat + amount.toNat ∧
      Apart c₁ self a l tr.tail c' l' := by
  by_cases hzero : amount = 0
  · subst hzero
    obtain ⟨rfl, rfl⟩ := f.of_zero
    exact ⟨c', l, rfl, .refl h⟩
  · have hr := f.runs
    rw [forwarding, if_neg hzero] at hr
    obtain ⟨c₁, later, l', hne, paid, rfl, apart⟩ := h.apart_of_outgoing rfl hr quiet
    obtain ⟨hself, -⟩ := balance_of_pay paid hne.symm
    exact ⟨c₁, l', hself, apart⟩

variable {swap : PendingSwap} {sold : Amount}

/-- An account sells stablecoin and forwards what it gets for it, and just that. -/
theorem Joint.reinvests (h : Joint c self a l) (pending : a.swap = some swap)
    (quote : swap.assetOut = .quote)
    (before : swap.balanceBefore = c.balance self a.config.quoteDenom)
    (received : swap.afterSwap = .investReceived)
    (hr : Runs c (callsOf self
      [{ action := a.sellAction sold swap.minAmountOut, replyId := some swapReply }]) tr c')
    (quiet : ∀ m ∈ tr, ¬ m.call.Tells self) :
    ∃ sale d proceeds forwarded l', tr = sale ++ ⟨d, .reply self swapReply⟩ :: forwarded ∧
      Sells c self a l sold swap.minAmountOut sale d ∧ swap.minAmountOut ≤ proceeds ∧
      (d.balance self a.config.quoteDenom).toNat
        = (c.balance self a.config.quoteDenom).toNat + proceeds.toNat ∧
      Forwards (d.put self (.account { a.revalued proceeds with swap := none })) self
        { a.revalued proceeds with swap := none } proceeds forwarded c' ∧
      Joint c' self { a.revalued proceeds with swap := none } l' ∧
      ((∀ m ∈ forwarded, ¬ m.call.Pays self a.config.quoteDenom) →
        c'.balance self a.config.quoteDenom = c.balance self a.config.quoteDenom) ∧
      ((∀ m ∈ tr, ¬ m.call.Takes a.config.ledger self) →
        (∀ m ∈ tr, ¬ m.call.Gives a.config.ledger self) →
        (l'.balances.get self).toNat + sold.toNat = (l.balances.get self).toNat) := by
  obtain ⟨sale, d, replied, hsale, rfl, hreply, hstands⟩ := runs_awaited h.account?_eq hr
  rw [List.forall_mem_append] at quiet
  have sells := h.sells hsale
  obtain ⟨l₁, l₂, hsold, traded⟩ := sells.apart h quiet.1
  obtain ⟨balance, forwarded, measured, enough, rfl, forwards⟩ :=
    settles_of_swapReply (hstands quiet.1) pending hreply
  rw [quote] at measured
  cases measured
  -- what the account forwards is what it has more than before
  generalize hproceeds : swap.invests (a.quoteBalance (d.env self)) = proceeds at forwards
  rw [PendingSwap.invests, received, before] at hproceeds
  rw [before] at enough
  change (d.balance self a.config.quoteDenom).saturatingSub _ = _ at hproceeds
  change _ ≤ (d.balance self a.config.quoteDenom).saturatingSub _ at enough
  rw [hproceeds] at enough
  have hgained : (d.balance self a.config.quoteDenom).toNat
      = (c.balance self a.config.quoteDenom).toNat + proceeds.toNat := by
    rw [← hproceeds]
    exact Amount.eq_add_saturatingSub traded.kept
  have h₁ : Joint (d.put self (.account { a.revalued proceeds with swap := none })) self
      { a.revalued proceeds with swap := none } l₂ := traded.joint.put_account rfl
  obtain ⟨c₁, l', hforwarded, rest⟩ :=
    forwards.apart h₁ (List.forall_mem_cons.1 quiet.2).2
  refine ⟨sale, d, proceeds, forwarded, l', rfl, sells, enough, hgained, forwards, rest.joint,
    fun unpaid => ?_, fun untaken ungiven => ?_⟩
  · have hkept : c'.balance self a.config.quoteDenom = c₁.balance self a.config.quoteDenom :=
      rest.unpaid fun m hm => unpaid m (List.mem_of_mem_tail hm)
    change (d.balance self a.config.quoteDenom).toNat
      = (c₁.balance self a.config.quoteDenom).toNat + _ at hforwarded
    exact hkept.trans (Amount.ext (by omega))
  · rw [List.forall_mem_append, List.forall_mem_cons] at untaken ungiven
    rw [rest.ungiven (fun m hm => untaken.2.2 m (List.mem_of_mem_tail hm))
        (fun m hm => ungiven.2.2 m (List.mem_of_mem_tail hm)),
      traded.ungiven (fun m hm => untaken.1 m (List.mem_of_mem_tail hm))
        (fun m hm => ungiven.1 m (List.mem_of_mem_tail hm)), hsold]

/-- How a draw that is invested begins. -/
theorem Joint.step_autoInvest {a' : Account} {out : List Outgoing} {slippage : Ratio}
    (h : Joint c self a l)
    (step : a.Step (c.env self) sender (.autoInvest amount slippage) a' out) :
    (a.risk.autoInvestEnabled = true ∧ a.risk.autoInvestMinAmount ≤ amount ∧ amount ≠ 0) ∧
      (∃ ratio, a.currentEquityRatio (c.env self) = .ok ratio ∧
        a.risk.autoInvestMinEquityRatio ≤ ratio) ∧
      ∃ position price least, a' = { a with
          position
          swap := some { assetOut := .quote, balanceBefore := c.balance self a.config.quoteDenom
                         minAmountOut := least, afterSwap := .investReceived } } ∧
        out = [{ action := a.tellLedger (Ledger.mintJson self amount) },
          { action := a.sellAction amount least, replyId := some swapReply }] ∧
        (position.borrowed.toNat = a.position.borrowed.toNat + amount.toNat ∧
          position.borrowed ≤ a.risk.maxBorrow) ∧
        l.config.targetPrice c.now = .ok price ∧
        least.toNat
          = amount.toNat * price.toNat / precision * (precision - slippage.toNat) / precision := by
  cases step with
  | @autoInvest _ borrowed accruedFee value least _ ratio ledger v asked authorized active bounded
      enabled enough valued measured healthy positive drawn capped fee priced fair =>
    obtain ⟨-, -, hprice, hquote⟩ := h.valuation_eq_ok_iff.1 valued
    refine ⟨⟨enabled, enough, positive⟩, ⟨ratio, ?_, healthy⟩,
      { a.position with borrowed, accruedFee, checkpoint := c.now }, v.targetPrice, least, ?_, rfl,
      ⟨drawn, capped⟩, hprice, ?_⟩
    · simp [currentEquityRatio, valued, measured]
    · rw [hquote]
      rfl
    · rw [applyRatio_eq_ok_iff.1 fair, quoteValue_eq_ok_iff.1 priced]

/-! ## The draw -/

variable {message : Json} {funds : List Coin} {records : List Record} {slippage : Ratio}

/-- A draw that is invested and completes. It was allowed, the amount was enough for it and the
    equity ratio before it high enough. The debt has grown by just the amount, within its limit, and
    the amount is what has been minted for the account and what it has sold. What the swap has
    brought in is at least the share of the value that the slippage leaves, and is just what is
    forwarded to the backend: if the backend pays nothing back, the account has just as much quote
    currency as before, with what came along with the order. An account that has granted no
    allowance has just as much stablecoin as before, if nobody gives it any. -/
theorem draw_invests_proceeds (h : Joint c self a l)
    (decoded : Account.Message.ofJson? message = some (.autoInvest amount slippage))
    (completes : c.transact (.execute sender self message funds) = .ok (c', records))
    (traced : trace callLimit c [.execute sender self message funds] = tr)
    (quiet : ∀ m ∈ tr.tail, ¬ m.call.Tells self) :
    (a.risk.autoInvestEnabled = true ∧ a.risk.autoInvestMinAmount ≤ amount ∧ amount ≠ 0) ∧
    ∃ c₁ ratio price, c.payAll sender self funds = .ok c₁ ∧
      a.currentEquityRatio (c₁.env self) = .ok ratio ∧ a.risk.autoInvestMinEquityRatio ≤ ratio ∧
      l.config.targetPrice c.now = .ok price ∧
      ∃ c₂ c₃ l₁ least sale d proceeds forwarded position l',
        tr = ⟨c, .execute sender self message funds⟩ ::
          ⟨c₂, .ofAction self (a.tellLedger (Ledger.mintJson self amount))⟩ ::
          (sale ++ ⟨d, .reply self swapReply⟩ :: forwarded) ∧
        (l₁.balances.get self).toNat = (l.balances.get self).toNat + amount.toNat ∧
        Sells c₃ self a l₁ amount least sale d ∧
        least.toNat
          = amount.toNat * price.toNat / precision * (precision - slippage.toNat) / precision ∧
        least ≤ proceeds ∧
        (d.balance self a.config.quoteDenom).toNat
          = (c₁.balance self a.config.quoteDenom).toNat + proceeds.toNat ∧
        Forwards (d.put self (.account { a with position, swap := none })) self
          { a with position, swap := none } proceeds forwarded c' ∧
        Joint c' self { a with position, swap := none } l' ∧
        position.borrowed.toNat = a.position.borrowed.toNat + amount.toNat ∧
        position.borrowed ≤ a.risk.maxBorrow ∧
        ((∀ m ∈ forwarded, ¬ m.call.Pays self a.config.quoteDenom) →
          c'.balance self a.config.quoteDenom = c₁.balance self a.config.quoteDenom) ∧
        (l.Unpledged self → (∀ m ∈ tr, ¬ m.call.Gives a.config.ledger self) →
          l'.balances.get self = l.balances.get self) := by
  subst traced
  obtain ⟨c₁, a₁, out, later, paid, h₁, step, htrace, runs⟩ := h.runs_of_transact decoded completes
  rw [htrace] at quiet ⊢
  have h₂ : Joint (c₁.put self (.account a₁)) self a₁ l := h₁.put_account step.config_eq
  have huntaken (unpledged : l.Unpledged self) :=
    (h₂.unpledged unpledged runs fun call hcall => not_grants_of_mem_callsOf step.ungranted hcall).2
  have hnow : c₁.now = c.now := (frame_of_payAll paid).2
  obtain ⟨allowed, ⟨ratio, hratio, healthy⟩, position, price, least, rfl, rfl, ⟨drawn, capped⟩,
    hprice, hleast⟩ := h₁.step_autoInvest step
  obtain ⟨l₁, minted, rfl, h₃, hminted, runs⟩ := h₂.runs_mint runs
  obtain ⟨sale, d, proceeds, forwarded, l', rfl, sells, enough, hgained, forwards, h', hidle,
    hsold⟩ := h₃.reinvests rfl rfl rfl rfl runs (List.forall_mem_cons.1 quiet).2
  refine ⟨allowed, c₁, ratio, price, paid, hratio, healthy, hnow ▸ hprice, _, _, l₁, least, sale, d,
    proceeds, forwarded, _, l', rfl, hminted, ⟨sells.runs, sells.moves⟩, hleast, enough, hgained,
    forwards, h', drawn, capped, hidle, fun unpledged ungiven => ?_⟩
  have untaken := huntaken unpledged
  rw [List.forall_mem_cons] at ungiven untaken
  have hleft := hsold untaken.2 (List.forall_mem_cons.1 ungiven.2).2
  exact Amount.ext (by omega)

omit [Outside σ] in
/-- What comes after a reply is in a trace what comes after the first call that answers to it. -/
theorem mem_tail_dropWhile_of_reply {id : Nat} {m : Moment σ} {before after : List (Moment σ)}
    (hm : m ∈ after) :
    m ∈ ((before ++ ⟨d, .reply self id⟩ :: after).dropWhile
      fun m => !m.call.answers self id).tail := by
  induction before with
  | nil => simpa [Call.answers_reply] using hm
  | cons first rest ih =>
    rw [List.cons_append, List.dropWhile_cons]
    split
    · exact ih
    · simp [hm]

/-- The account of `tradingChain`, which has 10 of the stablecoin, has 5 of the quote currency
    too. -/
def proceedsChain : Chain Collaborator :=
  tradingChain.setBalance "account" "uquote" (.ofNat 5)

/-- A draw of 4 brings in 12, all of which are invested; the 10 and the 5 stay with the account. -/
theorem draw_invests_proceeds_of_proceedsChain : ∃ c' records d a l proceeds forwarded,
    proceedsChain.transact (.execute "balancer" "account" (trade "auto_invest") [])
      = .ok (c', records) ∧
    12 ≤ proceeds.toNat ∧ Forwards d "account" a proceeds forwarded c' ∧
    Joint c' "account" a l ∧ a.position.borrowed.toNat = 4 ∧
    (l.balances.get "account").toNat = 10 ∧ (c'.balance "account" "uquote").toNat = 5 := by
  have h : Joint proceedsChain "account" tradingAccount tradingLedger := ⟨rfl, rfl⟩
  have decoded : Account.Message.ofJson? (trade "auto_invest")
      = some (.autoInvest (.ofNat 4) 0) := by rfl
  generalize traced : trace callLimit proceedsChain
    [.execute "balancer" "account" (trade "auto_invest") []] = tr
  have hrun : (proceedsChain.transact (.execute "balancer" "account" (trade "auto_invest") [])).map
        (fun _ => ()) = .ok () ∧
      (∀ m ∈ tr.tail, ¬ m.call.Tells "account") ∧
      (∀ m ∈ tr, ¬ m.call.Gives "ledger" "account") ∧
      ∀ m ∈ (tr.dropWhile fun m => !m.call.answers "account" swapReply).tail,
        ¬ m.call.Pays "account" "uquote" := by
    subst traced
    decide +kernel
  obtain ⟨hdone, quiet, ungiven, unpaid⟩ := hrun
  obtain ⟨⟨c', records⟩, done, -⟩ := map_eq_ok_iff.1 hdone
  obtain ⟨-, c₁, ratio, price, paid, -, -, hprice, c₂, c₃, l₁, least, sale, d, proceeds, forwarded,
    position, l', rfl, -, -, hleast, enough, -, forwards, h', drawn, -, hidle, hheld⟩ :=
    draw_invests_proceeds h decoded done traced quiet
  cases paid
  cases hprice
  have htwelve : least.toNat = 12 := hleast.trans (by decide)
  have hkept : c'.balance "account" "uquote" = proceedsChain.balance "account" "uquote" := by
    refine hidle fun m hm => unpaid m ?_
    rw [← List.cons_append, ← List.cons_append]
    exact mem_tail_dropWhile_of_reply hm
  have hsame := hheld (fun _ => rfl) ungiven
  refine ⟨c', records, _, _, l', proceeds, forwarded, done, ?_, forwards, h', drawn, ?_, ?_⟩
  · rw [← htwelve]
    exact enough
  · rw [hsame]
    decide
  · rw [hkept]
    decide

end Stablecoin.Chain
