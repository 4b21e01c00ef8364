import Stablecoin.Proofs.Chain.Custody
import Stablecoin.Proofs.Chain.Replies

set_option autoImplicit false

/-! # Swaps deliver or revert

An account that swaps one currency for the other writes down what it has of the other before, and
compares when it hears that the swap is done. As long as it is told nothing meanwhile, the reply
finds it as it was when it asked for the swap (`reply_of_mem_trace`), so nothing that the venue
reports counts: with less than was asked for the reply fails, and the transaction with it, and with
enough the account has what it asked for and has spent no more than it offered
(`swaps_deliver_or_revert`). -/

namespace Stablecoin

open Chain Account

/-- What has gone up by at least so much is at least so much more. -/
theorem Amount.add_le_of_le_saturatingSub {before after least : Amount}
    (enough : least ≤ after.saturatingSub before) (kept : before ≤ after) :
    before.toNat + least.toNat ≤ after.toNat := by
  rw [Amount.eq_add_saturatingSub kept]
  exact Nat.add_le_add_left (Amount.le_iff.1 enough) _

/-! ## The reply to a swap -/

namespace Account

variable {a : Account} {env : Env} {swap : PendingSwap} {balance : Amount}

/-- A swap that brought in less than was asked for fails the reply, with what it brought in and what
    was asked for. -/
theorem reply_eq_slippageExceeded (pending : a.swap = some swap)
    (measured : a.balanceOf env swap.assetOut = .ok balance)
    (short : balance.saturatingSub swap.balanceBefore < swap.minAmountOut) :
    a.reply env swapReply = .error (.slippageExceeded (balance.saturatingSub swap.balanceBefore)
      swap.minAmountOut) := by
  have hfound : orMissing a.swap = .ok swap := orMissing_eq_ok_iff.2 pending
  have hcleared : Account.balanceOf { a with swap := none } env swap.assetOut = .ok balance := by
    rw [← measured]
    cases swap.assetOut <;> rfl
  rw [reply, if_pos rfl]
  simp only [swapDone, bind_eq_error_iff, require_eq_error_iff, liftM, monadLift_eq_ok_iff]
  exact .inr ⟨swap, hfound, .inr ⟨balance, hcleared, .inl ⟨Nat.not_le_of_lt short, rfl⟩⟩⟩

end Account

namespace Chain

variable {σ : Type} [Outside σ] {c c' c₁ d : Chain σ} {self sender : Address} {a : Account}
  {l l' : Ledger} {swap : PendingSwap} {balance amount minAmountOut spent : Amount}
  {first second calls : List Call} {tr : List (Moment σ)} {limit id : Nat}

theorem perform_swapReply_eq_error (stands : d.account? self = some a)
    (pending : a.swap = some swap)
    (measured : a.balanceOf (d.env self) swap.assetOut = .ok balance)
    (short : balance.saturatingSub swap.balanceBefore < swap.minAmountOut) :
    d.perform (.reply self swapReply) = .error (.contract self (.account
      (.slippageExceeded (balance.saturatingSub swap.balanceBefore) swap.minAmountOut))) := by
  have found : d.contract? self = some (.account a) := account?_eq_some_iff.1 stands
  have hreply := reply_eq_slippageExceeded pending measured short
  simp [perform, Chain.reply, enter, found, Contract.reply, Contract.ofAccount, hreply,
    Except.map, require]

/-! ## Calls in a row -/

/-- Calls in a row either fail within the first of them, or go on with the others on the chain that
    the first have left. -/
theorem run_append_cases (limit : Nat) (c : Chain σ) (first second : List Call) :
    (∃ e, run limit c first = .error e ∧ run limit c (first ++ second) = .error e ∧
        trace limit c (first ++ second) = trace limit c first) ∨
      ∃ d records left, run limit c first = .ok (d, records) ∧
        trace limit c (first ++ second) = trace limit c first ++ trace left d second ∧
        ∀ e, run left d second = .error e → run limit c (first ++ second) = .error e := by
  induction limit generalizing c first with
  | zero =>
    cases first with
    | nil => exact .inr ⟨c, [], 0, rfl, rfl, fun _ h => h⟩
    | cons call rest => exact .inl ⟨.exhausted, rfl, rfl, rfl⟩
  | succ limit ih =>
    cases first with
    | nil => exact .inr ⟨c, [], limit + 1, rfl, rfl, fun _ h => h⟩
    | cons call rest =>
      rw [List.cons_append]
      cases hperform : c.perform call with
      | error e => exact .inl ⟨e, by simp [run, hperform], by simp [run, hperform],
          by simp [trace, hperform]⟩
      | ok x =>
        obtain ⟨c₁, records, next⟩ := x
        simp only [run, trace, hperform, ok_bind, ← List.append_assoc]
        rcases ih c₁ (next ++ rest) with ⟨e, hfirst, hboth, htrace⟩ |
          ⟨d, later, left, hfirst, htrace, hsecond⟩
        · exact .inl ⟨e, by rw [hfirst]; rfl, by rw [hboth]; rfl, by rw [htrace]⟩
        · refine .inr ⟨d, records ++ later, left, by rw [hfirst]; rfl, by rw [htrace]; rfl, ?_⟩
          intro e h
          rw [hsecond e h]
          rfl

/-- A transaction either stops at the call that begins it, or goes on with what follows from
    that. -/
theorem transact_cases (c : Chain σ) (call : Call) :
    trace callLimit c [call] = [⟨c, call⟩] ∨
      ∃ c₁ next limit, Performs c call c₁ next ∧
        trace callLimit c [call] = ⟨c, call⟩ :: trace limit c₁ next ∧
        ∀ e, run limit c₁ next = .error e → c.transact call = .error e := by
  have hlimit : callLimit = 99999 + 1 := rfl
  rw [transact, hlimit, trace]
  cases hperform : c.perform call with
  | error e => exact .inl rfl
  | ok x =>
    obtain ⟨c₁, records, next⟩ := x
    refine .inr ⟨c₁, next, 99999, performs_of_perform hperform, by simp only [List.append_nil], ?_⟩
    intro e h
    simp only [run, hperform, ok_bind, List.append_nil, h]
    rfl

/-- An account that waits for no reply and is told nothing is not entered. -/
theorem entered_ne_of_untold (stands : c.account? self = some a)
    (awaited : ∀ id, .reply self id ∉ calls)
    (quiet : ∀ m ∈ trace limit c calls, ¬ m.call.Tells self) :
    ∀ m ∈ trace limit c calls, m.call.entered ≠ some self := by
  induction limit generalizing c a calls with
  | zero =>
    cases calls <;> intro m hm <;> cases hm
  | succ limit ih =>
    cases calls with
    | nil =>
      intro m hm
      cases hm
    | cons call rest =>
      rw [trace] at quiet ⊢
      rw [List.forall_mem_cons] at quiet ⊢
      have hcall : call.entered ≠ some self := by
        cases call with
        | execute sender b message funds => exact fun hb => quiet.1 (Option.some.inj hb)
        | reply b id =>
          intro hb
          obtain rfl := Option.some.inj hb
          exact awaited id (List.mem_cons_self ..)
        | send =>
          intro hb
          cases hb
      refine ⟨hcall, ?_⟩
      have hlater := quiet.2
      split at hlater
      · rename_i c₁ records next hperform
        obtain ⟨a₁, stands₁, touches⟩ := touches_of_performs stands (performs_of_perform hperform)
        cases touches with
        | execute => exact absurd rfl hcall
        | reply => exact absurd rfl hcall
        | elsewhere other foreign =>
          refine ih stands₁ (fun id hmem => ?_) hlater
          rcases List.mem_append.1 hmem with hnext | hrest
          · exact foreign _ hnext rfl
          · exact awaited id (List.mem_cons_of_mem _ hrest)
      · intro m hm
        cases hm

/-- An account that keeps what a swap brings in forwards nothing. -/
theorem invests_of_hold (hold : swap.afterSwap = .hold) (balance : Amount) :
    swap.invests balance = 0 := by
  rw [PendingSwap.invests, hold]
  rfl

/-- The reply to a swap meets the account as it was when it asked for the swap, if the account is
    told nothing meanwhile. If the reply fails, all fails with it. -/
theorem reply_of_mem_trace {action : Action} (stands : c.account? self = some a)
    (pending : a.swap = some swap) (hold : swap.afterSwap = .hold)
    (quiet : ∀ m ∈ trace limit c (callsOf self [{ action, replyId := some swapReply }]),
      ¬ m.call.Tells self)
    (hm : ⟨d, .reply self swapReply⟩
      ∈ trace limit c (callsOf self [{ action, replyId := some swapReply }])) :
    d.account? self = some a ∧ ∀ e, d.perform (.reply self swapReply) = .error e →
      run limit c (callsOf self [{ action, replyId := some swapReply }]) = .error e := by
  have hparts : callsOf self [{ action, replyId := some swapReply }]
      = [.ofAction self action] ++ [.reply self swapReply] := rfl
  have awaited : ∀ id, .reply self id ∉ [Call.ofAction self action] := by
    intro id hmem
    cases action <;> cases List.mem_singleton.1 hmem
  rw [hparts] at quiet hm ⊢
  rcases run_append_cases limit c [.ofAction self action] [.reply self swapReply] with
    ⟨e, -, -, htrace⟩ | ⟨d₁, records, left, hfirst, htrace, hfails⟩
  · -- the account is not entered before the reply
    rw [htrace] at quiet hm
    exact absurd rfl (entered_ne_of_untold stands awaited quiet _ hm)
  · rw [htrace, List.forall_mem_append] at quiet
    rw [htrace] at hm
    have stands₁ := (runs_of_run hfirst).account?_of_untold stands awaited quiet.1
    rcases List.mem_append.1 hm with hm | hm
    · exact absurd rfl (entered_ne_of_untold stands awaited quiet.1 _ hm)
    · cases left with
      | zero => cases hm
      | succ left =>
        rw [trace] at hm
        rcases List.mem_cons.1 hm with heq | hm
        · cases heq
          refine ⟨stands₁, fun e hperform => hfails e ?_⟩
          simp [run, hperform]
        · -- nothing follows from the reply
          split at hm
          · rename_i c₂ later next hperform
            obtain ⟨a₂, -, touches⟩ := touches_of_performs stands₁ (performs_of_perform hperform)
            cases touches with
            | elsewhere other => exact absurd rfl other
            | reply hears =>
              obtain ⟨balance, -, -, -, rfl⟩ := hears.settles pending
              rw [invests_of_hold hold, forwarding, if_pos rfl] at hm
              cases left <;> cases hm
          · cases hm

/-- The swap of an account that keeps what it brings in, and the reply to it. The account then has
    what it asked for, and does nothing else. -/
theorem runs_held {action : Action} (stands : c.account? self = some a)
    (pending : a.swap = some swap) (hold : swap.afterSwap = .hold)
    (hr : Runs c (callsOf self [{ action, replyId := some swapReply }]) tr c')
    (quiet : ∀ m ∈ tr, ¬ m.call.Tells self) :
    ∃ done d balance, Runs c [.ofAction self action] done d ∧
      tr = done ++ [⟨d, .reply self swapReply⟩] ∧
      a.balanceOf (d.env self) swap.assetOut = .ok balance ∧
      swap.minAmountOut ≤ balance.saturatingSub swap.balanceBefore ∧
      c' = d.put self (.account { a with swap := none }) := by
  obtain ⟨done, d, replied, hdone, rfl, hreply, hstands⟩ := runs_awaited stands hr
  rw [List.forall_mem_append] at quiet
  obtain ⟨balance, forwarded, measured, enough, rfl, hforwards⟩ :=
    settles_of_swapReply (hstands quiet.1) pending hreply
  rw [invests_of_hold hold, revalued_zero] at hforwards
  obtain ⟨rfl, rfl⟩ := hforwards.of_zero
  exact ⟨done, d, balance, hdone, rfl, measured, enough, rfl⟩

/-! ## Buying -/

/-- An account buys at least so much stablecoin for an amount of quote currency: it pays the amount
    to the venue, and all else that happens follows from what the venue then does. -/
structure Buys (c : Chain σ) (home : Address) (a : Account) (spent minAmountOut : Amount)
    (purchase : List (Moment σ)) (d : Chain σ) : Prop where
  runs : Runs c [.ofAction home (a.buyAction spent minAmountOut)] purchase d
  /-- The account has just that much quote currency less. -/
  pays : ∃ c₁ swap, c.payAll home a.config.venue [⟨a.config.quoteDenom, spent⟩] = .ok c₁ ∧
    (c.balance home a.config.quoteDenom).toNat
      = (c₁.balance home a.config.quoteDenom).toNat + spent.toNat ∧
    c₁.balance a.config.venue a.config.quoteDenom
      = (c.balance a.config.venue a.config.quoteDenom).saturatingAdd spent ∧
    purchase = ⟨c, .ofAction home (a.buyAction spent minAmountOut)⟩ :: swap

/-- What an account spends when it buys, and what others do meanwhile. -/
theorem Joint.buys (h : Joint c self a l)
    (hr : Runs c [.ofAction self (a.buyAction spent minAmountOut)] tr d)
    (quiet : ∀ m ∈ tr, ¬ m.call.Tells self) :
    Buys c self a spent minAmountOut tr d ∧ ∃ c₁ l',
      (c.balance self a.config.quoteDenom).toNat
        = (c₁.balance self a.config.quoteDenom).toNat + spent.toNat ∧
      Apart c₁ self a l tr.tail d l' := by
  obtain ⟨c₁, later, l', hne, paid, rfl, happart⟩ := h.apart_of_outgoing rfl hr quiet
  obtain ⟨hself, hvenue⟩ := balance_of_pay paid hne.symm
  exact ⟨⟨hr, c₁, later, paid, hself, hvenue, rfl⟩, c₁, l', hself, happart⟩

/-! ## Swaps that are done -/

/-- An account has sold an amount of stablecoin for at least so much, and done nothing else. -/
structure Sold (c : Chain σ) (home : Address) (a : Account) (l : Ledger)
    (sold minAmountOut : Amount) (tr : List (Moment σ)) (c' : Chain σ) : Prop where
  /-- It has made no call but the sale, and heard of nothing but that it is done. -/
  sells : ∃ swap sale d, Sells (c.put home (.account { a with swap := some swap })) home
      { a with swap := some swap } l sold minAmountOut sale d ∧
    (∀ m ∈ sale.tail, m.call.issuer ≠ home) ∧ tr = sale ++ [⟨d, .reply home swapReply⟩]
  received : (c.balance home a.config.quoteDenom).toNat + minAmountOut.toNat
    ≤ (c'.balance home a.config.quoteDenom).toNat
  /-- It has no more stablecoin less than it sold, and just that much less if nobody gave it any. -/
  left : ∃ l', Joint c' home { a with swap := none } l' ∧
    (l.balances.get home).toNat ≤ (l'.balances.get home).toNat + sold.toNat ∧
    ((∀ m ∈ tr, ¬ m.call.Gives a.config.ledger home) →
      (l.balances.get home).toNat = (l'.balances.get home).toNat + sold.toNat)

/-- An account has bought at least so much stablecoin for an amount, and done nothing else. -/
structure Bought (c : Chain σ) (home : Address) (a : Account) (l : Ledger)
    (spent minAmountOut : Amount) (tr : List (Moment σ)) (c' : Chain σ) : Prop where
  /-- It has made no call but the purchase, and heard of nothing but that it is done. -/
  buys : ∃ swap purchase d, Buys (c.put home (.account { a with swap := some swap })) home
      { a with swap := some swap } spent minAmountOut purchase d ∧
    (∀ m ∈ purchase.tail, m.call.issuer ≠ home) ∧
    tr = purchase ++ [⟨d, .reply home swapReply⟩]
  received : ∃ l', Joint c' home { a with swap := none } l' ∧
    (l.balances.get home).toNat + minAmountOut.toNat ≤ (l'.balances.get home).toNat
  /-- It has no more quote currency less than it spent, and just that much less if nobody paid it
      any. -/
  left : (c.balance home a.config.quoteDenom).toNat
      ≤ (c'.balance home a.config.quoteDenom).toNat + spent.toNat ∧
    ((∀ m ∈ tr, ¬ m.call.Pays home a.config.quoteDenom) →
      (c.balance home a.config.quoteDenom).toNat
        = (c'.balance home a.config.quoteDenom).toNat + spent.toNat)

/-- A sale is done when the account that waits for it has heard of it. -/
theorem Joint.sold {sold : Amount} (h : Joint c self a l)
    (hswap : swap = { assetOut := .quote, balanceBefore := c.balance self a.config.quoteDenom
                      minAmountOut, afterSwap := .hold })
    (hr : Runs (c.put self (.account { a with swap := some swap }))
      (callsOf self [{ action := a.sellAction sold minAmountOut, replyId := some swapReply }]) tr
      c') (quiet : ∀ m ∈ tr, ¬ m.call.Tells self)
    (untaken : ∀ m ∈ tr, ¬ m.call.Takes a.config.ledger self) :
    Sold c self a l sold minAmountOut tr c' := by
  have h₁ : Joint (c.put self (.account { a with swap := some swap })) self
      { a with swap := some swap } l := h.put_account rfl
  obtain ⟨sale, d, balance, hsale, rfl, measured, enough, rfl⟩ :=
    runs_held h₁.account?_eq rfl (by rw [hswap]) hr quiet
  rw [List.forall_mem_append] at quiet untaken
  have sells : Sells _ self _ l sold minAmountOut sale d := h₁.sells hsale
  obtain ⟨l₁, l', hleft, apart⟩ := sells.apart h₁ quiet.1
  have huntaken := fun m hm => untaken.1 m (List.mem_of_mem_tail hm)
  refine ⟨⟨swap, sale, d, sells, apart.foreign, rfl⟩, ?_, l', apart.joint.put_account rfl, ?_, ?_⟩
  · -- the account compares with what it had before the sale, and nobody else spends of that
    rw [hswap] at measured enough
    cases measured
    exact Amount.add_le_of_le_saturatingSub enough apart.kept
  · have hkept := apart.untaken huntaken
    rw [Amount.le_iff] at hkept
    omega
  · intro ungiven
    rw [List.forall_mem_append] at ungiven
    rw [apart.ungiven huntaken fun m hm => ungiven.1 m (List.mem_of_mem_tail hm), hleft]

/-- So is a purchase. -/
theorem Joint.bought (h₁ : Joint (c.put self (.account { a with swap := some swap })) self
      { a with swap := some swap } l)
    (hswap : swap = { assetOut := .stablecoin, balanceBefore := l.balances.get self
                      minAmountOut, afterSwap := .hold })
    (hr : Runs (c.put self (.account { a with swap := some swap }))
      (callsOf self [{ action := a.buyAction spent minAmountOut, replyId := some swapReply }]) tr
      c') (quiet : ∀ m ∈ tr, ¬ m.call.Tells self)
    (untaken : ∀ m ∈ tr, ¬ m.call.Takes a.config.ledger self) :
    Bought c self a l spent minAmountOut tr c' := by
  obtain ⟨purchase, d, balance, hpurchase, rfl, measured, enough, rfl⟩ :=
    runs_held h₁.account?_eq rfl (by rw [hswap]) hr quiet
  rw [List.forall_mem_append] at quiet untaken
  obtain ⟨buys, c₁, l', hspent, apart⟩ := h₁.buys hpurchase quiet.1
  refine ⟨⟨swap, purchase, d, buys, apart.foreign, rfl⟩,
    ⟨l', apart.joint.put_account rfl, ?_⟩, ?_, ?_⟩
  · rw [hswap] at measured enough
    obtain ⟨-, rfl⟩ := apart.joint.askBalance_eq_ok_iff.1 measured
    refine Amount.add_le_of_le_saturatingSub enough (apart.untaken ?_)
    exact fun m hm => untaken.1 m (List.mem_of_mem_tail hm)
  · have hkept := apart.kept
    rw [Amount.le_iff] at hkept
    exact Nat.le_trans (Nat.le_of_eq hspent) (Nat.add_le_add_right hkept _)
  · intro unpaid
    rw [List.forall_mem_append] at unpaid
    have hkept := apart.unpaid fun m hm => unpaid.1 m (List.mem_of_mem_tail hm)
    rw [← hkept] at hspent
    exact hspent

/-! ## Sales and purchases -/

variable {message : Json} {funds : List Coin} {action : Action} {m : Account.Message}
  {records : List Record}

/-- A message that makes an account swap one currency for the other and keep what comes of it: the
    reply meets the account as it was when it asked for the swap, and if it fails, so does the
    transaction. -/
theorem Joint.reply_of_held (h : Joint c self a l) (record : Chain σ → PendingSwap)
    (decoded : Account.Message.ofJson? message = some m)
    (begins : ∀ c₁ a' out, Joint c₁ self a l → a.Step (c₁.env self) sender m a' out →
      a' = { a with swap := some (record c₁) } ∧ out = [{ action, replyId := some swapReply }])
    (hold : ∀ c₁, (record c₁).afterSwap = .hold)
    (quiet : ∀ m ∈ (trace callLimit c [.execute sender self message funds]).tail,
      ¬ m.call.Tells self)
    (hm : ⟨d, .reply self swapReply⟩ ∈ trace callLimit c [.execute sender self message funds]) :
    ∃ c₁ a' out, c.payAll sender self funds = .ok c₁ ∧ Joint c₁ self a l ∧
      a.Step (c₁.env self) sender m a' out ∧
      d.account? self = some { a with swap := some (record c₁) } ∧
      ∀ e, d.perform (.reply self swapReply) = .error e →
        c.transact (.execute sender self message funds) = .error e := by
  rcases transact_cases c (.execute sender self message funds) with
    htrace | ⟨c₂, next, limit, performs, htrace, hfails⟩
  · rw [htrace] at hm
    cases List.mem_singleton.1 hm
  · rw [htrace] at hm quiet
    rcases List.mem_cons.1 hm with heq | hm
    · cases heq
    · obtain ⟨c₁, m', a', out, paid, decoded', step, rfl, rfl⟩ := h.performs_account performs
      cases decoded.symm.trans decoded'
      have h₁ : Joint c₁ self a l := h.congr (contract?_of_payAll paid)
      obtain ⟨rfl, rfl⟩ := begins c₁ a' out h₁ step
      obtain ⟨stands, fails⟩ :=
        reply_of_mem_trace (account?_put_self _ _ _) rfl (hold c₁) quiet hm
      exact ⟨c₁, _, _, paid, h₁, step, stands, fun e he => hfails e (fails e he)⟩

/-- How a sale of stablecoin begins, -/
theorem Joint.step_sell {a' : Account} {out : List Outgoing} (h : Joint c self a l)
    (step : a.Step (c.env self) sender (.sell amount minAmountOut) a' out) :
    a' = { a with swap := some { assetOut := .quote
                                 balanceBefore := c.balance self a.config.quoteDenom
                                 minAmountOut, afterSwap := .hold } } ∧
      out = [{ action := a.sellAction amount minAmountOut, replyId := some swapReply }] := by
  cases step with
  | sell authorized active positive valued enough =>
    obtain ⟨-, -, -, hquote⟩ := h.valuation_eq_ok_iff.1 valued
    rw [hquote]
    exact ⟨rfl, rfl⟩

/-- and a purchase. -/
theorem Joint.step_buy {a' : Account} {out : List Outgoing} (h : Joint c self a l)
    (step : a.Step (c.env self) sender (.buy amount minAmountOut) a' out) :
    (a' = { a with swap := some { assetOut := .stablecoin, balanceBefore := l.balances.get self
                                  minAmountOut, afterSwap := .hold } } ∧
      out = [{ action := a.buyAction amount minAmountOut, replyId := some swapReply }]) ∧
      Address.validate self = .ok self := by
  cases step with
  | buy authorized active positive valued enough =>
    obtain ⟨-, ⟨valid, hheld⟩, -, -⟩ := h.valuation_eq_ok_iff.1 valued
    rw [hheld]
    exact ⟨⟨rfl, rfl⟩, valid⟩

/-- A swap that the borrower orders delivers or is undone whole, whatever the venue does, as long as
    nobody tells the account anything or takes stablecoin from it meanwhile. If the transaction
    completes, just the amount has gone to the venue, the account has at least so much more of the
    other currency than when it was ordered to swap, with what came along with the order, nothing is
    forwarded, and all that is on record is as before. If the swap brings in less, the transaction
    fails with what it brought in and what was asked for, even though the venue has done its
    part. -/
theorem swaps_deliver_or_revert (h : Joint c self a l)
    (traced : trace callLimit c [.execute sender self message funds] = tr)
    (quiet : ∀ m ∈ tr.tail, ¬ m.call.Tells self)
    (untaken : ∀ m ∈ tr, ¬ m.call.Takes a.config.ledger self) :
    (Account.Message.ofJson? message = some (.sell amount minAmountOut) →
      (∀ c' records, c.transact (.execute sender self message funds) = .ok (c', records) →
        ∃ c₁ later, c.payAll sender self funds = .ok c₁ ∧
          tr = ⟨c, .execute sender self message funds⟩ :: later ∧
          Sold c₁ self a l amount minAmountOut later c') ∧
      ∀ c₁ d received, c.payAll sender self funds = .ok c₁ → ⟨d, .reply self swapReply⟩ ∈ tr →
        received = (d.balance self a.config.quoteDenom).saturatingSub
          (c₁.balance self a.config.quoteDenom) → received < minAmountOut →
        c.transact (.execute sender self message funds)
          = .error (.contract self (.account (.slippageExceeded received minAmountOut)))) ∧
    (Account.Message.ofJson? message = some (.buy amount minAmountOut) →
      (∀ c' records, c.transact (.execute sender self message funds) = .ok (c', records) →
        ∃ c₁ later, c.payAll sender self funds = .ok c₁ ∧
          tr = ⟨c, .execute sender self message funds⟩ :: later ∧
          Bought c₁ self a l amount minAmountOut later c') ∧
      ∀ d a₁ l₁ received, Joint d self a₁ l₁ → ⟨d, .reply self swapReply⟩ ∈ tr →
        received = (l₁.balances.get self).saturatingSub (l.balances.get self) →
        received < minAmountOut →
        c.transact (.execute sender self message funds)
          = .error (.contract self (.account (.slippageExceeded received minAmountOut)))) := by
  subst traced
  refine ⟨fun decoded => ⟨fun c' records completes => ?_, ?_⟩,
    fun decoded => ⟨fun c' records completes => ?_, ?_⟩⟩
  · obtain ⟨c₁, a', out, later, paid, h₁, step, htrace, runs⟩ :=
      h.runs_of_transact decoded completes
    rw [htrace] at quiet untaken
    obtain ⟨rfl, rfl⟩ := h₁.step_sell step
    exact ⟨c₁, later, paid, htrace, h₁.sold rfl runs quiet (List.forall_mem_cons.1 untaken).2⟩
  · rintro c₁ d received paid hm rfl short
    obtain ⟨c₂, a', out, paid', -, -, stands, fails⟩ := h.reply_of_held
      (fun c₁ => ⟨.quote, c₁.balance self a.config.quoteDenom, minAmountOut, .hold⟩) decoded
      (fun c₁ a' out h₁ step => h₁.step_sell step) (fun _ => rfl) quiet hm
    cases paid.symm.trans paid'
    exact fails _ (perform_swapReply_eq_error stands rfl rfl short)
  · obtain ⟨c₁, a', out, later, paid, h₁, step, htrace, runs⟩ :=
      h.runs_of_transact decoded completes
    rw [htrace] at quiet untaken
    obtain ⟨⟨rfl, rfl⟩, -⟩ := h₁.step_buy step
    exact ⟨c₁, later, paid, htrace,
      Joint.bought (h₁.put_account rfl) rfl runs quiet (List.forall_mem_cons.1 untaken).2⟩
  · rintro d a₁ l₁ received hd hm rfl short
    obtain ⟨c₁, a', out, -, h₁, step, stands, fails⟩ := h.reply_of_held
      (fun _ => ⟨.stablecoin, l.balances.get self, minAmountOut, .hold⟩) decoded
      (fun c₁ a' out h₁ step => (h₁.step_buy step).1) (fun _ => rfl) quiet hm
    cases hd.account?_eq.symm.trans stands
    have measured := hd.askBalance_eq_ok_iff.2 ⟨(h₁.step_buy step).2, rfl⟩
    exact fails _ (perform_swapReply_eq_error stands rfl measured short)

omit [Outside σ] in
theorem Call.eq_reply_of_answers {call : Call} (h : call.answers self id = true) :
    call = .reply self id := by
  cases call with
  | reply contract k =>
    obtain ⟨rfl, rfl⟩ := of_decide_eq_true h
    rfl
  | _ => cases h

/-- The account has 40 of the stablecoin and 30 of the quote currency, and a venue has 100 of
    either, with which it trades at the target price of 1.1. -/
def swapChain : Chain Collaborator :=
  (sampleChain { idleLedger with balances := idleLedger.balances.set "venue" (.ofNat 100) }
    idleAccount .empty ((Holdings.empty.set ("account", "uquote") (.ofNat 30)).set
      ("venue", "uquote") (.ofNat 100))).put "venue"
    (.outside (.venue "ledger" "uquote" (.ofNat 1100000)))

/-- The order to swap ten of a currency. -/
def swapping (tag : String) (minAmountOut : Nat) : Json :=
  .tagged tag [("amount", .amount (.ofNat 10)), ("min_amount_out", .amount (.ofNat minAmountOut))]

/-- Ten of the stablecoin are sold for eleven, and nine are bought for ten; to get twelve for the
    ten fails. -/
theorem swaps_deliver_or_revert_of_swapChain :
    (∃ c' records a l, swapChain.transact
        (.execute "borrower" "account" (swapping "sell_sweep_on_amm" 11) []) = .ok (c', records) ∧
      Joint c' "account" a l ∧ 41 ≤ (c'.balance "account" "uquote").toNat ∧
      (l.balances.get "account").toNat = 30) ∧
    (∃ c' records a l, swapChain.transact
        (.execute "borrower" "account" (swapping "buy_sweep_on_amm" 9) []) = .ok (c', records) ∧
      Joint c' "account" a l ∧ (c'.balance "account" "uquote").toNat = 20 ∧
      49 ≤ (l.balances.get "account").toNat) ∧
    swapChain.transact (.execute "borrower" "account" (swapping "sell_sweep_on_amm" 12) [])
      = .error (.contract "account" (.account (.slippageExceeded (.ofNat 11) (.ofNat 12)))) := by
  have h : ∃ l, Joint swapChain "account" idleAccount l ∧
      (l.balances.get "account").toNat = 40 := ⟨_, ⟨rfl, rfl⟩, rfl⟩
  obtain ⟨l, h, hheld⟩ := h
  have hhas : (swapChain.balance "account" "uquote").toNat = 30 := by decide
  refine ⟨?_, ?_, ?_⟩
  · have decoded : Account.Message.ofJson? (swapping "sell_sweep_on_amm" 11)
        = some (.sell (.ofNat 10) (.ofNat 11)) := by rfl
    generalize traced : trace callLimit swapChain
      [.execute "borrower" "account" (swapping "sell_sweep_on_amm" 11) []] = tr
    have hrun : (swapChain.transact (.execute "borrower" "account"
          (swapping "sell_sweep_on_amm" 11) [])).map (fun _ => ()) = .ok () ∧
        (∀ m ∈ tr.tail, ¬ m.call.Tells "account") ∧
        ∀ m ∈ tr, ¬ m.call.Takes "ledger" "account" ∧ ¬ m.call.Gives "ledger" "account" := by
      subst traced
      decide +kernel
    obtain ⟨hdone, quiet, hmoves⟩ := hrun
    obtain ⟨⟨c', records⟩, done, -⟩ := map_eq_ok_iff.1 hdone
    obtain ⟨sell, -⟩ := swaps_deliver_or_revert h traced quiet fun m hm => (hmoves m hm).1
    obtain ⟨c₁, later, paid, rfl, sold⟩ := (sell decoded).1 c' records done
    cases paid
    obtain ⟨l', h', -, hleft⟩ := sold.left
    have hgiven := hleft fun m hm => (hmoves m (List.mem_cons_of_mem _ hm)).2
    have hreceived := sold.received
    change (swapChain.balance "account" "uquote").toNat + 11
      ≤ (c'.balance "account" "uquote").toNat at hreceived
    change _ = (l'.balances.get "account").toNat + 10 at hgiven
    exact ⟨c', records, _, l', done, h', by omega, by omega⟩
  · have decoded : Account.Message.ofJson? (swapping "buy_sweep_on_amm" 9)
        = some (.buy (.ofNat 10) (.ofNat 9)) := by rfl
    generalize traced : trace callLimit swapChain
      [.execute "borrower" "account" (swapping "buy_sweep_on_amm" 9) []] = tr
    have hrun : (swapChain.transact (.execute "borrower" "account"
          (swapping "buy_sweep_on_amm" 9) [])).map (fun _ => ()) = .ok () ∧
        (∀ m ∈ tr.tail, ¬ m.call.Tells "account" ∧ ¬ m.call.Pays "account" "uquote") ∧
        ∀ m ∈ tr, ¬ m.call.Takes "ledger" "account" := by
      subst traced
      decide +kernel
    obtain ⟨hdone, hmoves, untaken⟩ := hrun
    obtain ⟨⟨c', records⟩, done, -⟩ := map_eq_ok_iff.1 hdone
    obtain ⟨-, buy⟩ := swaps_deliver_or_revert h traced (fun m hm => (hmoves m hm).1) untaken
    obtain ⟨c₁, later, paid, rfl, bought⟩ := (buy decoded).1 c' records done
    cases paid
    obtain ⟨l', h', hreceived⟩ := bought.received
    have hpaid := bought.left.2 fun m hm => (hmoves m hm).2
    change (swapChain.balance "account" "uquote").toNat
      = (c'.balance "account" "uquote").toNat + 10 at hpaid
    change _ + 9 ≤ _ at hreceived
    exact ⟨c', records, _, l', done, h', by omega, by omega⟩
  · have decoded : Account.Message.ofJson? (swapping "sell_sweep_on_amm" 12)
        = some (.sell (.ofNat 10) (.ofNat 12)) := by rfl
    generalize traced : trace callLimit swapChain
      [.execute "borrower" "account" (swapping "sell_sweep_on_amm" 12) []] = tr
    -- the reply comes, and finds eleven more than before
    have hcalls : (∀ m ∈ tr.tail, ¬ m.call.Tells "account") ∧
        (∀ m ∈ tr, ¬ m.call.Takes "ledger" "account") ∧
        ∃ m ∈ tr, m.call.answers "account" swapReply = true ∧ m.finds (.ofNat 41) = true := by
      subst traced
      decide +kernel
    obtain ⟨quiet, untaken, ⟨d, call⟩, hm, hanswers, hfinds⟩ := hcalls
    obtain rfl := Call.eq_reply_of_answers hanswers
    have hreceived : (.ofNat 11 : Amount) = (d.balance "account" "uquote").saturatingSub
        (swapChain.balance "account" "uquote") := by
      rw [eq_of_beq hfinds]
      decide
    obtain ⟨sell, -⟩ := swaps_deliver_or_revert h traced quiet untaken
    exact (sell decoded).2 swapChain d (.ofNat 11) rfl hm hreceived (by decide)

end Chain

end Stablecoin
