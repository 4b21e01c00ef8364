import Stablecoin.Proofs.Chain.Proceeds
import Stablecoin.Proofs.Chain.Swaps

set_option autoImplicit false

/-! # Buying back with what arrives

An account that takes quote currency from its backend to buy stablecoin with it does not spend what
it asked for. It writes down what it has before it asks, and what it has more when it hears that the
backend is done is what it spends (`Hears.buysBack`). The backend may pay more or less than it was
asked for, or nothing; others may pay the account as well. All that has arrived by then is spent,
and nothing else (`buyback_spends_arrivals`). -/

namespace Stablecoin

open Chain Account

namespace Account

variable {a a' : Account} {env : Env} {amount received : Amount} {out : List Outgoing}

/-- The account that has put on record what it takes out of its investment: the stated value, if
    there is one, is lower by the amount, or zero. Debt, fee and pause are as before. -/
def divested (a : Account) (amount : Amount) : Account :=
  { a with position := { a.position with
      statedValue := a.position.statedValue.map fun value => value.saturatingSub amount } }

theorem adjust_eq_divested (a : Account) (amount : Amount) :
    { a with position := a.position.adjust 0 amount } = a.divested amount := by
  simp only [Position.adjust, adjustStated, Amount.saturatingAdd_zero, divested]

/-- When the backend is done, the account buys stablecoin with what has arrived, if anything has. -/
theorem Hears.buysBack {divest : PendingDivest} (h : Hears a env divestReply a' out)
    (pending : a.divest = some divest)
    (measured : received = (a.quoteBalance env).saturatingSub divest.quoteBefore) :
    (received = 0 ∧ a' = { a with divest := none } ∧ out = []) ∨
      (received ≠ 0 ∧ ∃ price balance least,
        Ledger.askTargetPrice env.querier a.config.ledger = .ok price ∧ 0 < price.toNat ∧
        a.stablecoinBalance env = .ok balance ∧
        least.toNat = received.toNat * precision / price.toNat
          * (precision - divest.slippage.toNat) / precision ∧
        a' = { a with divest := none
                      swap := some { assetOut := .stablecoin, balanceBefore := balance
                                     minAmountOut := least, afterSwap := .hold } } ∧
        out = [{ action := a.buyAction received least, replyId := some swapReply }]) := by
  cases h with
  | divestKept pending' nothing =>
    cases pending.symm.trans pending'
    exact .inl ⟨measured.trans nothing, rfl, rfl⟩
  | divestSpent pending' measured' something asked priced bounded least held =>
    cases pending.symm.trans pending'
    cases measured.trans measured'.symm
    obtain ⟨positive, hfair⟩ := stablecoinAmount_eq_ok_iff.1 priced
    refine .inr ⟨something, _, _, _, asked, Nat.pos_of_ne_zero positive, held, ?_, rfl, rfl⟩
    rw [applyRatio_eq_ok_iff.1 least, hfair]

end Account

namespace Chain

variable {σ : Type} [Outside σ] {c c' d : Chain σ} {self sender : Address} {a : Account}
  {l : Ledger} {amount received : Amount} {slippage : Ratio} {tr : List (Moment σ)}

/-! ## Taking from the backend -/

/-- An account asks its backend for an amount, and all else that happens follows from what the
    backend then does. -/
structure Divests (c : Chain σ) (home : Address) (a : Account) (l : Ledger) (amount : Amount)
    (draw : List (Moment σ)) (d : Chain σ) (l' : Ledger) : Prop where
  runs : Runs c [.ofAction home (a.divestAction amount)] draw d
  joint : Joint d home a l'
  /-- The account makes no other call, -/
  foreign : ∀ m ∈ draw.tail, m.call.issuer ≠ home
  /-- and has no less of either currency, -/
  kept : c.balance home a.config.quoteDenom ≤ d.balance home a.config.quoteDenom
  held : l.balances.get home ≤ l'.balances.get home
  /-- and no more stablecoin if nobody gives it any. -/
  ungiven : (∀ m ∈ draw, ¬ m.call.Gives a.config.ledger home) →
    l'.balances.get home = l.balances.get home

theorem Joint.divests (h : Joint c self a l)
    (hr : Runs c [.ofAction self (a.divestAction amount)] tr d)
    (quiet : ∀ m ∈ tr, ¬ m.call.Tells self)
    (untaken : ∀ m ∈ tr, ¬ m.call.Takes a.config.ledger self) :
    ∃ l', Divests c self a l amount tr d l' := by
  obtain ⟨c₁, later, l', -, paid, rfl, apart⟩ := h.apart_of_outgoing rfl hr quiet
  cases paid
  rw [List.forall_mem_cons] at untaken
  exact ⟨l', hr, apart.joint, apart.foreign, apart.kept, apart.untaken untaken.2,
    fun ungiven => apart.ungiven untaken.2 (List.forall_mem_cons.1 ungiven).2⟩

/-- How an account begins to take from its backend in order to buy. -/
theorem Joint.step_buyBack {a' : Account} {out : List Outgoing} (h : Joint c self a l)
    (step : a.Step (c.env self) sender (.divest amount (some slippage)) a' out) :
    a' = { a.divested amount with
            divest := some { quoteBefore := c.balance self a.config.quoteDenom, slippage } } ∧
      out = [{ action := a.divestAction amount, replyId := some divestReply }] := by
  cases step with
  | divestToBuy authorized positive valued enough bounded =>
    obtain ⟨-, -, -, hquote⟩ := h.valuation_eq_ok_iff.1 valued
    rw [hquote, ← adjust_eq_divested]
    exact ⟨rfl, rfl⟩

/-! ## Buying -/

/-- An account that hears that its backend is done and has got nothing does nothing. One that has
    got something buys stablecoin with just that, at the target price. -/
theorem Joint.buysBack {divest : PendingDivest} (h : Joint d self a l)
    (pending : a.divest = some divest)
    (measured : received = (d.balance self a.config.quoteDenom).saturatingSub divest.quoteBefore)
    (hr : Runs d [.reply self divestReply] tr c') (quiet : ∀ m ∈ tr, ¬ m.call.Tells self)
    (untaken : ∀ m ∈ tr, ¬ m.call.Takes a.config.ledger self) :
    ∃ later, tr = ⟨d, .reply self divestReply⟩ :: later ∧
      (received = 0 → later = [] ∧ c' = d.put self (.account { a with divest := none })) ∧
      (received ≠ 0 → ∃ price least, l.config.targetPrice d.now = .ok price ∧ 0 < price.toNat ∧
        least.toNat = received.toNat * precision / price.toNat
          * (precision - divest.slippage.toNat) / precision ∧
        Bought d self { a with divest := none } l received least later c') := by
  cases hr with
  | step performs runs =>
    rw [List.append_nil] at runs
    rw [List.forall_mem_cons] at quiet untaken
    obtain ⟨a', -, touches⟩ := touches_of_performs h.account?_eq performs
    cases touches with
    | elsewhere other => exact absurd rfl other
    | reply hears =>
      refine ⟨_, rfl, ?_⟩
      obtain ⟨nothing, rfl, rfl⟩ | ⟨something, price, balance, least, asked, positive, held, hleast,
        rfl, rfl⟩ := hears.buysBack pending measured
      · cases runs
        exact ⟨fun _ => ⟨rfl, rfl⟩, fun something => absurd nothing something⟩
      · refine ⟨fun nothing => absurd nothing something, fun _ => ?_⟩
        obtain ⟨-, rfl⟩ := h.askBalance_eq_ok_iff.1 held
        exact ⟨price, least, h.askTargetPrice_eq_ok_iff.1 asked, positive, hleast,
          Joint.bought (h.put_account rfl) rfl runs quiet.2 untaken.2⟩

variable {message : Json} {funds : List Coin} {records : List Record}

/-- What comes of an order to take from the backend and to buy stablecoin, whatever backend and
    venue do, as long as nobody tells the account anything meanwhile and it has granted no
    allowance. When the backend is done, the account has so much more quote currency than when it
    was ordered to do this. If that is nothing, it does nothing more, and only the stated value of
    its investment is on record as lower. Else it spends just what has arrived, and has more
    stablecoin for it by at least the share of the worth that the slippage leaves; if nobody pays it
    anything while it buys, it has just as much quote currency as it had before. Debt, fee and pause
    are as before. -/
theorem buyback_spends_arrivals (h : Joint c self a l) (unpledged : l.Unpledged self)
    (decoded : Account.Message.ofJson? message = some (.divest amount (some slippage)))
    (completes : c.transact (.execute sender self message funds) = .ok (c', records))
    (traced : trace callLimit c [.execute sender self message funds] = tr)
    (quiet : ∀ m ∈ tr.tail, ¬ m.call.Tells self) :
    ∃ c₁ a₁ draw d l₁ received later a' l', c.payAll sender self funds = .ok c₁ ∧
      a₁ = { a.divested amount with
        divest := some { quoteBefore := c₁.balance self a.config.quoteDenom, slippage } } ∧
      tr = ⟨c, .execute sender self message funds⟩ ::
        (draw ++ ⟨d, .reply self divestReply⟩ :: later) ∧
      Divests (c₁.put self (.account a₁)) self a₁ l amount draw d l₁ ∧
      (d.balance self a.config.quoteDenom).toNat
        = (c₁.balance self a.config.quoteDenom).toNat + received.toNat ∧
      Joint c' self a' l' ∧ a'.position = (a.divested amount).position ∧
      (received = 0 → later = [] ∧
        c' = d.put self (.account { a.divested amount with divest := none }) ∧
        c'.balance self a.config.quoteDenom = c₁.balance self a.config.quoteDenom) ∧
      (received ≠ 0 → ∃ price least, l₁.config.targetPrice c.now = .ok price ∧ 0 < price.toNat ∧
        least.toNat = received.toNat * precision / price.toNat * (precision - slippage.toNat)
          / precision ∧
        Bought d self { a.divested amount with divest := none } l₁ received least later c' ∧
        (l.balances.get self).toNat + least.toNat ≤ (l'.balances.get self).toNat ∧
        ((∀ m ∈ later, ¬ m.call.Pays self a.config.quoteDenom) →
          c'.balance self a.config.quoteDenom = c₁.balance self a.config.quoteDenom)) := by
  subst traced
  obtain ⟨c₁, a₁, out, later, paid, h₁, step, htrace, runs⟩ := h.runs_of_transact decoded completes
  rw [htrace] at quiet ⊢
  have h₂ : Joint (c₁.put self (.account a₁)) self a₁ l := h₁.put_account step.config_eq
  have untaken := (h₂.unpledged unpledged runs fun call hcall =>
    not_grants_of_mem_callsOf step.ungranted hcall).2
  obtain ⟨hbegins, rfl⟩ := h₁.step_buyBack step
  obtain ⟨draw, d, replied, hdraw, rfl, hreply, -⟩ := runs_awaited h₂.account?_eq runs
  rw [List.tail_cons, List.forall_mem_append] at quiet
  rw [List.forall_mem_append] at untaken
  rw [show a.divestAction amount = a₁.divestAction amount by rw [hbegins]; rfl] at hdraw
  obtain ⟨l₁, divests⟩ := h₂.divests hdraw quiet.1 untaken.1
  subst hbegins
  -- what has arrived, and nobody else spends of what was there
  obtain ⟨received, measured⟩ : ∃ received, received = (d.balance self
    a.config.quoteDenom).saturatingSub (c₁.balance self a.config.quoteDenom) := ⟨_, rfl⟩
  have hreceived : (d.balance self a.config.quoteDenom).toNat
      = (c₁.balance self a.config.quoteDenom).toNat + received.toNat := by
    rw [measured]
    exact Amount.eq_add_saturatingSub divests.kept
  obtain ⟨later, rfl, hnothing, hsomething⟩ :=
    divests.joint.buysBack rfl measured hreply quiet.2 untaken.2
  by_cases nothing : received = 0
  · subst nothing
    obtain ⟨rfl, rfl⟩ := hnothing rfl
    exact ⟨c₁, _, draw, d, l₁, 0, [], _, l₁, paid, rfl, rfl, divests, hreceived,
      divests.joint.put_account rfl, rfl, fun _ => ⟨rfl, rfl, Amount.ext hreceived⟩,
      fun something => absurd rfl something⟩
  · obtain ⟨price, least, hprice, positive, hleast, bought⟩ := hsomething nothing
    obtain ⟨l', h', hbought⟩ := bought.received
    have hnow : d.now = c.now := hdraw.now_eq.trans (frame_of_payAll paid).2
    have held := Amount.le_iff.1 divests.held
    refine ⟨c₁, _, draw, d, l₁, received, later, _, l', paid, rfl, rfl, divests, hreceived, h', rfl,
      fun none => absurd none nothing, fun _ => ⟨price, least, hnow ▸ hprice, positive,
        hleast, bought, by omega, fun unpaid => ?_⟩⟩
    have hspent : (d.balance self a.config.quoteDenom).toNat
        = (c'.balance self a.config.quoteDenom).toNat + received.toNat := bought.left.2 unpaid
    exact Amount.ext (by omega)

/-- The account of `investedChain` has 5 of the quote currency too, and its backend pays half of
    what it is asked for. -/
def halvedChain : Chain Collaborator :=
  (investedChain.setBalance "account" "uquote" (.ofNat 5)).put "backend"
    (.outside (.backend "uquote" (.ofNat 500000) (Holdings.empty.set "account" (.ofNat 50))))

/-- The order to take ten from the backend, and to buy with a slippage of a hundredth. -/
def buyingBack : Json :=
  .tagged "divest" [("amount", .amount (.ofNat 10)), ("slippage", .word32 10000)]

/-- Of the ten only five arrive. They are spent, and bring in four at least; the five that the
    account had before stay with it. -/
theorem buyback_spends_arrivals_of_halvedChain : ∃ c' records d a₁ a l₁ l later,
    halvedChain.transact (.execute "borrower" "account" buyingBack []) = .ok (c', records) ∧
    Bought d "account" a₁ l₁ (.ofNat 5) (.ofNat 4) later c' ∧ Joint c' "account" a l ∧
    (c'.balance "account" "uquote").toNat = 5 ∧ 4 ≤ (l.balances.get "account").toNat := by
  have h : ∃ l, Joint halvedChain "account" (sampleAccount 0 0 0) l ∧ l.Unpledged "account" :=
    ⟨_, ⟨rfl, rfl⟩, fun _ => rfl⟩
  obtain ⟨l, h, unpledged⟩ := h
  have decoded : Account.Message.ofJson? buyingBack = some (.divest (.ofNat 10) (some 10000)) := by
    rfl
  generalize traced : trace callLimit halvedChain [.execute "borrower" "account" buyingBack []] = tr
  have hrun : (halvedChain.transact (.execute "borrower" "account" buyingBack [])).map
        (fun _ => ()) = .ok () ∧
      (∀ m ∈ tr.tail, ¬ m.call.Tells "account") ∧
      (∀ m ∈ tr, m.call.answers "account" divestReply = true → m.finds (.ofNat 10) = true ∧
        (m.chain.ledger? "ledger").map (fun l => l.config.targetPrice halvedChain.now)
          = some (.ok (.ofNat precision))) ∧
      ∀ m ∈ (tr.dropWhile fun m => !m.call.answers "account" divestReply).tail,
        ¬ m.call.Pays "account" "uquote" := by
    subst traced
    decide +kernel
  obtain ⟨hdone, quiet, hreply, unpaid⟩ := hrun
  obtain ⟨⟨c', records⟩, done, -⟩ := map_eq_ok_iff.1 hdone
  obtain ⟨c₁, a₁, draw, d, l₁, received, later, a', l', paid, rfl, rfl, divests, hreceived, h', -,
    -, hbuys⟩ := buyback_spends_arrivals h unpledged decoded done traced quiet
  cases paid
  obtain ⟨hfinds, hledger⟩ := hreply ⟨d, .reply "account" divestReply⟩ (by simp) Call.answers_reply
  have hten : d.balance "account" "uquote" = .ofNat 10 := eq_of_beq hfinds
  have hfive : received = .ofNat 5 := by
    change (d.balance "account" "uquote").toNat = 5 + received.toNat at hreceived
    rw [hten] at hreceived
    change 10 = _ at hreceived
    exact Amount.ext (by change _ = 5; omega)
  subst hfive
  obtain ⟨price, least, hprice, -, hleast, bought, hheld, hidle⟩ := hbuys (by decide)
  have hone : price = .ofNat precision := by
    have hstands : d.ledger? "ledger" = some l₁ := divests.joint.ledger?_eq
    rw [hstands, Option.map_some, hprice] at hledger
    exact Except.ok.inj (Option.some.inj hledger)
  have hfour : least = .ofNat 4 := Amount.ext (by rw [hleast, hone]; decide)
  subst hfour
  have hkept : c'.balance "account" "uquote" = halvedChain.balance "account" "uquote" := by
    refine hidle fun m hm => unpaid m ?_
    rw [← List.cons_append]
    exact mem_tail_dropWhile_of_reply hm
  refine ⟨c', records, d, _, a', l₁, l', later, done, bought, h', ?_, ?_⟩
  · rw [hkept]
    decide
  · exact Nat.le_trans (Nat.le_add_left _ _) hheld

end Chain

end Stablecoin
