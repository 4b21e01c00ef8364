import Stablecoin.Proofs.Chain.Failures
import Stablecoin.Proofs.Chain.View
import Stablecoin.Proofs.Ledger.Supply

set_option autoImplicit false

/-! # A price to divide by

An account divides by the target price of its ledger and by nothing else that could be zero. The
ledger keeps its anchors from zero and so every price between them (`Ledger.Reachable.usable`). Both
together mean that no message, reply or query of the account fails with a zero denominator, whatever
happens between (`target_price_usable`). -/

namespace Stablecoin.Chain

variable {σ : Type} [Outside σ] {c c₁ : Chain σ} {home b : Address} {a : Account} {l : Ledger}

/-- An account whose ledger has usable prices is never told a price of zero. -/
theorem Joint.guarded (h : Joint c home a l) (usable : l.config.Usable) :
    a.Guarded (c.env home) .zeroDenominator where
  reports := c.reports_querier
  priced _ _ hprice :=
    Ledger.targetPriceAt_ne_zero usable.current usable.next (h.askTargetPrice_eq_ok_iff.1 hprice)
  bounded := nofun

/-- A ledger with usable prices stands where the account at an address takes its ledger to be. -/
def Priced (home ledger : Address) (c : Chain σ) : Prop :=
  ∃ a l, Joint c home a l ∧ a.config.ledger = ledger ∧ l.config.Usable

namespace Priced

variable {ledger : Address}

theorem performs {c' : Chain σ} {call : Call} {next : List Call} (hp : Performs c call c' next)
    (h : Priced home ledger c) : Priced home ledger c' := by
  obtain ⟨a, l, joint, hledger, usable⟩ := h
  obtain ⟨a', l', joint', effect⟩ := joint.performs hp
  refine ⟨a', l', joint', by rw [effect.config_eq, hledger], ?_⟩
  cases effect with
  | ledger paid decoded step => exact step.usable usable
  | _ => exact usable

omit [Outside σ] in
theorem atTime (h : Priced home ledger c) (now : Seconds) : Priced home ledger (c.atTime now) := by
  obtain ⟨a, l, joint, hledger, usable⟩ := h
  exact ⟨a, l, joint.atTime now, hledger, usable⟩

/-- Neither of the two divides by zero. -/
theorem guarded {k : Contract σ} (h : Priced home ledger c)
    (same : ∀ b', c₁.contract? b' = c.contract? b') (hb : b = home ∨ b = ledger)
    (found : c₁.contract? b = some k) : k.Guarded (c₁.env b) .zeroDenominator := by
  obtain ⟨a, l, joint, rfl, usable⟩ := h
  have joint₁ := joint.congr same
  rcases hb with rfl | rfl
  · rw [joint₁.account] at found
    cases found
    exact joint₁.guarded usable
  · rw [joint₁.ledger] at found
    cases found
    exact ⟨usable, c₁.reports_querier⟩

end Priced

end Stablecoin.Chain

namespace Stablecoin.Ledger

open Chain

/-- A ledger that can be reached has a usable target price at every time, before the crawl begins as
    well: it is told, and is not zero. A value at that price is told unless it is no amount, and the
    peg gate unless the venue, if there is one, does not tell its price.

    So neither the ledger nor an account on it fails with a zero denominator: no transaction does
    that comes after any others, and no query where a call of it is made. -/
theorem target_price_usable {l : Ledger} (h : l.Reachable) :
    l.config.Usable ∧
      (∀ env : Env, ∃ price : Amount, 1 ≤ price.toNat ∧
        l.query env .targetPrice = .ok (.amount price) ∧
        (∀ x f, l.query env (.quoteValue x) = .error f ↔
          f = .conversion ∧ Amount.size ≤ x.toNat * price.toNat / precision) ∧
        (∀ x f, l.query env (.stablecoinAmount x) = .error f ↔
          f = .conversion ∧ Amount.size ≤ x.toNat * precision / price.toNat) ∧
        ∀ f, l.query env .isMintAllowed = .error f ↔
          ∃ venue ∈ l.config.venue, Venue.askPrice env.querier venue = .error f) ∧
      ∀ {σ : Type} [Outside σ] {c : Chain σ} {home : Address} {a : Account}, Joint c home a l →
        ∀ ts t b, b = home ∨ b = a.config.ledger →
          (∀ e, ((c.afterAll ts).atTime t.time).transact t.call = .error (.contract b e) →
            ¬ e.Shows .zeroDenominator) ∧
          ∀ m ∈ c.attempts ts t, ∀ q e, m.chain.query b q = .error (.contract b e) →
            ¬ e.Shows .zeroDenominator := by
  have usable := h.usable
  refine ⟨usable, fun env => ?_, ?_⟩
  · obtain ⟨price, hprice, hpositive⟩ := usable.exists_targetPrice env.now
    obtain ⟨htarget, hquote, hstablecoin⟩ := query_price hprice
    have hzero : price.toNat ≠ 0 := fun hz => hpositive (Amount.eq_zero_iff.2 hz)
    have hwhole : precision ≠ 0 := by decide
    refine ⟨price, Nat.one_le_iff_ne_zero.2 hzero, htarget, fun x f => ?_, fun x f => ?_,
      fun f => ?_⟩
    · rw [hquote, fmap_eq_error_iff, Stablecoin.quoteValue, mulDiv_eq_error_iff]
      simp [hwhole]
    · rw [hstablecoin, fmap_eq_error_iff, Stablecoin.stablecoinAmount, mulDiv_eq_error_iff]
      simp [hzero]
    · rw [← usable.mintAllowed_eq_error_iff]
      simp only [query, bind_eq_error_iff, pure_ne_error, and_false, exists_false, or_false]
  · intro σ _ c home a joint ts t b hb
    have hpriced : Priced home a.config.ledger c := ⟨a, l, joint, rfl, usable⟩
    constructor
    · intro e hfails
      exact transact_not_shows Priced.performs (fun now hc => hc.atTime now)
        (fun hc same found => hc.guarded same hb found) .zeroDenominator hpriced hfails
    · intro m hm q e hfails
      have hmoment := attempts_keep Priced.performs (fun now hc => hc.atTime now) hpriced hm
      exact query_not_shows (fun hc same found => Priced.guarded hc same hb found)
        .zeroDenominator hmoment hfails

/-- The target price falls from three units to one within ten seconds. -/
def fallingRun : List Invocation :=
  [⟨aloneEnv, "owner", .setTargetPrice (.ofNat 3) (.ofNat 1)⟩,
    ⟨aloneEnv, "owner", .setPeriodLength 10⟩,
    ⟨aloneEnv, "owner", .setTargetPrice 0 (.ofNat 1)⟩]

/-- On its way down the price is two units, at which the greatest amount of quote currency buys no
    amount of stablecoin; and an account that would have to sell stablecoin to invest fails for
    want of stablecoin. -/
theorem target_price_usable_of_fallingRun :
    ∃ l : Ledger, l.Reachable ∧ l.query { aloneEnv with now := 9 } .targetPrice
        = .ok (.amount (.ofNat 2)) ∧
      l.query { aloneEnv with now := 9 } (.stablecoinAmount ⟨Amount.size - 1, by decide⟩)
        = .error .conversion ∧
      l.query { aloneEnv with now := 9 } .isMintAllowed ≠ .error .zeroDenominator ∧
      ∃ e, ((sampleChain l (sampleAccount 0 0 0) .empty .empty).atTime 9).transact
          (.execute "borrower" "account" (.tagged "invest"
            [("amount", .amount (.ofNat 5)), ("slippage", .word32 0)]) [])
          = .error (.contract "account" e) ∧ ¬ e.Shows .zeroDenominator := by
  have hrun : ∃ l : Ledger, l.Reachable ∧ l.config.venue = none ∧
      l.query { aloneEnv with now := 9 } .targetPrice = .ok (.amount (.ofNat 2)) ∧
      ((sampleChain l (sampleAccount 0 0 0) .empty .empty).atTime 9).transact
        (.execute "borrower" "account" (.tagged "invest"
          [("amount", .amount (.ofNat 5)), ("slippage", .word32 0)]) [])
        = .error (.contract "account" (.account .notEnoughBalance)) :=
    ⟨_, ⟨aloneEnv, "owner", plainSetup, _, _, fallingRun, rfl, rfl⟩, rfl, rfl, rfl⟩
  obtain ⟨l, hl, hvenue, hprice, hinvest⟩ := hrun
  obtain ⟨-, asked, account⟩ := target_price_usable hl
  obtain ⟨price, -, htarget, -, hstablecoin, hgate⟩ := asked { aloneEnv with now := 9 }
  have heq : price = .ofNat 2 := by
    have hread := congrArg Json.amount? (Except.ok.inj (hprice.symm.trans htarget))
    rw [Json.amount?_amount, Json.amount?_amount] at hread
    exact (Option.some.inj hread).symm
  subst heq
  have hnever := (account (joint_sampleChain l .empty .empty) []
    ⟨9, "borrower", order "account" "invest"
      [("amount", .amount (.ofNat 5)), ("slippage", .word32 0)]⟩
    "account" (.inl rfl)).1 _ hinvest
  refine ⟨l, hl, hprice, (hstablecoin _ _).2 ⟨rfl, by decide⟩, fun hfails => ?_, _, hinvest, hnever⟩
  obtain ⟨venue, hmem, -⟩ := (hgate _).1 hfails
  rw [hvenue] at hmem
  cases hmem

end Stablecoin.Ledger
