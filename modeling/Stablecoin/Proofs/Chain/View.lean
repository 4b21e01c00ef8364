import Stablecoin.Proofs.Chain.Joint
import Stablecoin.Proofs.Account.Valuation

set_option autoImplicit false

/-! # What an account sees

The answers that an account gets from its ledger, in terms of the ledger that stands there, and its
valuation in terms of the chain. Two chains on which the contracts answer alike cannot be told apart
by asking (`Mirrors.query_eq`). -/

namespace Stablecoin.Chain

variable {σ : Type} [Outside σ] {c c' : Chain σ} {self : Address} {a : Account} {l : Ledger}

@[simp] theorem env_self (c : Chain σ) (b : Address) : (c.env b).self = b := rfl

@[simp] theorem env_querier (c : Chain σ) (b : Address) : (c.env b).querier = c.querier := rfl

@[simp] theorem bankBalance_querier (c : Chain σ) : c.querier.bankBalance = c.balance := rfl

/-- A contract that stands on the chain answers what it is asked, at the time of the block. -/
theorem ask_queryDepth {b : Address} {k : Contract σ} (h : c.contract? b = some k) (q : Json) :
    ∃ env : Env, env.now = c.now ∧
      c.ask queryDepth b q = (k.query env q).mapError fun e => .queryFailed e.message :=
  ⟨⟨b, c.now, ⟨c.ask 9, c.balance⟩⟩, rfl, by rw [queryDepth, ask, h]⟩

namespace Joint

/-- The account gets the answers of its ledger. -/
theorem ask_ledger (h : Joint c self a l) {q : Json} {lq : Ledger.Query}
    (decoded : Ledger.Query.ofJson? q = some lq) :
    ∃ env : Env, env.now = c.now ∧
      ∀ answer, c.querier.ask a.config.ledger q = .ok answer ↔ l.query env lq = .ok answer := by
  obtain ⟨env, hnow, hask⟩ := ask_queryDepth h.ledger q
  refine ⟨env, hnow, fun answer => ?_⟩
  simp only [querier, hask, Contract.query, decoded, mapError_eq_ok_iff, bind_eq_ok_iff, liftM,
    Contract.monadLift_eq_ok_iff, orMalformed_eq_ok_iff]
  simp

theorem askTargetPrice_eq_ok_iff (h : Joint c self a l) {price : Amount} :
    Ledger.askTargetPrice c.querier a.config.ledger = .ok price ↔
      l.config.targetPrice c.now = .ok price := by
  obtain ⟨env, hnow, hask⟩ := h.ask_ledger Ledger.Query.ofJson?_targetPriceQuery
  simp only [Ledger.askTargetPrice, Querier.askFor, bind_eq_ok_iff, orMalformed_eq_ok_iff, hask,
    Ledger.query, pure_eq_ok_iff, hnow]
  constructor
  · rintro ⟨_, ⟨answer, hanswer, rfl⟩, hprice⟩
    rw [Json.amount?_amount] at hprice
    cases hprice
    exact hanswer
  · intro hprice
    exact ⟨_, ⟨price, hprice, rfl⟩, Json.amount?_amount price⟩

theorem askConfig_eq_ok_iff (h : Joint c self a l) {config : Ledger.Config} :
    Ledger.askConfig c.querier a.config.ledger = .ok config ↔ config = l.config := by
  obtain ⟨env, -, hask⟩ := h.ask_ledger Ledger.Query.ofJson?_configQuery
  simp only [Ledger.askConfig, Querier.askFor, bind_eq_ok_iff, orMalformed_eq_ok_iff, hask,
    Ledger.query]
  constructor
  · rintro ⟨_, hanswer, hconfig⟩
    cases hanswer
    rw [Ledger.Config.ofJson?_toJson] at hconfig
    exact (Option.some.inj hconfig).symm
  · rintro rfl
    exact ⟨_, rfl, Ledger.Config.ofJson?_toJson _⟩

theorem askBalance_eq_ok_iff (h : Joint c self a l) {b : Address} {balance : Amount} :
    Ledger.askBalance c.querier a.config.ledger b = .ok balance ↔
      Address.validate b = .ok b ∧ balance = l.balances.get b := by
  obtain ⟨env, -, hask⟩ := h.ask_ledger (Ledger.Query.ofJson?_balanceQuery b)
  simp only [Ledger.askBalance, Querier.askFor, bind_eq_ok_iff, orMalformed_eq_ok_iff, hask,
    Ledger.query, pure_eq_ok_iff]
  constructor
  · rintro ⟨_, ⟨b', hvalid, rfl⟩, hbalance⟩
    obtain ⟨rfl, -⟩ := Address.check_eq_ok_iff.1 (mapError_eq_ok_iff.1 hvalid)
    rw [Ledger.balanceAnswer?_balanceAnswer] at hbalance
    cases hbalance
    exact ⟨hvalid, rfl⟩
  · rintro ⟨hvalid, rfl⟩
    exact ⟨_, ⟨b, hvalid, rfl⟩, Ledger.balanceAnswer?_balanceAnswer _⟩

/-- The valuation of an account on a chain. -/
theorem valuation_eq_ok_iff (h : Joint c self a l) {v : Account.Valuation} :
    a.valuation (c.env self) = .ok v ↔ a.assetValue (c.env self) = .ok v.assetValue ∧
      (Address.validate self = .ok self ∧ v.stablecoinBalance = l.balances.get self) ∧
      l.config.targetPrice c.now = .ok v.targetPrice ∧
      v.quoteBalance = c.balance self a.config.quoteDenom := by
  simp only [Account.valuation_eq_ok_iff, Account.stablecoinBalance, Account.quoteBalance, env_self,
    env_querier, bankBalance_querier, h.askBalance_eq_ok_iff, h.askTargetPrice_eq_ok_iff]

end Joint

/-! ## Chains that answer alike -/

/-- Two chains at the same time and with the same money, where what stands at an address on the one
    stands there on the other, as far as can be asked. -/
structure Mirrors (c c' : Chain σ) : Prop where
  now : c'.now = c.now
  balance : c'.balance = c.balance
  contract? (b : Address) : (c.contract? b = none ∧ c'.contract? b = none) ∨
    ∃ k k', c.contract? b = some k ∧ c'.contract? b = some k' ∧
      ∀ env q, env.now = c.now → k'.query env q = k.query env q

namespace Mirrors

/-- A query gets the same answer on both. -/
theorem ask_eq (h : Mirrors c c') (depth : Nat) : c'.ask depth = c.ask depth := by
  induction depth with
  | zero => rfl
  | succ depth ih =>
    funext b q
    rw [ask, ask, ih, h.now, h.balance]
    rcases h.contract? b with ⟨none, none'⟩ | ⟨k, k', stands, stands', same⟩
    · rw [none, none']
    · rw [stands, stands']
      show (k'.query _ q).mapError _ = (k.query _ q).mapError _
      rw [same]
      rfl

theorem env_eq (h : Mirrors c c') (b : Address) : c'.env b = c.env b := by
  rw [env, env, querier, querier, h.ask_eq, h.balance, h.now]

theorem query_eq (h : Mirrors c c') (b : Address) (q : Json) : c'.query b q = c.query b q := by
  rw [query, query, h.env_eq]
  rcases h.contract? b with ⟨none, none'⟩ | ⟨k, k', stands, stands', same⟩
  · rw [none, none']
  · rw [stands, stands']
    show (k'.query _ q).mapError _ = (k.query _ q).mapError _
    rw [same]
    rfl

end Mirrors

/-! ## Balances in the bank -/

omit [Outside σ] in
theorem balance_setBalance (c : Chain σ) (b b' : Address) (denom denom' : String)
    (amount : Amount) :
    (c.setBalance b denom amount).balance b' denom'
      = if (b, denom) = (b', denom') then amount else c.balance b' denom' :=
  Holdings.get_set c.bank (b, denom) (b', denom') amount

omit [Outside σ] in
/-- What the payer of a coin has left, and what the payee has then. -/
theorem balance_of_pay {payer payee : Address} {denom : String} {amount : Amount}
    (h : c.payAll payer payee [⟨denom, amount⟩] = .ok c') (hne : payer ≠ payee) :
    (c.balance payer denom).toNat = (c'.balance payer denom).toNat + amount.toNat ∧
      c'.balance payee denom = (c.balance payee denom).saturatingAdd amount := by
  obtain ⟨c₁, hpay, hrest⟩ := payAll_cons_eq_ok_iff.1 h
  obtain ⟨left, hleft, rfl⟩ := pay_eq_ok_iff.1 hpay
  cases hrest
  simp [balance_setBalance, hne, Ne.symm hne, hleft]

end Stablecoin.Chain
