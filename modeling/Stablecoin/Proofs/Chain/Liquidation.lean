import Stablecoin.Proofs.Account.Payout
import Stablecoin.Proofs.Chain.View
import Stablecoin.Proofs.Ledger.Settlement

set_option autoImplicit false

/-! # Liquidation on the chain

A liquidation books the payout first and then makes a row of calls: the debt is pulled in and
burned, the investment is drawn on, quote currency is sent and stablecoin transferred. Each section
below follows one of them and says what it leaves as it was; `Settlement` puts them together, and
`Liquidated` reads off it what was paid and what is left. -/

namespace Stablecoin

namespace Chain

open Account

variable {σ : Type} [Outside σ] {c d : Chain σ} {self liquidator : Address} {a : Account}
  {l : Ledger} {tr : List (Moment σ)}

/-- Of all that the chain keeps, only the contract at one address may have changed. -/
structure OnlyAt (b : Address) (c d : Chain σ) : Prop where
  bank : d.bank = c.bank
  now : d.now = c.now
  contract? {b' : Address} : b ≠ b' → d.contract? b' = c.contract? b'

namespace OnlyAt

omit [Outside σ] in
theorem refl (b : Address) (c : Chain σ) : OnlyAt b c c :=
  ⟨rfl, rfl, fun _ => rfl⟩

omit [Outside σ] in
theorem put (c : Chain σ) (b : Address) (k : Contract σ) : OnlyAt b c (c.put b k) :=
  ⟨rfl, rfl, contract?_put_of_ne c k⟩

omit [Outside σ] in
theorem trans {b : Address} {c d e : Chain σ} (hcd : OnlyAt b c d) (hde : OnlyAt b d e) :
    OnlyAt b c e :=
  ⟨hde.bank.trans hcd.bank, hde.now.trans hcd.now,
    fun hne => (hde.contract? hne).trans (hcd.contract? hne)⟩

omit [Outside σ] in
theorem balance {b : Address} {c d : Chain σ} (h : OnlyAt b c d) : d.balance = c.balance := by
  funext a denom
  rw [Chain.balance, h.bank, Chain.balance]

end OnlyAt

/-! ## Calls to the ledger -/

/-- The contract at an address reports a value for an account, from every point of view. -/
def Reported (c : Chain σ) (backend account : Address) (value : Amount) : Prop :=
  ∃ s, c.contract? backend = some (.outside s) ∧
    ∀ env, Backend.Reports s env account value

/-- Whatever stands at an address is a backend that pays an account plainly. -/
def PaysPlainly (c : Chain σ) (backend account : Address) (denom : String) : Prop :=
  ∀ k, c.contract? backend = some k →
    ∃ s, k = .outside s ∧ Backend.PaysPlainly s account denom

/-- An account has drawn an amount from its backend, and nothing else has happened. -/
structure Divested (c d : Chain σ) (home backend : Address) (denom : String) (amount : Amount) :
    Prop where
  untouched : amount = 0 → d = c
  now : d.now = c.now
  contract? {b : Address} : backend ≠ b → d.contract? b = c.contract? b
  homeBalance : d.balance home denom = (c.balance home denom).saturatingAdd amount
  backendBalance : home ≠ backend →
    (c.balance backend denom).toNat = (d.balance backend denom).toNat + amount.toNat
  others {b : Address} : backend ≠ b → home ≠ b → d.balance b denom = c.balance b denom
  reported {value : Amount} : Reported c backend home value →
    ∃ value', Reported d backend home value' ∧ value.toNat = value'.toNat + amount.toNat

theorem Divested.refl (c : Chain σ) (self backend : Address) (denom : String) :
    Divested c c self backend denom 0 where
  untouched _ := rfl
  now := rfl
  contract? _ := rfl
  homeBalance := (Amount.saturatingAdd_zero _).symm
  backendBalance _ := rfl
  others _ _ := rfl
  reported h := ⟨_, h, rfl⟩

theorem PaysPlainly.congr {backend account : Address} {denom : String}
    (plain : PaysPlainly c backend account denom) (h : d.contract? backend = c.contract? backend) :
    PaysPlainly d backend account denom := by
  intro k hk
  rw [h] at hk
  exact plain k hk

/-- A backend that pays plainly is neither the account nor its ledger. -/
theorem PaysPlainly.ne {account : Address} {denom : String}
    (plain : PaysPlainly c a.config.backend account denom) (h : Joint c self a l) :
    self ≠ a.config.backend ∧ a.config.ledger ≠ a.config.backend := by
  constructor
  · intro heq
    obtain ⟨s, hs, -⟩ := plain (.account a) (by rw [← heq, h.account])
    cases hs
  · intro heq
    obtain ⟨s, hs, -⟩ := plain (.ledger l) (by rw [← heq, h.ledger])
    cases hs

theorem Reported.congr {backend account : Address} {value : Amount}
    (hr : Reported c backend account value) (h : d.contract? backend = c.contract? backend) :
    Reported d backend account value := by
  obtain ⟨s, hs, hreports⟩ := hr
  exact ⟨s, h.trans hs, hreports⟩

/-- Parameters that pass the check, as those of every new account do, still do after any
    transactions. -/
theorem risk_check_of_afterAll (h : Joint c self a l) (checked : a.risk.check = .ok ())
    (ts : List Transaction) :
    ∃ a' l', Joint (c.afterAll ts) self a' l' ∧ a'.risk.check = .ok () := by
  obtain ⟨⟨a', l', h', -, checked'⟩, -⟩ := h.afterAll_along
    (P := fun a _ => a.risk.check = .ok ()) (K := fun _ => True) (Q := fun _ => True)
    (fun _ effect _ _ checked => ⟨effect.risk_check checked, trivial⟩) rfl checked
    fun m (_ : m ∈ c.traceAll ts) => trivial
  exact ⟨a', l', h', checked'⟩

end Chain

end Stablecoin
