import Stablecoin.Chain.Collaborator
import Stablecoin.Proofs.Rounding

set_option autoImplicit false

/-! # Backends that pay plainly

What a backend does is its own affair. `PaysPlainly` singles out those that pay out in full what is
taken from them, do nothing else at that, and report that much less afterwards. `PaysBack` is for
those of which it only matters what they pay. -/

namespace Stablecoin.Backend

variable {σ : Type} [Outside σ]

/-- A contract from outside, asked from some point of view, reports a value for an account. -/
def Reports (s : σ) (env : Env) (account : Address) (value : Amount) : Prop :=
  ∃ answer, Outside.query s env (Query.assetValue account).toJson = .ok answer ∧
    Json.amount? answer = some value

/-- A backend pays an account plainly in a currency. -/
structure PaysPlainly (s : σ) (account : Address) (denom : String) : Prop where
  /-- What it reports does not depend on anything but the backend. -/
  steady {env env' : Env} {value : Amount} :
    Reports s env account value → Reports s env' account value
  pays {env : Env} {amount : Amount} {s' : σ} {r : Response} :
    Outside.execute s env account [] (Message.divest amount).toJson = .ok (s', r) →
      r.outgoing = [{ action := .send account [⟨denom, amount⟩] }]
  lowers {env env' : Env} {amount value : Amount} {s' : σ} {r : Response} :
    Outside.execute s env account [] (Message.divest amount).toJson = .ok (s', r) →
      Reports s env' account value → ∃ value', (∀ env', Reports s' env' account value') ∧
        value.toNat = value'.toNat + amount.toNat

/-- A backend pays an account back in full what is taken from it, and only keeps what it is
    given. -/
structure PaysBack (s : σ) (account : Address) (denom : String) : Prop where
  pays {env : Env} {amount : Amount} {s' : σ} {r : Response} :
    Outside.execute s env account [] (Message.divest amount).toJson = .ok (s', r) →
      r.outgoing = [{ action := .send account [⟨denom, amount⟩] }]
  keeps {env : Env} {funds : List Coin} {s' : σ} {r : Response} :
    Outside.execute s env account funds Message.invest.toJson = .ok (s', r) → r.outgoing = []

end Backend

namespace Collaborator

/-- A backend that pays back what it took in. -/
def fairBackend (denom : String) (deposits : Holdings Address) : Collaborator :=
  .backend denom (.ofNat precision) deposits

variable {denom : String} {deposits : Holdings Address} {env : Env} {account : Address}

theorem reports_fairBackend_iff {value : Amount} :
    Backend.Reports (fairBackend denom deposits) env account value
      ↔ value = deposits.get account := by
  have hquery : Outside.query (fairBackend denom deposits) env
      (Backend.Query.assetValue account).toJson = .ok (.amount (deposits.get account)) := by
    simp [Outside.query, fairBackend, query]
  simp only [Backend.Reports, hquery]
  constructor
  · rintro ⟨answer, hanswer, hvalue⟩
    cases hanswer
    rw [Json.amount?_amount] at hvalue
    exact (Option.some.inj hvalue).symm
  · rintro rfl
    exact ⟨_, rfl, Json.amount?_amount _⟩

theorem execute_fairBackend_divest {amount : Amount} {s' : Collaborator} {r : Response}
    (h : Outside.execute (fairBackend denom deposits) env account []
      (Backend.Message.divest amount).toJson = .ok (s', r)) :
    ∃ left : Amount, (deposits.get account).toNat = left.toNat + amount.toNat ∧
      s' = fairBackend denom (deposits.set account left) ∧
      r = acting (.send account [⟨denom, amount⟩]) := by
  simp only [Outside.execute, fairBackend, execute, Backend.Message.ofJson?_toJson,
    mapError_eq_ok_iff, bind_eq_ok_iff, orMalformed_eq_ok_iff, Option.some.injEq] at h
  obtain ⟨_, rfl, ⟨_, _⟩, hkeep, h⟩ := h
  simp only [keep, bind_eq_ok_iff, mapError_eq_ok_iff, Amount.checkedSub_eq_ok_iff,
    quoteValue_eq_ok_iff, pure_eq_ok_iff] at hkeep
  obtain ⟨left, hleft, paid, hpaid, hr⟩ := hkeep
  cases hr
  cases h
  rw [Amount.toNat_ofNat (by decide), Nat.mul_div_cancel _ precision_pos] at hpaid
  exact ⟨left, hleft, rfl, by rw [Amount.ext hpaid]⟩

theorem paysPlainly_fairBackend (denom : String) (deposits : Holdings Address)
    (account : Address) : Backend.PaysPlainly (fairBackend denom deposits) account denom where
  steady h := reports_fairBackend_iff.2 (reports_fairBackend_iff.1 h)
  pays h := by
    obtain ⟨left, -, -, rfl⟩ := execute_fairBackend_divest h
    rfl
  lowers h hreports := by
    obtain ⟨left, hleft, rfl, -⟩ := execute_fairBackend_divest h
    refine ⟨left, fun env' => reports_fairBackend_iff.2 (Holdings.get_set_self _ _ _).symm, ?_⟩
    rw [reports_fairBackend_iff.1 hreports, hleft]

theorem paysBack_fairBackend (denom : String) (deposits : Holdings Address) (account : Address) :
    Backend.PaysBack (fairBackend denom deposits) account denom where
  pays := (paysPlainly_fairBackend denom deposits account).pays
  keeps h := by
    simp only [Outside.execute, fairBackend, execute, Backend.Message.ofJson?_toJson,
      mapError_eq_ok_iff, bind_eq_ok_iff, orMalformed_eq_ok_iff, Option.some.injEq] at h
    obtain ⟨_, rfl, ⟨_, _⟩, hkeep, h⟩ := h
    simp only [keep, bind_eq_ok_iff, pure_eq_ok_iff] at hkeep
    obtain ⟨deposit, -, hr⟩ := hkeep
    cases hr
    cases h
    rfl

/-- After each message it still pays back what it took in. -/
theorem exists_of_execute_fairBackend {sender : Address} {funds : List Coin} {message : Json}
    {s' : Collaborator} {r : Response}
    (h : Outside.execute (fairBackend denom deposits) env sender funds message = .ok (s', r)) :
    ∃ deposits', s' = fairBackend denom deposits' := by
  simp only [Outside.execute, fairBackend, execute, mapError_eq_ok_iff, bind_eq_ok_iff,
    pure_eq_ok_iff] at h
  obtain ⟨m, -, ⟨deposits', r'⟩, -, h⟩ := h
  cases h
  exact ⟨deposits', rfl⟩

end Collaborator

end Stablecoin
