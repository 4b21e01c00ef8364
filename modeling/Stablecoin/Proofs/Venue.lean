import Stablecoin.Chain.Collaborator
import Stablecoin.Proofs.Rounding

set_option autoImplicit false

/-! # Venues that trade at a price

What a venue does is its own affair. `TradesAt` singles out those that pay for stablecoin and for
quote currency just what it is worth at a price, rounded down, and do nothing else at that. -/

namespace Stablecoin.Venue

variable {σ : Type} [Outside σ]

/-- A venue swaps the stablecoin of a ledger and a currency of the bank at a price. -/
structure TradesAt (s : σ) (ledger : Address) (denom : String) (price : Amount) : Prop where
  /-- For stablecoin that the ledger says has arrived it pays the seller. -/
  pays {env : Env} {seller : Address} {amount : Amount} {payload : List UInt8} {s' : σ}
    {r : Response} :
    Outside.execute s env ledger [] (receiveJson seller amount payload) = .ok (s', r) →
      ∃ paid : Amount, paid.toNat = amount.toNat * price.toNat / precision ∧
        r.outgoing = [{ action := .send seller [⟨denom, paid⟩] }]
  /-- For the currency it transfers stablecoin to the buyer. -/
  delivers {env : Env} {buyer : Address} {amount minAmountOut : Amount} {s' : σ} {r : Response} :
    Outside.execute s env buyer [⟨denom, amount⟩] (swapJson minAmountOut) = .ok (s', r) →
      ∃ bought : Amount, bought.toNat = amount.toNat * precision / price.toNat ∧
        r.outgoing = [{ action := .execute ledger (Ledger.transferJson buyer bought) [] }]

end Venue

namespace Collaborator

theorem tradesAt_venue (ledger : Address) (denom : String) (price : Amount) :
    Venue.TradesAt (Collaborator.venue ledger denom price) ledger denom price where
  pays h := by
    simp only [Outside.execute, execute, Venue.Message.ofJson?_receiveJson, mapError_eq_ok_iff,
      bind_eq_ok_iff, orMalformed_eq_ok_iff, Option.some.injEq] at h
    obtain ⟨_, rfl, r, htrade, h⟩ := h
    simp only [trade, bind_eq_ok_iff, quoteValue_eq_ok_iff, pure_eq_ok_iff] at htrade
    obtain ⟨paid, hpaid, rfl⟩ := htrade
    cases h
    exact ⟨paid, hpaid, rfl⟩
  delivers h := by
    simp only [Outside.execute, execute, Venue.Message.ofJson?_swapJson, mapError_eq_ok_iff,
      bind_eq_ok_iff, orMalformed_eq_ok_iff, Option.some.injEq] at h
    obtain ⟨_, rfl, r, htrade, h⟩ := h
    simp only [trade, bind_eq_ok_iff, stablecoinAmount_eq_ok_iff, pure_eq_ok_iff] at htrade
    obtain ⟨bought, ⟨-, hbought⟩, rfl⟩ := htrade
    cases h
    simp only [attached, List.find?_cons, decide_true] at hbought
    exact ⟨bought, hbought, rfl⟩

/-- A venue is the same after each message. -/
theorem eq_of_execute_venue {ledger : Address} {denom : String} {price : Amount} {env : Env}
    {sender : Address} {funds : List Coin} {message : Json} {s' : Collaborator} {r : Response}
    (h : Outside.execute (Collaborator.venue ledger denom price) env sender funds message
      = .ok (s', r)) : s' = .venue ledger denom price := by
  simp only [Outside.execute, execute, mapError_eq_ok_iff, bind_eq_ok_iff, pure_eq_ok_iff] at h
  obtain ⟨m, -, r', -, h⟩ := h
  cases h
  rfl

end Collaborator

end Stablecoin
