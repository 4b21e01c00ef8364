import Stablecoin.Ledger.Query
import Stablecoin.Proofs.Faults
import Stablecoin.Proofs.Ledger.Sound

set_option autoImplicit false

/-! # Prices can always be told

The target price is worked out without a check of its own: a crawl takes a part of the distance
between its anchors, and the peg gate takes the spread off a whole. Neither slips: a crawl has a
price at every time (`exists_targetPriceAt`), and every ledger keeps a spread of at most one and no
anchor at zero (`Config.Usable`). What is asked about prices then fails for reasons of its own only:
a value that is no amount, or a venue that does not answer. -/

namespace Stablecoin.Ledger

/-! ## What every ledger keeps -/

/-- The anchors and the spread are such that prices can be worked out. -/
structure Config.Usable (c : Config) : Prop where
  current : c.currentPrice ≠ 0
  next : c.nextPrice ≠ 0
  spread : c.arbSpread.toNat ≤ precision

variable {l l' : Ledger} {env : Env} {sender : Address} {m : Message} {out : List Outgoing}

/-- No step makes a spread of more than one. -/
theorem Step.spread_le (h : Step l env sender m l' out)
    (hl : l.config.arbSpread.toNat ≤ precision) : l'.config.arbSpread.toNat ≤ precision := by
  cases h with
  | configure step =>
    cases step with
    | setArbSpread governs bounded => exact bounded
    | _ => exact hl
  | _ => exact hl

theorem Step.usable (h : Step l env sender m l' out) (hl : l.config.Usable) : l'.config.Usable where
  current := (h.anchors ⟨hl.current, hl.next⟩).1
  next := (h.anchors ⟨hl.current, hl.next⟩).2
  spread := h.spread_le hl.spread

theorem IsNew.usable (h : l.IsNew) : l.config.Usable where
  current := h.priced
  next := by
    rw [h.resting]
    exact h.priced
  spread := h.spread

theorem Reachable.usable (h : l.Reachable) : l.config.Usable :=
  h.induction (fun hsetUp => (isNew_of_setUp hsetUp).usable) fun hstep hl => hstep.usable hl

/-! ## The band -/

/-- The market price is less than a full unit below the band under the target price. -/
def InBand (target spread market : Nat) : Prop :=
  target * (precision - spread) < (market + 1) * precision

instance (target spread market : Nat) : Decidable (InBand target spread market) :=
  inferInstanceAs (Decidable (_ < _))

/-- It is what the comparison with the rounded end of the band decides. -/
theorem InBand.iff_le {target spread market : Nat} : InBand target spread market ↔
    target * (precision - spread) / precision ≤ market := by
  rw [InBand, ← Nat.div_lt_iff_lt_mul precision_pos, Nat.lt_succ_iff]

/-! ## What can be asked about prices -/

namespace Config

variable {c : Config} {f : Fault}

theorem Usable.exists_targetPrice (h : c.Usable) (now : Seconds) :
    ∃ price, c.targetPrice now = .ok price ∧ price ≠ 0 := by
  obtain ⟨price, hprice, -⟩ := exists_targetPriceAt c.currentPrice c.nextPrice c.periodStart.toNat
    c.periodLength.toNat now.toNat
  exact ⟨price, hprice, targetPriceAt_ne_zero h.current h.next hprice⟩

/-- The market price fails to be told only where the venue fails to tell it. -/
theorem Usable.marketPrice_eq_error_iff (h : c.Usable) :
    c.marketPrice env = .error f ↔
      ∃ venue ∈ c.venue, Venue.askPrice env.querier venue = .error f := by
  unfold marketPrice
  split
  · rename_i venue hvenue
    simp [hvenue]
  · rename_i hvenue
    obtain ⟨price, hprice, -⟩ := h.exists_targetPrice env.now
    simp [hvenue, hprice]

/-- The peg gate says whether the market price is in the band, as soon as the market price is
    told. -/
theorem Usable.mintAllowed_eq (h : c.Usable) {target : Amount}
    (htarget : c.targetPrice env.now = .ok target) :
    c.mintAllowed env = (fun market : Amount =>
      decide (InBand target.toNat c.arbSpread.toNat market.toNat)) <$> c.marketPrice env := by
  obtain ⟨floor, hfloor, -⟩ :=
    exists_mulDiv_le (a := target) (Nat.sub_le precision c.arbSpread.toNat) (by decide)
  have hcomplement : complement c.arbSpread = .ok (precision - c.arbSpread.toNat) :=
    complement_eq_ok_iff.2 ⟨h.spread, rfl⟩
  have hband : ∀ market : Amount,
      InBand target.toNat c.arbSpread.toNat market.toNat ↔ floor ≤ market := fun market => by
    rw [InBand.iff_le, ← applyRatio_eq_ok_iff.1 hfloor, Amount.le_iff]
  simp only [mintAllowed, htarget, hcomplement, applyRatio, hfloor, ok_bind, hband]
  rfl

/-- So the gate fails only where the venue fails to tell its price. -/
theorem Usable.mintAllowed_eq_error_iff (h : c.Usable) :
    c.mintAllowed env = .error f
      ↔ ∃ venue ∈ c.venue, Venue.askPrice env.querier venue = .error f := by
  obtain ⟨price, hprice, -⟩ := h.exists_targetPrice env.now
  rw [h.mintAllowed_eq hprice, fmap_eq_error_iff, h.marketPrice_eq_error_iff]

end Config

/-- The queries about prices, for a ledger whose target price is at hand. -/
theorem query_price {price : Amount} (hprice : l.config.targetPrice env.now = .ok price) :
    l.query env .targetPrice = .ok (.amount price) ∧
      (∀ x, l.query env (.quoteValue x) = .amount <$> Stablecoin.quoteValue x price) ∧
      ∀ x, l.query env (.stablecoinAmount x) = .amount <$> Stablecoin.stablecoinAmount x price := by
  simp only [query, hprice, ok_bind]
  exact ⟨rfl, fun _ => rfl, fun _ => rfl⟩

end Stablecoin.Ledger
