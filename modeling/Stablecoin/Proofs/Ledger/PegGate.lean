import Stablecoin.Proofs.Ledger.MintTable

set_option autoImplicit false

/-! # The peg gate

The gate compares the market price with the lower end of the band, which is rounded down. On prices,
which are whole numbers, that amounts to an exact inequality: the gate is open unless the market is
a full unit or more below the exact end of the band (`InBand`). What the gate does as prices and
spread move is read off the inequality (`InBand.widen`), and so is that it never shuts where the
market is taken to be on target (`InBand.of_target_le`). -/

namespace Stablecoin.Ledger

namespace InBand

variable {target spread market : Nat}

/-- A market price that is no lower, a spread that is no smaller and a target price that is no
    higher are in the band all the more. -/
theorem widen {target' spread' market' : Nat} (h : InBand target spread market)
    (htarget : target' ≤ target) (hspread : spread ≤ spread') (hmarket : market ≤ market') :
    InBand target' spread' market' :=
  calc target' * (precision - spread')
      ≤ target * (precision - spread) := Nat.mul_le_mul htarget (Nat.sub_le_sub_left hspread _)
    _ < (market + 1) * precision := h
    _ ≤ (market' + 1) * precision := Nat.mul_le_mul_right _ (Nat.succ_le_succ hmarket)

/-- A market on target is in the band, whatever the spread. -/
theorem of_target_le (h : target ≤ market) : InBand target spread market :=
  iff_le.2 (Nat.le_trans (part_le (Nat.sub_le _ _) target) h)

end InBand

namespace Config

variable {c : Config} {env : Env}

theorem marketPrice_of_venue {venue : Address} (hvenue : c.venue = some venue) :
    c.marketPrice env = Venue.askPrice env.querier venue := by
  rw [marketPrice, hvenue]

theorem marketPrice_of_none (hvenue : c.venue = none) :
    c.marketPrice env = c.targetPrice env.now := by
  rw [marketPrice, hvenue]

end Config

variable {l : Ledger} {env : Env}

/-- Whoever asks a ledger that can be reached is told whether the market price is in the band. -/
theorem Reachable.query_isMintAllowed (h : l.Reachable) {target market : Amount}
    (htarget : l.config.targetPrice env.now = .ok target)
    (hmarket : l.config.marketPrice env = .ok market) :
    l.query env .isMintAllowed = .ok (.bool (decide
      (InBand target.toNat l.config.arbSpread.toNat market.toNat))) := by
  refine Ledger.query_isMintAllowed ?_
  rw [h.usable.mintAllowed_eq htarget, hmarket]
  rfl

/-- In every state the gate of a ledger is exact up to one unit of the price that the venue quotes.
    It lets every market price pass that is not below the exact band and none that is a full unit or
    more below it, and what is let pass still is with a market price no lower, a spread no smaller
    and a target price no higher. Without a venue the gate is always open. -/
theorem peg_gate_exact (h : l.Reachable) (env : Env) :
    l.config.arbSpread.toNat ≤ precision ∧
    ∃ target, l.config.targetPrice env.now = .ok target ∧
      (l.config.venue = none → l.query env .isMintAllowed = .ok (.bool true)) ∧
      ∀ venue market, l.config.venue = some venue →
        Venue.askPrice env.querier venue = .ok market →
        ∃ allowed, l.query env .isMintAllowed = .ok (.bool allowed) ∧
          (allowed = true ↔ target.toNat * (precision - l.config.arbSpread.toNat)
            < (market.toNat + 1) * precision) ∧
          (target.toNat * (precision - l.config.arbSpread.toNat) ≤ market.toNat * precision →
            allowed = true) ∧
          ((market.toNat + 1) * precision
              ≤ target.toNat * (precision - l.config.arbSpread.toNat) → allowed = false) ∧
          (allowed = true → ∀ (l' : Ledger) (env' : Env) venue' market' target', l'.Reachable →
            l'.config.venue = some venue' → Venue.askPrice env'.querier venue' = .ok market' →
            l'.config.targetPrice env'.now = .ok target' → market ≤ market' →
            l.config.arbSpread ≤ l'.config.arbSpread → target' ≤ target →
            l'.query env' .isMintAllowed = .ok (.bool true)) := by
  refine ⟨h.usable.spread, ?_⟩
  obtain ⟨target, htarget, -⟩ := h.usable.exists_targetPrice env.now
  refine ⟨target, htarget, ?unlisted, ?listed⟩
  case unlisted =>
    intro hvenue
    rw [h.query_isMintAllowed htarget ((Config.marketPrice_of_none hvenue).trans htarget),
      decide_eq_true (InBand.of_target_le (Nat.le_refl _))]
  case listed =>
    intro venue market hvenue hmarket
    have hgate := h.query_isMintAllowed htarget
      ((Config.marketPrice_of_venue hvenue).trans hmarket)
    refine ⟨_, hgate, decide_eq_true_iff, ?passes, ?shut, ?stays⟩
    case passes =>
      intro habove
      rw [decide_eq_true_iff, InBand, Nat.add_mul]
      have := precision_pos
      omega
    case shut =>
      intro hbelow
      exact decide_eq_false (Nat.not_lt_of_le hbelow)
    case stays =>
      intro hopen l' env' venue' market' target' h' hvenue' hmarket' htarget' hle hspread hfalls
      have hwide := (decide_eq_true_iff.1 hopen).widen hfalls (UInt32.le_iff_toNat_le.1 hspread) hle
      rw [h'.query_isMintAllowed htarget' ((Config.marketPrice_of_venue hvenue').trans hmarket'),
        decide_eq_true hwide]

/-- A spread of a tenth, where there was none before. -/
def spreadRun : List Invocation :=
  [⟨aloneEnv, "owner", .setArbSpread 100000⟩]

/-- The band under a target price of 1000005 ends at 900004.5, and so lets 900004 pass and not
    900003. Without a spread a market on target passes, and then it passes with the spread too. -/
theorem peg_gate_exact_of_spreadRun :
    ∃ l l' : Ledger, l.Reachable ∧ l'.Reachable ∧ l'.config.arbSpread = 100000 ∧
      l.query (pricedEnv (.ofNat 1000005)) .isMintAllowed = .ok (.bool true) ∧
      l'.query (pricedEnv (.ofNat 1000005)) .isMintAllowed = .ok (.bool true) ∧
      l'.query (pricedEnv (.ofNat 900004)) .isMintAllowed = .ok (.bool true) ∧
      l'.query (pricedEnv (.ofNat 900003)) .isMintAllowed = .ok (.bool false) := by
  have hruns : ∃ l l' : Ledger, l.Reachable ∧ l'.Reachable ∧ l.config.venue = some "venue" ∧
      l'.config.venue = some "venue" ∧ l.config.arbSpread = 0 ∧ l'.config.arbSpread = 100000 ∧
      l.config.targetPrice 0 = .ok (.ofNat 1000005) ∧
      l'.config.targetPrice 0 = .ok (.ofNat 1000005) :=
    ⟨_, _, ⟨aloneEnv, "owner",
        { plainSetup with targetPrice := some (.ofNat 1000005), venue := some "venue" }, _, _, [],
        rfl, rfl⟩,
      ⟨aloneEnv, "owner",
        { plainSetup with targetPrice := some (.ofNat 1000005), venue := some "venue" }, _, _,
        spreadRun, rfl, rfl⟩, rfl, rfl, rfl, rfl, rfl, rfl⟩
  obtain ⟨l, l', hl, hl', hvenue, hvenue', hspread, hspread', htarget, htarget'⟩ := hruns
  have quoted (price : Amount) : Venue.askPrice (pricedEnv price).querier "venue" = .ok price :=
    orMalformed_eq_ok_iff.2 (Venue.priceAnswer?_priceAnswer price)
  obtain ⟨-, target, hprice, -, hgate⟩ := peg_gate_exact hl (pricedEnv (.ofNat 1000005))
  obtain rfl : Amount.ofNat 1000005 = target := Except.ok.inj (htarget.symm.trans hprice)
  obtain ⟨allowed, hanswer, -, hpasses, -, hstays⟩ := hgate "venue" _ hvenue (quoted _)
  obtain rfl := hpasses (by rw [hspread]; decide)
  have hwide := hstays rfl l' (pricedEnv (.ofNat 1000005)) "venue" (.ofNat 1000005) (.ofNat 1000005)
    hl' hvenue' (quoted _) htarget' (by decide) (by rw [hspread, hspread']; decide) (by decide)
  obtain ⟨-, target, hprice, -, hgate⟩ := peg_gate_exact hl' (pricedEnv (.ofNat 900004))
  obtain rfl : Amount.ofNat 1000005 = target := Except.ok.inj (htarget'.symm.trans hprice)
  obtain ⟨above, habove, hiff, -⟩ := hgate "venue" _ hvenue' (quoted _)
  obtain rfl := hiff.2 (by rw [hspread']; decide)
  obtain ⟨-, target, hprice, -, hgate⟩ := peg_gate_exact hl' (pricedEnv (.ofNat 900003))
  obtain rfl : Amount.ofNat 1000005 = target := Except.ok.inj (htarget'.symm.trans hprice)
  obtain ⟨below, hbelow, -, -, hshut, -⟩ := hgate "venue" _ hvenue' (quoted _)
  obtain rfl := hshut (by rw [hspread']; decide)
  exact ⟨l, l', hl, hl', hspread', hanswer, hwide, habove, hbelow⟩

end Stablecoin.Ledger
