import Mathlib.Algebra.GroupWithZero.Nat
import Stablecoin.Proofs.Account.Payout
import Stablecoin.Proofs.Account.Step

set_option autoImplicit false

/-! # The fee of an account

As long as neither debt nor rate changes, the fee is one `Segment.charge`: the fee of a year,
rounded down, times the share of a year, rounded down again. A `Tab` lists the segments since the
fee was last set to zero. `Billed` says that an account has on record what its tab comes to; every
message keeps it (`Step.billed`), so an account reports the sum of all charges
(`Billed.feeAt_eq_ok_iff`). What the two roundings leave out of a sum of charges is bounded by
`exactSum_lt`. -/

namespace Stablecoin.Account

/-! ## Segments -/

/-- A time, in seconds, during which an account owes the same at the same rate. -/
structure Segment where
  debt : Amount
  rate : Ratio
  length : Nat

/-- The fee for a segment. -/
def Segment.charge (s : Segment) : Nat :=
  s.debt.toNat * s.rate.toNat / precision * s.length / secondsPerYear

/-- The fee before any rounding, in units of `1 / (precision * secondsPerYear)`. -/
def Segment.exact (s : Segment) : Nat :=
  s.debt.toNat * s.rate.toNat * s.length

/-- What segments are charged together. -/
def chargeSum (ss : List Segment) : Nat := (ss.map Segment.charge).sum

/-- What they would be charged without rounding. -/
def exactSum (ss : List Segment) : Nat := (ss.map Segment.exact).sum

/-- How long they are together. -/
def lengthSum (ss : List Segment) : Nat := (ss.map Segment.length).sum

theorem chargeSum_concat (ss : List Segment) (s : Segment) :
    chargeSum (ss ++ [s]) = chargeSum ss + s.charge := by
  simp [chargeSum]

theorem lengthSum_concat (ss : List Segment) (s : Segment) :
    lengthSum (ss ++ [s]) = lengthSum ss + s.length := by
  simp [lengthSum]

@[simp] theorem Segment.charge_of_length_zero (debt : Amount) (rate : Ratio) :
    (Segment.mk debt rate 0).charge = 0 := by
  simp [charge]

/-! ## Rounding -/

theorem Segment.charge_mul_le (s : Segment) :
    s.charge * (precision * secondsPerYear) ≤ s.exact := by
  have hyear := Nat.div_mul_le_self (s.debt.toNat * s.rate.toNat) precision
  have hshare := Nat.div_mul_le_self (s.debt.toNat * s.rate.toNat / precision * s.length)
    secondsPerYear
  calc s.charge * (precision * secondsPerYear)
      = s.charge * secondsPerYear * precision := by
        rw [Nat.mul_comm precision, Nat.mul_assoc]
    _ ≤ s.debt.toNat * s.rate.toNat / precision * s.length * precision :=
        Nat.mul_le_mul_right _ hshare
    _ = s.debt.toNat * s.rate.toNat / precision * precision * s.length := by
        rw [Nat.mul_right_comm]
    _ ≤ s.exact := Nat.mul_le_mul_right _ hyear

/-- Rounding takes less than one unit, and less than one unit for each year. -/
theorem Segment.exact_lt (s : Segment) :
    s.exact < s.charge * (precision * secondsPerYear) + precision * secondsPerYear
      + s.length * precision := by
  have hyear : s.debt.toNat * s.rate.toNat
      ≤ s.debt.toNat * s.rate.toNat / precision * precision + precision := by
    have := Nat.lt_div_mul_add (a := s.debt.toNat * s.rate.toNat) precision_pos
    omega
  have hshare := Nat.lt_div_mul_add (a := s.debt.toNat * s.rate.toNat / precision * s.length)
    (show 0 < secondsPerYear by decide)
  calc s.exact
      ≤ (s.debt.toNat * s.rate.toNat / precision * precision + precision) * s.length :=
        Nat.mul_le_mul_right _ hyear
    _ = s.debt.toNat * s.rate.toNat / precision * s.length * precision + s.length * precision := by
        rw [Nat.add_mul, Nat.mul_right_comm, Nat.mul_comm precision s.length]
    _ < (s.charge * secondsPerYear + secondsPerYear) * precision + s.length * precision :=
        Nat.add_lt_add_right (Nat.mul_lt_mul_of_pos_right hshare precision_pos) _
    _ = s.charge * (precision * secondsPerYear) + precision * secondsPerYear
        + s.length * precision := by
        rw [Nat.add_mul, Nat.mul_assoc, Nat.mul_comm secondsPerYear]

/-- No sum of charges exceeds the exact fee. -/
theorem chargeSum_mul_le (ss : List Segment) :
    chargeSum ss * (precision * secondsPerYear) ≤ exactSum ss := by
  induction ss with
  | nil => simp [chargeSum]
  | cons s rest ih =>
    have hs := s.charge_mul_le
    simp only [chargeSum, exactSum, List.map_cons, List.sum_cons] at ih ⊢
    rw [Nat.add_mul]
    omega

theorem exactSum_add_length_le (ss : List Segment) :
    exactSum ss + ss.length ≤ chargeSum ss * (precision * secondsPerYear)
      + ss.length * (precision * secondsPerYear) + lengthSum ss * precision := by
  induction ss with
  | nil => simp [exactSum]
  | cons s rest ih =>
    have hs := s.exact_lt
    simp only [chargeSum, exactSum, lengthSum, List.map_cons, List.sum_cons, List.length_cons,
      Nat.add_mul, Nat.one_mul] at ih ⊢
    omega

/-- A sum of charges falls short of the exact fee by less than one unit for each segment and one for
    each year. -/
theorem exactSum_lt {ss : List Segment} (h : ss ≠ []) :
    exactSum ss < chargeSum ss * (precision * secondsPerYear)
      + ss.length * (precision * secondsPerYear) + lengthSum ss * precision := by
  have hle := exactSum_add_length_le ss
  have hpos := List.length_pos_iff.2 h
  omega

/-! ## The fee as a number -/

theorem spreadFee_le_of_check {r : RiskConfig} (h : r.check = .ok ()) :
    r.spreadFee.toNat ≤ precision := by
  simp only [RiskConfig.check, requireRatio, bind_eq_ok_iff, require_eq_ok_iff, exists_const] at h
  exact h.2.1

/-- A rate of at most one never makes the fee of a year too large to be reckoned with. -/
theorem annualFee_eq_ok_iff {principal fee : Amount} {rate : Ratio} {seconds : Nat}
    (bounded : rate.toNat ≤ precision) :
    annualFee principal rate.toNat seconds = .ok fee
      ↔ fee.toNat = (Segment.mk principal rate seconds).charge := by
  simp only [annualFee, bind_eq_ok_iff, applyRatio_eq_ok_iff, mulDiv_eq_ok_iff, Segment.charge]
  constructor
  · rintro ⟨yearly, hyearly, -, hfee⟩
    rw [hfee, hyearly]
  · intro hfee
    have hle : principal.toNat * rate.toNat / precision ≤ principal.toNat := part_le bounded _
    exact ⟨⟨_, Nat.lt_of_le_of_lt hle principal.isLt⟩, rfl, by decide, hfee⟩

theorem Position.feeAt_eq_ok_iff {p : Position} {rate : Ratio} {now : Seconds} {fee : Amount}
    (bounded : rate.toNat ≤ precision) :
    p.feeAt rate now = .ok fee ↔ fee.toNat = p.accruedFee.toNat
      + (Segment.mk p.borrowed rate (now.toNat - p.checkpoint.toNat)).charge := by
  simp only [feeAt, bind_eq_ok_iff, mapError_eq_ok_iff, Amount.checkedAdd_eq_ok_iff,
    annualFee_eq_ok_iff bounded]
  constructor
  · rintro ⟨pending, hpending, hfee⟩
    rw [hfee, hpending]
  · intro hfee
    have hlt := fee.isLt
    exact ⟨⟨_, Nat.lt_of_le_of_lt (Nat.le_add_left _ _) (hfee ▸ hlt)⟩, rfl, hfee⟩

/-! ## Tabs -/

/-- What is to be charged to an account: the segments that have ended since the fee was last set to
    zero, and the debt and the rate of the one that goes on. -/
structure Tab where
  /-- When the fee was last set to zero. -/
  reset : Seconds
  closed : List Segment
  debt : Amount
  rate : Ratio
  /-- When the segment began that goes on. -/
  since : Seconds

namespace Tab

/-- A tab without anything to charge yet. -/
def opened (a : Account) (now : Seconds) : Tab where
  reset := now
  closed := []
  debt := a.position.borrowed
  rate := a.risk.spreadFee
  since := now

/-- All segments up to a time. -/
def segments (t : Tab) (now : Seconds) : List Segment :=
  t.closed ++ [⟨t.debt, t.rate, now.toNat - t.since.toNat⟩]

/-- The segment that goes on ends, and another begins. -/
def cut (t : Tab) (a : Account) (now : Seconds) : Tab where
  reset := t.reset
  closed := t.segments now
  debt := a.position.borrowed
  rate := a.risk.spreadFee
  since := now

theorem segments_ne_nil (t : Tab) (now : Seconds) : t.segments now ≠ [] := by
  simp [segments]

end Tab

/-- The message pays the fee or forfeits it. -/
def Message.settlesFee : Message → Bool
  | .payFee | .liquidate => true
  | _ => false

/-- The message changes the debt or the rate, and lets the fee go on. -/
def Message.cutsFee : Message → Bool
  | .borrow _ | .autoInvest _ _ | .repay _ | .configure _ => true
  | _ => false

/-- The tab after a message that has led to an account. -/
def Tab.after (t : Tab) (m : Message) (a : Account) (now : Seconds) : Tab :=
  if m.settlesFee then .opened a now else if m.cutsFee then t.cut a now else t

/-! ## What messages do to the fee -/

variable {a a' : Account} {env : Env} {sender : Address} {m : Message} {out : List Outgoing}
  {t : Tab}

/-- A message that settles the fee sets it to zero. -/
theorem Step.of_settlesFee (h : Step a env sender m a' out) (hm : m.settlesFee = true) :
    a'.position.accruedFee = 0 ∧ a'.position.checkpoint = env.now := by
  cases h with
  | payFee => exact ⟨rfl, rfl⟩
  | liquidate => exact ⟨rfl, rfl⟩
  | _ => cases hm

/-- A message that changes debt or rate puts the fee so far on record. -/
theorem Step.of_cutsFee (h : Step a env sender m a' out) (hm : m.cutsFee = true) :
    a.position.feeAt a.risk.spreadFee env.now = .ok a'.position.accruedFee ∧
      a'.position.checkpoint = env.now := by
  cases h with
  | configure authorized bounded fee => exact ⟨fee, rfl⟩
  | borrow authorized active positive drawn capped fee => exact ⟨fee, rfl⟩
  | repay authorized positive repaid held enough fee => exact ⟨fee, rfl⟩
  | autoInvest asked authorized active bounded enabled least valued measured healthy positive drawn
      capped fee => exact ⟨fee, rfl⟩
  | _ => cases hm

/-- Two accounts owe the same at the same rate, and have the same fee on record. -/
structure SameFee (a a' : Account) : Prop where
  borrowed : a'.position.borrowed = a.position.borrowed
  accruedFee : a'.position.accruedFee = a.position.accruedFee
  checkpoint : a'.position.checkpoint = a.position.checkpoint
  risk : a'.risk = a.risk

/-- Any other message, and any reply, leaves the fee alone. -/
theorem Step.sameFee (h : Step a env sender m a' out) (hsettles : m.settlesFee = false)
    (hcuts : m.cutsFee = false) : SameFee a a' := by
  cases h with
  | payFee => cases hsettles
  | liquidate => cases hsettles
  | configure => cases hcuts
  | borrow => cases hcuts
  | repay => cases hcuts
  | autoInvest => cases hcuts
  | _ => exact ⟨rfl, rfl, rfl, rfl⟩

theorem Hears.sameFee {id : Nat} (h : Hears a env id a' out) : SameFee a a' := by
  cases h <;> exact ⟨rfl, rfl, rfl, rfl⟩

/-- The fee that is on record at a change of debt or rate is what is reported before it and after
    it. -/
theorem Step.feeAt_of_cutsFee (h : Step a env sender m a' out) (checked : a.risk.check = .ok ())
    (hm : m.cutsFee = true) : ∃ fee, a.position.feeAt a.risk.spreadFee env.now = .ok fee ∧
      a'.position.feeAt a'.risk.spreadFee env.now = .ok fee := by
  obtain ⟨hfee, hcheckpoint⟩ := h.of_cutsFee hm
  refine ⟨_, hfee, (Position.feeAt_eq_ok_iff (spreadFee_le_of_check (h.risk_check checked))).2 ?_⟩
  rw [hcheckpoint, Nat.sub_self, Segment.charge_of_length_zero, Nat.add_zero]

/-! ## Accounts and their tabs -/

/-- What an account has on record is what its tab comes to. -/
structure Billed (a : Account) (t : Tab) : Prop where
  debt : a.position.borrowed = t.debt
  rate : a.risk.spreadFee = t.rate
  since : a.position.checkpoint = t.since
  fee : a.position.accruedFee.toNat = chargeSum t.closed
  /-- The segments that have ended fill the time since the fee was set to zero. -/
  elapsed : t.reset.toNat + lengthSum t.closed = t.since.toNat
  checked : a.risk.check = .ok ()

namespace Billed

theorem opened {now : Seconds} (hfee : a.position.accruedFee = 0)
    (hcheckpoint : a.position.checkpoint = now) (checked : a.risk.check = .ok ()) :
    Billed a (.opened a now) :=
  ⟨rfl, rfl, hcheckpoint, by rw [hfee]; rfl, rfl, checked⟩

theorem congr (h : Billed a t) (hsame : SameFee a a') : Billed a' t :=
  ⟨hsame.borrowed ▸ h.debt, hsame.risk ▸ h.rate, hsame.checkpoint ▸ h.since,
    hsame.accruedFee ▸ h.fee, h.elapsed, hsame.risk ▸ h.checked⟩

/-- The fee that an account reports is the sum of all charges. -/
theorem feeAt_eq_ok_iff (h : Billed a t) {now : Seconds} {fee : Amount} :
    a.position.feeAt a.risk.spreadFee now = .ok fee ↔ fee.toNat = chargeSum (t.segments now) := by
  rw [Position.feeAt_eq_ok_iff (spreadFee_le_of_check h.checked), Tab.segments, chargeSum_concat,
    h.fee, h.debt, h.rate, h.since]

/-- The segments fill the time since the fee was set to zero. -/
theorem lengthSum_segments (h : Billed a t) {now : Seconds} (later : t.since ≤ now) :
    t.reset.toNat + lengthSum (t.segments now) = now.toNat := by
  have helapsed := h.elapsed
  rw [UInt64.le_iff_toNat_le] at later
  rw [Tab.segments, lengthSum_concat]
  simp only
  omega

theorem cut (h : Billed a t) {now : Seconds} (later : t.since ≤ now)
    (hfee : a.position.feeAt a.risk.spreadFee now = .ok a'.position.accruedFee)
    (hcheckpoint : a'.position.checkpoint = now) (checked : a'.risk.check = .ok ()) :
    Billed a' (t.cut a' now) :=
  ⟨rfl, rfl, hcheckpoint, h.feeAt_eq_ok_iff.1 hfee, h.lengthSum_segments later, checked⟩

end Billed

/-- Every message keeps account and tab in agreement. -/
theorem Step.billed (h : Step a env sender m a' out) (hb : Billed a t)
    (later : t.since ≤ env.now) : Billed a' (t.after m a' env.now) := by
  have checked := h.risk_check hb.checked
  unfold Tab.after
  by_cases hsettles : m.settlesFee = true
  · obtain ⟨hfee, hcheckpoint⟩ := h.of_settlesFee hsettles
    rw [if_pos hsettles]
    exact .opened hfee hcheckpoint checked
  · rw [if_neg hsettles]
    by_cases hcuts : m.cutsFee = true
    · obtain ⟨hfee, hcheckpoint⟩ := h.of_cutsFee hcuts
      rw [if_pos hcuts]
      exact hb.cut later hfee hcheckpoint checked
    · rw [if_neg hcuts]
      exact hb.congr (h.sameFee (Bool.eq_false_iff.2 hsettles) (Bool.eq_false_iff.2 hcuts))

theorem Tab.since_after_le {now : Seconds} (later : t.since ≤ now) :
    (t.after m a' now).since ≤ now := by
  unfold after
  split
  · exact UInt64.le_refl _
  · split
    · exact UInt64.le_refl _
    · exact later

theorem billed_of_setUp {s : Setup} {r : Response} (h : setUp env s = .ok (a, r)) :
    Billed a (.opened a env.now) := by
  have checked := risk_check_of_setUp h
  simp only [setUp, bind_eq_ok_iff] at h
  obtain ⟨ledger, -, borrower, -, backend, -, venue, -, -, -, h⟩ := h
  cases h
  exact .opened rfl rfl checked

end Stablecoin.Account
