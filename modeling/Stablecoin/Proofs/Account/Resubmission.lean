import Stablecoin.Proofs.Account.Fee

set_option autoImplicit false

/-! # Accounts that differ in what is on record of the fee

Two accounts that report the same fee may have put different parts of it on record: the one up to an
earlier time than the other. Nothing but the fee depends on that (`execute_onRecord`,
`reply_onRecord`), and whatever reckons with the fee puts both on the same record
(`execute_eq_of_feeAt`). So the two stay as alike as they are (`TrailsAt.execute`).

The record is brought up to date when the parameters are set, even to what they are. As long as the
fee since the checkpoint is a whole amount, that changes no fee that is reported later; else it can
take away one unit (`feeOwed_onRecord`). -/

namespace Stablecoin.Account

variable {a a' : Account} {env : Env} {sender : Address} {m : Message} {fee : Amount}
  {now since : Seconds}

/-! ## The fee on record -/

/-- The account with a fee on record up to a time. -/
def onRecord (a : Account) (fee : Amount) (since : Seconds) : Account :=
  { a with position := { a.position with accruedFee := fee, checkpoint := since } }

/-- An account with that fee on record, and a response. -/
def recorded (fee : Amount) (since : Seconds) (x : Account × Response) : Account × Response :=
  (x.1.onRecord fee since, x.2)

/-- What neither settles the fee nor changes debt or rate does the same whatever is on record, and
    leaves it there. -/
theorem execute_onRecord (hsettles : m.settlesFee = false) (hcuts : m.cutsFee = false) :
    (a.onRecord fee since).execute env sender m
      = recorded fee since <$> a.execute env sender m := by
  cases m with
  | configure => cases hcuts
  | borrow => cases hcuts
  | repay => cases hcuts
  | autoInvest => cases hcuts
  | payFee => cases hsettles
  | liquidate => cases hsettles
  | invest =>
    simp only [execute, invest, map_bind, map_pure, apply_ite]
    rfl
  | divest amount slippage =>
    cases slippage with
    | none =>
      simp only [execute, divestFrom, map_bind, map_pure]
      rfl
    | some slippage =>
      simp only [execute, divestFrom, map_bind, map_pure]
      rfl
  | sell =>
    simp only [execute, sell, map_bind, map_pure]
    rfl
  | buy =>
    simp only [execute, buy, map_bind, map_pure]
    rfl
  | collect =>
    simp only [execute, collect, map_bind, map_pure]
    rfl
  | withdraw =>
    simp only [execute, withdraw, map_bind, map_pure]
    rfl
  | stateValue =>
    simp only [execute, stateValue, map_bind, map_pure]
    rfl
  | pause =>
    simp only [execute, setPaused, map_bind, map_pure]
    rfl
  | unpause =>
    simp only [execute, setPaused, map_bind, map_pure]
    rfl

/-- No reply depends on what is on record either. -/
theorem reply_onRecord (id : Nat) :
    (a.onRecord fee since).reply env id = recorded fee since <$> a.reply env id :=
  reply_revised (f := fun r => r) (p := fun p => { p with accruedFee := fee, checkpoint := since })
    (fun _ _ _ => rfl) id

/-- Whoever may set the parameters can set them to what they are, and only puts the fee on
    record. -/
theorem exists_resubmit (checked : a.risk.check = .ok ())
    (hfee : a.position.feeAt a.risk.spreadFee env.now = .ok fee) :
    ∃ r, a.execute env a.config.borrower (.configure a.risk)
      = .ok (a.onRecord fee env.now, r) ∧ r.outgoing = [] := by
  simp only [execute, configure, requireBorrower, checked, Position.checkpointAt, hfee, ok_bind]
  exact ⟨_, rfl, rfl⟩

section SameFeeReported

variable (hfee : (a.onRecord fee since).position.feeAt a.risk.spreadFee env.now
  = a.position.feeAt a.risk.spreadFee env.now)

include hfee

/-- What settles the fee or changes debt or rate leaves no trace of what was on record, as long as
    the fee is the same. -/
theorem execute_eq_of_feeAt (hm : m.settlesFee = true ∨ m.cutsFee = true) :
    (a.onRecord fee since).execute env sender m = a.execute env sender m := by
  have hrisk : (a.onRecord fee since).risk = a.risk := rfl
  have hcheckpoint : (a.onRecord fee since).position.checkpointAt a.risk.spreadFee env.now
      = a.position.checkpointAt a.risk.spreadFee env.now := by
    unfold Position.checkpointAt
    rw [hfee]
    rfl
  cases m with
  | configure =>
    simp only [execute, configure, hrisk, hcheckpoint]
    rfl
  | borrow =>
    simp only [execute, borrow, increaseDebt, hrisk, hcheckpoint]
    rfl
  | repay =>
    simp only [execute, repay, hrisk, hcheckpoint]
    rfl
  | autoInvest =>
    simp only [execute, autoInvest, increaseDebt, hrisk, hcheckpoint]
    rfl
  | payFee =>
    simp only [execute, payFee, hrisk, hfee]
    rfl
  | liquidate => rfl
  | _ => rcases hm with hm | hm <;> cases hm

/-- Queries see no more of the record than the fee. -/
theorem query_eq_of_feeAt (q : Query) : (a.onRecord fee since).query env q = a.query env q := by
  have hrisk : (a.onRecord fee since).risk = a.risk := rfl
  cases q with
  | position =>
    simp only [query, positionAnswer, hrisk, hfee]
    rfl
  | debt =>
    simp only [query, totalDebt, hrisk, hfee]
    rfl
  | _ => rfl

end SameFeeReported

/-! ## The fee that is owed -/

/-- What an account would pay for a year. -/
def yearlyFee (a : Account) : Nat :=
  a.position.borrowed.toNat * a.risk.spreadFee.toNat / precision

/-- The fee at a time, as a number, in range or not. -/
def feeOwed (a : Account) (now : Nat) : Nat :=
  a.position.accruedFee.toNat
    + a.yearlyFee * (now - a.position.checkpoint.toNat) / secondsPerYear

theorem feeAt_eq_ok_iff_feeOwed (checked : a.risk.check = .ok ()) :
    a.position.feeAt a.risk.spreadFee now = .ok fee ↔ fee.toNat = a.feeOwed now.toNat :=
  Position.feeAt_eq_ok_iff (spreadFee_le_of_check checked)

theorem feeOwed_mono {n n' : Nat} (h : n ≤ n') : a.feeOwed n ≤ a.feeOwed n' :=
  Nat.add_le_add_left (Nat.div_le_div_right (Nat.mul_le_mul_left _ (Nat.sub_le_sub_right h _))) _

/-- Nothing else counts. -/
theorem feeOwed_congr {b : Account} {n : Nat} (same : SameFee a b) : b.feeOwed n = a.feeOwed n := by
  simp only [feeOwed, yearlyFee, same.borrowed, same.accruedFee, same.checkpoint, same.risk]

/-- The fee since the checkpoint is a whole amount. -/
def WholeFee (a : Account) (now : Nat) : Prop :=
  secondsPerYear ∣ a.yearlyFee * (now - a.position.checkpoint.toNat)

instance (a : Account) (now : Nat) : Decidable (a.WholeFee now) :=
  inferInstanceAs (Decidable (_ ∣ _))

/-- The unit of the fee at a later time, if any, that is lost when the fee is put on record before:
    the fractions of the fee up to then and from then on would have made up a whole. -/
def feeLost (a : Account) (recordedAt later : Nat) : Nat :=
  if secondsPerYear ≤ a.yearlyFee * (recordedAt - a.position.checkpoint.toNat) % secondsPerYear
    + a.yearlyFee * (later - recordedAt) % secondsPerYear then 1 else 0

theorem feeLost_eq_zero {n n' : Nat} (h : a.WholeFee n) : a.feeLost n n' = 0 := by
  have hpos : 0 < secondsPerYear := by decide
  have hlt := Nat.mod_lt (a.yearlyFee * (n' - n)) hpos
  unfold feeLost
  rw [Nat.mod_eq_zero_of_dvd h, Nat.zero_add, if_neg (Nat.not_le.2 hlt)]

/-- Putting the fee on record changes what is owed later by no more than that. -/
theorem feeOwed_onRecord {n : Nat} (hfee : fee.toNat = a.feeOwed now.toNat)
    (earlier : a.position.checkpoint.toNat ≤ now.toNat) (later : now.toNat ≤ n) :
    a.feeOwed n = (a.onRecord fee now).feeOwed n + a.feeLost now.toNat n := by
  have hpos : 0 < secondsPerYear := by decide
  have hsplit : n - a.position.checkpoint.toNat
      = (now.toNat - a.position.checkpoint.toNat) + (n - now.toNat) := by omega
  have hcharge := Nat.add_div (a := a.yearlyFee * (now.toNat - a.position.checkpoint.toNat))
    (b := a.yearlyFee * (n - now.toNat)) hpos
  rw [← Nat.mul_add, ← hsplit] at hcharge
  show _ + a.yearlyFee * (n - a.position.checkpoint.toNat) / secondsPerYear
    = fee.toNat + a.yearlyFee * (n - now.toNat) / secondsPerYear + _
  rw [hcharge, hfee, feeLost, feeOwed]
  omega

/-- The debt that an account reports. -/
theorem query_debt_eq_ok_iff {d : Amount} (checked : a.risk.check = .ok ()) :
    a.query env .debt = .ok (.amount d)
      ↔ d.toNat = a.position.borrowed.toNat + a.feeOwed env.now.toNat := by
  simp only [query, totalDebt, bind_eq_ok_iff, pure_eq_ok_iff, mapError_eq_ok_iff,
    Amount.checkedAdd_eq_ok_iff, feeAt_eq_ok_iff_feeOwed checked]
  constructor
  · rintro ⟨d', ⟨fee, hfee, hd'⟩, hanswer⟩
    have hsame := congrArg Json.amount? hanswer
    rw [Json.amount?_amount, Json.amount?_amount] at hsame
    cases hsame
    rw [hd', hfee]
  · intro hd
    have hlt := d.isLt
    exact ⟨d, ⟨⟨a.feeOwed env.now.toNat, by omega⟩, rfl, hd⟩, rfl⟩

/-! ## Accounts that trail others -/

/-- The second account is the first but for what is on record, and owes the same fee at every time
    from its own checkpoint on. -/
structure Trails (a a' : Account) : Prop where
  record : a' = a.onRecord a'.position.accruedFee a'.position.checkpoint
  checked : a.risk.check = .ok ()
  same {n : Nat} : a'.position.checkpoint.toNat ≤ n → a'.feeOwed n = a.feeOwed n

theorem Trails.refl (checked : a.risk.check = .ok ()) : Trails a a :=
  ⟨rfl, checked, fun _ => rfl⟩

/-- It still is when a whole fee is put on its record. -/
theorem Trails.onRecord (h : Trails a a') (later : a'.position.checkpoint ≤ now)
    (hfee : a'.position.feeAt a'.risk.spreadFee now = .ok fee) (whole : a'.WholeFee now.toNat) :
    Trails a (a'.onRecord fee now) := by
  have hchecked : a'.risk.check = .ok () := by
    rw [h.record]
    exact h.checked
  refine ⟨?_, h.checked, fun {n} hn => ?_⟩
  · rw [h.record]
    rfl
  · have hlater : a'.position.checkpoint.toNat ≤ now.toNat := UInt64.le_iff_toNat_le.1 later
    have howed := feeOwed_onRecord ((feeAt_eq_ok_iff_feeOwed hchecked).1 hfee) hlater hn
    rw [feeLost_eq_zero whole, Nat.add_zero] at howed
    rw [← howed, h.same (Nat.le_trans hlater hn)]

/-- And the time has come when the two report the same fee. -/
structure TrailsAt (now : Seconds) (a a' : Account) : Prop extends Trails a a' where
  later : a'.position.checkpoint ≤ now
  reckonable : ∃ fee, a.position.feeAt a.risk.spreadFee now = .ok fee

namespace TrailsAt

theorem feeAt_eq (h : TrailsAt now a a') : a'.position.feeAt a.risk.spreadFee now
    = a.position.feeAt a.risk.spreadFee now := by
  obtain ⟨fee, hfee⟩ := h.reckonable
  have hrisk : a'.risk = a.risk := by rw [h.record]; rfl
  have hchecked : a'.risk.check = .ok () := by rw [hrisk]; exact h.checked
  have howed := h.same (UInt64.le_iff_toNat_le.1 h.later)
  rw [← (feeAt_eq_ok_iff_feeOwed h.checked).1 hfee] at howed
  have hfee' := (feeAt_eq_ok_iff_feeOwed hchecked).2 howed.symm
  rw [hrisk] at hfee'
  rw [hfee, hfee']

/-- An account that has just been put on record is as it should be, and trails itself. -/
theorem refl_of_checkpoint (checked : a.risk.check = .ok ())
    (hcheckpoint : a.position.checkpoint = now) :
    TrailsAt now a a := by
  refine ⟨.refl checked, by rw [hcheckpoint]; exact UInt64.le_refl _, a.position.accruedFee, ?_⟩
  rw [feeAt_eq_ok_iff_feeOwed checked, feeOwed, hcheckpoint, Nat.sub_self, Nat.mul_zero,
    Nat.zero_div, Nat.add_zero]

/-- What leaves the fee alone leaves them as alike as they are. -/
theorem congr {b : Account} (h : TrailsAt now a a') (same : SameFee a b) :
    TrailsAt now b (b.onRecord a'.position.accruedFee a'.position.checkpoint) := by
  refine ⟨⟨rfl, same.risk ▸ h.checked, fun {n} hn => ?_⟩, h.later, ?_⟩
  · have howed := h.same hn
    rw [h.record] at howed
    rw [feeOwed_congr same, ← howed]
    exact feeOwed_congr ⟨same.borrowed, rfl, rfl, same.risk⟩
  · obtain ⟨fee, hfee⟩ := h.reckonable
    refine ⟨fee, ?_⟩
    rw [feeAt_eq_ok_iff_feeOwed h.checked] at hfee
    rw [feeAt_eq_ok_iff_feeOwed (same.risk ▸ h.checked), feeOwed_congr same, hfee]

/-- Both do the same with a message. -/
theorem execute (h : TrailsAt env.now a a') :
    InStep (fun x x' => TrailsAt env.now x.1 x'.1 ∧ x'.2 = x.2) (a.execute env sender m)
      (a'.execute env sender m) := by
  have hfee := h.feeAt_eq
  rw [h.record] at hfee ⊢
  by_cases hm : m.settlesFee = true ∨ m.cutsFee = true
  · rw [execute_eq_of_feeAt hfee hm]
    cases hexec : a.execute env sender m with
    | error e => exact .error
    | ok x =>
      have step := step_of_execute hexec
      refine .ok ⟨.refl_of_checkpoint (step.risk_check h.checked) ?_, rfl⟩
      rcases hm with hm | hm
      · exact (step.of_settlesFee hm).2
      · exact (step.of_cutsFee hm).2
  · obtain ⟨hsettles, hcuts⟩ := not_or.1 hm
    rw [Bool.not_eq_true] at hsettles hcuts
    rw [execute_onRecord hsettles hcuts]
    cases hexec : a.execute env sender m with
    | error e => exact .error
    | ok x => exact .ok ⟨h.congr ((step_of_execute hexec).sameFee hsettles hcuts), rfl⟩

/-- And with a reply. -/
theorem reply (h : TrailsAt env.now a a') (id : Nat) :
    InStep (fun x x' => TrailsAt env.now x.1 x'.1 ∧ x'.2 = x.2) (a.reply env id)
      (a'.reply env id) := by
  rw [h.record, reply_onRecord]
  cases hreply : a.reply env id with
  | error e => exact .error
  | ok x => exact .ok ⟨h.congr (hears_of_reply hreply).sameFee, rfl⟩

/-- And they answer the same. -/
theorem query_eq (h : TrailsAt env.now a a') (q : Query) : a'.query env q = a.query env q := by
  have hfee := h.feeAt_eq
  rw [h.record] at hfee ⊢
  exact query_eq_of_feeAt hfee q

end TrailsAt

end Stablecoin.Account
