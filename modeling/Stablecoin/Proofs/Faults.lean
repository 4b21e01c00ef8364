import Stablecoin.Host
import Stablecoin.Proofs.Rounding

set_option autoImplicit false

/-! # Failures that do not occur

`Avoids e x` says that the step `x` does not fail with `e`. A row of steps avoids a failure when
each step does on what the steps before it gave (`avoids_bind_iff`), so that what an operation
avoids can be read off its text by rewriting.

Two faults stand for a slip of the rules themselves and not of whoever uses them: a zero
denominator, and an amount or a ratio out of its range (`Fault.Slip`). The lemmas say for each
operation on amounts what has to hold so that it does not slip. -/

namespace Stablecoin

variable {ε ε' α β : Type}

/-! ## Steps that avoid a failure -/

/-- A step does not fail with that error. -/
def Avoids (e : ε) (x : Except ε α) : Prop :=
  x ≠ .error e

@[simp] theorem avoids_ok (e : ε) (a : α) : Avoids e (.ok a) := nofun

@[simp] theorem avoids_pure (e : ε) (a : α) : Avoids e (pure a : Except ε α) := nofun

@[simp] theorem avoids_error_iff {e e' : ε} : Avoids e (.error e' : Except ε α) ↔ e' ≠ e := by
  simp [Avoids]

@[simp] theorem avoids_bind_iff {e : ε} {x : Except ε α} {f : α → Except ε β} :
    Avoids e (x >>= f) ↔ Avoids e x ∧ ∀ a, x = .ok a → Avoids e (f a) := by
  simp [Avoids, bind_eq_error_iff]

@[simp] theorem avoids_require_iff {e e' : ε} {p : Prop} [Decidable p] :
    Avoids e (require p e') ↔ (e' = e → p) := by
  simp only [Avoids, ne_eq, require_eq_error_iff, not_and]
  exact ⟨fun h he => Decidable.by_contra fun hp => h hp he, fun h hp he => hp (h he)⟩

@[simp] theorem avoids_mapError_iff {g : ε → ε'} {e : ε'} {x : Except ε α} :
    Avoids e (x.mapError g) ↔ ∀ e', g e' = e → Avoids e' x := by
  simp only [Avoids, ne_eq, mapError_eq_error_iff, not_exists, not_and]
  exact ⟨fun h e' he hx => h e' hx he, fun h e' hx he => h e' he hx⟩

@[simp] theorem avoids_map_iff {e : ε} {x : Except ε α} {f : α → β} :
    Avoids e (x.map f) ↔ Avoids e x := by
  cases x <;> simp [Avoids, Except.map]

@[simp] theorem avoids_fmap_iff {e : ε} {x : Except ε α} {f : α → β} :
    Avoids e (f <$> x) ↔ Avoids e x :=
  avoids_map_iff

/-! ## Slips -/

/-- The faults of operations on amounts that the rules mean to exclude. -/
inductive Fault.Slip : Fault → Prop where
  | zeroDenominator : Slip .zeroDenominator
  | outOfRange : Slip .outOfRange

variable {f : Fault}

/-- What is missing has not slipped. -/
theorem Fault.Slip.missing_ne (slip : f.Slip) : .missing ≠ f := by
  rintro rfl
  cases slip

theorem mulDiv_eq_error_iff {a : Amount} {n d : Nat} :
    mulDiv a n d = .error f ↔ (d = 0 ∧ f = .zeroDenominator) ∨
      (d ≠ 0 ∧ f = .conversion ∧ Amount.size ≤ a.toNat * n / d) := by
  unfold mulDiv
  split
  · simp_all [eq_comm]
  · rename_i hd
    split <;> rename_i h
    · -- the quotient is an amount
      have hlt := (Amount.ofNat?_eq_some_iff.1 h) ▸ Amount.isLt _
      have hfits : ¬ Amount.size ≤ a.toNat * n / d := Nat.not_le.2 hlt
      simp [hd, hfits]
    · rw [Amount.ofNat?_eq_none_iff] at h
      simp [hd, h, eq_comm]

theorem avoids_complement {ratio : Ratio} (h : f = .outOfRange → ratio.toNat ≤ precision) :
    Avoids f (complement ratio) := by
  unfold complement
  split
  · exact avoids_ok _ _
  · rename_i hover
    rw [avoids_error_iff]
    exact fun hf => hover (h hf.symm)

theorem avoids_minus {a b : Amount} (h : f = .outOfRange → b ≤ a) : Avoids f (a.minus b) := by
  intro hfails
  obtain ⟨o, hsub, rfl⟩ := mapError_eq_error_iff.1 hfails
  exact absurd (h rfl) (Nat.not_le.2 (Amount.checkedSub_eq_error_iff.1 hsub).2)

theorem avoids_plus {a b : Amount} (h : f = .outOfRange → a.toNat + b.toNat < Amount.size) :
    Avoids f (a.plus b) := by
  intro hfails
  obtain ⟨o, hadd, rfl⟩ := mapError_eq_error_iff.1 hfails
  exact absurd (h rfl) (Nat.not_lt.2 (Amount.checkedAdd_eq_error_iff.1 hadd).2)

variable (slip : f.Slip)

include slip

theorem avoids_mulDiv (a : Amount) (n : Nat) {d : Nat} (h : f = .zeroDenominator → d ≠ 0) :
    Avoids f (mulDiv a n d) := by
  intro hfails
  rcases mulDiv_eq_error_iff.1 hfails with ⟨hzero, rfl⟩ | ⟨-, rfl, -⟩
  · exact h rfl hzero
  · cases slip

theorem avoids_applyRatio (a : Amount) (ratio : Nat) : Avoids f (applyRatio a ratio) :=
  avoids_mulDiv slip a ratio fun _ => by decide

theorem avoids_quoteValue (a price : Amount) : Avoids f (quoteValue a price) :=
  avoids_mulDiv slip a price.toNat fun _ => by decide

theorem avoids_stablecoinAmount (value : Amount) {price : Amount}
    (h : f = .zeroDenominator → price ≠ 0) : Avoids f (stablecoinAmount value price) :=
  avoids_mulDiv slip value precision fun hf hzero => h hf (Amount.eq_zero_iff.2 hzero)

theorem avoids_annualFee (principal : Amount) (rate seconds : Nat) :
    Avoids f (annualFee principal rate seconds) := by
  simp only [annualFee, avoids_bind_iff]
  exact ⟨avoids_applyRatio slip principal rate, fun yearly _ =>
    avoids_mulDiv slip yearly seconds fun _ => by decide⟩

/-- A sum that is checked may overflow, but that is no slip. -/
theorem avoids_overflow (x : Except Overflow α) : Avoids f (x.mapError Fault.overflow) := by
  rw [avoids_mapError_iff]
  rintro e rfl
  cases slip

theorem avoids_validate (text : String) : Avoids f (Address.validate text) := by
  rw [Address.validate, avoids_mapError_iff]
  rintro e rfl
  cases slip

theorem avoids_orMalformed (x : Option α) : Avoids f (orMalformed x) := by
  cases x with
  | none =>
    rw [orMalformed, avoids_error_iff]
    rintro rfl
    cases slip
  | some a => exact avoids_ok _ _

theorem avoids_orMissing (x : Option α) : Avoids f (orMissing x) := by
  cases x with
  | none => exact avoids_error_iff.2 slip.missing_ne
  | some a => exact avoids_ok _ _

/-! ## Queries -/

/-- What a chain reports of a query that fails: that there is no contract, or that it failed. It
    never reports a slip of its own. -/
def Querier.Reports (q : Querier) : Prop :=
  ∀ a query f, q.ask a query = .error f → f = .noContract a ∨ ∃ reason, f = .queryFailed reason

theorem Querier.Reports.avoids_askFor {q : Querier} (h : q.Reports) (decode : Json → Option α)
    (a : Address) (query : Json) : Avoids f (q.askFor decode a query) := by
  simp only [Querier.askFor, avoids_bind_iff]
  refine ⟨fun hfails => ?_, fun answer _ => avoids_orMalformed slip _⟩
  rcases h a query f hfails with rfl | ⟨reason, rfl⟩ <;> cases slip

end Stablecoin
