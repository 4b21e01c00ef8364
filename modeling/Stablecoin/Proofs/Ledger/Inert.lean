import Stablecoin.Ledger.Execute
import Stablecoin.Ledger.Query

set_option autoImplicit false

/-! # Rates that a ledger only keeps

The interest rate and the step value stand in the configuration of a ledger and nowhere else: it
sets them when it is told to, shows them with the rest of its configuration, and reckons with
neither. So a ledger with other rates does with every message what it does without them
(`execute_withRates`), and answers every question alike but the one for its configuration
(`query_withRates`). Two ledgers that are the same when their rates are left blank (`stripped`) are
in step (`inStep_execute`). -/

namespace Stablecoin.Ledger

/-! ## Other rates -/

/-- The configuration with other rates. -/
def Config.withRates (c : Config) (rate : Int64) (step : Ratio) : Config :=
  { c with interestRate := rate, stepValue := step }

/-- The configuration with its rates left blank. -/
def Config.stripped (c : Config) : Config :=
  c.withRates 0 0

/-- The ledger with other rates. -/
def withRates (l : Ledger) (rate : Int64) (step : Ratio) : Ledger :=
  { l with config := l.config.withRates rate step }

/-- The ledger with its rates left blank. -/
def stripped (l : Ledger) : Ledger :=
  { l with config := l.config.stripped }

/-- A ledger with other rates, and a response. -/
def rerated (rate : Int64) (step : Ratio) (x : Ledger × Response) : Ledger × Response :=
  (x.1.withRates rate step, x.2)

variable {l l' : Ledger} {env : Env} {sender : Address} {m : Message} {rate : Int64} {step : Ratio}

@[simp] theorem stripped_withRates (l : Ledger) (rate : Int64) (step : Ratio) :
    (l.withRates rate step).stripped = l.stripped := rfl

theorem exists_eq_withRates (h : l'.stripped = l.stripped) :
    ∃ rate step, l' = l.withRates rate step :=
  ⟨l'.config.interestRate, l'.config.stepValue,
    congrArg (fun k => k.withRates l'.config.interestRate l'.config.stepValue) h⟩

/-! ## Messages -/

/-- The message sets one of the two rates. -/
def Message.setsRate : Message → Bool
  | .setInterestRate _ | .setStepValue _ => true
  | _ => false

/-- What does not set a rate does not look at one either. -/
theorem execute_withRates (hm : m.setsRate = false) :
    (l.withRates rate step).execute env sender m
      = rerated rate step <$> l.execute env sender m := by
  cases m with
  | transfer =>
    simp only [execute, transfer, debit, credit, map_bind, map_pure, bind_assoc, pure_bind]
    rfl
  | transferFrom =>
    simp only [execute, transferFrom, useAllowance, debit, credit, map_bind, map_pure, bind_assoc,
      pure_bind]
    rfl
  | send =>
    simp only [execute, send, debit, credit, map_bind, map_pure, bind_assoc, pure_bind]
    rfl
  | increaseAllowance =>
    simp only [execute, increaseAllowance, map_bind, map_pure]
    rfl
  | decreaseAllowance =>
    simp only [execute, decreaseAllowance, map_bind, map_pure]
    rfl
  | mint =>
    simp only [execute, mint, credit, raiseSupply, map_bind, map_pure, bind_assoc, pure_bind]
    rfl
  | burn =>
    simp only [execute, burn, debit, lowerSupply, map_bind, map_pure, bind_assoc, pure_bind]
    rfl
  | addMinter =>
    simp only [execute, addMinter, map_bind, map_pure]
    rfl
  | removeMinter =>
    simp only [execute, removeMinter, map_bind, map_pure]
    rfl
  | setMinterMaxAmount =>
    simp only [execute, setMinterMaxAmount, map_bind, map_pure]
    rfl
  | setMinterEnabled =>
    simp only [execute, setMinterEnabled, map_bind, map_pure]
    rfl
  | startPeriod =>
    simp only [execute, startPeriod, map_bind, map_pure]
    rfl
  | setArbSpread =>
    simp only [execute, setArbSpread, map_bind, map_pure]
    rfl
  | setTargetPrice =>
    simp only [execute, setTargetPrice, map_bind, map_pure]
    rfl
  | nominateOwner =>
    simp only [execute, nominateOwner, map_bind, map_pure]
    rfl
  | acceptOwnership =>
    simp only [execute, acceptOwnership, map_bind, map_pure]
    rfl
  | setInterestRate => cases hm
  | setStepValue => cases hm
  | _ =>
    simp only [execute, setPolicy, setTreasury, setBalancer, setCollateralAgency, setVenue,
      setPaused, setPeriodLength, configure, map_bind, map_pure, bind_assoc, pure_bind]
    rfl

/-- What sets a rate changes nothing else, and asks nothing of the chain. -/
theorem stripped_of_setsRate {r : Response} (hm : m.setsRate = true)
    (h : l.execute env sender m = .ok (l', r)) : l'.stripped = l.stripped ∧ r.outgoing = [] := by
  cases m with
  | setInterestRate =>
    simp only [execute, setInterestRate, bind_eq_ok_iff, pure_eq_ok_iff] at h
    obtain ⟨-, -, h⟩ := h
    cases h
    exact ⟨rfl, rfl⟩
  | setStepValue =>
    simp only [execute, setStepValue, configure, bind_eq_ok_iff, pure_eq_ok_iff] at h
    obtain ⟨-, -, x, hx, h⟩ := h
    cases hx
    cases h
    exact ⟨rfl, rfl⟩
  | _ => cases hm

/-- Two ledgers are the same but for their rates, and respond alike. -/
def Alike (x x' : Ledger × Response) : Prop :=
  x'.1.stripped = x.1.stripped ∧ x'.2 = x.2

/-- Ledgers that are the same but for their rates do the same with every message. -/
theorem inStep_execute (h : l'.stripped = l.stripped) :
    InStep Alike (l.execute env sender m) (l'.execute env sender m) := by
  obtain ⟨rate, step, rfl⟩ := exists_eq_withRates h
  cases hm : m.setsRate with
  | false =>
    rw [execute_withRates hm]
    exact .fmap_right _ fun x => ⟨rfl, rfl⟩
  | true =>
    -- the rate that is set is the same on both
    cases m with
    | setInterestRate => exact .bind_same fun _ => .ok ⟨rfl, rfl⟩
    | setStepValue => exact .bind_same fun _ => .ok ⟨rfl, rfl⟩
    | _ => cases hm

/-! ## Questions -/

/-- The rates show in one answer only. -/
theorem query_eq_of_stripped {q : Query} (h : l'.stripped = l.stripped) (hq : q ≠ .config) :
    l'.query env q = l.query env q := by
  obtain ⟨rate, step, rfl⟩ := exists_eq_withRates h
  cases q with
  | config => exact absurd rfl hq
  | _ => rfl

end Stablecoin.Ledger
