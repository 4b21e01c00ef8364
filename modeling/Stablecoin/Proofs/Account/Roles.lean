import Stablecoin.Proofs.Account.Faults
import Stablecoin.Proofs.Account.Progress

set_option autoImplicit false

/-! # Who may tell an account what

All messages but the liquidation are for the holder of one role. The borrower is fixed with the
account; the other three roles belong to the ledger, and the account asks for them afresh with every
message that is for one of them. What the account says when somebody else sends such a message, it
says for no other reason (`execute_eq_refusal_iff`). Some messages need nothing else than the role
(`exists_execute_of_held`). -/

namespace Stablecoin.Account

/-- The roles on which an account relies. -/
inductive Role where
  | borrower
  | governance
  | agency
  | balancer

/-- Somebody holds the role, given what the account has on record and what its ledger has. -/
def Role.HeldBy (r : Role) (c : Config) (l : Ledger.Config) (sender : Address) : Prop :=
  match r with
  | .borrower => sender = c.borrower
  | .governance => sender = l.owner
  | .agency => sender = l.collateralAgency
  | .balancer => l.balancer = some sender

/-- What an account says to whoever does not hold the role. -/
def Role.refusal : Role → Error
  | .borrower => .onlyBorrower
  | .governance => .notGovernance
  | .agency => .notCollateralAgency
  | .balancer => .notBalancer

/-- The role for whose holder a message is. -/
def Message.role? : Message → Option Role
  | .liquidate => none
  | .pause | .unpause => some .governance
  | .stateValue _ => some .agency
  | .autoInvest _ _ => some .balancer
  | _ => some .borrower

/-- The message is carried out for whoever holds its role, whatever else there is. -/
def Message.roleSuffices : Message → Bool
  | .pause | .unpause | .stateValue _ => true
  | _ => false

variable {a : Account} {env : Env} {sender : Address} {m : Message} {r : Role} {l : Ledger.Config}

/-- The borrower of an account is the one that it was set up with. -/
theorem borrower_of_setUp {s : Setup} {resp : Response} (h : setUp env s = .ok (a, resp)) :
    a.config.borrower = s.borrower := by
  simp only [setUp, bind_eq_ok_iff, pure_eq_ok_iff] at h
  obtain ⟨ledger, -, borrower, hvalid, backend, -, venue, -, -, -, ⟨⟩⟩ := h
  simp only [validAddress, liftM, bind_eq_ok_iff, monadLift_eq_ok_iff, Address.validate,
    mapError_eq_ok_iff] at hvalid
  obtain ⟨-, -, hcheck⟩ := hvalid
  exact (Address.check_eq_ok_iff.1 hcheck).1

/-! ## Who holds the role is not refused -/

theorem avoids_onlyBorrower (hm : m.role? = some .borrower) (held : sender = a.config.borrower) :
    Avoids .onlyBorrower (a.execute env sender m) := by
  have hborrower : a.requireBorrower sender = .ok () := require_of _ held
  cases m with
  | configure risk =>
    simp [execute, Account.configure, hborrower, RiskConfig.check, requireRatio, liftM]
  | borrow amount => simp [execute, Account.borrow, hborrower, requireActive, increaseDebt, liftM]
  | repay amount => simp [execute, Account.repay, hborrower, liftM]
  | payFee => simp [execute, Account.payFee, hborrower, liftM]
  | invest amount slippage =>
    simp only [execute, Account.invest, hborrower, ok_bind, avoids_bind_iff]
    refine ⟨by simp [requireActive], fun _ _ => ⟨by simp [requireRatio], fun _ _ =>
      ⟨by simp, fun _ _ => ⟨by simp [liftM], fun v _ => ?_⟩⟩⟩⟩
    split <;> simp [liftM]
  | divest amount slippage =>
    cases slippage <;> simp [execute, divestFrom, hborrower, requireRatio, liftM]
  | sell amount minAmountOut => simp [execute, Account.sell, hborrower, requireActive, liftM]
  | buy amount minAmountOut => simp [execute, Account.buy, hborrower, requireActive, liftM]
  | collect => simp [execute, Account.collect, hborrower]
  | withdraw asset amount =>
    have hsolvent := avoids_requireSolventAfter_of_ne (a := a) (e := .onlyBorrower) (by simp)
      (by simp)
    simp [execute, Account.withdraw, hborrower, requireActive, liftM, hsolvent]
  | _ => cases hm

/-- A role check comes first, and no later check fails like it. -/
theorem avoids_refusal (asked : Ledger.askConfig env.querier a.config.ledger = .ok l)
    (hm : m.role? = some r) (held : r.HeldBy a.config l sender) :
    Avoids r.refusal (a.execute env sender m) := by
  cases r with
  | borrower => exact avoids_onlyBorrower hm held
  | governance =>
    have howner : sender = l.owner := held
    cases m <;> cases hm <;> simp [execute, setPaused, Role.refusal, liftM, asked, howner]
  | agency =>
    have hagency : sender = l.collateralAgency := held
    cases m <;> cases hm
    simp [execute, stateValue, Role.refusal, liftM, asked, hagency]
  | balancer =>
    have hbalancer : l.balancer = some sender := held
    cases m <;> cases hm
    simp [execute, autoInvest, Role.refusal, liftM, asked, hbalancer, requireActive, requireRatio,
      increaseDebt]

/-! ## Everybody else is -/

theorem execute_of_not_held (asked : Ledger.askConfig env.querier a.config.ledger = .ok l)
    (hm : m.role? = some r) (foreign : ¬ r.HeldBy a.config l sender) :
    a.execute env sender m = .error r.refusal := by
  cases r with
  | borrower =>
    have hborrower : a.requireBorrower sender = .error .onlyBorrower :=
      require_eq_error_iff.2 ⟨foreign, rfl⟩
    cases m <;> cases hm <;> exact bind_eq_error_iff.2 (.inl hborrower)
  | governance =>
    have howner : ¬ sender = l.owner := foreign
    cases m <;> cases hm <;>
      simp only [execute, setPaused, asked, liftM_ok, ok_bind] <;>
      exact bind_eq_error_iff.2 (.inl (require_eq_error_iff.2 ⟨howner, rfl⟩))
  | agency =>
    have hagency : ¬ sender = l.collateralAgency := foreign
    cases m <;> cases hm
    simp only [execute, stateValue, asked, liftM_ok, ok_bind]
    exact bind_eq_error_iff.2 (.inl (require_eq_error_iff.2 ⟨hagency, rfl⟩))
  | balancer =>
    have hbalancer : ¬ some sender = l.balancer := fun h => foreign h.symm
    cases m <;> cases hm
    simp only [execute, autoInvest, asked, liftM_ok, ok_bind]
    exact bind_eq_error_iff.2 (.inl (require_eq_error_iff.2 ⟨hbalancer, rfl⟩))

/-- An account refuses a message for want of the role just when the sender does not hold it. -/
theorem execute_eq_refusal_iff (asked : Ledger.askConfig env.querier a.config.ledger = .ok l)
    (hm : m.role? = some r) :
    a.execute env sender m = .error r.refusal ↔ ¬ r.HeldBy a.config l sender :=
  ⟨fun hfails held => avoids_refusal asked hm held hfails, execute_of_not_held asked hm⟩

/-- Where the role suffices, its holder is obeyed. -/
theorem exists_execute_of_held (asked : Ledger.askConfig env.querier a.config.ledger = .ok l)
    (hm : m.role? = some r) (suffice : m.roleSuffices = true)
    (held : r.HeldBy a.config l sender) :
    ∃ a' resp, a.execute env sender m = .ok (a', resp) ∧ resp.outgoing = [] := by
  cases m with
  | stateValue value =>
    cases hm
    have hagency : sender = l.collateralAgency := held
    simp only [execute, stateValue, asked, liftM_ok, ok_bind, require_of _ hagency]
    exact ⟨_, _, rfl, rfl⟩
  | pause =>
    cases hm
    have howner : sender = l.owner := held
    simp only [execute, setPaused, asked, liftM_ok, ok_bind, require_of _ howner]
    exact ⟨_, _, rfl, rfl⟩
  | unpause =>
    cases hm
    have howner : sender = l.owner := held
    simp only [execute, setPaused, asked, liftM_ok, ok_bind, require_of _ howner]
    exact ⟨_, _, rfl, rfl⟩
  | _ => cases suffice

end Stablecoin.Account
