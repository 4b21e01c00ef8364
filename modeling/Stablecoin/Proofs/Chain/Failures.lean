import Stablecoin.Proofs.Account.Faults
import Stablecoin.Proofs.Chain.Run
import Stablecoin.Proofs.Ledger.Faults

set_option autoImplicit false

/-! # Where a transaction fails

A transaction that fails has attempted calls on its way, and the last of them is the one that failed
(`exists_attempt_of_transact_eq_error`). Where a contract is what failed, it was entered on a chain
with the same contracts as the call met (`exists_entered_of_perform_eq_error`). So a transaction
does not fail for what every contract avoids that stands where it passes.

`Contract.Guarded` collects what ledgers and accounts need so as not to slip. -/

namespace Stablecoin

variable {σ : Type}

/-! ## Contracts -/

namespace Policy

variable {f : Fault} (slip : f.Slip)

include slip

theorem avoids_execute (p : Policy) (sender : Address) (m : Message) :
    Avoids (.fault f) (p.execute sender m) := by
  have hvalid : ∀ text, Avoids (Error.fault f) (monadLift (Address.validate text)) := by
    intro text
    refine avoids_mapError_iff.2 ?_
    rintro _ ⟨⟩
    exact avoids_validate slip text
  cases m <;> simp [execute, liftM, hvalid]

theorem avoids_query (p : Policy) (q : Query) : Avoids f (p.query q) := by
  cases q <;> simp [query, avoids_validate slip]

theorem avoids_queryVacant (q : Query) : Avoids f (queryVacant q) := by
  cases q <;> simp [queryVacant, avoids_validate slip, slip.missing_ne]

end Policy

namespace Contract

/-- A contract of this library fails for that fault. -/
inductive Error.Shows (f : Fault) : Error → Prop where
  | own : Shows f (.fault f)
  | ledger : Shows f (.ledger (.fault f))
  | account : Shows f (.account (.fault f))
  | policy : Shows f (.policy (.fault f))

/-- What is needed so that a ledger or an account that stands somewhere does not slip. -/
def Guarded (k : Contract σ) (env : Env) (f : Fault) : Prop :=
  match k with
  | .ledger l => l.config.Usable ∧ env.querier.Reports
  | .account a => a.Guarded env f
  | _ => True

@[simp] theorem avoids_monadLift_iff {α : Type} {e : Error} {x : Except Fault α} :
    Avoids e (monadLift x : Except Error α) ↔ ∀ f, .fault f = e → Avoids f x :=
  avoids_mapError_iff

variable [Outside σ] {k : Contract σ} {env : Env} {f : Fault} {e : Error}

theorem avoids_execute (slip : f.Slip) (hk : k.Guarded env f) (he : e.Shows f) (sender : Address)
    (funds : List Coin) (message : Json) : Avoids e (k.execute env sender funds message) := by
  cases k with
  | ledger l =>
    have hl : ∀ m, Avoids (.fault f) (l.execute env sender m) :=
      Ledger.avoids_execute slip hk.1 hk.2
    cases he <;> simp [execute, ofLedger, liftM, avoids_orMalformed slip, hl]
  | vacantLedger allowances =>
    have hl := Ledger.avoids_executeVacant slip allowances sender
    cases he <;> simp [execute, liftM, avoids_orMalformed slip, hl]
  | account a =>
    have ha : ∀ m, Avoids (.fault f) (a.execute env sender m) := Account.avoids_execute slip hk
    cases he <;> simp [execute, ofAccount, liftM, avoids_orMalformed slip, ha]
  | policy p =>
    have hp := p.avoids_execute slip sender
    cases he <;> simp [execute, ofPolicy, liftM, avoids_orMalformed slip, hp]
  | outside s => cases he <;> simp [execute, ofOutside]
  | _ => cases he <;> simp [execute, liftM, avoids_orMalformed slip, slip.missing_ne]

theorem avoids_reply (slip : f.Slip) (hk : k.Guarded env f) (he : e.Shows f) (id : Nat) :
    Avoids e (k.reply env id) := by
  cases k with
  | account a =>
    have ha := Account.avoids_reply slip hk id
    cases he <;> simp [reply, ofAccount, ha]
  | vacantAccount =>
    have hvacant : Account.replyVacant id ≠ f := by
      unfold Account.replyVacant
      split <;> (rintro rfl; cases slip)
    cases he <;> simp [reply, hvacant]
  | outside s =>
    cases hreply : Outside.reply s env id <;> cases he <;> simp [reply, hreply, ofOutside]
  | _ => cases he <;> simp [reply]

theorem avoids_query (slip : f.Slip) (hk : k.Guarded env f) (he : e.Shows f) (q : Json) :
    Avoids e (k.query env q) := by
  cases k with
  | ledger l =>
    have hl := Ledger.avoids_query slip hk.1 hk.2
    cases he <;> simp [query, liftM, avoids_orMalformed slip, hl]
  | vacantLedger allowances =>
    have hl := Ledger.avoids_queryVacant slip allowances
    cases he <;> simp [query, liftM, avoids_orMalformed slip, hl]
  | account a =>
    have ha := Account.avoids_query slip hk
    cases he <;> simp [query, liftM, avoids_orMalformed slip, ha]
  | policy p =>
    have hp := p.avoids_query slip
    cases he <;> simp [query, liftM, avoids_orMalformed slip, hp]
  | vacantPolicy =>
    have hp := Policy.avoids_queryVacant slip
    cases he <;> simp [query, liftM, avoids_orMalformed slip, hp]
  | outside s => cases he <;> simp [query]
  | vacantAccount => cases he <;> simp [query, liftM, avoids_orMalformed slip, slip.missing_ne]

end Contract

namespace Chain

variable [Outside σ] {c c' d : Chain σ} {b : Address} {call : Call} {calls : List Call} {e : Error}

/-! ## Calls that fail -/

omit [Outside σ] in
theorem avoids_payAll (he : ∀ payer coin, Error.insufficientFunds payer coin ≠ e)
    (payer payee : Address) (coins : List Coin) : Avoids e (c.payAll payer payee coins) := by
  induction coins generalizing c with
  | nil => exact avoids_pure _ _
  | cons coin rest ih =>
    rw [payAll, List.foldlM_cons, avoids_bind_iff]
    exact ⟨by simp [pay, he], fun c₁ _ => ih⟩

omit [Outside σ] in
theorem of_enter_eq_error {entry : Entry} {x : Contract.Error} {b' : Address}
    {run : Contract σ → Except Contract.Error (Contract σ × Response)}
    (h : c.enter b' entry run = .error (.contract b x)) :
    b' = b ∧ ∃ k, c.contract? b = some k ∧ run k = .error x := by
  unfold enter at h
  split at h
  · cases h
  · rename_i k found
    simp only [bind_eq_error_iff, mapError_eq_error_iff, pure_ne_error, and_false, exists_false,
      or_false] at h
    obtain ⟨x', hrun, ⟨⟩⟩ := h
    exact ⟨rfl, k, found, hrun⟩

theorem of_perform_execute_eq_error {x : Contract.Error} {b' sender : Address} {message : Json}
    {funds : List Coin}
    (h : c.perform (.execute sender b' message funds) = .error (.contract b x)) :
    b' = b ∧ ∃ (c₁ : Chain σ) (k : Contract σ), c.payAll sender b funds = .ok c₁ ∧
      c₁.contract? b = some k ∧ k.execute (c₁.env b) sender funds message = .error x := by
  simp only [perform, execute, bind_eq_error_iff, require_eq_error_iff, pure_ne_error, and_false,
    exists_false, or_false] at h
  rcases h with ⟨-, ⟨⟩⟩ | ⟨-, -, h | ⟨c₁, paid, h⟩⟩
  · exact absurd h (avoids_payAll (by simp) _ _ _)
  · obtain ⟨rfl, k, found, hrun⟩ := of_enter_eq_error h
    exact ⟨rfl, c₁, k, paid, found, hrun⟩

theorem of_perform_reply_eq_error {x : Contract.Error} {b' : Address} {id : Nat}
    (h : c.perform (.reply b' id) = .error (.contract b x)) :
    b' = b ∧ ∃ k, c.contract? b = some k ∧ k.reply (c.env b) id = .error x := by
  simp only [perform, reply, bind_eq_error_iff, require_eq_error_iff, pure_ne_error, and_false,
    exists_false, or_false] at h
  rcases h with ⟨-, ⟨⟩⟩ | ⟨-, -, h⟩
  obtain ⟨rfl, k, found, hrun⟩ := of_enter_eq_error h
  exact ⟨rfl, k, found, hrun⟩

/-- A payment fails in no contract. -/
theorem perform_send_ne_error {x : Contract.Error} {sender recipient : Address}
    {coins : List Coin} : c.perform (.send sender recipient coins) ≠ .error (.contract b x) := by
  intro h
  simp only [perform, bind_eq_error_iff, pure_ne_error, and_false, exists_false, or_false] at h
  exact absurd h (avoids_payAll (by simp) _ _ _)

/-- A contract that fails has been entered, where the same contracts stand as at the call. -/
theorem exists_entered_of_perform_eq_error {x : Contract.Error}
    (h : c.perform call = .error (.contract b x)) :
    ∃ (c₁ : Chain σ) (k : Contract σ), (∀ b', c₁.contract? b' = c.contract? b') ∧
      c₁.contract? b = some k ∧
      ((∃ sender funds message, k.execute (c₁.env b) sender funds message = .error x) ∨
        ∃ id, k.reply (c₁.env b) id = .error x) := by
  cases call with
  | execute sender b' message funds =>
    obtain ⟨rfl, c₁, k, paid, found, hrun⟩ := of_perform_execute_eq_error h
    exact ⟨c₁, k, contract?_of_payAll paid, found, .inl ⟨sender, funds, message, hrun⟩⟩
  | reply b' id =>
    obtain ⟨rfl, k, found, hrun⟩ := of_perform_reply_eq_error h
    exact ⟨c, k, fun _ => rfl, found, .inr ⟨id, hrun⟩⟩
  | send sender recipient coins => exact absurd h perform_send_ne_error

/-! ## What is attempted -/

/-- The calls that a transaction makes after others, each with the chain that it meets. If the
    transaction fails, the last of them is the call that fails. -/
def attempts (c : Chain σ) (ts : List Transaction) (t : Transaction) : List (Moment σ) :=
  trace callLimit ((c.afterAll ts).atTime t.time) [t.call]

/-- A transaction attempts at least what it begins with. -/
theorem first_mem_attempts (c : Chain σ) (ts : List Transaction) (t : Transaction) :
    ⟨(c.afterAll ts).atTime t.time, t.call⟩ ∈ c.attempts ts t :=
  List.mem_cons_self ..

theorem exists_attempt_of_run_eq_error {limit : Nat} (h : run limit c calls = .error e) :
    e = .exhausted ∨ ∃ m ∈ trace limit c calls, m.chain.perform m.call = .error e := by
  induction limit generalizing c calls with
  | zero =>
    cases calls with
    | nil => cases h
    | cons call rest =>
      cases h
      exact .inl rfl
  | succ limit ih =>
    cases calls with
    | nil => cases h
    | cons call rest =>
      simp only [run, trace, bind_eq_error_iff, pure_ne_error, and_false, exists_false,
        or_false] at h ⊢
      rcases h with hfails | ⟨⟨c₁, records, next⟩, hperform, hrun⟩
      · exact .inr ⟨_, List.mem_cons_self .., hfails⟩
      · rw [hperform]
        rcases ih hrun with hlimit | ⟨m, hm, hfails⟩
        · exact .inl hlimit
        · exact .inr ⟨m, List.mem_cons_of_mem _ hm, hfails⟩

theorem exists_attempt_of_transact_eq_error {ts : List Transaction} {t : Transaction}
    (h : ((c.afterAll ts).atTime t.time).transact t.call = .error e) :
    e = .exhausted ∨ ∃ m ∈ c.attempts ts t, m.chain.perform m.call = .error e :=
  exists_attempt_of_run_eq_error h

/-- What every call keeps, whatever the time, is there wherever a call is attempted. -/
theorem attempts_keep {K : Chain σ → Prop}
    (step : ∀ {c c' call next}, Performs c call c' next → K c → K c')
    (time : ∀ {c} now, K c → K (c.atTime now)) (hc : K c) {ts : List Transaction} {t : Transaction}
    {m : Moment σ} (hm : m ∈ c.attempts ts t) : K m.chain :=
  chain_of_mem_trace step (time t.time (afterAll_keeps step time hc ts)) hm

/-! ## Slips -/

/-- No chain ever reports a slip. -/
theorem reports_ask (c : Chain σ) (depth : Nat) : Querier.Reports ⟨c.ask depth, c.balance⟩ := by
  intro a q f h
  cases depth with
  | zero =>
    cases h
    exact .inr ⟨_, rfl⟩
  | succ depth =>
    change c.ask (depth + 1) a q = .error f at h
    rw [ask] at h
    split at h
    · cases h
      exact .inl rfl
    · obtain ⟨x, -, rfl⟩ := mapError_eq_error_iff.1 h
      exact .inr ⟨_, rfl⟩

theorem reports_querier (c : Chain σ) : c.querier.Reports :=
  c.reports_ask queryDepth

section Guarded

variable {K : Chain σ → Prop} {f : Fault}
  (step : ∀ {c c' call next}, Performs c call c' next → K c → K c')
  (time : ∀ {c} now, K c → K (c.atTime now))
  (guarded : ∀ {c c₁ : Chain σ} {k : Contract σ}, K c → (∀ b', c₁.contract? b' = c.contract? b') →
    c₁.contract? b = some k → k.Guarded (c₁.env b) f)

include guarded

/-- A contract that is guarded wherever it stands does not slip when it is asked, -/
theorem query_not_shows (slip : f.Slip) (hc : K c) {q : Json} {x : Contract.Error}
    (h : c.query b q = .error (.contract b x)) : ¬ x.Shows f := by
  intro hx
  unfold query at h
  split at h
  · cases h
  · rename_i k found
    obtain ⟨x', hquery, ⟨⟩⟩ := mapError_eq_error_iff.1 h
    exact Contract.avoids_query slip (guarded hc (fun _ => rfl) found) hx q hquery

include step time

/-- nor when transactions enter it. -/
theorem transact_not_shows (slip : f.Slip) (hc : K c) {ts : List Transaction} {t : Transaction}
    {x : Contract.Error}
    (h : ((c.afterAll ts).atTime t.time).transact t.call = .error (.contract b x)) :
    ¬ x.Shows f := by
  intro hx
  rcases exists_attempt_of_transact_eq_error h with hlimit | ⟨m, hm, hfails⟩
  · cases hlimit
  obtain ⟨c₁, k, same, found, hentered⟩ := exists_entered_of_perform_eq_error hfails
  have hk := guarded (attempts_keep step time hc hm) same found
  rcases hentered with ⟨sender, funds, message, hexec⟩ | ⟨id, hreply⟩
  · exact Contract.avoids_execute slip hk hx sender funds message hexec
  · exact Contract.avoids_reply slip hk hx id hreply

end Guarded

end Chain

end Stablecoin
