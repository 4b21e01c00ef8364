import Stablecoin.Chain.Transaction

set_option autoImplicit false

/-! # Runs of a chain

`Performs` says what carrying out a single call does to a chain, and `Runs` how a whole list of
calls is worked off, with a trace of the calls and of the chains that they met. A history is a row
of transactions from outside, each undone whole when it fails. -/

namespace Stablecoin.Chain

variable {σ : Type} [Outside σ]

/-! ## Money does not touch contracts -/

omit [Outside σ] in
theorem pay_eq_ok_iff {c c' : Chain σ} {payer payee : Address} {coin : Coin} :
    c.pay payer payee coin = .ok c' ↔ ∃ left : Amount,
      (c.balance payer coin.denom).toNat = left.toNat + coin.amount.toNat ∧
      c' = (c.setBalance payer coin.denom left).setBalance payee coin.denom
        (((c.setBalance payer coin.denom left).balance payee coin.denom).saturatingAdd
          coin.amount) := by
  simp only [pay, bind_eq_ok_iff, mapError_eq_ok_iff, Amount.checkedSub_eq_ok_iff, pure_eq_ok_iff,
    @eq_comm _ c']

omit [Outside σ] in
theorem payAll_cons_eq_ok_iff {c c' : Chain σ} {payer payee : Address} {coin : Coin}
    {rest : List Coin} :
    c.payAll payer payee (coin :: rest) = .ok c' ↔
      ∃ c₁, c.pay payer payee coin = .ok c₁ ∧ c₁.payAll payer payee rest = .ok c' := by
  unfold payAll
  rw [List.foldlM_cons]
  exact bind_eq_ok_iff

omit [Outside σ] in
/-- Payments leave contracts and time alone. -/
theorem frame_of_payAll {c c' : Chain σ} {payer payee : Address} {coins : List Coin}
    (h : c.payAll payer payee coins = .ok c') :
    c'.contracts = c.contracts ∧ c'.now = c.now := by
  induction coins generalizing c with
  | nil =>
    cases h
    exact ⟨rfl, rfl⟩
  | cons coin rest ih =>
    obtain ⟨c₁, hpay, hrest⟩ := payAll_cons_eq_ok_iff.1 h
    obtain ⟨left, -, rfl⟩ := pay_eq_ok_iff.1 hpay
    obtain ⟨hcontracts, hnow⟩ := ih hrest
    exact ⟨hcontracts, hnow⟩

omit [Outside σ] in
theorem contract?_of_payAll {c c' : Chain σ} {payer payee : Address} {coins : List Coin}
    (h : c.payAll payer payee coins = .ok c') (b : Address) : c'.contract? b = c.contract? b := by
  rw [contract?, (frame_of_payAll h).1, contract?]

omit [Outside σ] in
/-- Money moves as it does with other contracts and at another time. -/
theorem payAll_with (c : Chain σ) (contracts : Table Address (Contract σ)) (now : Seconds)
    (payer payee : Address) (coins : List Coin) :
    Chain.payAll { c with contracts, now } payer payee coins
      = (fun d => { d with contracts, now }) <$> c.payAll payer payee coins := by
  induction coins generalizing c with
  | nil => rfl
  | cons coin rest ih =>
    have hpay : Chain.pay { c with contracts, now } payer payee coin
        = (fun d => { d with contracts, now }) <$> c.pay payer payee coin := by
      simp only [pay, map_bind, map_pure]
      rfl
    unfold payAll at ih ⊢
    rw [List.foldlM_cons, List.foldlM_cons, hpay, map_bind, bind_map_left]
    exact bind_congr ih

omit [Outside σ] in
/-- So it moves alike on two chains that have the same money. -/
theorem inStep_payAll {c c' : Chain σ} (bank : c'.bank = c.bank) (payer payee : Address)
    (coins : List Coin) :
    InStep (fun d d' => (d.contracts = c.contracts ∧ d.now = c.now) ∧
        d' = { d with contracts := c'.contracts, now := c'.now })
      (c.payAll payer payee coins) (c'.payAll payer payee coins) := by
  have hmoved : InStep (fun d d' => d' = { d with contracts := c'.contracts, now := c'.now })
      (c.payAll payer payee coins) (c'.payAll payer payee coins) := by
    have hpaid := payAll_with c c'.contracts c'.now payer payee coins
    rw [← bank] at hpaid
    rw [hpaid]
    exact .fmap_right _ fun _ => rfl
  exact hmoved.and fun d paid => frame_of_payAll paid

/-! ## One call -/

/-- The calls that a contract makes with what it asks the chain to do. -/
def callsOf (self : Address) (out : List Outgoing) : List Call :=
  out.flatMap (Call.ofOutgoing self)

@[simp] theorem callsOf_nil (self : Address) : callsOf self [] = [] := rfl

@[simp] theorem callsOf_cons (self : Address) (o : Outgoing) (out : List Outgoing) :
    callsOf self (o :: out) = Call.ofOutgoing self o ++ callsOf self out := rfl

/-- Actions that nobody waits for are called one after the other. -/
theorem callsOf_actions (self : Address) (actions : List Action) :
    callsOf self (actions.map fun action => { action }) = actions.map (Call.ofAction self) := by
  induction actions with
  | nil => rfl
  | cons action rest ih =>
    rw [List.map_cons, List.map_cons, callsOf_cons, ih]
    rfl

/-- What carrying out a call makes of a chain, and the calls that follow from it. -/
inductive Performs (c : Chain σ) : Call → Chain σ → List Call → Prop where
  | execute {sender b : Address} {message : Json} {funds : List Coin} {k k' : Contract σ}
      {c₁ : Chain σ} {r : Response} (found : c.contract? b = some k)
      (paid : c.payAll sender b funds = .ok c₁)
      (entered : k.execute (c₁.env b) sender funds message = .ok (k', r)) :
      Performs c (.execute sender b message funds) (c₁.put b k') (callsOf b r.outgoing)
  | reply {b : Address} {id : Nat} {k k' : Contract σ} {r : Response}
      (found : c.contract? b = some k) (heard : k.reply (c.env b) id = .ok (k', r)) :
      Performs c (.reply b id) (c.put b k') (callsOf b r.outgoing)
  | send {sender recipient : Address} {coins : List Coin} {c₁ : Chain σ}
      (paid : c.payAll sender recipient coins = .ok c₁) :
      Performs c (.send sender recipient coins) c₁ []

omit [Outside σ] in
theorem enter_eq_ok {c c' : Chain σ} {a : Address} {entry : Entry} {rec : Record}
    {run : Contract σ → Except Contract.Error (Contract σ × Response)}
    (h : c.enter a entry run = .ok (c', rec)) :
    ∃ k k' r, c.contract? a = some k ∧ run k = .ok (k', r) ∧ c' = c.put a k' ∧
      rec.calls = callsOf a r.outgoing := by
  unfold enter at h
  split at h
  · cases h
  · rename_i k hk
    simp only [bind_eq_ok_iff, mapError_eq_ok_iff, pure_eq_ok_iff] at h
    obtain ⟨⟨k', r⟩, hrun, h⟩ := h
    cases h
    exact ⟨k, k', r, hk, hrun, rfl, rfl⟩

theorem performs_of_perform {c c' : Chain σ} {call : Call} {records : List Record}
    {next : List Call} (h : c.perform call = .ok (c', records, next)) :
    Performs c call c' next := by
  cases call with
  | execute sender b message funds =>
    simp only [perform, execute, bind_eq_ok_iff, require_eq_ok_iff, exists_const,
      pure_eq_ok_iff] at h
    obtain ⟨⟨_, rec⟩, ⟨-, c₁, paid, hent⟩, h⟩ := h
    obtain ⟨k, k', r, found, entered, rfl, hcalls⟩ := enter_eq_ok hent
    cases h
    rw [hcalls]
    rw [contract?_of_payAll paid] at found
    exact .execute found paid entered
  | reply b id =>
    simp only [perform, reply, bind_eq_ok_iff, require_eq_ok_iff, exists_const,
      pure_eq_ok_iff] at h
    obtain ⟨⟨_, rec⟩, ⟨-, hent⟩, h⟩ := h
    obtain ⟨k, k', r, found, heard, rfl, hcalls⟩ := enter_eq_ok hent
    cases h
    rw [hcalls]
    exact .reply found heard
  | send sender recipient coins =>
    simp only [perform, bind_eq_ok_iff, pure_eq_ok_iff] at h
    obtain ⟨c₁, paid, h⟩ := h
    cases h
    exact .send paid

/-! ## Calls to their end -/

/-- A call, and the chain that it meets. -/
structure Moment (σ : Type) where
  chain : Chain σ
  call : Call

/-- Calls are worked off, the first one first, each with all that follows from it. The trace lists
    every call that is carried out on the way. -/
inductive Runs : Chain σ → List Call → List (Moment σ) → Chain σ → Prop where
  | done {c : Chain σ} : Runs c [] [] c
  | step {c c₁ c' : Chain σ} {call : Call} {next rest : List Call} {trace : List (Moment σ)}
      (performs : Performs c call c₁ next) (runs : Runs c₁ (next ++ rest) trace c') :
      Runs c (call :: rest) (⟨c, call⟩ :: trace) c'

/-- The calls that are carried out within a limit, each with the chain that it meets. -/
def trace : Nat → Chain σ → List Call → List (Moment σ)
  | _, _, [] => []
  | 0, _, _ :: _ => []
  | limit + 1, c, call :: rest =>
    ⟨c, call⟩ :: match c.perform call with
      | .ok (c₁, _, next) => trace limit c₁ (next ++ rest)
      | .error _ => []

/-- What every call keeps of a chain is there at every call of a transaction. -/
theorem chain_of_mem_trace {K : Chain σ → Prop}
    (step : ∀ {c c' call next}, Performs c call c' next → K c → K c') {limit : Nat}
    {c : Chain σ} {calls : List Call} (hc : K c) {m : Moment σ}
    (hm : m ∈ trace limit c calls) : K m.chain := by
  induction limit generalizing c calls with
  | zero => cases calls <;> cases hm
  | succ limit ih =>
    cases calls with
    | nil => cases hm
    | cons call rest =>
      rw [trace] at hm
      rcases List.mem_cons.1 hm with rfl | hm
      · exact hc
      · split at hm
        · rename_i hperform
          exact ih (step (performs_of_perform hperform) hc) hm
        · cases hm

/-- What completes within the limit runs as `Runs` says. -/
theorem runs_of_run {limit : Nat} {c c' : Chain σ} {calls : List Call} {records : List Record}
    (h : run limit c calls = .ok (c', records)) : Runs c calls (trace limit c calls) c' := by
  induction limit generalizing c calls records with
  | zero =>
    cases calls with
    | nil =>
      cases h
      exact .done
    | cons call rest => cases h
  | succ limit ih =>
    cases calls with
    | nil =>
      cases h
      exact .done
    | cons call rest =>
      simp only [run, bind_eq_ok_iff, pure_eq_ok_iff] at h
      obtain ⟨⟨c₁, rs, next⟩, hperform, ⟨c₂, later⟩, hrun, h⟩ := h
      cases h
      simp only [trace, hperform]
      exact .step (performs_of_perform hperform) (ih hrun)

/-- Every call of a run is carried out. -/
theorem Runs.performs_of_mem {c c' : Chain σ} {calls : List Call} {tr : List (Moment σ)}
    (h : Runs c calls tr c') {m : Moment σ} (hm : m ∈ tr) :
    ∃ d next, Performs m.chain m.call d next := by
  induction h with
  | done => cases hm
  | step performs runs ih =>
    rcases List.mem_cons.1 hm with rfl | hm
    · exact ⟨_, _, performs⟩
    · exact ih hm

/-- Calls in a row run to their end one after the other. -/
theorem Runs.of_append {c c' : Chain σ} {first second : List Call} {tr : List (Moment σ)}
    (h : Runs c (first ++ second) tr c') :
    ∃ d tr₁ tr₂, Runs c first tr₁ d ∧ Runs d second tr₂ c' ∧ tr = tr₁ ++ tr₂ := by
  -- the induction is on the run, for whatever way its calls fall into two parts
  generalize hcalls : first ++ second = calls at h
  induction h generalizing first with
  | done =>
    obtain ⟨rfl, rfl⟩ := List.append_eq_nil_iff.1 hcalls
    exact ⟨_, [], [], .done, .done, rfl⟩
  | @step c c₁ c' call next rest tr performs runs ih =>
    cases first with
    | nil =>
      subst hcalls
      exact ⟨c, [], _, .done, .step performs runs, rfl⟩
    | cons head tail =>
      obtain ⟨rfl, rfl⟩ := List.cons_eq_cons.1 hcalls
      obtain ⟨d, tr₁, tr₂, hfirst, hsecond, rfl⟩ := ih (List.append_assoc next tail second)
      exact ⟨d, _, tr₂, .step performs hfirst, hsecond, rfl⟩

/-- A payment is all that comes of a call to make it. -/
theorem Runs.payAll_eq_ok {c c' : Chain σ} {payer payee : Address} {coins : List Coin}
    {tr : List (Moment σ)} (h : Runs c [.send payer payee coins] tr c') :
    c.payAll payer payee coins = .ok c' := by
  cases h with
  | step performs runs =>
    cases performs with
    | send paid =>
      cases runs
      exact paid

/-! ## Time -/

/-- No call takes time. -/
theorem Performs.now_eq {c c' : Chain σ} {call : Call} {next : List Call}
    (h : Performs c call c' next) : c'.now = c.now := by
  cases h with
  | execute found paid entered => exact (frame_of_payAll paid).2
  | reply found heard => rfl
  | send paid => exact (frame_of_payAll paid).2

theorem Runs.now_eq {c c' : Chain σ} {calls : List Call} {tr : List (Moment σ)}
    (h : Runs c calls tr c') : c'.now = c.now := by
  induction h with
  | done => rfl
  | step performs runs ih => rw [ih, performs.now_eq]

/-! ## Transactions in a row -/

/-- An action that somebody outside takes at a time. -/
structure Transaction where
  time : Seconds
  sender : Address
  action : Action

/-- The call with which a transaction begins. -/
def Transaction.call (t : Transaction) : Call :=
  .ofAction t.sender t.action

/-- The chain at the time of a transaction. -/
def atTime (c : Chain σ) (now : Seconds) : Chain σ :=
  { c with now }

/-- The chain after a transaction. One that fails is undone whole. -/
def after (c : Chain σ) (t : Transaction) : Chain σ :=
  match (c.atTime t.time).transact t.call with
  | .ok (c', _) => c'
  | .error _ => c.atTime t.time

/-- The chain after transactions, one after the other. -/
def afterAll (c : Chain σ) (ts : List Transaction) : Chain σ :=
  ts.foldl after c

/-- The calls that a transaction carries out, none if it fails. -/
def traceOf (c : Chain σ) (t : Transaction) : List (Moment σ) :=
  match (c.atTime t.time).transact t.call with
  | .ok _ => trace callLimit (c.atTime t.time) [t.call]
  | .error _ => []

/-- The calls that transactions carry out, one after the other. -/
def traceAll (c : Chain σ) : List Transaction → List (Moment σ)
  | [] => []
  | t :: ts => c.traceOf t ++ (c.after t).traceAll ts

/-- A transaction either completes or leaves no trace but the time. -/
theorem runs_or_eq_of_after (c : Chain σ) (t : Transaction) :
    Runs (c.atTime t.time) [t.call] (c.traceOf t) (c.after t) ∨
      (c.after t = c.atTime t.time ∧ c.traceOf t = []) := by
  unfold after traceOf
  cases h : (c.atTime t.time).transact t.call with
  | ok x => exact .inl (runs_of_run h)
  | error e => exact .inr ⟨rfl, rfl⟩

/-- After a transaction it is the time of the transaction. -/
theorem now_after (c : Chain σ) (t : Transaction) : (c.after t).now = t.time := by
  rcases runs_or_eq_of_after c t with hruns | ⟨heq, -⟩
  · exact hruns.now_eq
  · rw [heq]
    rfl

/-- After transactions it is the time of one of them, if there were any. -/
theorem now_afterAll_mem (c : Chain σ) (ts : List Transaction) :
    (c.afterAll ts).now ∈ c.now :: ts.map Transaction.time := by
  induction ts generalizing c with
  | nil => exact List.mem_singleton_self _
  | cons t rest ih =>
    have hmem := ih (c.after t)
    rw [now_after] at hmem
    exact List.mem_cons_of_mem _ hmem

/-! ## What every call keeps -/

section Keeps

variable {K : Chain σ → Prop} {c c' : Chain σ}
  (step : ∀ {c c' call next}, Performs c call c' next → K c → K c')
  (time : ∀ {c} now, K c → K (c.atTime now))

include step

theorem Runs.keeps {calls : List Call} {tr : List (Moment σ)} (h : Runs c calls tr c') (hc : K c) :
    K c' := by
  induction h with
  | done => exact hc
  | step performs runs ih => exact ih (step performs hc)

include time

/-- What every call keeps, whatever the time, is there after a transaction, -/
theorem after_keeps (hc : K c) (t : Transaction) : K (c.after t) := by
  rcases runs_or_eq_of_after c t with hruns | ⟨heq, -⟩
  · exact hruns.keeps step (time t.time hc)
  · rw [heq]
    exact time t.time hc

/-- and after all transactions. -/
theorem afterAll_keeps (hc : K c) (ts : List Transaction) : K (c.afterAll ts) := by
  induction ts generalizing c with
  | nil => exact hc
  | cons t rest ih => exact ih (after_keeps step time hc t)

end Keeps

end Stablecoin.Chain
