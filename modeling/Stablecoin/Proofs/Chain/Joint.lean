import Stablecoin.Proofs.Account.Step
import Stablecoin.Proofs.Backend
import Stablecoin.Proofs.Chain.Run
import Stablecoin.Proofs.Ledger.Step

set_option autoImplicit false

/-! # An account and its ledger on a chain

`Joint` says that an account stands at an address and the ledger that it deals with stands where the
account takes it to be. Whatever call is carried out next, and whatever else stands on the chain,
the two are still there after it, and `Effect` says what may have become of them. -/

namespace Stablecoin

/-! ## Entries into contracts of this library -/

namespace Contract

variable {σ : Type} {env : Env} {sender : Address} {funds : List Coin} {message : Json}
  {k : Contract σ} {r : Response}

theorem ofLedger_eq_ok {x : Except Ledger.Error (Ledger × Response)}
    (h : (ofLedger x : Except Error (Contract σ × Response)) = .ok (k, r)) :
    ∃ l, x = .ok (l, r) ∧ k = .ledger l := by
  simp only [ofLedger, map_eq_ok_iff, mapError_eq_ok_iff] at h
  obtain ⟨⟨l, r'⟩, hx, h⟩ := h
  cases h
  exact ⟨l, hx, rfl⟩

theorem ofAccount_eq_ok {x : Except Account.Error (Account × Response)}
    (h : (ofAccount x : Except Error (Contract σ × Response)) = .ok (k, r)) :
    ∃ a, x = .ok (a, r) ∧ k = .account a := by
  simp only [ofAccount, map_eq_ok_iff, mapError_eq_ok_iff] at h
  obtain ⟨⟨a, r'⟩, hx, h⟩ := h
  cases h
  exact ⟨a, hx, rfl⟩

theorem ofOutside_eq_ok {x : Except Outside.Error (σ × Response)}
    (h : (ofOutside x : Except Error (Contract σ × Response)) = .ok (k, r)) :
    ∃ s, x = .ok (s, r) ∧ k = .outside s := by
  simp only [ofOutside, map_eq_ok_iff, mapError_eq_ok_iff] at h
  obtain ⟨⟨s, r'⟩, hx, h⟩ := h
  cases h
  exact ⟨s, hx, rfl⟩

variable [Outside σ]

theorem execute_ledger {l : Ledger} {m : Ledger.Message}
    (decoded : Ledger.Message.ofJson? message = some m) :
    (Contract.ledger l : Contract σ).execute env sender funds message
      = ofLedger (l.execute env sender m) := by
  simp only [execute, decoded]
  rfl

theorem execute_account {a : Account} {m : Account.Message}
    (decoded : Account.Message.ofJson? message = some m) :
    (Contract.account a : Contract σ).execute env sender funds message
      = ofAccount (a.execute env sender m) := by
  simp only [execute, decoded]
  rfl

theorem query_ledger {l : Ledger} {q : Json} {lq : Ledger.Query}
    (decoded : Ledger.Query.ofJson? q = some lq) :
    (Contract.ledger l : Contract σ).query env q = (l.query env lq).mapError .fault := by
  simp only [query, decoded]
  rfl

theorem query_account {a : Account} {q : Json} {aq : Account.Query}
    (decoded : Account.Query.ofJson? q = some aq) :
    (Contract.account a : Contract σ).query env q = (a.query env aq).mapError .fault := by
  simp only [query, decoded]
  rfl

/-- A ledger that is entered does what it does with the message that it reads. -/
theorem step_of_execute_ledger {l : Ledger}
    (h : (Contract.ledger l : Contract σ).execute env sender funds message = .ok (k, r)) :
    ∃ m l', Ledger.Message.ofJson? message = some m ∧ l.Step env sender m l' r.outgoing ∧
      k = .ledger l' := by
  simp only [execute, bind_eq_ok_iff, liftM, monadLift_eq_ok_iff, orMalformed_eq_ok_iff] at h
  obtain ⟨m, hm, h⟩ := h
  obtain ⟨l', hl, rfl⟩ := ofLedger_eq_ok h
  exact ⟨m, l', hm, Ledger.step_of_execute hl, rfl⟩

/-- An account that is entered does what it does with the message that it reads. -/
theorem step_of_execute_account {a : Account}
    (h : (Contract.account a : Contract σ).execute env sender funds message = .ok (k, r)) :
    ∃ m a', Account.Message.ofJson? message = some m ∧ a.Step env sender m a' r.outgoing ∧
      k = .account a' := by
  simp only [execute, bind_eq_ok_iff, liftM, monadLift_eq_ok_iff, orMalformed_eq_ok_iff] at h
  obtain ⟨m, hm, h⟩ := h
  obtain ⟨a', ha, rfl⟩ := ofAccount_eq_ok h
  exact ⟨m, a', hm, Account.step_of_execute ha, rfl⟩

theorem hears_of_reply_account {a : Account} {id : Nat}
    (h : (Contract.account a : Contract σ).reply env id = .ok (k, r)) :
    ∃ a', a.Hears env id a' r.outgoing ∧ k = .account a' := by
  obtain ⟨a', ha, rfl⟩ := ofAccount_eq_ok h
  exact ⟨a', Account.hears_of_reply ha, rfl⟩

end Contract

namespace Chain

variable {σ : Type}

/-- Who is behind a call: the sender, or the one whose action is done. -/
def Call.issuer : Call → Address
  | .execute sender _ _ _ => sender
  | .reply contract _ => contract
  | .send sender _ _ => sender

/-- A contract is behind every call that it makes. -/
theorem issuer_of_mem_callsOf {b : Address} {out : List Outgoing} {call : Call}
    (h : call ∈ callsOf b out) : call.issuer = b := by
  obtain ⟨o, -, hcall⟩ := List.mem_flatMap.1 h
  unfold Call.ofOutgoing at hcall
  rcases List.mem_cons.1 hcall with rfl | hreply
  · cases o.action <;> rfl
  · split at hreply
    · rw [List.mem_singleton.1 hreply]; rfl
    · cases hreply

/-- An account stands at an address, and its ledger where the account takes it to be. -/
structure Joint (c : Chain σ) (home : Address) (a : Account) (l : Ledger) : Prop where
  account : c.contract? home = some (.account a)
  ledger : c.contract? a.config.ledger = some (.ledger l)

namespace Joint

variable {c c' : Chain σ} {self : Address} {a a' : Account} {l l' : Ledger}

/-- An account is not its own ledger. -/
theorem self_ne_ledger (h : Joint c self a l) : self ≠ a.config.ledger := by
  intro heq
  have hledger := h.ledger
  rw [← heq, h.account] at hledger
  cases hledger

theorem congr (h : Joint c self a l) (hc : ∀ b, c'.contract? b = c.contract? b) :
    Joint c' self a l :=
  ⟨by rw [hc, h.account], by rw [hc, h.ledger]⟩

theorem atTime (h : Joint c self a l) (now : Seconds) : Joint (c.atTime now) self a l :=
  h.congr fun _ => rfl

theorem put_account (h : Joint c self a l) (hconfig : a'.config = a.config) :
    Joint (c.put self (.account a')) self a' l := by
  refine ⟨contract?_put_self c self _, ?_⟩
  rw [hconfig, contract?_put_of_ne c _ h.self_ne_ledger, h.ledger]

theorem put_ledger (h : Joint c self a l) :
    Joint (c.put a.config.ledger (.ledger l')) self a l' :=
  ⟨by rw [contract?_put_of_ne c _ h.self_ne_ledger.symm, h.account], contract?_put_self c _ _⟩

theorem put_other (h : Joint c self a l) {b : Address} {k : Contract σ}
    (other : b ≠ self ∧ b ≠ a.config.ledger) : Joint (c.put b k) self a l :=
  ⟨by rw [contract?_put_of_ne c _ other.1, h.account],
    by rw [contract?_put_of_ne c _ other.2, h.ledger]⟩

end Joint

variable [Outside σ]

/-- What a call may do to an account and its ledger, and what calls may follow from it. -/
inductive Effect (c : Chain σ) (self : Address) (a : Account) (l : Ledger) :
    Call → Account → Ledger → List Call → Prop where
  | account {sender : Address} {message : Json} {funds : List Coin} {c₁ : Chain σ}
      {m : Account.Message} {a' : Account} {out : List Outgoing}
      (paid : c.payAll sender self funds = .ok c₁)
      (decoded : Account.Message.ofJson? message = some m)
      (step : a.Step (c₁.env self) sender m a' out) :
      Effect c self a l (.execute sender self message funds) a' l (callsOf self out)
  | hears {id : Nat} {a' : Account} {out : List Outgoing} (hears : a.Hears (c.env self) id a' out) :
      Effect c self a l (.reply self id) a' l (callsOf self out)
  | ledger {sender : Address} {message : Json} {funds : List Coin} {c₁ : Chain σ}
      {m : Ledger.Message} {l' : Ledger} {out : List Outgoing}
      (paid : c.payAll sender a.config.ledger funds = .ok c₁)
      (decoded : Ledger.Message.ofJson? message = some m)
      (step : l.Step (c₁.env a.config.ledger) sender m l' out) :
      Effect c self a l (.execute sender a.config.ledger message funds) a l'
        (callsOf a.config.ledger out)
  | elsewhere {sender b : Address} {message : Json} {funds : List Coin} {out : List Outgoing}
      (other : b ≠ self ∧ b ≠ a.config.ledger) :
      Effect c self a l (.execute sender b message funds) a l (callsOf b out)
  | hearsElsewhere {b : Address} {id : Nat} {out : List Outgoing}
      (other : b ≠ self ∧ b ≠ a.config.ledger) :
      Effect c self a l (.reply b id) a l (callsOf b out)
  | send {sender recipient : Address} {coins : List Coin} :
      Effect c self a l (.send sender recipient coins) a l []

/-- An account that is told something reads a message and does its step. -/
theorem Joint.performs_account {c c' : Chain σ} {self sender : Address} {a : Account} {l : Ledger}
    {message : Json} {funds : List Coin} {next : List Call} (h : Joint c self a l)
    (hp : Performs c (.execute sender self message funds) c' next) :
    ∃ c₁ m a' out, c.payAll sender self funds = .ok c₁ ∧
      Account.Message.ofJson? message = some m ∧ a.Step (c₁.env self) sender m a' out ∧
      c' = c₁.put self (.account a') ∧ next = callsOf self out := by
  cases hp with
  | execute found paid entered =>
    rw [h.account] at found
    cases found
    obtain ⟨m, a', decoded, step, rfl⟩ := Contract.step_of_execute_account entered
    exact ⟨_, m, a', _, paid, decoded, step, rfl, rfl⟩

/-- So does a ledger. -/
theorem Joint.performs_ledger {c c' : Chain σ} {self sender : Address} {a : Account} {l : Ledger}
    {message : Json} {funds : List Coin} {next : List Call} (h : Joint c self a l)
    (hp : Performs c (.execute sender a.config.ledger message funds) c' next) :
    ∃ c₁ m l' out, c.payAll sender a.config.ledger funds = .ok c₁ ∧
      Ledger.Message.ofJson? message = some m ∧
      l.Step (c₁.env a.config.ledger) sender m l' out ∧
      c' = c₁.put a.config.ledger (.ledger l') ∧ next = callsOf a.config.ledger out := by
  cases hp with
  | execute found paid entered =>
    rw [h.ledger] at found
    cases found
    obtain ⟨m, l', decoded, step, rfl⟩ := Contract.step_of_execute_ledger entered
    exact ⟨_, m, l', _, paid, decoded, step, rfl, rfl⟩

/-- Any call leaves an account and its ledger in place, and does to them what `Effect` says. -/
theorem Joint.performs {c c' : Chain σ} {self : Address} {a : Account} {l : Ledger} {call : Call}
    {next : List Call} (h : Joint c self a l) (hp : Performs c call c' next) :
    ∃ a' l', Joint c' self a' l' ∧ Effect c self a l call a' l' next := by
  cases call with
  | execute sender b message funds =>
    by_cases hself : b = self
    · subst hself
      obtain ⟨c₁, m, a', out, paid, decoded, step, rfl, rfl⟩ := h.performs_account hp
      have h₁ := h.congr (contract?_of_payAll paid)
      exact ⟨a', l, h₁.put_account step.config_eq, .account paid decoded step⟩
    · by_cases hledger : b = a.config.ledger
      · subst hledger
        obtain ⟨c₁, m, l', out, paid, decoded, step, rfl, rfl⟩ := h.performs_ledger hp
        have h₁ := h.congr (contract?_of_payAll paid)
        exact ⟨a, l', h₁.put_ledger, .ledger paid decoded step⟩
      · cases hp with
        | execute found paid entered =>
          have h₁ := h.congr (contract?_of_payAll paid)
          exact ⟨a, l, h₁.put_other ⟨hself, hledger⟩, .elsewhere ⟨hself, hledger⟩⟩
  | reply b id =>
    cases hp with
    | reply found heard =>
      by_cases hself : b = self
      · subst hself
        rw [h.account] at found
        cases found
        obtain ⟨a', hears, rfl⟩ := Contract.hears_of_reply_account heard
        exact ⟨a', l, h.put_account hears.config_eq, .hears hears⟩
      · by_cases hledger : b = a.config.ledger
        · -- a ledger listens to no reply
          subst hledger
          rw [h.ledger] at found
          cases found
          cases heard
        · exact ⟨a, l, h.put_other ⟨hself, hledger⟩, .hearsElsewhere ⟨hself, hledger⟩⟩
  | send sender recipient coins =>
    cases hp with
    | send paid => exact ⟨a, l, h.congr (contract?_of_payAll paid), .send⟩

/-- No call changes whom an account deals with. -/
theorem Effect.config_eq {c : Chain σ} {self : Address} {a a' : Account} {l l' : Ledger}
    {call : Call}
    {next : List Call} (e : Effect c self a l call a' l' next) : a'.config = a.config := by
  cases e with
  | account paid decoded step => exact step.config_eq
  | hears hears => exact hears.config_eq
  | _ => rfl

/-- Risk parameters that pass the check are only replaced by such as do. -/
theorem Effect.risk_check {c : Chain σ} {self : Address} {a a' : Account} {l l' : Ledger}
    {call : Call} {next : List Call} (e : Effect c self a l call a' l' next)
    (checked : a.risk.check = .ok ()) : a'.risk.check = .ok () := by
  cases e with
  | account paid decoded step => exact step.risk_check checked
  | hears hears => exact hears.risk_check checked
  | _ => exact checked

/-- What an account tells its ledger, the ledger does, before anything else happens. -/
theorem Joint.runs_tellLedger {c d : Chain σ} {self : Address} {a : Account} {l : Ledger}
    {tr : List (Moment σ)} {message : Json} {m : Ledger.Message} {rest : List Call}
    (h : Joint c self a l) (decoded : Ledger.Message.ofJson? message = some m)
    (quiet : ∀ contract amount payload, m ≠ .send contract amount payload)
    (hr : Runs c (Call.ofAction self (a.tellLedger message) :: rest) tr d) :
    ∃ l' tr', tr = ⟨c, .ofAction self (a.tellLedger message)⟩ :: tr' ∧
      l.Step (c.env a.config.ledger) self m l' [] ∧
      Runs (c.put a.config.ledger (.ledger l')) rest tr' d := by
  cases hr with
  | step performs runs =>
    obtain ⟨c₁, m', l', out, paid, decoded', step, rfl, rfl⟩ := h.performs_ledger performs
    cases paid
    cases decoded.symm.trans decoded'
    cases step.out_eq_nil quiet
    exact ⟨l', _, rfl, step, runs⟩

/-! ## What every call keeps -/

section Along

variable {c c' : Chain σ} {self : Address} {a : Account} {l : Ledger}
  {P : Account → Ledger → Prop} {K Q : Moment σ → Prop} {ledger : Address}
  (step : ∀ {c a l call a' l' next}, Joint c self a l → Effect c self a l call a' l' next →
    a.config.ledger = ledger → K ⟨c, call⟩ → P a l → P a' l' ∧ Q ⟨c, call⟩)

include step

/-- What every call keeps, if it meets one condition, and what every call then meets besides, is
    kept and met along every run whose calls all meet the condition. -/
theorem Joint.runs_along {calls : List Call} {tr : List (Moment σ)} (h : Joint c self a l)
    (hledger : a.config.ledger = ledger) (hP : P a l) (hr : Runs c calls tr c')
    (hK : ∀ m ∈ tr, K m) :
    (∃ a' l', Joint c' self a' l' ∧ a'.config = a.config ∧ P a' l') ∧ ∀ m ∈ tr, Q m := by
  induction hr generalizing a l with
  | done => exact ⟨⟨a, l, h, rfl, hP⟩, fun m hm => by cases hm⟩
  | @step c c₁ c' call next rest tr performs runs ih =>
    obtain ⟨a₁, l₁, h₁, effect⟩ := h.performs performs
    obtain ⟨hP₁, hQ⟩ := step h effect hledger (hK _ (List.mem_cons_self ..)) hP
    have hconfig₁ := effect.config_eq
    obtain ⟨⟨a', l', h', hconfig, hP'⟩, hlater⟩ := ih h₁ (by rw [hconfig₁, hledger]) hP₁
      fun m hm => hK m (List.mem_cons_of_mem _ hm)
    refine ⟨⟨a', l', h', hconfig.trans hconfig₁, hP'⟩, fun m hm => ?_⟩
    rcases List.mem_cons.1 hm with rfl | hm
    · exact hQ
    · exact hlater m hm

/-- So it is along every row of transactions. -/
theorem Joint.afterAll_along (h : Joint c self a l) (hledger : a.config.ledger = ledger)
    (hP : P a l) {ts : List Transaction} (hK : ∀ m ∈ c.traceAll ts, K m) :
    (∃ a' l', Joint (c.afterAll ts) self a' l' ∧ a'.config = a.config ∧ P a' l') ∧
      ∀ m ∈ c.traceAll ts, Q m := by
  induction ts generalizing c a l with
  | nil => exact ⟨⟨a, l, h, rfl, hP⟩, fun m hm => by cases hm⟩
  | cons t rest ih =>
    have htime := h.atTime t.time
    have hfirst : (∃ a' l', Joint (c.after t) self a' l' ∧ a'.config = a.config ∧ P a' l') ∧
        ∀ m ∈ c.traceOf t, Q m := by
      rcases runs_or_eq_of_after c t with hruns | ⟨hafter, htrace⟩
      · exact htime.runs_along step hledger hP hruns fun m hm => hK m (List.mem_append_left _ hm)
      · rw [hafter, htrace]
        exact ⟨⟨a, l, htime, rfl, hP⟩, fun m hm => by cases hm⟩
    obtain ⟨⟨a₁, l₁, h₁, hconfig₁, hP₁⟩, hQ₁⟩ := hfirst
    obtain ⟨⟨a', l', h', hconfig, hP'⟩, hQ'⟩ := ih h₁ (by rw [hconfig₁, hledger]) hP₁
      fun m hm => hK m (List.mem_append_right _ hm)
    refine ⟨⟨a', l', h', hconfig.trans hconfig₁, hP'⟩, fun m hm => ?_⟩
    rcases List.mem_append.1 hm with hm | hm
    · exact hQ₁ m hm
    · exact hQ' m hm

end Along

/-! ## A small chain -/

/-- A ledger that "owner" governs, without venue and policy. -/
def sampleLedger (price supply : Amount) (minters : Table Address Ledger.Minter)
    (balances : Holdings Address) (allowances : Ledger.Allowances) : Ledger where
  config := {
    owner := "owner", treasury := "owner", balancer := none, collateralAgency := "owner"
    venue := none, policy := none, paused := false, arbSpread := 0
    currentPrice := price, nextPrice := price, periodStart := 0, periodLength := 604800
    interestRate := 0, stepValue := 2500 }
  token := { name := "Stable", symbol := "STB", decimals := 6, supply }
  registry := []
  minters
  balances
  allowances
  nominee := none

/-- An account of "borrower" on the ledger at "ledger", with a backend at "backend". -/
def sampleAccount (minEquityRatio liquidatorDiscount : Ratio) (borrowed : Amount) : Account where
  config := {
    name := "account", ledger := "ledger", borrower := "borrower", backend := "backend"
    venue := "venue", quoteDenom := "uquote" }
  risk := {
    Account.RiskConfig.zero with
    minEquityRatio, liquidatorDiscount, maxBorrow := .ofNat 1000000 }
  position := { borrowed, accruedFee := 0, checkpoint := 0, statedValue := none, paused := false }
  swap := none
  divest := none

/-- The two on a chain, with a backend that pays back what it took in. -/
def sampleChain (l : Ledger) (a : Account) (deposits : Holdings Address)
    (bank : Holdings (Address × String)) : Chain Collaborator where
  now := 0
  contracts :=
    ((Table.empty.insert "ledger" (.ledger l)).insert "account" (.account a)).insert "backend"
      (.outside (Collaborator.fairBackend "uquote" deposits))
  bank

theorem joint_sampleChain (l : Ledger) {minEquityRatio liquidatorDiscount : Ratio}
    {borrowed : Amount} (deposits : Holdings Address) (bank : Holdings (Address × String)) :
    Joint (sampleChain l (sampleAccount minEquityRatio liquidatorDiscount borrowed) deposits bank)
      "account" (sampleAccount minEquityRatio liquidatorDiscount borrowed) l :=
  ⟨rfl, rfl⟩

/-- A message to a contract, without funds. -/
def order (contract : Address) (tag : String) (fields : List (String × Json)) : Action :=
  .execute contract (.tagged tag fields) []

end Chain

end Stablecoin
