import Stablecoin.Chain.Collaborator
import Stablecoin.Proofs.Chain.Joint
import Stablecoin.Proofs.Chain.Questions
import Stablecoin.Proofs.Chain.SideBySide

set_option autoImplicit false

/-! # Chains that differ in what is only kept

Two chains side by side, on which accounts may have different notes and ledgers different rates
(`Similar`). Whoever asks for these gets different answers, and to every other question both chains
give the same answer (`alike_env`). Contracts of this library make nothing of the difference,
and contracts from outside are assumed to make nothing of it either (`Contract.Indifferent`). So at
the same time every contract does the same on both (`sameButKept_simulation`). Accounts that are set
up with different notes lead from such chains to such chains, too (`inStep_setUp`). -/

namespace Stablecoin

/-! ## What can be seen of it -/

/-- Two answers are the same but for what ledgers and accounts only keep. -/
inductive SameAnswer : Json → Json → Prop where
  | same (j : Json) : SameAnswer j j
  | config {c c' : Ledger.Config} (h : c'.stripped = c.stripped) : SameAnswer c.toJson c'.toJson
  | risk {r r' : Account.RiskConfig} (h : r'.stripped = r.stripped) : SameAnswer r.toJson r'.toJson

/-- The question is the one for a configuration or the one for risk parameters. -/
def Json.AsksKept (q : Json) : Prop :=
  Ledger.Query.ofJson? q = some .config ∨ Account.Query.ofJson? q = some .riskConfig

/-- What two contracts see that are entered at the same address on two chains that differ in what
    ledgers and accounts only keep. -/
structure Env.Alike (env env' : Env) : Prop where
  here : env'.self = env.self
  now : env'.now = env.now
  bank : env'.querier.bankBalance = env.querier.bankBalance
  ask (b : Address) (q : Json) : InStep SameAnswer (env.querier.ask b q) (env'.querier.ask b q)
  ask_eq {q : Json} (other : ¬ q.AsksKept) (b : Address) :
    env'.querier.ask b q = env.querier.ask b q

namespace Env.Alike

variable {env env' : Env} (h : env.Alike env')

include h

theorem askFor_eq {α : Type} (decode : Json → Option α) (b : Address) {q : Json}
    (other : ¬ q.AsksKept) : env'.querier.askFor decode b q = env.querier.askFor decode b q := by
  rw [Querier.askFor, Querier.askFor, h.ask_eq other]

/-- Who asks for a configuration gets the same one but for the rates. -/
theorem askConfig_stripped (b : Address) :
    Ledger.Config.stripped <$> Ledger.askConfig env'.querier b
      = Ledger.Config.stripped <$> Ledger.askConfig env.querier b := by
  unfold Ledger.askConfig Querier.askFor
  have hask := h.ask b Ledger.configQuery
  generalize env.querier.ask b _ = x, env'.querier.ask b _ = x' at hask ⊢
  cases hask with
  | error => rfl
  | ok related =>
    cases related with
    | same j => rfl
    | config hc =>
      simp only [ok_bind, Ledger.Config.ofJson?_toJson]
      exact congrArg Except.ok hc
    | risk => rfl

/-- What a contract of this library asks shows nothing of the difference. -/
theorem agrees : env.Agrees env' where
  here := h.here
  now := h.now
  bank := h.bank
  askConfig := h.askConfig_stripped
  askTargetPrice _ := h.askFor_eq _ _ nofun
  askBalance _ _ := h.askFor_eq _ _ nofun
  askAssetValue _ _ := h.askFor_eq _ _ nofun
  askPrice _ := h.askFor_eq _ _ nofun
  askAllowed _ _ := h.askFor_eq _ _ nofun

end Env.Alike

/-! ## Contracts side by side -/

namespace Contract

variable {σ : Type} {k k' : Contract σ} {env env' : Env}

/-- The contract, with what ledgers and accounts only keep left blank. -/
def stripped : Contract σ → Contract σ
  | .ledger l => .ledger l.stripped
  | .account a => .account a.stripped
  | k => k

/-- Contracts that are the same then are two ledgers, two accounts, or the same contract. -/
theorem cases_of_stripped (h : k'.stripped = k.stripped) :
    (∃ l l', k = .ledger l ∧ k' = .ledger l' ∧ l'.stripped = l.stripped) ∨
      (∃ a a', k = .account a ∧ k' = .account a' ∧ a'.stripped = a.stripped) ∨ k' = k := by
  cases k <;> cases k' <;> simp_all [stripped]

theorem exists_ledger_of_stripped {l : Ledger} (h : k'.stripped = (ledger l).stripped) :
    ∃ l', k' = .ledger l' ∧ l'.stripped = l.stripped := by
  rcases cases_of_stripped h with ⟨_, l', ⟨⟩, rfl, hl⟩ | ⟨a, a', hk, -, -⟩ | rfl
  · exact ⟨l', rfl, hl⟩
  · cases hk
  · exact ⟨l, rfl, rfl⟩

theorem exists_account_of_stripped {a : Account} (h : k'.stripped = (account a).stripped) :
    ∃ a', k' = .account a' ∧ a'.stripped = a.stripped := by
  rcases cases_of_stripped h with ⟨l, l', hk, -, -⟩ | ⟨_, a', ⟨⟩, rfl, ha⟩ | rfl
  · cases hk
  · exact ⟨a', rfl, ha⟩
  · exact ⟨a, rfl, rfl⟩

/-- Two contracts are the same but for what ledgers and accounts only keep, and respond alike. -/
def Alike (x x' : Contract σ × Response) : Prop :=
  x'.1.stripped = x.1.stripped ∧ x'.2 = x.2

theorem inStep_ofLedger {x x' : Except Ledger.Error (Ledger × Response)}
    (h : InStep Ledger.Alike x x') :
    InStep Alike (ofLedger x : Except Error (Contract σ × Response)) (ofLedger x') := by
  refine (h.mapError Error.ledger).map ?_
  rintro _ _ ⟨hl, hr⟩
  exact ⟨congrArg Contract.ledger hl, hr⟩

theorem inStep_ofAccount {x x' : Except Account.Error (Account × Response)}
    (h : InStep Account.Alike x x') :
    InStep Alike (ofAccount x : Except Error (Contract σ × Response)) (ofAccount x') := by
  refine (h.mapError Error.account).map ?_
  rintro _ _ ⟨ha, hr⟩
  exact ⟨congrArg Contract.account ha, hr⟩

/-- The contract is asked for what it only keeps. -/
def Reveals : Contract σ → Json → Prop
  | .ledger _, q => Ledger.Query.ofJson? q = some .config
  | .account _, q => Account.Query.ofJson? q = some .riskConfig
  | _, _ => False

theorem Reveals.asksKept {q : Json} (h : k.Reveals q) : q.AsksKept := by
  cases k with
  | ledger l => exact .inl h
  | account a => exact .inr h
  | _ => cases h

variable [Outside σ]

/-- The contract does the same whatever ledgers and accounts only keep. -/
structure Indifferent (k : Contract σ) : Prop where
  execute {env env' : Env} (h : env.Alike env') (sender : Address) (funds : List Coin)
    (message : Json) : k.execute env' sender funds message = k.execute env sender funds message
  reply {env env' : Env} (h : env.Alike env') (id : Nat) : k.reply env' id = k.reply env id
  query {env env' : Env} (h : env.Alike env') (q : Json) : k.query env' q = k.query env q

/-- All contracts of this library are indifferent. -/
theorem indifferent (outside : ∀ s : σ, (Contract.outside s).Indifferent) (k : Contract σ) :
    k.Indifferent := by
  cases k with
  | outside s => exact outside s
  | _ =>
    exact ⟨fun h => h.agrees.execute_eq nofun, fun h => h.agrees.reply_eq nofun,
      fun h => h.agrees.query_eq nofun⟩

/-- Collaborators see nothing of the chain at all. -/
theorem indifferent_collaborator (s : Collaborator) : (Contract.outside s).Indifferent :=
  ⟨fun _ _ _ _ => rfl, fun _ _ => rfl, fun _ _ => rfl⟩

section InStep

variable (outside : ∀ s : σ, (Contract.outside s).Indifferent) (h : env.Alike env')

include outside h

/-- An account is told to take risk parameters that differ in the notes. -/
theorem inStep_configure {a : Account} {r r' : Account.RiskConfig} {message message' : Json}
    (ha : k'.stripped = (account a).stripped) (hr : r'.stripped = r.stripped)
    (decoded : Account.Message.ofJson? message = some (.configure r))
    (decoded' : Account.Message.ofJson? message' = some (.configure r')) (sender : Address)
    (funds : List Coin) :
    InStep (fun x x' => x'.1.stripped = x.1.stripped ∧ x.2.outgoing = [] ∧ x'.2.outgoing = [])
      ((account a : Contract σ).execute env sender funds message)
      (k'.execute env' sender funds message') := by
  obtain ⟨a', rfl, ha'⟩ := exists_account_of_stripped ha
  rw [(indifferent outside _).execute h, execute_account decoded, execute_account decoded']
  refine ((Account.inStep_configure ha' hr).mapError Error.account).map ?_
  rintro _ _ ⟨hb, hquiet⟩
  exact ⟨congrArg Contract.account hb, hquiet⟩

variable (hk : k'.stripped = k.stripped)

include hk

/-- Contracts that are the same but for what is only kept do the same. -/
theorem inStep_execute (sender : Address) (funds : List Coin) (message : Json) :
    InStep Alike (k.execute env sender funds message) (k'.execute env' sender funds message) := by
  rw [(indifferent outside k').execute h]
  rcases cases_of_stripped hk with ⟨l, l', rfl, rfl, hl⟩ | ⟨a, a', rfl, rfl, ha⟩ | rfl
  · exact .bind_same fun m => inStep_ofLedger (Ledger.inStep_execute hl)
  · exact .bind_same fun m => inStep_ofAccount (Account.inStep_execute ha)
  · exact .same _ fun x => ⟨rfl, rfl⟩

theorem inStep_reply (id : Nat) : InStep Alike (k.reply env id) (k'.reply env' id) := by
  rw [(indifferent outside k').reply h]
  rcases cases_of_stripped hk with ⟨l, l', rfl, rfl, hl⟩ | ⟨a, a', rfl, rfl, ha⟩ | rfl
  · exact .error
  · exact inStep_ofAccount (Account.inStep_reply ha id)
  · exact .same _ fun x => ⟨rfl, rfl⟩

/-- They answer alike unless they are asked for it, -/
theorem query_eq {q : Json} (hq : ¬ k.Reveals q) : k'.query env' q = k.query env q := by
  rw [(indifferent outside k').query h]
  rcases cases_of_stripped hk with ⟨l, l', rfl, rfl, hl⟩ | ⟨a, a', rfl, rfl, ha⟩ | rfl
  · cases decoded : Ledger.Query.ofJson? q with
    | none =>
      simp only [query, decoded]
      rfl
    | some lq =>
      have hother : lq ≠ .config := by
        rintro rfl
        exact hq decoded
      rw [query_ledger decoded, query_ledger decoded, Ledger.query_eq_of_stripped hl hother]
  · cases decoded : Account.Query.ofJson? q with
    | none =>
      simp only [query, decoded]
      rfl
    | some aq =>
      have hother : aq ≠ .riskConfig := by
        rintro rfl
        exact hq decoded
      rw [query_account decoded, query_account decoded, Account.query_eq_of_stripped ha hother]
  · rfl

/-- and then what they answer differs in that only. -/
theorem inStep_query (q : Json) : InStep SameAnswer (k.query env q) (k'.query env' q) := by
  by_cases hq : k.Reveals q
  · rw [(indifferent outside k').query h]
    rcases cases_of_stripped hk with ⟨l, l', rfl, rfl, hl⟩ | ⟨a, a', rfl, rfl, ha⟩ | rfl
    · rw [query_ledger hq, query_ledger hq]
      exact .ok (.config (congrArg Ledger.config hl))
    · rw [query_account hq, query_account hq]
      exact .ok (.risk (congrArg Account.risk ha))
    · exact .same _ .same
  · rw [query_eq outside h hk hq]
    exact .same _ .same

end InStep

end Contract

namespace Chain

/-! ## Chains side by side -/

variable {σ : Type}

/-- Two chains have the same money and, but for what ledgers and accounts only keep, the same
    contracts. -/
structure Similar (c c' : Chain σ) : Prop where
  bank : c'.bank = c.bank
  contracts (b : Address) :
    (c'.contract? b).map Contract.stripped = (c.contract? b).map Contract.stripped

/-- Two contracts are the same but for what ledgers and accounts only keep, at any time and
    anywhere. -/
def SameButKept (_ : Seconds) (_ : Address) (k k' : Contract σ) : Prop :=
  k'.stripped = k.stripped

variable {c c' d : Chain σ} {b sender : Address}

namespace Similar

theorem refl (c : Chain σ) : Similar c c :=
  ⟨rfl, fun _ => rfl⟩

theorem symm (h : Similar c c') : Similar c' c :=
  ⟨h.bank.symm, fun b => (h.contracts b).symm⟩

theorem trans (h : Similar c c') (h' : Similar c' d) : Similar c d :=
  ⟨h'.bank.trans h.bank, fun b => (h'.contracts b).trans (h.contracts b)⟩

/-- What stands at an address on the one stands there on the other. -/
theorem contract? (h : Similar c c') (b : Address) :
    (c.contract? b = none ∧ c'.contract? b = none) ∨
      ∃ k k', c.contract? b = some k ∧ c'.contract? b = some k' ∧ k'.stripped = k.stripped := by
  have hb := h.contracts b
  generalize c.contract? b = x, c'.contract? b = x' at hb ⊢
  cases x with
  | none => exact .inl ⟨rfl, Option.map_eq_none_iff.1 hb⟩
  | some k =>
    obtain ⟨k', rfl, hk⟩ := Option.map_eq_some_iff.1 hb
    exact .inr ⟨k, k', rfl, rfl, hk⟩

/-- At the same time similar chains are side by side, -/
theorem sideBySide (h : Similar c c') (now : Seconds) :
    SideBySide SameButKept (c.atTime now) (c'.atTime now) :=
  ⟨rfl, h.bank, h.contract?⟩

/-- and chains side by side are similar. -/
theorem of_sideBySide (h : SideBySide SameButKept c c') : Similar c c' := by
  refine ⟨h.bank, fun b => ?_⟩
  rcases h.contract? b with ⟨none, none'⟩ | ⟨k, k', stands, stands', hk⟩
  · rw [none, none']
  · rw [stands, stands']
    exact congrArg some hk

/-- A contract is replaced by one that is the same but for what it only keeps. -/
theorem put_of_stripped {k k' : Contract σ} (stands : c.contract? b = some k)
    (hk : k'.stripped = k.stripped) : Similar c (c.put b k') := by
  refine ⟨rfl, fun b' => ?_⟩
  by_cases hb : b = b'
  · subst hb
    rw [contract?_put_self, stands]
    exact congrArg some hk
  · rw [contract?_put_of_ne _ _ hb]

end Similar

variable [Outside σ]

/-- An account is set up on both, with parameters that may differ in the notes. -/
theorem inStep_setUp (h : SideBySide SameButKept c c') {s s' : Account.Setup}
    {message message' : Json} (decoded : Account.Setup.ofJson? message = some s)
    (decoded' : Account.Setup.ofJson? message' = some s') (same : s' = { s with risk := s'.risk })
    (hr : (s'.risk.getD .zero).stripped = (s.risk.getD .zero).stripped) (b sender : Address) :
    InStep (Alongside SameButKept) (c.setUp b .vacantAccount sender message)
      (c'.setUp b .vacantAccount sender message') := by
  have hput : SideBySide SameButKept (c.put b .vacantAccount) (c'.put b .vacantAccount) :=
    h.put (b := b) (rfl : (Contract.vacantAccount : Contract σ).stripped = _)
  have hsetUp : InStep Account.Alike (Account.setUp ((c.put b .vacantAccount).env b) s)
      (Account.setUp ((c'.put b .vacantAccount).env b) s') :=
    Account.inStep_setUp rfl hput.now same hr
  refine (hput.enter fun k k' stands hk => ?_).mono fun _ _ => Entered.alongside
  rw [contract?_put_self] at stands
  cases stands
  rcases Contract.cases_of_stripped hk with ⟨_, _, ⟨⟩, _⟩ | ⟨_, _, ⟨⟩, _⟩ | rfl
  simp only [Contract.setUp, decoded, decoded']
  exact Contract.inStep_ofAccount hsetUp

section Indifferent

variable (outside : ∀ s : σ, (Contract.outside s).Indifferent)

include outside

/-- Questions to any contract get the same answers, but for what is only kept. -/
theorem alike_ask (h : SideBySide SameButKept c c') (depth : Nat) (b : Address) :
    Env.Alike ⟨b, c.now, ⟨c.ask depth, c.balance⟩⟩ ⟨b, c'.now, ⟨c'.ask depth, c'.balance⟩⟩ := by
  induction depth generalizing b with
  | zero => exact ⟨rfl, h.now, h.balance_eq, fun _ _ => .error, fun _ _ => rfl⟩
  | succ depth ih =>
    refine ⟨rfl, h.now, h.balance_eq, fun b q => ?_, fun {q} other b => ?_⟩
    · show InStep SameAnswer (c.ask (depth + 1) b q) (c'.ask (depth + 1) b q)
      rw [ask, ask]
      rcases h.contract? b with ⟨none, none'⟩ | ⟨k, k', stands, stands', hk⟩
      · rw [none, none']
        exact .error
      · rw [stands, stands']
        exact (Contract.inStep_query outside (ih b) hk q).mapError _
    · show c'.ask (depth + 1) b q = c.ask (depth + 1) b q
      rw [ask, ask]
      rcases h.contract? b with ⟨none, none'⟩ | ⟨k, k', stands, stands', hk⟩
      · rw [none, none']
      · rw [stands, stands']
        exact congrArg (Except.mapError _)
          (Contract.query_eq outside (ih b) hk fun hq => other hq.asksKept)

theorem alike_env (h : SideBySide SameButKept c c') (b : Address) :
    (c.env b).Alike (c'.env b) :=
  alike_ask outside h queryDepth b

/-- So do questions from outside the chain. -/
theorem query_eq_of_sameButKept (h : SideBySide SameButKept c c') {q : Json}
    (hq : ∀ k ∈ c.contract? b, ¬ k.Reveals q) : c'.query b q = c.query b q := by
  rw [query, query]
  rcases h.contract? b with ⟨none, none'⟩ | ⟨k, k', stands, stands', hk⟩
  · rw [none, none']
  · rw [stands, stands']
    exact congrArg (Except.mapError _)
      (Contract.query_eq outside (alike_env outside h b) hk (hq k stands))

/-- And whatever contracts are told or hear, they do the same. -/
theorem sameButKept_simulation :
    Simulation (SameButKept : Seconds → Address → Contract σ → _ → Prop) where
  execute h hk := Contract.inStep_execute outside (alike_env outside h _) hk
  reply h hk := Contract.inStep_reply outside (alike_env outside h _) hk

end Indifferent

end Chain

end Stablecoin
