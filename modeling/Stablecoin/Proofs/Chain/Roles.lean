import Stablecoin.Proofs.Account.Roles
import Stablecoin.Proofs.Chain.Default
import Stablecoin.Proofs.Chain.Failures
import Stablecoin.Proofs.Chain.Progress
import Stablecoin.Proofs.Chain.View
import Stablecoin.Proofs.Ledger.Roles

set_option autoImplicit false

/-! # Whom an account obeys

An account reads the roles of its ledger each time that it is told something, so it follows the
ledger without delay: at every moment of every run it obeys those who hold the roles there and then,
and bars everybody else (`authority_follows_ledger`). A role moves only with a message to the ledger
that names it. The borrower never changes, nor does anything else that the account has on record of
whom it deals with. -/

namespace Stablecoin

namespace Account

/-- The field in which a ledger has the holder of a role. -/
def Role.field? : Role → Option Ledger.Config.Field
  | .borrower => none
  | .governance => some .owner
  | .agency => some .collateralAgency
  | .balancer => some .balancer

/-- A role moves only by a change of its field. -/
theorem Role.exists_field_of_moved {r : Role} {c : Config} {l l' : Ledger.Config} {who : Address}
    (moved : ¬ (r.HeldBy c l' who ↔ r.HeldBy c l who)) : ∃ f ∈ r.field?, ¬ l.Same l' f := by
  cases r with
  | borrower => exact absurd Iff.rfl moved
  | governance => exact ⟨.owner, rfl, fun same => moved (by rw [HeldBy, HeldBy, same])⟩
  | agency => exact ⟨.collateralAgency, rfl, fun same => moved (by rw [HeldBy, HeldBy, same])⟩
  | balancer => exact ⟨.balancer, rfl, fun same => moved (by rw [HeldBy, HeldBy, same])⟩

end Account

namespace Chain

open Account

variable {σ : Type} [Outside σ] {c d : Chain σ} {home sender : Address} {a a' : Account}
  {l l' : Ledger} {call : Call} {next : List Call}

/-- The fields that the ledger at an address may change as it is told something by a call. -/
def Call.fields (call : Call) (ledger : Address) : List Ledger.Config.Field :=
  match call with
  | .execute _ b message _ =>
    if b = ledger then ((Ledger.Message.ofJson? message).map Ledger.Message.fields).getD [] else []
  | _ => []

/-- The call may move a role of the ledger at an address. -/
def Call.Names (call : Call) (ledger : Address) (role : Role) : Prop :=
  ∃ f ∈ role.field?, f ∈ call.fields ledger

instance (call : Call) (ledger : Address) (role : Role) : Decidable (call.Names ledger role) :=
  inferInstanceAs (Decidable (∃ f ∈ _, f ∈ _))

/-- A role does not move unless the ledger is told a message that names it. -/
theorem Effect.names {role : Role} {config : Account.Config} {who : Address}
    (e : Effect c home a l call a' l' next)
    (moved : ¬ (role.HeldBy config l'.config who ↔ role.HeldBy config l.config who)) :
    call.Names a.config.ledger role := by
  obtain ⟨f, hf, changed⟩ := Role.exists_field_of_moved moved
  refine ⟨f, hf, ?_⟩
  cases e with
  | ledger paid decoded step =>
    rw [Call.fields, if_pos rfl, decoded]
    exact step.mem_fields changed
  | _ => exact absurd (l.config.same_refl f) changed

/-! ## Obedience at a moment -/

/-- The account at an address refuses everything that the sender tells it in a role, as far as it
    has been paid for: a call that comes on the way of a transaction, and a transaction that begins
    so. -/
def Bars (d : Chain σ) (home : Address) (r : Role) (sender : Address) : Prop :=
  ∀ ⦃message funds m d₁⦄, Account.Message.ofJson? message = some m → m.role? = some r →
    d.payAll sender home funds = .ok d₁ →
      d.execute sender home message funds = .error (.contract home (.account r.refusal)) ∧
      d.transact (.execute sender home message funds)
        = .error (.contract home (.account r.refusal))

/-- The account at an address obeys those who hold the roles, and nobody else in their place. -/
structure Obeys (d : Chain σ) (home : Address) (c : Account.Config) (l : Ledger.Config) : Prop where
  /-- The check of the role fails just for those who do not hold it. -/
  refuses_iff {r : Role} {sender : Address} {message : Json} {funds : List Coin}
    {m : Account.Message} {d₁ : Chain σ} (decoded : Account.Message.ofJson? message = some m)
    (forRole : m.role? = some r) (paid : d.payAll sender home funds = .ok d₁) :
    d.execute sender home message funds = .error (.contract home (.account r.refusal)) ↔
      ¬ r.HeldBy c l sender
  bars {r : Role} {sender : Address} (foreign : ¬ r.HeldBy c l sender) : d.Bars home r sender
  /-- Where the role suffices, the call is carried out just for its holder. -/
  completes_iff {r : Role} {sender : Address} {message : Json} {funds : List Coin}
    {m : Account.Message} {d₁ : Chain σ} (decoded : Account.Message.ofJson? message = some m)
    (forRole : m.role? = some r) (alone : m.roleSuffices = true)
    (paid : d.payAll sender home funds = .ok d₁) :
    ((∃ x, d.execute sender home message funds = .ok x) ↔ r.HeldBy c l sender) ∧
      ((∃ x, d.transact (.execute sender home message funds) = .ok x) ↔ r.HeldBy c l sender)

namespace Joint

variable {r : Role} {message : Json} {funds : List Coin} {m : Account.Message} {d₁ : Chain σ}

theorem refuses_iff (h : Joint d home a l) (decoded : Account.Message.ofJson? message = some m)
    (forRole : m.role? = some r) (paid : d.payAll sender home funds = .ok d₁) :
    d.execute sender home message funds = .error (.contract home (.account r.refusal)) ↔
      ¬ r.HeldBy a.config l.config sender := by
  have asked := (h.congr (contract?_of_payAll paid)).askConfig_eq_ok_iff.2 rfl
  rw [execute_eq_error_iff (account?_eq_some_iff.2 h.account) decoded paid]
  exact execute_eq_refusal_iff asked forRole

theorem bars (h : Joint d home a l) (foreign : ¬ r.HeldBy a.config l.config sender) :
    d.Bars home r sender := by
  intro message funds m d₁ decoded forRole paid
  have hrefused := (h.refuses_iff decoded forRole paid).2 foreign
  exact ⟨hrefused, transact_eq_error_of_execute hrefused⟩

theorem completes_of_held (h : Joint d home a l)
    (decoded : Account.Message.ofJson? message = some m) (forRole : m.role? = some r)
    (alone : m.roleSuffices = true) (paid : d.payAll sender home funds = .ok d₁)
    (held : r.HeldBy a.config l.config sender) :
    (∃ x, d.execute sender home message funds = .ok x) ∧
      ∃ x, d.transact (.execute sender home message funds) = .ok x := by
  have asked : Ledger.askConfig (d₁.env home).querier a.config.ledger = .ok l.config :=
    (h.congr (contract?_of_payAll paid)).askConfig_eq_ok_iff.2 rfl
  obtain ⟨a', resp, hexecute, hquiet⟩ := exists_execute_of_held asked forRole alone held
  have hperforms : Performs d (.execute sender home message funds) (d₁.put home (.account a'))
      (callsOf home resp.outgoing) := by
    refine .execute h.account paid ?_
    rw [Contract.execute_account decoded, hexecute]
    rfl
  obtain ⟨records, hperform⟩ := perform_of_performs hperforms
  constructor
  · obtain ⟨x, hx, -⟩ := bind_eq_ok_iff.1 hperform
    exact ⟨x, hx⟩
  · -- nothing is to be done after it
    rw [hquiet] at hperform
    refine ⟨(d₁.put home (.account a'), records ++ []), ?_⟩
    show run (callLimit - 1 + 1) d [.execute sender home message funds] = _
    rw [run, hperform]
    rfl

theorem obeys (h : Joint d home a l) : Obeys d home a.config l.config where
  refuses_iff decoded forRole paid := h.refuses_iff decoded forRole paid
  bars foreign := h.bars foreign
  completes_iff decoded forRole alone paid := by
    have hcompletes := h.completes_of_held decoded forRole alone paid
    refine ⟨⟨fun ⟨x, hx⟩ => ?_, fun held => (hcompletes held).1⟩,
      ⟨fun ⟨x, hx⟩ => ?_, fun held => (hcompletes held).2⟩⟩
    · by_contra foreign
      cases hx.symm.trans (h.bars foreign decoded forRole paid).1
    · by_contra foreign
      cases hx.symm.trans (h.bars foreign decoded forRole paid).2

end Joint

/-! ## Along a run -/

/-- The account at an address is still the one that was set up with a configuration, and its ledger
    stands. -/
def Bound (home : Address) (config : Account.Config) (c : Chain σ) : Prop :=
  ∃ a l, Joint c home a l ∧ a.config = config

namespace Bound

variable {config : Account.Config}

theorem performs {c' : Chain σ} (hp : Performs c call c' next) (h : Bound home config c) :
    Bound home config c' := by
  obtain ⟨a, l, joint, rfl⟩ := h
  obtain ⟨a', l', joint', effect⟩ := joint.performs hp
  exact ⟨a', l', joint', effect.config_eq⟩

omit [Outside σ] in
theorem atTime (h : Bound home config c) (now : Seconds) : Bound home config (c.atTime now) := by
  obtain ⟨a, l, joint, hconfig⟩ := h
  exact ⟨a, l, joint.atTime now, hconfig⟩

end Bound

/-- Who does not hold a role stays barred until the ledger is told a message that names it. -/
theorem Joint.bars_afterAll {role : Role} {who : Address} (h : Joint c home a l)
    (foreign : ¬ role.HeldBy a.config l.config who) {ts : List Transaction}
    (unnamed : ∀ m ∈ c.traceAll ts, ¬ m.call.Names a.config.ledger role) (now : Seconds) :
    ((c.afterAll ts).atTime now).Bars home role who := by
  obtain ⟨⟨a', l', h', hconfig, foreign'⟩, -⟩ := h.afterAll_along
    (P := fun _ l' => ¬ role.HeldBy a.config l'.config who)
    (K := fun m => ¬ m.call.Names a.config.ledger role) (Q := fun _ => True)
    (fun _ effect hledger hK foreign => ⟨fun held => by
      rw [← hledger] at hK
      exact hK (effect.names fun same => foreign (same.1 held)), trivial⟩) rfl foreign unnamed
  rw [← hconfig] at foreign'
  exact (h'.atTime now).bars foreign'

/-- An account obeys whoever holds a role at the moment. Its borrower is the one that it was set up
    with. At every call that a transaction attempts after any others, it has the configuration that
    it has had all along, and it obeys those who hold the roles just then. If the call is carried
    out, all that is so after it, so that who has lost a role by it is barred at once. A role does
    not move unless the call tells the ledger a message that names it, and until then whoever does
    not hold it stays barred. -/
theorem authority_follows_ledger {c : Chain σ} {home : Address} {a₀ : Account} {l₀ : Ledger}
    (joint : Joint c home a₀ l₀) :
    (∀ {env s r}, Account.setUp env s = .ok (a₀, r) → a₀.config.borrower = s.borrower) ∧
      (∀ ts t, ∀ m ∈ c.attempts ts t, ∃ a l, Joint m.chain home a l ∧ a.config = a₀.config ∧
        Obeys m.chain home a₀.config l.config ∧
        ∀ d records next, m.chain.perform m.call = .ok (d, records, next) →
          ∃ a' l', Joint d home a' l' ∧ a'.config = a₀.config ∧
            Obeys d home a₀.config l'.config ∧
            ∀ (role : Role) who,
              (role.HeldBy a₀.config l.config who → ¬ role.HeldBy a₀.config l'.config who →
                d.Bars home role who) ∧
              (¬ (role.HeldBy a₀.config l'.config who ↔ role.HeldBy a₀.config l.config who) →
                m.call.Names a₀.config.ledger role)) ∧
      ∀ (role : Role) who, ¬ role.HeldBy a₀.config l₀.config who → ∀ ts,
        (∀ m ∈ c.traceAll ts, ¬ m.call.Names a₀.config.ledger role) →
        ∀ now, ((c.afterAll ts).atTime now).Bars home role who := by
  refine ⟨fun born => borrower_of_setUp born, fun ts t m hm => ?_,
    fun role who foreign ts unnamed now => joint.bars_afterAll foreign unnamed now⟩
  obtain ⟨a, l, hjoint, hconfig⟩ :=
    attempts_keep Bound.performs (fun now h => h.atTime now) ⟨a₀, l₀, joint, rfl⟩ hm
  have hobeys := hjoint.obeys
  rw [hconfig] at hobeys
  refine ⟨a, l, hjoint, hconfig, hobeys, fun d records next hperform => ?_⟩
  obtain ⟨a', l', hjoint', heffect⟩ := hjoint.performs (performs_of_perform hperform)
  have hobeys' := hjoint'.obeys
  rw [heffect.config_eq, hconfig] at hobeys'
  refine ⟨a', l', hjoint', heffect.config_eq.trans hconfig, hobeys', fun role who =>
    ⟨fun _ lost => hobeys'.bars lost, fun moved => ?_⟩⟩
  rw [← hconfig]
  exact heffect.names moved

/-! ## A succession on a small chain -/

/-- A ledger and an account on it, without debt. -/
def foundingChain : Chain Collaborator :=
  sampleChain (sampleLedger (.ofNat precision) 0 .empty .empty .empty) (sampleAccount 0 0 0) .empty
    .empty

/-- The owner of the ledger names a successor and a balancer. -/
def nominationRun : List Transaction :=
  [⟨1, "owner", order "ledger" "transfer_ownership" [("new_owner", .str "alice")]⟩,
    ⟨2, "owner", order "ledger" "set_balancer" [("balancer", .str "keeper")]⟩]

/-- The successor accepts. -/
def succession : Transaction :=
  ⟨3, "alice", order "ledger" "accept_ownership" []⟩

/-- Until the successor accepts, it is the owner who can pause the account, and afterwards it is the
    successor. The former owner is still the collateral agency, and the new balancer passes its
    check. -/
theorem authority_follows_ledger_of_succession :
    (∃ x, ((foundingChain.afterAll nominationRun).atTime 3).transact
        (.execute "owner" "account" (.tagged "pause" []) []) = .ok x) ∧
      ((foundingChain.afterAll nominationRun).atTime 3).transact
          (.execute "alice" "account" (.tagged "pause" []) [])
        = .error (.contract "account" (.account .notGovernance)) ∧
      ∃ d records next, ((foundingChain.afterAll nominationRun).atTime 3).perform succession.call
          = .ok (d, records, next) ∧
        d.transact (.execute "owner" "account" (.tagged "pause" []) [])
          = .error (.contract "account" (.account .notGovernance)) ∧
        (∃ x, d.transact (.execute "alice" "account" (.tagged "pause" []) []) = .ok x) ∧
        (∃ x, d.transact (.execute "owner" "account"
          (.tagged "update_value" [("value", .amount (.ofNat 5))]) []) = .ok x) ∧
        d.execute "keeper" "account"
            (.tagged "auto_invest" [("amount", .amount (.ofNat 5)), ("slippage", .word32 0)]) []
          ≠ .error (.contract "account" (.account .notBalancer)) := by
  have hbefore : ∃ l, (foundingChain.afterAll nominationRun).contract? "ledger"
      = some (.ledger l) ∧ l.config.owner = "owner" := ⟨_, rfl, rfl⟩
  have hafter : ∃ d records next l,
      ((foundingChain.afterAll nominationRun).atTime 3).perform succession.call
        = .ok (d, records, next) ∧ d.contract? "ledger" = some (.ledger l) ∧
      l.config.owner = "alice" ∧ l.config.collateralAgency = "owner" ∧
      l.config.balancer = some "keeper" := ⟨_, _, _, _, rfl, rfl, rfl, rfl, rfl⟩
  have hunnamed : ∀ m ∈ foundingChain.traceAll nominationRun,
      ¬ m.call.Names "ledger" .governance := by decide +kernel
  obtain ⟨l₁, hstands, howner⟩ := hbefore
  obtain ⟨d, records, next, l₂, hperform, hstands', howner', hagency, hbalancer⟩ := hafter
  obtain ⟨-, along, stays⟩ :=
    authority_follows_ledger (c := foundingChain) (joint_sampleChain _ _ _)
  have hnominee := stays .governance "alice" (by change ¬ "alice" = "owner"; decide) _ hunnamed 3
  obtain ⟨a, l, joint, hconfig, obeys, calls⟩ :=
    along nominationRun succession _ (first_mem_attempts _ _ _)
  obtain ⟨a', l', joint', hconfig', obeys', moves⟩ := calls d records next hperform
  have hl := joint.ledger
  rw [hconfig] at hl
  cases hstands.symm.trans hl
  have hl' := joint'.ledger
  rw [hconfig'] at hl'
  cases hstands'.symm.trans hl'
  have held : Role.HeldBy .governance (sampleAccount 0 0 0).config l₁.config "owner" := howner.symm
  have lost : ¬ Role.HeldBy .governance (sampleAccount 0 0 0).config l₂.config "owner" := by
    rw [Role.HeldBy, howner']
    decide
  have gained : Role.HeldBy .governance (sampleAccount 0 0 0).config l₂.config "alice" :=
    howner'.symm
  have kept : Role.HeldBy .agency (sampleAccount 0 0 0).config l₂.config "owner" := hagency.symm
  refine ⟨(obeys.completes_iff rfl rfl rfl rfl).2.2 held, (hnominee rfl rfl rfl).2, d, records,
    next, hperform, (((moves .governance "owner").1 held lost) rfl rfl rfl).2,
    (obeys'.completes_iff rfl rfl rfl rfl).2.2 gained,
    (obeys'.completes_iff rfl rfl rfl rfl).2.2 kept, fun hrefused => ?_⟩
  exact (obeys'.refuses_iff (r := .balancer) rfl rfl rfl).1 hrefused hbalancer

end Chain

end Stablecoin
