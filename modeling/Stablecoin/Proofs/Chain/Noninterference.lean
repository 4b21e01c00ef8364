import Stablecoin.Proofs.Chain.Default
import Stablecoin.Proofs.Chain.Inert

set_option autoImplicit false

/-! # What is only kept does not interfere

The call delay and the page of an account, and the interest rate and the step value of a ledger, are
kept and shown, and no more. Two runs may differ in them: the accounts are told different ones with
the same other parameters, and the ledgers are told to set theirs at different times and to
different values (`Differ`). Then every other transaction has the same outcome in both runs, all
other questions get the same answers, and the chains stay the same but for these values
(`notes_and_rates_unseen`). In particular nobody can be liquidated, or not be liquidated, because of
a call delay.

A pair of transactions that differ in what is only kept leads from similar chains to similar chains
(`Similar.configured`), and so does a transaction on one side that sets a rate
(`SetsRate.similar_after`). -/

namespace Stablecoin.Chain

open Account

variable {σ : Type} [Outside σ] {c c' : Chain σ} {t t' : Transaction}

/-! ## Transactions -/

/-- What comes of a transaction: why it fails, or the records of the contracts that it enters. -/
def outcome (c : Chain σ) (t : Transaction) : Except Error (List Record) :=
  Prod.snd <$> (c.atTime t.time).transact t.call

/-- A transaction that tells a ledger to set one of its two rates, and brings no money. -/
structure SetsRate (c : Chain σ) (t : Transaction) : Prop where
  told : ∃ home l message m, t.action = .execute home message [] ∧
    c.contract? home = some (.ledger l) ∧ Ledger.Message.ofJson? message = some m ∧
    m.setsRate = true

/-- Two transactions that submit to an account risk parameters which differ in the notes only. -/
structure Configures (c : Chain σ) (t t' : Transaction) : Prop where
  time : t'.time = t.time
  sender : t'.sender = t.sender
  submitted : ∃ home a message message' funds r r',
    c.contract? home = some (.account a) ∧
    t.action = .execute home message funds ∧ t'.action = .execute home message' funds ∧
    Account.Message.ofJson? message = some (.configure r) ∧
    Account.Message.ofJson? message' = some (.configure r') ∧ r'.stripped = r.stripped

/-- A rate that is set, by whomever, or refused, is all that comes of such a transaction. -/
theorem SetsRate.similar_after (h : SetsRate c t) : Similar c (c.after t) := by
  obtain ⟨home, l, message, m, haction, stands, decoded, hm⟩ := h.told
  have hstart : Similar c (c.atTime t.time) := ⟨rfl, fun _ => rfl⟩
  rcases runs_or_eq_of_after c t with hruns | ⟨hafter, -⟩
  · rw [Transaction.call, haction] at hruns
    generalize c.traceOf t = tr, c.after t = d at hruns ⊢
    cases hruns with
    | step performs runs =>
      cases performs with
      | @execute _ _ _ _ _ k' _ r found paid entered =>
        cases paid
        cases (show (c.atTime t.time).contract? home = _ from stands).symm.trans found
        rw [Contract.execute_ledger decoded] at entered
        obtain ⟨l', hexecute, rfl⟩ := Contract.ofLedger_eq_ok entered
        obtain ⟨hstripped, hquiet⟩ := Ledger.stripped_of_setsRate hm hexecute
        rw [hquiet] at runs
        cases runs
        exact hstart.trans (.put_of_stripped stands (congrArg Contract.ledger hstripped))
  · rw [hafter]
    exact hstart

section Indifferent

variable (outside : ∀ s : σ, (Contract.outside s).Indifferent)

include outside

namespace Similar

/-- A transaction has the same outcome on similar chains, -/
theorem outcome_eq (h : Similar c c') (t : Transaction) : c'.outcome t = c.outcome t :=
  ((h.sideBySide t.time).run (sameButKept_simulation outside) callLimit [t.call]).fmap_eq
    fun _ _ hx => hx.2

/-- and leaves similar chains. -/
theorem after (h : Similar c c') (t : Transaction) : Similar (c.after t) (c'.after t) :=
  .of_sideBySide ((h.sideBySide t.time).after (sameButKept_simulation outside))

/-- Parameters that differ in the notes are submitted. -/
theorem inStep_transact (h : Similar c c') (configures : Configures c t t') :
    InStep (fun x x' => SideBySide SameButKept x.1 x'.1 ∧
        x'.2.map Record.calls = x.2.map Record.calls)
      ((c.atTime t.time).transact t.call) ((c'.atTime t'.time).transact t'.call) := by
  obtain ⟨home, a, message, message', funds, r, r', stands, haction, haction', decoded, decoded',
    hr⟩ := configures.submitted
  rw [Transaction.call, Transaction.call, haction, haction', configures.time, configures.sender]
  have hentered : InStep
      (Entered SameButKept home .execute fun r r' => r.outgoing = [] ∧ r'.outgoing = [])
      ((c.atTime t.time).execute t.sender home message funds)
      ((c'.atTime t.time).execute t.sender home message' funds) := by
    refine (h.sideBySide t.time).execute_with fun d d' k k' hd found hk => ?_
    cases (show c.contract? home = some k from found).symm.trans stands
    exact Contract.inStep_configure outside (alike_env outside hd home) hk hr decoded decoded'
      t.sender funds
  -- nothing follows from the call
  have hperform : InStep (fun x x' => SideBySide SameButKept x.1 x'.1 ∧ x.2.2 = [] ∧
        x'.2.2 = [] ∧ x'.2.1.map Record.calls = x.2.1.map Record.calls)
      ((c.atTime t.time).perform (.execute t.sender home message funds))
      ((c'.atTime t.time).perform (.execute t.sender home message' funds)) := by
    refine hentered.bind ?_
    rintro ⟨d, _⟩ ⟨d', _⟩ ⟨hd, s, s', ⟨hquiet, hquiet'⟩, rfl, rfl⟩
    refine .ok ⟨hd, ?_⟩
    simp [Record.calls, hquiet, hquiet']
  refine hperform.bind ?_
  rintro ⟨d, records, _⟩ ⟨d', records', _⟩ ⟨hd, rfl, rfl, hrecords⟩
  refine .ok ⟨hd, ?_⟩
  simpa using hrecords

/-- They are accepted or refused alike, -/
theorem outcome_configures (h : Similar c c') (configures : Configures c t t') :
    List.map Record.calls <$> c'.outcome t' = List.map Record.calls <$> c.outcome t := by
  have hcalls := (h.inStep_transact outside configures).fmap_eq
    (f := fun x => x.2.map Record.calls) (g := fun x => x.2.map Record.calls) fun _ _ hx => hx.2
  simp only [outcome, Functor.map_map]
  exact hcalls

/-- and leave similar chains. -/
theorem configured (h : Similar c c') (configures : Configures c t t') :
    Similar (c.after t) (c'.after t') := by
  have htransact := h.inStep_transact outside configures
  unfold Chain.after
  generalize (c.atTime t.time).transact t.call = x,
    (c'.atTime t'.time).transact t'.call = x' at htransact ⊢
  cases htransact with
  | ok related => exact .of_sideBySide related.1
  | error => exact ⟨h.bank, h.contracts⟩

end Similar

/-! ## Runs -/

omit outside in
/-- Two runs that differ in what is only kept: in the notes of the risk parameters that are
    submitted, and in the transactions that set a rate. The chain is the one that they meet in the
    first run. -/
inductive Differ : Chain σ → List Transaction → List Transaction → Prop where
  | nil {c : Chain σ} : Differ c [] []
  | same {c : Chain σ} {t : Transaction} {ts ts' : List Transaction}
      (rest : Differ (c.after t) ts ts') : Differ c (t :: ts) (t :: ts')
  | configures {c : Chain σ} {t t' : Transaction} {ts ts' : List Transaction}
      (configures : Configures c t t') (rest : Differ (c.after t) ts ts') :
      Differ c (t :: ts) (t' :: ts')
  | setsFirst {c : Chain σ} {t : Transaction} {ts ts' : List Transaction} (sets : SetsRate c t)
      (rest : Differ (c.after t) ts ts') : Differ c (t :: ts) ts'
  | setsSecond {c : Chain σ} {t : Transaction} {ts ts' : List Transaction} (sets : SetsRate c t)
      (rest : Differ c ts ts') : Differ c ts (t :: ts')

omit outside [Outside σ] in
theorem Similar.setsRate (h : Similar c c') (sets : SetsRate c t) : SetsRate c' t := by
  obtain ⟨home, l, message, m, haction, stands, decoded, hm⟩ := sets.told
  rcases h.contract? home with ⟨none, -⟩ | ⟨k, k', stands₁, stands', hk⟩
  · rw [none] at stands
    cases stands
  · cases stands.symm.trans stands₁
    obtain ⟨l', rfl, -⟩ := Contract.exists_ledger_of_stripped hk
    exact ⟨home, l', message, m, haction, stands', decoded, hm⟩

/-- Such runs lead from similar chains to similar chains. -/
theorem Similar.afterAll {ts ts' : List Transaction} (h : Similar c c') (differ : Differ c ts ts') :
    Similar (c.afterAll ts) (c'.afterAll ts') := by
  induction differ generalizing c' with
  | nil => exact h
  | same rest ih => exact ih (h.after outside _)
  | configures configures rest ih => exact ih (h.configured outside configures)
  | setsFirst sets rest ih => exact ih (sets.similar_after.symm.trans h)
  | setsSecond sets rest ih => exact ih (h.trans (h.setsRate sets).similar_after)

omit outside in
/-- On chains that were similar at first, two runs that differ in what is only kept leave chains
    that are the same but for that. Whatever transaction is next in both then has the same outcome.
    The next parameters that an account is given are accepted or refused alike, and nothing
    different follows from them, if they differ in the notes only. All questions but the ones for
    what is only kept get the same answers. And an account is in default, and can be liquidated,
    whatever its notes. -/
theorem notes_and_rates_unseen {ts ts' : List Transaction}
    (outside : ∀ s : σ, (Contract.outside s).Indifferent) (similar : Similar c c')
    (differ : Differ c ts ts') :
    Similar (c.afterAll ts) (c'.afterAll ts') ∧
    (∀ t, (c'.afterAll ts').outcome t = (c.afterAll ts).outcome t) ∧
    (∀ t t', Configures (c.afterAll ts) t t' →
      List.map Record.calls <$> (c'.afterAll ts').outcome t'
        = List.map Record.calls <$> (c.afterAll ts).outcome t) ∧
    (∀ now b q, (∀ k ∈ (c.afterAll ts).contract? b, ¬ k.Reveals q) →
      ((c'.afterAll ts').atTime now).query b q = ((c.afterAll ts).atTime now).query b q) ∧
    ∀ (a : Account) (env : Env) (liquidator : Address) (delay : Seconds) (url : String),
      (a.withNotes delay url).query env .isDefaulted = a.query env .isDefaulted ∧
      (a.withNotes delay url).execute env liquidator .liquidate
        = noted delay url <$> a.execute env liquidator .liquidate := by
  have hafter := similar.afterAll outside differ
  refine ⟨hafter, hafter.outcome_eq outside, fun t t' => hafter.outcome_configures outside,
    fun now b q => query_eq_of_sameButKept outside (hafter.sideBySide now), ?_⟩
  intro a env liquidator delay url
  exact ⟨Account.query_eq_of_stripped rfl nofun, Account.execute_withNotes rfl⟩

end Indifferent

/-! ## Runs on a small chain -/

/-- An account that is in default, and a liquidator who has got hold of what it takes. -/
def overdueChain : Chain Collaborator :=
  gatedChain.afterAll (liquidatedRun.take 5)

/-- The borrower submits the risk parameters once more, with a call delay and a page. -/
def submission (delay : Seconds) (url : String) : Transaction :=
  ⟨5, "borrower", .execute "account" (.obj [("configure",
    ((sampleAccount 100000 0 0).risk.withNotes delay url).toJson)]) []⟩

/-- The two rates are set by the owner, and the account is liquidated. -/
def rateSetting : Transaction :=
  ⟨4, "owner", order "ledger" "set_interest_rate" [("interest_rate", .signed64 5)]⟩

def stepSetting : Transaction :=
  ⟨6, "owner", order "ledger" "set_step_value" [("step_value", .word32 7)]⟩

def lateLiquidation : Transaction :=
  ⟨7, "liquidator", order "account" "liquidate" []⟩

/-- Account and ledger stand where they stood, whatever transactions there have been. -/
theorem exists_joint_overdueChain (ts : List Transaction) :
    ∃ a l, (overdueChain.afterAll ts).contract? "account" = some (.account a) ∧
      (overdueChain.afterAll ts).contract? "ledger" = some (.ledger l) := by
  have hstart : Joint gatedChain "account" (sampleAccount 100000 0 0) newLedger :=
    joint_sampleChain _ _ _
  have hkept : ∀ m ∈ gatedChain.traceAll (liquidatedRun.take 5 ++ ts), True := fun _ _ => trivial
  obtain ⟨⟨a, l, joint, hconfig, -⟩, -⟩ := hstart.afterAll_along (P := fun _ _ => True)
    (K := fun _ => True) (Q := fun _ => True) (fun _ _ _ _ _ => ⟨trivial, trivial⟩) rfl trivial
    hkept
  rw [Chain.afterAll, List.foldl_append] at joint
  have hledger := joint.ledger
  rw [hconfig] at hledger
  exact ⟨a, l, joint.account, hledger⟩

/-- With a call delay of an hour and without one, and with other rates on the ledger, the account is
    in default and is liquidated. -/
theorem notes_and_rates_unseen_of_overdueChain :
    ((overdueChain.afterAll [rateSetting, submission 3600 "here"]).account? "account").map
        (fun a => a.risk.callDelay) = some 3600 ∧
      ((overdueChain.afterAll [submission 0 "there", stepSetting]).account? "account").map
        (fun a => a.risk.callDelay) = some 0 ∧
      ((overdueChain.afterAll [submission 0 "there", stepSetting]).outcome
        lateLiquidation).toOption.isSome ∧
      (overdueChain.afterAll [submission 0 "there", stepSetting]).outcome lateLiquidation
        = (overdueChain.afterAll [rateSetting, submission 3600 "here"]).outcome
            lateLiquidation := by
  have hrate : SetsRate overdueChain rateSetting := by
    obtain ⟨-, l, -, stands⟩ := exists_joint_overdueChain []
    exact ⟨"ledger", l, _, .setInterestRate 5, rfl, stands, rfl, rfl⟩
  have hsubmission : Configures (overdueChain.after rateSetting) (submission 3600 "here")
      (submission 0 "there") := by
    obtain ⟨a, -, stands, -⟩ := exists_joint_overdueChain [rateSetting]
    exact ⟨rfl, rfl, "account", a, _, _, [], _, _, stands, rfl, rfl, rfl, rfl, rfl⟩
  have hstep : SetsRate (overdueChain.afterAll [rateSetting, submission 3600 "here"])
      stepSetting := by
    obtain ⟨-, l, -, stands⟩ :=
      exists_joint_overdueChain [rateSetting, submission 3600 "here"]
    exact ⟨"ledger", l, _, .setStepValue 7, rfl, stands, rfl, rfl⟩
  have differ : Differ overdueChain [rateSetting, submission 3600 "here"]
      [submission 0 "there", stepSetting] :=
    .setsFirst hrate <| .configures hsubmission <| .setsSecond hstep .nil
  obtain ⟨-, same, -⟩ := notes_and_rates_unseen Contract.indifferent_collaborator
    (Similar.refl overdueChain) differ
  exact ⟨by decide +kernel, by decide +kernel, by decide +kernel, same lateLiquidation⟩

end Stablecoin.Chain
