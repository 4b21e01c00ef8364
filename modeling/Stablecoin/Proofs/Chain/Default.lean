import Mathlib.Data.List.Basic
import Stablecoin.Proofs.Account.Default
import Stablecoin.Proofs.Chain.Fee

set_option autoImplicit false

/-! # Default along a run

An account can be liquidated only while it says that it is in default, and it says so only while it
has debt. A liquidation leaves it without debt, so there is no second one before the account has
drawn again, whatever happens to prices, balances, values and parameters meanwhile
(`liquidation_gated`).

What the run has to remember is whether the account has been liquidated and not drawn since
(`Cleared`); then it has no debt (`Secured`). -/

namespace Stablecoin.Chain

open Account

variable {σ : Type}

/-! ## Liquidations and draws -/

/-- The event liquidates the account. -/
def Event.Liquidates (e : Event σ) (self : Address) : Prop :=
  ∃ m ∈ e.message? self, m.liquidates = true

instance (e : Event σ) (self : Address) : Decidable (e.Liquidates self) :=
  inferInstanceAs (Decidable (∃ m ∈ _, _ = true))

/-- The event hands the account a message that adds to its debt. -/
def Event.Draws (e : Event σ) (self : Address) : Prop :=
  ∃ m ∈ e.message? self, m.draws = true

instance (e : Event σ) (self : Address) : Decidable (e.Draws self) :=
  inferInstanceAs (Decidable (∃ m ∈ _, _ = true))

/-- The account has been liquidated, and has not drawn since. -/
def Cleared (self : Address) (past : List (Event σ)) : Prop :=
  ∃ earlier e later, past = earlier ++ e :: later ∧ e.Liquidates self ∧
    ∀ e' ∈ later, ¬ e'.Draws self

variable {c c₁ d : Chain σ} {self sender : Address} {past : List (Event σ)} {e : Event σ}
  {a : Account}

/-- Where a list that ends in an event falls apart, it does so at this event or before it. -/
theorem eq_of_concat_eq {earlier later : List (Event σ)} {x : Event σ}
    (h : past ++ [x] = earlier ++ e :: later) :
    (past = earlier ∧ x = e ∧ later = []) ∨
      ∃ between, later = between ++ [x] ∧ past = earlier ++ e :: between := by
  rcases List.eq_nil_or_concat later with rfl | ⟨between, y, rfl⟩
  · obtain ⟨hpast, hx⟩ := List.append_inj' h rfl
    exact .inl ⟨hpast, List.singleton_inj.1 hx, rfl⟩
  · rw [List.concat_eq_append] at h ⊢
    rw [← List.cons_append, ← List.append_assoc] at h
    obtain ⟨hpast, hx⟩ := List.append_inj' h rfl
    exact .inr ⟨between, by rw [hx], hpast⟩

theorem cleared_of_concat (h : Cleared self (past ++ [e])) :
    e.Liquidates self ∨ (Cleared self past ∧ ¬ e.Draws self) := by
  obtain ⟨earlier, e₀, later, hpast, hliquidated, hquiet⟩ := h
  rcases eq_of_concat_eq hpast with ⟨-, rfl, -⟩ | ⟨between, rfl, rfl⟩
  · exact .inl hliquidated
  · refine .inr ⟨⟨earlier, e₀, between, rfl, hliquidated, fun e' he' => ?_⟩, ?_⟩
    · exact hquiet e' (List.mem_append_left _ he')
    · exact hquiet e (List.mem_append_right _ (List.mem_singleton_self _))

/-! ## The invariant -/

/-- The account at an address has sound risk parameters, and no debt once it has been cleared. -/
def Secured (self : Address) (c : Chain σ) (past : List (Event σ)) : Prop :=
  ∃ a, c.account? self = some a ∧ a.risk.check = .ok () ∧
    (Cleared self past → a.position.borrowed = 0)

variable [Outside σ]

/-- Every call keeps an account secured. -/
theorem Secured.performs {call : Call} {next : List Call} {cause : Option (Deed σ)}
    (h : Secured self c past) (hp : Performs c call c₁ next) :
    Secured self c₁ (past ++ [⟨⟨⟨c, call⟩, c₁⟩, cause⟩]) := by
  obtain ⟨a, ha, checked, hclear⟩ := h
  obtain ⟨a', ha', htouches⟩ := touches_of_performs ha hp
  -- an event that hands the account nothing neither liquidates it nor lets it draw
  have hquiet : ∀ {e : Event σ}, e.message? self = none → Cleared self (past ++ [e]) →
      a.position.borrowed = 0 := by
    intro e he hcleared
    rcases cleared_of_concat hcleared with ⟨m, hm, -⟩ | ⟨hbefore, -⟩
    · rw [he] at hm
      cases hm
    · exact hclear hbefore
  cases htouches with
  | @execute sender message funds c₂ m _ out paid decoded step =>
    refine ⟨a', ha', step.risk_check checked, fun hcleared => ?_⟩
    have hmessage : (Event.mk ⟨⟨c, .execute sender self message funds⟩, c₂.put self (.account a')⟩
        cause).message? self = some m := by
      rw [← decoded]
      exact if_pos rfl
    rcases cleared_of_concat hcleared with ⟨m', hm', hliquidates⟩ | ⟨hbefore, hdraws⟩
    · cases hmessage.symm.trans hm'
      exact (step.of_liquidates hliquidates).2
    · refine step.clear (Bool.eq_false_iff.2 fun hm => hdraws ⟨m, hmessage, hm⟩) (hclear hbefore)
  | reply hears =>
    exact ⟨a', ha', hears.risk_check checked, fun hcleared => hears.clear (hquiet rfl hcleared)⟩
  | elsewhere other foreign =>
    exact ⟨a, ha', checked, hquiet (Event.message?_of_entered_ne other)⟩

/-- An account that has been cleared is not liquidated. -/
theorem Secured.not_liquidated {call : Call} {next : List Call} {cause : Option (Deed σ)}
    (h : Secured self c past) (cleared : Cleared self past) (hp : Performs c call c₁ next) :
    ¬ (Event.mk ⟨⟨c, call⟩, c₁⟩ cause).Liquidates self := by
  obtain ⟨a, ha, -, hclear⟩ := h
  obtain ⟨a', -, htouches⟩ := touches_of_performs ha hp
  rintro ⟨m, hm, hliquidates⟩
  cases htouches with
  | @execute sender message funds c₂ m' _ out paid decoded step =>
    have hmessage : Account.Message.ofJson? message = some m := by
      rw [← hm]
      exact (if_pos rfl).symm
    cases decoded.symm.trans hmessage
    exact (step.of_liquidates hliquidates).1 (hclear cleared)
  | reply hears => cases hm
  | elsewhere other foreign =>
    rw [Event.message?_of_entered_ne other] at hm
    cases hm

omit [Outside σ] in
theorem Secured.atTime (h : Secured self c past) (now : Seconds) :
    Secured self (c.atTime now) past := h

/-- The account is secured after some events, and was when each of them began; none of them is a
    liquidation of an account that has been cleared. -/
structure SecuredAlong (home : Address) (c : Chain σ) (past : List (Event σ)) : Prop where
  last : Secured home c past
  met : ∀ earlier e later, past = earlier ++ e :: later → Secured home e.chain earlier
  once : ∀ earlier e later, past = earlier ++ e :: later → Cleared home earlier →
    ¬ e.Liquidates home

namespace SecuredAlong

omit [Outside σ] in
theorem atTime (h : SecuredAlong self c past) (now : Seconds) :
    SecuredAlong self (c.atTime now) past :=
  ⟨h.last.atTime now, h.met, h.once⟩

theorem performs {call : Call} {next : List Call} {cause : Option (Deed σ)}
    (h : SecuredAlong self c past) (hp : Performs c call c₁ next) :
    SecuredAlong self c₁ (past ++ [⟨⟨⟨c, call⟩, c₁⟩, cause⟩]) := by
  refine ⟨h.last.performs hp, ?_, ?_⟩
  · intro earlier e later hpast
    rcases eq_of_concat_eq hpast with ⟨rfl, rfl, -⟩ | ⟨between, -, hbefore⟩
    · exact h.last
    · exact h.met earlier e between hbefore
  · intro earlier e later hpast hcleared
    rcases eq_of_concat_eq hpast with ⟨rfl, rfl, -⟩ | ⟨between, -, hbefore⟩
    · exact h.last.not_liquidated hcleared hp
    · exact h.once earlier e between hbefore hcleared

theorem after (h : SecuredAlong self c past) (t : Transaction) :
    SecuredAlong self (c.after t) (past ++ c.eventsOf t) :=
  eventsOf_induction (P := fun c _ past => SecuredAlong self c past)
    (fun hp h => h.performs hp) (h.atTime t.time) (h.atTime t.time)

theorem afterAll (h : SecuredAlong self c past) (ts : List Transaction) :
    SecuredAlong self (c.afterAll ts) (past ++ c.eventsAll ts) := by
  induction ts generalizing c past with
  | nil =>
    rw [eventsAll, List.append_nil]
    exact h
  | cons t rest ih =>
    have hlater := ih (h.after t)
    rw [List.append_assoc] at hlater
    exact hlater

end SecuredAlong

omit [Outside σ] in
/-- An account that has just been set up has no debt and has not been cleared. -/
theorem securedAlong_of_setUp {env : Env} {s : Account.Setup} {r : Response}
    (born : Account.setUp env s = .ok (a, r)) (stands : c.account? self = some a) :
    SecuredAlong self c [] := by
  refine ⟨⟨a, stands, risk_check_of_setUp born, fun _ => borrowed_of_setUp born⟩, ?_, ?_⟩
  · intro earlier e later hpast
    simp at hpast
  · intro earlier e later hpast
    simp at hpast

/-! ## Calls and questions from outside -/

/-- What an account answers to a query from outside. -/
theorem query_eq_ok_iff {q answer : Json} {aq : Account.Query} (stands : c.account? self = some a)
    (decoded : Account.Query.ofJson? q = some aq) :
    c.query self q = .ok answer ↔ a.query (c.env self) aq = .ok answer := by
  simp only [query, account?_eq_some_iff.1 stands, Contract.query, decoded, mapError_eq_ok_iff,
    bind_eq_ok_iff, liftM, Contract.monadLift_eq_ok_iff, orMalformed_eq_ok_iff]
  simp

/-- Why a message to an account fails once it has been paid for. -/
theorem execute_eq_error_iff {message : Json} {funds : List Coin} {m : Account.Message}
    {e : Account.Error} (stands : c.account? self = some a)
    (decoded : Account.Message.ofJson? message = some m)
    (paid : c.payAll sender self funds = .ok c₁) :
    c.execute sender self message funds = .error (.contract self (.account e)) ↔
      a.execute (c₁.env self) sender m = .error e := by
  have found := account?_eq_some_iff.1 stands
  have found₁ : c₁.contract? self = some (.account a) := (contract?_of_payAll paid self).trans found
  have hsome : (c.contract? self).isSome = true := by rw [found]; rfl
  simp only [execute, require_of _ hsome, paid, enter, found₁, Contract.execute_account decoded,
    ok_bind]
  cases a.execute (c₁.env self) sender m <;>
    simp [Contract.ofAccount, Except.map, pure, Except.pure]

/-- A transaction fails as its first entry does. -/
theorem transact_eq_error_of_execute {message : Json} {funds : List Coin} {e : Error}
    (h : c.execute sender self message funds = .error e) :
    c.transact (.execute sender self message funds) = .error e := by
  have hperform : c.perform (.execute sender self message funds) = .error e := by
    rw [perform, h]
    rfl
  show run (callLimit - 1 + 1) c [.execute sender self message funds] = .error e
  rw [run, hperform]
  rfl

/-- A transaction fails that begins with what an account does not do, with whatever funds. -/
theorem exists_transact_eq_error_of_not_step {message : Json} {funds : List Coin}
    {m : Account.Message} (stands : c.account? self = some a)
    (decoded : Account.Message.ofJson? message = some m)
    (refused : ∀ {env a' out}, ¬ a.Step env sender m a' out) :
    ∃ e, c.transact (.execute sender self message funds) = .error e := by
  cases h : c.transact (.execute sender self message funds) with
  | error e => exact ⟨e, rfl⟩
  | ok x =>
    exfalso
    rcases runs_of_run h with _ | ⟨performs, -⟩
    obtain ⟨a', -, htouches⟩ := touches_of_performs stands performs
    cases htouches with
    | execute paid decoded' step =>
      cases decoded.symm.trans decoded'
      exact refused step
    | elsewhere other foreign => exact other rfl

/-- An account without debt cannot be liquidated. -/
theorem exists_transact_eq_error {message : Json} {funds : List Coin}
    (stands : c.account? self = some a) (clear : a.position.borrowed = 0)
    (decoded : Account.Message.ofJson? message = some .liquidate) :
    ∃ e, c.transact (.execute sender self message funds) = .error e :=
  exists_transact_eq_error_of_not_step stands decoded fun step => (step.of_liquidates rfl).1 clear

/-! ## The gate -/

/-- A chain that transactions lead to: when they are through, or when a call is made on the way. -/
def Visits (c : Chain σ) (ts : List Transaction) (d : Chain σ) : Prop :=
  (∃ now, d = (c.afterAll ts).atTime now) ∨ ∃ e ∈ c.eventsAll ts, d = e.chain

/-- An account that was set up has sound risk parameters wherever a run leads. -/
theorem SecuredAlong.checked_of_visits {ts : List Transaction}
    (h : SecuredAlong self (c.afterAll ts) (c.eventsAll ts)) (hd : c.Visits ts d) :
    ∃ a, d.account? self = some a ∧ a.risk.check = .ok () := by
  rcases hd with ⟨now, rfl⟩ | ⟨e, he, rfl⟩
  · obtain ⟨a, ha, checked, -⟩ := h.last
    exact ⟨a, ha, checked⟩
  · obtain ⟨earlier, later, hsplit⟩ := List.append_of_mem he
    obtain ⟨a, ha, checked, -⟩ := h.met earlier e later hsplit
    exact ⟨a, ha, checked⟩

/-- The liquidation gate, wherever a run from the setup of an account leads. If the equity ratio can
    be told then, a liquidation is refused for want of a default just when the account answers that
    it is not in default; this fails the transaction, whoever begins it, and it is so if the account
    has no debt.

    After a liquidation that was carried out, as long as the account has not drawn again, the
    account never answers that it is in default, and no further liquidation is carried out. -/
theorem liquidation_gated {env : Env} {s : Account.Setup} {a₀ : Account} {r : Response}
    {message ratioQuery defaultQuery : Json} (born : Account.setUp env s = .ok (a₀, r))
    (stands : c.account? self = some a₀) (ts : List Transaction)
    (decoded : Account.Message.ofJson? message = some .liquidate)
    (ratioAsked : Account.Query.ofJson? ratioQuery = some .equityRatio)
    (defaultAsked : Account.Query.ofJson? defaultQuery = some .isDefaulted) :
    (∀ {d d₁ sender funds answer}, c.Visits ts d → d.payAll sender self funds = .ok d₁ →
        d₁.query self ratioQuery = .ok answer →
        (d.execute sender self message funds
            = .error (.contract self (.account .notDefaulted)) ↔
          d₁.query self defaultQuery = .ok (.bool false)) ∧
        (d₁.query self defaultQuery = .ok (.bool false) →
          d.transact (.execute sender self message funds)
            = .error (.contract self (.account .notDefaulted))) ∧
        ∀ a, d₁.account? self = some a → a.position.borrowed = 0 →
          d₁.query self defaultQuery = .ok (.bool false)) ∧
      ∀ earlier e later, c.eventsAll ts = earlier ++ e :: later →
        e.Liquidates self → (∀ e' ∈ later, ¬ e'.Draws self) →
        (∀ now, ((c.afterAll ts).atTime now).query self defaultQuery ≠ .ok (.bool true) ∧
          ∀ sender funds, ∃ e', ((c.afterAll ts).atTime now).transact
            (.execute sender self message funds) = .error e') ∧
        ∀ e' ∈ later, e'.chain.query self defaultQuery ≠ .ok (.bool true) ∧
          ¬ e'.Liquidates self := by
  have hall := (securedAlong_of_setUp born stands).afterAll ts
  rw [List.nil_append] at hall
  constructor
  · intro d d₁ sender funds answer hd paid hratio
    obtain ⟨a, ha, checked⟩ := hall.checked_of_visits hd
    have ha₁ : d₁.account? self = some a := (account?_of_payAll paid self).trans ha
    obtain ⟨ratio, measured, -⟩ : ∃ ratio, a.currentEquityRatio (d₁.env self) = .ok ratio ∧ _ :=
      bind_eq_ok_iff.1 ((query_eq_ok_iff ha₁ ratioAsked).1 hratio)
    have hgate : d.execute sender self message funds
          = .error (.contract self (.account .notDefaulted)) ↔
        d₁.query self defaultQuery = .ok (.bool false) := by
      rw [execute_eq_error_iff ha decoded paid, query_eq_ok_iff ha₁ defaultAsked]
      exact liquidate_eq_notDefaulted_iff checked measured
    refine ⟨hgate, fun h => transact_eq_error_of_execute (hgate.2 h), fun a' ha' clear => ?_⟩
    cases ha₁.symm.trans ha'
    rw [query_eq_ok_iff ha₁ defaultAsked]
    exact query_isDefaulted_of_clear checked clear measured
  · intro earlier e later hsplit hliquidated hquiet
    -- no debt, no default
    have hnever : ∀ {d : Chain σ} {past}, Secured self d past → Cleared self past →
        d.query self defaultQuery ≠ .ok (.bool true) := by
      rintro d past ⟨a, ha, checked, hclear⟩ hcleared hquery
      rw [query_eq_ok_iff ha defaultAsked] at hquery
      exact query_isDefaulted_ne_true checked (hclear hcleared) hquery
    have hcleared : Cleared self (c.eventsAll ts) :=
      ⟨earlier, e, later, hsplit, hliquidated, hquiet⟩
    refine ⟨fun now => ⟨hnever (hall.last.atTime now) hcleared, fun sender funds => ?_⟩, ?_⟩
    · obtain ⟨a, ha, -, hclear⟩ := hall.last.atTime now
      exact exists_transact_eq_error ha (hclear hcleared) decoded
    · intro e' he'
      obtain ⟨between, rest, rfl⟩ := List.append_of_mem he'
      have hbefore : c.eventsAll ts = (earlier ++ e :: between) ++ e' :: rest := by
        rw [hsplit, List.append_assoc, List.cons_append]
      have hcleared' : Cleared self (earlier ++ e :: between) :=
        ⟨earlier, e, between, rfl, hliquidated, fun x hx => hquiet x (List.mem_append_left _ hx)⟩
      exact ⟨hnever (hall.met _ e' rest hbefore) hcleared', hall.once _ e' rest hbefore hcleared'⟩

/-- An account that has to own a tenth of what it is worth, and has nothing. -/
def gatedChain : Chain Collaborator :=
  sampleChain newLedger (sampleAccount 100000 0 0) .empty .empty

/-- The account draws 1000 and is in default with them; it is liquidated with 1000 that another
    minter got hold of. Then the borrower asks for more equity, the agency states a value, and the
    price rises. -/
def liquidatedRun : List Transaction :=
  [⟨1, "owner", order "ledger" "add_minter"
      [("minter", .str "account"), ("max_amount", .amount (.ofNat 1000))]⟩,
    ⟨2, "borrower", order "account" "borrow" [("amount", .amount (.ofNat 1000))]⟩,
    ⟨3, "owner", order "ledger" "add_minter"
      [("minter", .str "liquidator"), ("max_amount", .amount (.ofNat 2000))]⟩,
    ⟨3, "liquidator", order "ledger" "minter_mint"
      [("recipient", .str "liquidator"), ("amount", .amount (.ofNat 2000))]⟩,
    ⟨3, "liquidator", order "ledger" "increase_allowance"
      [("spender", .str "account"), ("amount", .amount (.ofNat 2000))]⟩,
    ⟨4, "liquidator", order "account" "liquidate" []⟩,
    ⟨5, "borrower", .execute "account"
      (.obj [("configure", (sampleAccount 1000000 0 0).risk.toJson)]) []⟩,
    ⟨6, "owner", order "account" "update_value" [("value", .amount (.ofNat 7))]⟩,
    ⟨7, "owner", order "ledger" "set_target_price"
      [("current", .amount (.ofNat 1300000)), ("next", .amount (.ofNat 1300000))]⟩]

/-- After the run the account is not in default, as it has been liquidated; and it may be worth
    nothing, a second liquidation fails at the gate. -/
theorem liquidation_gated_of_liquidatedRun :
    ((gatedChain.afterAll liquidatedRun).atTime 8).query "account" (.tagged "is_defaulted" [])
        ≠ .ok (.bool true) ∧
      ((gatedChain.afterAll liquidatedRun).atTime 8).transact
        (.execute "liquidator" "account" (.tagged "liquidate" []) [])
        = .error (.contract "account" (.account .notDefaulted)) := by
  have born : ∃ r, Account.setUp (gatedChain.env "account") {
      name := "account", ledger := "ledger", borrower := "borrower", backend := "backend"
      venue := "venue", quoteDenom := "uquote", risk := some (sampleAccount 100000 0 0).risk }
      = .ok (sampleAccount 100000 0 0, r) := ⟨_, rfl⟩
  obtain ⟨r, born⟩ := born
  have stands : gatedChain.account? "account" = some (sampleAccount 100000 0 0) := rfl
  have decoded : Account.Message.ofJson? (.tagged "liquidate" []) = some .liquidate := by rfl
  have ratioAsked : Account.Query.ofJson? (.tagged "equity_ratio" []) = some .equityRatio := by rfl
  have defaultAsked : Account.Query.ofJson? (.tagged "is_defaulted" []) = some .isDefaulted := by
    rfl
  obtain ⟨gate, once⟩ :=
    liquidation_gated born stands liquidatedRun decoded ratioAsked defaultAsked
  constructor
  · -- the liquidation is the seventh call that is carried out, and no call after it draws
    have hevents : (∃ e ∈ ((gatedChain.eventsAll liquidatedRun).drop 6).head?,
          e.Liquidates "account") ∧
        ∀ e ∈ ((gatedChain.eventsAll liquidatedRun).drop 6).tail, ¬ e.Draws "account" := by
      decide +kernel
    obtain ⟨⟨e, he, hliquidates⟩, hquiet⟩ := hevents
    have hsplit := (List.take_append_drop 6 (gatedChain.eventsAll liquidatedRun)).symm
    rw [List.eq_cons_of_mem_head? he] at hsplit
    exact ((once _ e _ hsplit hliquidates hquiet).1 8).1
  · have hend : (((gatedChain.afterAll liquidatedRun).atTime 8).query "account"
          (.tagged "equity_ratio" [])).toOption.isSome ∧
        ∃ a ∈ ((gatedChain.afterAll liquidatedRun).atTime 8).account? "account",
          a.position.borrowed = 0 := by
      decide +kernel
    obtain ⟨hok, a, ha, clear⟩ := hend
    have unpaid : ((gatedChain.afterAll liquidatedRun).atTime 8).payAll "liquidator" "account" []
        = .ok ((gatedChain.afterAll liquidatedRun).atTime 8) := rfl
    cases hratio : ((gatedChain.afterAll liquidatedRun).atTime 8).query "account"
        (.tagged "equity_ratio" []) with
    | error e =>
      rw [hratio] at hok
      cases hok
    | ok answer =>
      obtain ⟨-, refused, unowing⟩ := gate (.inl ⟨8, rfl⟩) unpaid hratio
      exact refused (unowing a ha clear)

end Stablecoin.Chain
