import Stablecoin.Proofs.Account.Default
import Stablecoin.Proofs.Chain.Debt
import Stablecoin.Proofs.Chain.View

set_option autoImplicit false

/-! # How debt moves

A transaction that tells an account one thing moves its debt in one of three ways: it draws, which
the borrower may do and the balancer of the ledger; it repays, which the borrower may do; or it
liquidates. The account tells its ledger to mint or to burn just as much, and the transaction does
all that the account tells the ledger (`Runs.untold`): the ledger, at that moment, goes from what it
was to what the mint or the burn makes of it (`Joint.exists_obeyed`). What moves the debt is read
off the message once (`debtMove_of_step`), and who may send it as well (`Step.authorized`): somebody
without a role changes nothing of an account but by a liquidation (`debt_moves`). -/

namespace Stablecoin

/-! ## What an account tells its ledger -/

/-- To whom a message mints, and how much. -/
def Ledger.Message.mints? : Ledger.Message → Option (Address × Amount)
  | .mint recipient amount => some (recipient, amount)
  | _ => none

/-- How much a message burns. -/
def Ledger.Message.burns? : Ledger.Message → Option Amount
  | .burn amount => some amount
  | _ => none

/-- From one ledger to the other an address has an amount more, and as much more has been minted by
    it and is in circulation. The other way round, the address has burned the amount. -/
structure Ledger.Grows (l l' : Ledger) (home : Address) (amount : Amount) : Prop where
  balance : (l'.balances.get home).toNat = (l.balances.get home).toNat + amount.toNat
  minted : (l'.minter home).minted.toNat = (l.minter home).minted.toNat + amount.toNat
  supply : l'.token.supply.toNat = l.token.supply.toNat + amount.toNat

section

variable {l l' : Ledger} {env : Env} {home : Address} {amount : Amount} {out : List Outgoing}

theorem Ledger.Step.grows_of_mint (h : l.Step env home (.mint home amount) l' out) :
    l.Grows l' home amount := by
  cases h with
  | mint registered active acceptable positive counted capped gate admitted credited raised =>
    refine ⟨?_, ?_, raised⟩
    · rw [Holdings.get_set_self]
      exact credited
    · rw [minted_eq_of_insert rfl, if_pos rfl]
      exact counted
  | configure step => cases step

theorem Ledger.Step.grows_of_burn (h : l.Step env home (.burn amount) l' out) :
    l'.Grows l home amount := by
  cases h with
  | burn listed positive debited lowered counted =>
    refine ⟨?_, ?_, lowered⟩
    · rw [Holdings.get_set_self]
      exact debited
    · rw [counted, minted_eq_of_insert rfl, if_pos rfl]
  | configure step => cases step

end

namespace Chain

/-- What a call of an account tells its ledger. -/
def Call.told? (self ledger : Address) : Call → Option Ledger.Message
  | .execute sender contract message _ =>
    if sender = self ∧ contract = ledger then Ledger.Message.ofJson? message else none
  | _ => none

/-- What calls of an account tell its ledger, in their order. -/
def toldBy (self ledger : Address) (calls : List Call) : List Ledger.Message :=
  calls.filterMap (Call.told? self ledger)

variable {self ledger : Address}

theorem toldBy_append (calls calls' : List Call) :
    toldBy self ledger (calls ++ calls') = toldBy self ledger calls ++ toldBy self ledger calls' :=
  List.filterMap_append

theorem Call.told?_of_issuer_ne {call : Call} (h : call.issuer ≠ self) :
    call.told? self ledger = none := by
  cases call with
  | execute sender contract message funds => exact if_neg fun hcall => h hcall.1
  | reply contract id => rfl
  | send sender recipient coins => rfl

/-- What another contract tells the ledger does not count. -/
theorem toldBy_callsOf_of_ne {b : Address} {out : List Outgoing} (h : b ≠ self) :
    toldBy self ledger (callsOf b out) = [] := by
  refine List.filterMap_eq_nil_iff.2 fun call hcall => Call.told?_of_issuer_ne ?_
  rw [issuer_of_mem_callsOf hcall]
  exact h

end Chain

namespace Account

open Chain

variable {a a' : Account} {env : Env} {self sender : Address} {m : Message} {out : List Outgoing}

/-- What an action of an account tells its ledger. -/
def tells? (a : Account) (self : Address) (action : Action) : Option Ledger.Message :=
  (Call.ofAction self action).told? self a.config.ledger

theorem toldBy_callsOf (self : Address) (out : List Outgoing) :
    toldBy self a.config.ledger (callsOf self out)
      = out.filterMap fun o => a.tells? self o.action := by
  induction out with
  | nil => rfl
  | cons o rest ih =>
    have hone : toldBy self a.config.ledger (Call.ofOutgoing self o)
        = (a.tells? self o.action).toList := by
      unfold Call.ofOutgoing
      split <;> simp [toldBy, tells?, Call.told?, List.filterMap_cons] <;> split <;> simp [*]
    rw [callsOf_cons, toldBy_append, hone, ih, List.filterMap_cons]
    cases a.tells? self o.action <;> rfl

/-- What the ledger is told is what the ledger reads. -/
@[simp] theorem tells?_tellLedger (message : Json) :
    a.tells? self (a.tellLedger message) = Ledger.Message.ofJson? message :=
  if_pos ⟨rfl, rfl⟩

@[simp] theorem tells?_sellAction (amount minAmountOut : Amount) :
    a.tells? self (a.sellAction amount minAmountOut)
      = some (.send a.config.venue amount (Venue.sellPayload minAmountOut)) := by
  rw [sellAction, tells?_tellLedger, Ledger.Message.ofJson?_sendJson]

/-- A message that no ledger understands tells it nothing, wherever it goes. -/
theorem tells?_execute_of_none {contract : Address} {message : Json} {funds : List Coin}
    (h : Ledger.Message.ofJson? message = none) :
    a.tells? self (.execute contract message funds) = none := by
  simp [tells?, Call.ofAction, Call.told?, h]

@[simp] theorem tells?_tellBackend (bm : Backend.Message) (funds : List Coin) :
    a.tells? self (a.tellBackend bm funds) = none :=
  tells?_execute_of_none (by cases bm <;> rfl)

@[simp] theorem tells?_investAction (amount : Amount) :
    a.tells? self (a.investAction amount) = none :=
  tells?_tellBackend _ _

@[simp] theorem tells?_divestAction (amount : Amount) :
    a.tells? self (a.divestAction amount) = none :=
  tells?_tellBackend _ _

@[simp] theorem tells?_buyAction (amount minAmountOut : Amount) :
    a.tells? self (a.buyAction amount minAmountOut) = none :=
  tells?_execute_of_none rfl

@[simp] theorem tells?_send (recipient : Address) (coins : List Coin) :
    a.tells? self (.send recipient coins) = none := rfl

/-- A withdrawal neither mints nor burns. -/
theorem told_withdrawAction (self : Address) (asset : Asset) (amount : Amount) :
    ([a.withdrawAction asset amount].filterMap (a.tells? self)).filterMap
        Ledger.Message.mints? = [] ∧
      ([a.withdrawAction asset amount].filterMap (a.tells? self)).filterMap
        Ledger.Message.burns? = [] := by
  cases asset <;> simp [withdrawAction, Ledger.Message.mints?, Ledger.Message.burns?]

/-! ## What a message does to the debt -/

/-- The message is about the debt. -/
def Message.movesDebt : Message → Bool
  | .borrow _ | .autoInvest _ _ | .repay _ | .liquidate => true
  | _ => false

/-- What a message from a sender may make of the debt of an account, given the roles of its ledger,
    and what the account tells its ledger besides. -/
inductive DebtMove (self : Address) (a : Account) (roles : Ledger.Config) (sender : Address) :
    Message → List Ledger.Message → Account → Prop where
  | draws {m : Message} {told : List Ledger.Message} {a' : Account} {amount : Amount}
      (authorized : (m = .borrow amount ∧ sender = a.config.borrower) ∨
        ((∃ slippage, m = .autoInvest amount slippage) ∧ some sender = roles.balancer))
      (active : a.position.paused = false)
      (drawn : a'.position.borrowed.toNat = a.position.borrowed.toNat + amount.toNat)
      (capped : a'.position.borrowed ≤ a.risk.maxBorrow)
      (minted : told.filterMap Ledger.Message.mints? = [(self, amount)])
      (unburned : told.filterMap Ledger.Message.burns? = []) :
      DebtMove self a roles sender m told a'
  | repays {told : List Ledger.Message} {a' : Account} {amount : Amount}
      (authorized : sender = a.config.borrower)
      (repaid : a.position.borrowed.toNat = a'.position.borrowed.toNat + amount.toNat)
      (unminted : told.filterMap Ledger.Message.mints? = [])
      (burned : told.filterMap Ledger.Message.burns? = [amount]) :
      DebtMove self a roles sender (.repay amount) told a'
  | clears {told : List Ledger.Message} {a' : Account} (cleared : a'.position.borrowed = 0)
      (unminted : told.filterMap Ledger.Message.mints? = [])
      (burned : told.filterMap Ledger.Message.burns? = [a.position.borrowed]) :
      DebtMove self a roles sender .liquidate told a'
  | keeps {m : Message} {told : List Ledger.Message} {a' : Account} (other : m.movesDebt = false)
      (kept : a'.position.borrowed = a.position.borrowed)
      (unminted : told.filterMap Ledger.Message.mints? = [])
      (unburned : told.filterMap Ledger.Message.burns? = []) :
      DebtMove self a roles sender m told a'

/-- A liquidation burns the debt, whatever it pays. -/
theorem told_settlement (self liquidator : Address) (debt : Amount) (p : Payout) :
    ((a.settlement self liquidator debt p).filterMap (a.tells? self)).filterMap
        Ledger.Message.mints? = [] ∧
      ((a.settlement self liquidator debt p).filterMap (a.tells? self)).filterMap
        Ledger.Message.burns? = [debt] := by
  unfold settlement
  split <;> split <;> split <;> simp [List.filterMap_cons, Ledger.Message.mints?,
    Ledger.Message.burns?]

theorem debtMove_of_step {roles : Ledger.Config} (h : Step a env sender m a' out)
    (asked : ∀ config, Ledger.askConfig env.querier a.config.ledger = .ok config → config = roles) :
    DebtMove env.self a roles sender m
      (toldBy env.self a.config.ledger (callsOf env.self out)) a' := by
  rw [toldBy_callsOf]
  cases h with
  | configure => exact .keeps rfl rfl rfl rfl
  | borrow authorized active positive drawn capped fee =>
    refine .draws (.inl ⟨rfl, authorized⟩) active drawn capped ?_ ?_
    · simp [Ledger.Message.mints?]
    · simp [Ledger.Message.burns?]
  | repay authorized positive repaid held enough fee =>
    refine .repays authorized repaid ?_ ?_
    · simp [Ledger.Message.mints?]
    · simp [Ledger.Message.burns?]
  | autoInvest hroles authorized active bounded enabled least valued measured healthy positive
      drawn capped fee priced fair =>
    obtain rfl := asked _ hroles
    refine .draws (.inr ⟨⟨_, rfl⟩, authorized⟩) active drawn capped ?_ ?_
    · simp [List.filterMap_cons, Ledger.Message.mints?]
    · simp [List.filterMap_cons, Ledger.Message.burns?]
  | @liquidate v ratio p =>
    obtain ⟨hminted, hburned⟩ := told_settlement (a := a) env.self sender a.position.borrowed p
    rw [List.filterMap_map]
    exact .clears rfl hminted hburned
  | @withdraw asset amount =>
    obtain ⟨hminted, hburned⟩ := told_withdrawAction (a := a) env.self asset amount
    exact .keeps rfl rfl hminted hburned
  | stateValue => exact .keeps rfl rfl rfl rfl
  | pause => exact .keeps rfl rfl rfl rfl
  | unpause => exact .keeps rfl rfl rfl rfl
  | _ =>
    refine .keeps rfl rfl ?_ ?_
    · simp [List.filterMap_cons, Ledger.Message.mints?]
    · simp [List.filterMap_cons, Ledger.Message.burns?]

/-- Somebody has a role for every message but a liquidation. -/
theorem Step.authorized {roles : Ledger.Config} (h : Step a env sender m a' out)
    (asked : ∀ config, Ledger.askConfig env.querier a.config.ledger = .ok config → config = roles) :
    m = .liquidate ∨ sender = a.config.borrower ∨ sender = roles.owner ∨
      some sender = roles.balancer ∨ sender = roles.collateralAgency := by
  cases h with
  | liquidate => exact .inl rfl
  | autoInvest hroles authorized =>
    obtain rfl := asked _ hroles
    exact .inr (.inr (.inr (.inl authorized)))
  | stateValue hroles authorized =>
    obtain rfl := asked _ hroles
    exact .inr (.inr (.inr (.inr authorized)))
  | pause hroles authorized =>
    obtain rfl := asked _ hroles
    exact .inr (.inr (.inl authorized))
  | unpause hroles authorized =>
    obtain rfl := asked _ hroles
    exact .inr (.inr (.inl authorized))
  | _ => exact .inr (.inl ‹_›)

/-- A reply tells the ledger nothing, and leaves the debt alone. -/
theorem Hears.untold {id : Nat} (h : Hears a env id a' out) :
    a'.position.borrowed = a.position.borrowed ∧
      toldBy env.self a.config.ledger (callsOf env.self out) = [] := by
  rw [toldBy_callsOf]
  cases h <;> exact ⟨rfl, by simp⟩

variable {roles : Ledger.Config} {told : List Ledger.Message}

theorem DebtMove.congr {a'' : Account} (h : DebtMove self a roles sender m told a')
    (hborrowed : a''.position.borrowed = a'.position.borrowed) :
    DebtMove self a roles sender m told a'' := by
  cases h with
  | draws authorized active drawn capped minted unburned =>
    rw [← hborrowed] at drawn capped
    exact .draws authorized active drawn capped minted unburned
  | repays authorized repaid unminted burned =>
    rw [← hborrowed] at repaid
    exact .repays authorized repaid unminted burned
  | clears cleared unminted burned => exact .clears (hborrowed.trans cleared) unminted burned
  | keeps other kept unminted unburned =>
    exact .keeps other (hborrowed.trans kept) unminted unburned

/-- Debt rises only by a draw. -/
theorem DebtMove.of_lt (h : DebtMove self a roles sender m told a')
    (hlt : a.position.borrowed < a'.position.borrowed) : ∃ amount,
      ((m = .borrow amount ∧ sender = a.config.borrower) ∨
        ((∃ slippage, m = .autoInvest amount slippage) ∧ some sender = roles.balancer)) ∧
      a.position.paused = false ∧
      a'.position.borrowed.toNat = a.position.borrowed.toNat + amount.toNat ∧
      told.filterMap Ledger.Message.mints? = [(self, amount)] ∧
      a'.position.borrowed ≤ a.risk.maxBorrow := by
  rw [Amount.lt_iff] at hlt
  cases h with
  | @draws _ _ _ amount authorized active drawn capped minted unburned =>
    exact ⟨amount, authorized, active, drawn, minted, capped⟩
  | repays authorized repaid unminted burned => omega
  | clears cleared unminted burned =>
    rw [cleared, Amount.toNat_zero] at hlt
    omega
  | keeps other kept unminted unburned =>
    rw [kept] at hlt
    omega

/-- Debt falls only by a repayment or a liquidation. -/
theorem DebtMove.of_gt (h : DebtMove self a roles sender m told a')
    (hlt : a'.position.borrowed < a.position.borrowed) :
    (∃ amount, m = .repay amount ∧ sender = a.config.borrower ∧
        a.position.borrowed.toNat = a'.position.borrowed.toNat + amount.toNat ∧
        told.filterMap Ledger.Message.burns? = [amount]) ∨
      (m = .liquidate ∧ a'.position.borrowed = 0 ∧
        told.filterMap Ledger.Message.burns? = [a.position.borrowed]) := by
  rw [Amount.lt_iff] at hlt
  cases h with
  | draws authorized active drawn capped minted unburned => omega
  | @repays _ _ amount authorized repaid unminted burned =>
    exact .inl ⟨amount, rfl, authorized, repaid, burned⟩
  | clears cleared unminted burned => exact .inr ⟨rfl, cleared, burned⟩
  | keeps other kept unminted unburned =>
    rw [kept] at hlt
    omega

/-- No other message moves it. -/
theorem DebtMove.of_other (h : DebtMove self a roles sender m told a')
    (hother : m.movesDebt = false) : a'.position.borrowed = a.position.borrowed := by
  cases h with
  | draws authorized active drawn capped minted unburned =>
    rcases authorized with ⟨rfl, -⟩ | ⟨⟨slippage, rfl⟩, -⟩ <;> cases hother
  | repays => cases hother
  | clears => cases hother
  | keeps other kept unminted unburned => exact kept

end Account

namespace Chain

open Account

variable {σ : Type} [Outside σ] {c c' : Chain σ} {self : Address} {a a' : Account} {l l' : Ledger}

/-! ## A transaction that tells an account one thing -/

/-- The call tells the account something. -/
def Call.Tells (self : Address) : Call → Prop
  | .execute _ contract _ _ => contract = self
  | _ => False

instance (self : Address) : DecidablePred (Call.Tells self)
  | .execute _ contract _ _ => inferInstanceAs (Decidable (contract = self))
  | .reply _ _ => inferInstanceAs (Decidable False)
  | .send _ _ _ => inferInstanceAs (Decidable False)

/-- As long as an account is told nothing, its debt stays, and its ledger is told only what the
    account has already asked for. -/
theorem Runs.untold {calls : List Call} {tr : List (Moment σ)} (hr : Runs c calls tr c')
    (h : Joint c self a l) (quiet : ∀ m ∈ tr, ¬ m.call.Tells self) :
    ∃ a' l', Joint c' self a' l' ∧ a'.position.borrowed = a.position.borrowed ∧
      toldBy self a.config.ledger (tr.map (·.call)) = toldBy self a.config.ledger calls := by
  induction hr generalizing a l with
  | done => exact ⟨a, l, h, rfl, rfl⟩
  | @step c c₁ c' call next rest tr performs runs ih =>
    obtain ⟨a₁, l₁, h₁, effect⟩ := h.performs performs
    have hconfig := effect.config_eq
    -- nothing that follows from the call is for the ledger
    have hnext : a₁.position.borrowed = a.position.borrowed ∧
        toldBy self a.config.ledger next = [] := by
      cases effect with
      | account => exact absurd rfl (quiet _ (List.mem_cons_self ..))
      | hears hears => exact hears.untold
      | ledger => exact ⟨rfl, toldBy_callsOf_of_ne h.self_ne_ledger.symm⟩
      | elsewhere other => exact ⟨rfl, toldBy_callsOf_of_ne other.1⟩
      | hearsElsewhere other => exact ⟨rfl, toldBy_callsOf_of_ne other.1⟩
      | send => exact ⟨rfl, rfl⟩
    obtain ⟨hborrowed₁, hnext⟩ := hnext
    obtain ⟨a', l', h', hborrowed, htold⟩ := ih h₁ fun m hm => quiet m (List.mem_cons_of_mem _ hm)
    rw [hconfig, toldBy_append, hnext, List.nil_append] at htold
    refine ⟨a', l', h', hborrowed.trans hborrowed₁, ?_⟩
    rw [List.map_cons, toldBy, List.filterMap_cons, ← toldBy, htold, toldBy, toldBy,
      List.filterMap_cons]

/-- A run that begins by telling an account something and tells it nothing else moves the debt as
    the message says, and the sender has a role if the message asks for one. -/
theorem Runs.debtMove {sender : Address} {message : Json} {funds : List Coin}
    {tr : List (Moment σ)} (hr : Runs c [.execute sender self message funds] tr c')
    (h : Joint c self a l) (single : ∀ m ∈ tr.tail, ¬ m.call.Tells self) :
    ∃ m a' l', Account.Message.ofJson? message = some m ∧ Joint c' self a' l' ∧
      DebtMove self a l.config sender m (toldBy self a.config.ledger (tr.map (·.call))) a' ∧
      (m = .liquidate ∨ sender = a.config.borrower ∨ sender = l.config.owner ∨
        some sender = l.config.balancer ∨ sender = l.config.collateralAgency) := by
  cases hr with
  | @step c c₂ c' call next rest tr performs runs =>
    obtain ⟨c₁, m, a₁, out, paid, decoded, step, rfl, rfl⟩ := h.performs_account performs
    have h₁ : Joint c₁ self a l := h.congr (contract?_of_payAll paid)
    -- the account learns the roles from its ledger as the message comes in
    have asked : ∀ config, Ledger.askConfig (c₁.env self).querier a.config.ledger = .ok config →
        config = l.config :=
      fun config => h₁.askConfig_eq_ok_iff.1
    have hmove := debtMove_of_step step asked
    obtain ⟨a', l', h', hborrowed, htold⟩ := runs.untold (h₁.put_account step.config_eq) single
    rw [step.config_eq, List.append_nil] at htold
    have hfirst : (Call.execute sender self message funds).told? self a.config.ledger = none :=
      if_neg fun hcall => h.self_ne_ledger hcall.2
    refine ⟨m, a', l', decoded, h', ?_, step.authorized asked⟩
    rw [List.map_cons, toldBy, List.filterMap_cons, hfirst, ← toldBy, htold]
    exact hmove.congr hborrowed

/-- At that moment an account tells its ledger something, and the ledger does it: it meets the call
    as the one ledger and is left as the other. -/
structure Moment.Obeyed (m : Moment σ) (self ledger : Address) (lm : Ledger.Message)
    (l l' : Ledger) : Prop where
  told : m.call.told? self ledger = some lm
  met : m.chain.ledger? ledger = some l
  left : ∃ d next, Performs m.chain m.call d next ∧ d.ledger? ledger = some l'

/-- At every moment of a run an account and its ledger are in place. -/
theorem Joint.exists_joint_of_mem {calls : List Call} {tr : List (Moment σ)} (h : Joint c self a l)
    (hr : Runs c calls tr c') {m : Moment σ} (hm : m ∈ tr) :
    ∃ b k, Joint m.chain self b k ∧ b.config.ledger = a.config.ledger :=
  (h.runs_along (P := fun _ _ => True) (K := fun _ => True)
    (Q := fun m => ∃ b k, Joint m.chain self b k ∧ b.config.ledger = a.config.ledger)
    (fun hj _ hledger _ _ => ⟨trivial, _, _, hj, hledger⟩) rfl trivial hr fun _ _ => trivial).2 m hm

/-- What an account tells its ledger in a run that completes, the ledger does. -/
theorem Joint.exists_obeyed {calls : List Call} {tr : List (Moment σ)} {lm : Ledger.Message}
    (h : Joint c self a l) (hr : Runs c calls tr c')
    (told : lm ∈ toldBy self a.config.ledger (tr.map (·.call))) :
    ∃ m ∈ tr, ∃ k k' env out,
      m.Obeyed self a.config.ledger lm k k' ∧ k.Step env self lm k' out := by
  obtain ⟨call, hcall, htold⟩ := List.mem_filterMap.1 told
  obtain ⟨m, hm, rfl⟩ := List.mem_map.1 hcall
  obtain ⟨b, k, hb, hledger⟩ := h.exists_joint_of_mem hr hm
  obtain ⟨d, next, hperforms⟩ := hr.performs_of_mem hm
  refine ⟨m, hm, ?_⟩
  rw [← hledger] at htold ⊢
  obtain ⟨e, call⟩ := m
  cases call with
  | execute sender contract message funds =>
    obtain ⟨⟨rfl, rfl⟩, decoded⟩ := Option.ite_none_right_eq_some.1 htold
    obtain ⟨c₁, m, k', out, paid, decoded', step, rfl, rfl⟩ := hb.performs_ledger hperforms
    cases decoded.symm.trans decoded'
    have hleft : (c₁.put b.config.ledger (.ledger k')).ledger? b.config.ledger = some k' :=
      (hb.congr (contract?_of_payAll paid)).put_ledger.ledger?_eq
    exact ⟨k, k', _, out, ⟨htold, hb.ledger?_eq, _, _, hperforms, hleft⟩, step⟩
  | reply contract id => cases htold
  | send sender recipient coins => cases htold

/-- So a mint that the account asks for adds to its balance, -/
theorem Joint.exists_minted {calls : List Call} {tr : List (Moment σ)} {amount : Amount}
    (h : Joint c self a l) (hr : Runs c calls tr c')
    (minted : (toldBy self a.config.ledger (tr.map (·.call))).filterMap Ledger.Message.mints?
      = [(self, amount)]) :
    ∃ m ∈ tr, ∃ k k', m.Obeyed self a.config.ledger (.mint self amount) k k' ∧
      k.Grows k' self amount := by
  have hmem := List.mem_singleton_self (self, amount)
  rw [← minted] at hmem
  obtain ⟨lm, htold, hmints⟩ := List.mem_filterMap.1 hmem
  cases lm with
  | mint recipient amount' =>
    cases hmints
    obtain ⟨m, hm, k, k', env, out, obeyed, step⟩ := h.exists_obeyed hr htold
    exact ⟨m, hm, k, k', obeyed, step.grows_of_mint⟩
  | _ => cases hmints

/-- and a burn takes off it. -/
theorem Joint.exists_burned {calls : List Call} {tr : List (Moment σ)} {amount : Amount}
    (h : Joint c self a l) (hr : Runs c calls tr c')
    (burned : (toldBy self a.config.ledger (tr.map (·.call))).filterMap Ledger.Message.burns?
      = [amount]) :
    ∃ m ∈ tr, ∃ k k', m.Obeyed self a.config.ledger (.burn amount) k k' ∧
      k'.Grows k self amount := by
  have hmem := List.mem_singleton_self amount
  rw [← burned] at hmem
  obtain ⟨lm, htold, hburns⟩ := List.mem_filterMap.1 hmem
  cases lm with
  | burn amount' =>
    cases hburns
    obtain ⟨m, hm, k, k', env, out, obeyed, step⟩ := h.exists_obeyed hr htold
    exact ⟨m, hm, k, k', obeyed, step.grows_of_burn⟩
  | _ => cases hburns

/-- What an account tells its ledger in a transaction. If the transaction completes, the ledger has
    done all of it (`Joint.exists_obeyed`). -/
def toldIn (c : Chain σ) (t : Transaction) (self ledger : Address) : List Ledger.Message :=
  toldBy self ledger ((c.traceOf t).map (·.call))

/-- How debt can move, in a transaction that anybody begins at any time by telling an account one
    thing, and that tells it nothing else. The debt rises only when the borrower borrows or the
    balancer of the ledger invests, and the account is not paused; then it rises by just what the
    account has had its ledger mint to it, and stays within the limit. It falls only when the
    borrower repays, by just what the account has had its ledger burn, or in a liquidation, to
    nothing, for which the account has had all of it burned. The mint or the burn is the only one
    that the account asks for, and the ledger carries it out: over that call the balance of the
    account, what it has minted and the supply change by just as much.

    All other messages leave the debt as it is. Whoever is neither the borrower nor the owner, the
    balancer or the collateral agency of the ledger changes nothing of the account but by a
    liquidation that completes. -/
theorem debt_moves {t : Transaction} {message : Json} {funds : List Coin} (h : Joint c self a l)
    (action : t.action = .execute self message funds)
    (single : ∀ m ∈ (c.traceOf t).tail, ¬ m.call.Tells self) :
    ∃ a' l', Joint (c.after t) self a' l' ∧
      (a.position.borrowed < a'.position.borrowed → ∃ amount,
        ((Account.Message.ofJson? message = some (.borrow amount) ∧
            t.sender = a.config.borrower) ∨
          ((∃ slippage, Account.Message.ofJson? message = some (.autoInvest amount slippage)) ∧
            some t.sender = l.config.balancer)) ∧
        a.position.paused = false ∧
        a'.position.borrowed.toNat = a.position.borrowed.toNat + amount.toNat ∧
        (c.toldIn t self a.config.ledger).filterMap Ledger.Message.mints? = [(self, amount)] ∧
        (∃ m ∈ c.traceOf t, ∃ k k',
          m.Obeyed self a.config.ledger (.mint self amount) k k' ∧ k.Grows k' self amount) ∧
        a'.position.borrowed ≤ a.risk.maxBorrow) ∧
      (a'.position.borrowed < a.position.borrowed →
        (∃ amount, Account.Message.ofJson? message = some (.repay amount) ∧
          t.sender = a.config.borrower ∧
          a.position.borrowed.toNat = a'.position.borrowed.toNat + amount.toNat ∧
          (c.toldIn t self a.config.ledger).filterMap Ledger.Message.burns? = [amount] ∧
          ∃ m ∈ c.traceOf t, ∃ k k',
            m.Obeyed self a.config.ledger (.burn amount) k k' ∧ k'.Grows k self amount) ∨
        (Account.Message.ofJson? message = some .liquidate ∧ a'.position.borrowed = 0 ∧
          (c.toldIn t self a.config.ledger).filterMap Ledger.Message.burns?
            = [a.position.borrowed] ∧
          ∃ m ∈ c.traceOf t, ∃ k k',
            m.Obeyed self a.config.ledger (.burn a.position.borrowed) k k' ∧
            k'.Grows k self a.position.borrowed)) ∧
      (∀ m, Account.Message.ofJson? message = some m → m.movesDebt = false →
        a'.position.borrowed = a.position.borrowed) ∧
      (t.sender ≠ a.config.borrower → t.sender ≠ l.config.owner →
        some t.sender ≠ l.config.balancer → t.sender ≠ l.config.collateralAgency → a' ≠ a →
        Account.Message.ofJson? message = some .liquidate ∧
          ∃ records, (c.atTime t.time).transact t.call = .ok (c.after t, records)) := by
  have htime := h.atTime t.time
  have hcall : t.call = .execute t.sender self message funds := by
    rw [Transaction.call, action]
    rfl
  rcases htransact : (c.atTime t.time).transact t.call with e | ⟨d, records⟩
  · -- the transaction fails, and nothing moves
    have hafter : c.after t = c.atTime t.time := by rw [after, htransact]
    rw [hafter]
    refine ⟨a, l, htime, ?_, ?_, fun m _ _ => rfl, ?_⟩
    · intro hlt
      exact absurd hlt (Nat.lt_irrefl _)
    · intro hlt
      exact absurd hlt (Nat.lt_irrefl _)
    · intro _ _ _ _ hne
      exact absurd rfl hne
  · have hafter : c.after t = d := by rw [after, htransact]
    have hruns : Runs (c.atTime t.time) [t.call] (c.traceOf t) d := by
      rw [traceOf, htransact]
      exact runs_of_run htransact
    rw [hcall] at hruns
    obtain ⟨m, a', l', decoded, h', hmove, hrole⟩ := hruns.debtMove htime single
    rw [hafter]
    refine ⟨a', l', h', ?_, ?_, ?_, ?_⟩
    · intro hlt
      obtain ⟨amount, authorized, active, hdrawn, hminted, hcapped⟩ := hmove.of_lt hlt
      refine ⟨amount, ?_, active, hdrawn, hminted, htime.exists_minted hruns hminted, hcapped⟩
      rcases authorized with ⟨rfl, hborrower⟩ | ⟨⟨slippage, rfl⟩, hbalancer⟩
      · exact .inl ⟨decoded, hborrower⟩
      · exact .inr ⟨⟨slippage, decoded⟩, hbalancer⟩
    · intro hlt
      rcases hmove.of_gt hlt with ⟨amount, rfl, hborrower, hrepaid, hburned⟩ |
        ⟨rfl, hcleared, hburned⟩
      · exact .inl ⟨amount, decoded, hborrower, hrepaid, hburned,
          htime.exists_burned hruns hburned⟩
      · exact .inr ⟨decoded, hcleared, hburned, htime.exists_burned hruns hburned⟩
    · intro m' decoded' hother
      cases decoded.symm.trans decoded'
      exact hmove.of_other hother
    · intro hborrower howner hbalancer hagency _
      rcases hrole with rfl | hsender | hsender | hsender | hsender
      · exact ⟨decoded, records, rfl⟩
      · exact absurd hsender hborrower
      · exact absurd hsender howner
      · exact absurd hsender hbalancer
      · exact absurd hsender hagency

/-- The account is made a minter, and nothing else. -/
def enlistedChain : Chain Collaborator :=
  clearChain.after ⟨1, "owner", order "ledger" "add_minter"
    [("minter", .str "account"), ("max_amount", .amount (.ofNat 100))]⟩

def drawing : Transaction :=
  ⟨2, "borrower", order "account" "borrow" [("amount", .amount (.ofNat 90))]⟩

theorem debt_moves_of_drawing :
    ∃ l a l', Joint enlistedChain "account" (sampleAccount 0 0 0) l ∧
      Joint (enlistedChain.after drawing) "account" a l' ∧
      a.position.borrowed.toNat = 90 ∧ drawing.sender = (sampleAccount 0 0 0).config.borrower ∧
      ∃ amount : Amount, amount.toNat = 90 ∧
        (enlistedChain.toldIn drawing "account" "ledger").filterMap Ledger.Message.mints?
          = [("account", amount)] ∧
        ∃ m ∈ enlistedChain.traceOf drawing, ∃ k k',
          m.Obeyed "account" "ledger" (.mint "account" amount) k k' ∧
          k.Grows k' "account" amount := by
  have henlisted : ∃ l, Joint enlistedChain "account" (sampleAccount 0 0 0) l := ⟨_, rfl, rfl⟩
  obtain ⟨l, h⟩ := henlisted
  have single : ∀ m ∈ (enlistedChain.traceOf drawing).tail, ¬ m.call.Tells "account" := by
    decide +kernel
  obtain ⟨a, l', h', hrises, -⟩ := debt_moves h rfl single
  -- what the account owes in the end is computed, and what it has had minted follows
  have hborrowed : a.position.borrowed.toNat = 90 := by
    have hend : ∃ b, (enlistedChain.after drawing).contract? "account" = some (.account b) ∧
        b.position.borrowed.toNat = 90 := ⟨_, rfl, rfl⟩
    obtain ⟨b, hb, howed⟩ := hend
    cases h'.account.symm.trans hb
    exact howed
  have hnone : (sampleAccount 0 0 0).position.borrowed.toNat = 0 := rfl
  obtain ⟨amount, -, -, hdrawn, hminted, hgrown, -⟩ := hrises (by rw [Amount.lt_iff]; omega)
  exact ⟨l, a, l', h, h', hborrowed, rfl, amount, by omega, hminted, hgrown⟩

end Chain

end Stablecoin
