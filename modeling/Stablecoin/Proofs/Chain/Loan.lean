import Stablecoin.Proofs.Account.Fee
import Stablecoin.Proofs.Chain.WindDown

set_option autoImplicit false

/-! # Borrowing and repaying, figure by figure

A borrowing and a repayment go through an account and its ledger and write the same five figures
down: what the account owes, the fee on record, what the ledger counts as minted, what the account
holds, and the supply. `Draws` and `Mints`, and `Redeems`, say which figures these are and what it
takes for them to be written, and the transactions complete exactly when they hold
(`Joint.transact_borrow_iff`, `Joint.transact_repay_iff`). So laws about rows of borrowings and
repayments are arithmetic on figures. -/

namespace Stablecoin

/-- What an account and its ledger write down when the account borrows or repays. -/
structure Figures where
  /-- What the account owes. -/
  debt : Amount
  /-- The fee on record. -/
  fee : Amount
  /-- What the ledger counts as minted by the account. -/
  minted : Amount
  /-- The stablecoin of the account. -/
  held : Amount
  supply : Amount

/-- The account with figures booked at a time. -/
def Account.booked (a : Account) (f : Figures) (now : Seconds) : Account :=
  { a with position :=
      { a.position with borrowed := f.debt, accruedFee := f.fee, checkpoint := now } }

/-- The ledger with figures booked for an account. -/
def Ledger.booked (l : Ledger) (self : Address) (f : Figures) : Ledger :=
  { l with
    minters := l.minters.insert self { l.minter self with minted := f.minted }
    balances := l.balances.set self f.held
    token := { l.token with supply := f.supply } }

namespace Account

variable {a a' : Account} {env : Env} {sender : Address} {amount : Amount} {out : List Outgoing}

theorem booked_booked (a : Account) (f g : Figures) (now : Seconds) :
    (a.booked f now).booked g now = a.booked g now := rfl

/-- No fee accrues in no time. -/
theorem feeAt_booked (checked : a.risk.check = .ok ()) (f : Figures) (now : Seconds) :
    (a.booked f now).position.feeAt a.risk.spreadFee now = .ok f.fee := by
  rw [Position.feeAt_eq_ok_iff (spreadFee_le_of_check checked)]
  simp only [booked, Nat.sub_self, Segment.charge_of_length_zero, Nat.add_zero]

/-- What borrowing takes is all that it takes. -/
theorem execute_of_borrow (h : Step a env sender (.borrow amount) a' out) :
    ∃ r, a.execute env sender (.borrow amount) = .ok (a', r) ∧ r.outgoing = out := by
  cases h with
  | borrow authorized active positive drawn capped fee =>
    have hdrawn := Amount.checkedAdd_eq_ok_iff.2 drawn
    have hcheckpoint := checkpointAt_eq_ok_iff.2 ⟨_, fee, rfl⟩
    simp only [execute, borrow, increaseDebt, requireBorrower, requireActive,
      require_of _ authorized, active, require_of _ Bool.false_ne_true, require_of _ positive,
      hdrawn, require_of _ capped, hcheckpoint, mapError_ok, liftM_ok, ok_bind]
    exact ⟨_, rfl, rfl⟩

/-- So it is with repaying. -/
theorem execute_of_repay (h : Step a env sender (.repay amount) a' out) :
    ∃ r, a.execute env sender (.repay amount) = .ok (a', r) ∧ r.outgoing = out := by
  cases h with
  | repay authorized positive repaid held enough fee =>
    have hrepaid := Amount.minus_eq_ok_iff.2 repaid
    have howed : amount ≤ a.position.borrowed := by
      rw [Amount.le_iff]
      omega
    have hcheckpoint := checkpointAt_eq_ok_iff.2 ⟨_, fee, rfl⟩
    simp only [execute, repay, requireBorrower, require_of _ authorized, require_of _ positive,
      require_of _ howed, held, require_of _ enough, hcheckpoint, hrepaid, liftM_ok, ok_bind]
    exact ⟨_, rfl, rfl⟩

end Account

namespace Ledger

variable {l l' : Ledger} {env : Env} {sender : Address} {amount : Amount} {out : List Outgoing}

@[simp] theorem minter_booked (l : Ledger) (self : Address) (f : Figures) :
    (l.booked self f).minter self = { l.minter self with minted := f.minted } := by
  simp [minter, booked]

@[simp] theorem get_balances_booked (l : Ledger) (self : Address) (f : Figures) :
    (l.booked self f).balances.get self = f.held :=
  Holdings.get_set_self _ _ _

theorem booked_booked (l : Ledger) (self : Address) (f g : Figures) :
    (l.booked self f).booked self g = l.booked self g := by
  rw [booked, minter_booked]
  simp only [booked, Table.insert_insert, Holdings.set_set]

/-- What minting takes is all that it takes. -/
theorem execute_of_mint {recipient : String}
    (h : Step l env sender (.mint recipient amount) l' out) :
    ∃ r, l.execute env sender (.mint recipient amount) = .ok (l', r) ∧ r.outgoing = out := by
  cases h with
  | configure step => cases step
  | mint registered active acceptable positive counted capped gate admitted credited raised =>
    simp only [execute, mint, bind_eq_ok_iff, require_eq_ok_iff, exists_const,
      validAddress_eq_ok_iff, mapError_eq_ok_iff, Amount.checkedAdd_eq_ok_iff, liftM,
      monadLift_eq_ok_iff, raiseSupply, credit_eq_ok_iff, pure_eq_ok_iff, Bool.not_eq_true]
    exact ⟨_, ⟨registered, active, _, ⟨rfl, acceptable⟩, positive, _, counted, capped, _, gate, rfl,
      _, admitted, _, ⟨_, credited, rfl⟩, _, ⟨_, raised, rfl⟩, rfl⟩, rfl⟩

/-- So it is with burning. -/
theorem execute_of_burn (h : Step l env sender (.burn amount) l' out) :
    ∃ r, l.execute env sender (.burn amount) = .ok (l', r) ∧ r.outgoing = out := by
  cases h with
  | configure step => cases step
  | burn listed positive debited lowered counted =>
    have hcovered : amount ≤ (l.minter sender).minted := by
      rw [Amount.le_iff]
      omega
    simp only [execute, burn, bind_eq_ok_iff, require_eq_ok_iff, exists_const,
      listedMinter_eq_ok_iff, debit_eq_ok_iff, lowerSupply, mapError_eq_ok_iff,
      Amount.checkedSub_eq_ok_iff, liftM, monadLift_eq_ok_iff, Amount.minus_eq_ok_iff,
      pure_eq_ok_iff]
    exact ⟨_, ⟨_, ⟨rfl, listed⟩, positive, hcovered, _, ⟨_, debited, rfl⟩, _, ⟨_, lowered, rfl⟩, _,
      counted, rfl⟩, rfl⟩

end Ledger

namespace Chain

open Account

variable {σ : Type} {c c' : Chain σ} {self sender : Address} {a a' : Account} {l l' : Ledger}
  {call : Call} {amount : Amount} {f g : Figures}

/-! ## Figures on a chain -/

/-- The chain with figures booked for an account and its ledger. -/
def booked (c : Chain σ) (self : Address) (a : Account) (l : Ledger) (f : Figures) : Chain σ :=
  (c.put self (.account (a.booked f c.now))).put a.config.ledger (.ledger (l.booked self f))

theorem contract?_booked {b : Address} (hself : b ≠ self) (hledger : b ≠ a.config.ledger) :
    (c.booked self a l f).contract? b = c.contract? b := by
  rw [booked, contract?_put_of_ne _ _ (Ne.symm hledger), contract?_put_of_ne _ _ (Ne.symm hself)]

theorem Joint.booked (h : Joint c self a l) (f : Figures) :
    Joint (c.booked self a l f) self (a.booked f c.now) (l.booked self f) := by
  have haccount : Joint (c.put self (.account (a.booked f c.now))) self (a.booked f c.now) l :=
    h.put_account rfl
  exact haccount.put_ledger

/-- Only the figures that are booked last count. -/
theorem Joint.booked_booked (h : Joint c self a l) (f g : Figures) :
    (c.booked self a l f).booked self (a.booked f c.now) (l.booked self f) g
      = c.booked self a l g := by
  have hledger : (c.put self (.account (a.booked f c.now))).contract? a.config.ledger ≠ none := by
    rw [contract?_put_of_ne c _ h.self_ne_ledger, h.ledger]
    exact nofun
  calc (c.booked self a l f).booked self (a.booked f c.now) (l.booked self f) g
    _ = (((c.put self (.account (a.booked f c.now))).put a.config.ledger
          (.ledger (l.booked self f))).put self (.account (a.booked g c.now))).put a.config.ledger
          (.ledger (l.booked self g)) := by
        rw [← l.booked_booked self f g, ← a.booked_booked f g c.now]
        rfl
    _ = c.booked self a l g := by
        rw [put_comm _ _ _ h.self_ne_ledger.symm hledger, put_put, put_put]
        rfl

/-! ## Orders of two calls -/

/-- The call tells an account a message, without funds. -/
def Call.Orders (call : Call) (sender self : Address) (m : Account.Message) : Prop :=
  ∃ message, call = .execute sender self message [] ∧ Account.Message.ofJson? message = some m

variable [Outside σ]

/-- An account carries an order out by telling its ledger something that the ledger understands. -/
structure Relays (a : Account) (env : Env) (sender : Address) (m : Account.Message) (told : Json)
    (lm : Ledger.Message) : Prop where
  reads : Ledger.Message.ofJson? told = some lm
  quiet : ∀ contract amount payload, lm ≠ .send contract amount payload
  tells {a' : Account} {out : List Outgoing} : a.Step env sender m a' out →
    out = [{ action := a.tellLedger told }]
  accepted {a' : Account} {out : List Outgoing} : a.Step env sender m a' out →
    ∃ r, a.execute env sender m = .ok (a', r) ∧ r.outgoing = out

section Told

variable {m : Account.Message} {lm : Ledger.Message} {told : Json} {out : List Outgoing}
  (h : Joint c self a l) (orders : call.Orders sender self m)
  (relays : Relays a (c.env self) sender m told lm)

include h orders relays

theorem Joint.performs_order (step : a.Step (c.env self) sender m a' out) :
    Performs c call (c.put self (.account a')) [Call.ofAction self (a.tellLedger told)] := by
  obtain ⟨message, rfl, decoded⟩ := orders
  obtain ⟨r, done, hout⟩ := relays.accepted step
  have paid : c.payAll sender self [] = .ok c := rfl
  have hperforms := h.performs_message decoded paid done
  rw [hout, relays.tells step] at hperforms
  exact hperforms

/-- The ledger is told on the chain on which the account has done its part. -/
theorem Joint.mem_trace (step : a.Step (c.env self) sender m a' out) :
    ⟨c.put self (.account a'), Call.ofAction self (a.tellLedger told)⟩
      ∈ trace callLimit c [call] := by
  obtain ⟨records, hperform⟩ := perform_of_performs (h.performs_order orders relays step)
  rw [callLimit, trace, hperform]
  exact List.mem_cons_of_mem _ (List.mem_cons_self ..)

/-- The transaction completes exactly when the account and then the ledger do their part. -/
theorem Joint.transact_order_iff (accepted : ∀ {env l'}, l.Step env self lm l' [] →
      ∃ r, l.execute env self lm = .ok (l', r) ∧ r.outgoing = []) :
    (∃ records, c.transact call = .ok (c', records)) ↔ ∃ a' l' out,
      a.Step (c.env self) sender m a' out ∧
      l.Step ((c.put self (.account a')).env a.config.ledger) self lm l' [] ∧
      c' = (c.put self (.account a')).put a.config.ledger (.ledger l') := by
  constructor
  · rintro ⟨records, hdone⟩
    obtain ⟨message, rfl, decoded⟩ := orders
    have hruns := runs_of_run hdone
    generalize trace callLimit c _ = tr at hruns
    cases hruns with
    | step performs runs =>
      obtain ⟨_, m', a', out, paid, decoded', step, rfl, rfl⟩ := h.performs_account performs
      cases paid
      cases decoded.symm.trans decoded'
      have hjoint : Joint (c.put self (.account a')) self a' l := h.put_account step.config_eq
      cases relays.tells step
      rw [← tellLedger_congr step.config_eq] at runs
      obtain ⟨l', tr', -, lstep, runs⟩ := hjoint.runs_tellLedger relays.reads relays.quiet runs
      rw [step.config_eq] at lstep runs
      cases runs
      exact ⟨a', l', _, step, lstep, rfl⟩
  · rintro ⟨a', l', out, step, lstep, rfl⟩
    have hjoint : Joint (c.put self (.account a')) self a' l := h.put_account step.config_eq
    have hfirst := h.performs_order orders relays step
    obtain ⟨r, done, hout⟩ := accepted lstep
    rw [← step.config_eq] at done
    have hsecond := hjoint.performs_tellLedger relays.reads done hout
    rw [tellLedger_congr step.config_eq, step.config_eq] at hsecond
    have hend : run (callLimit - 2)
        ((c.put self (.account a')).put a.config.ledger (.ledger l')) ([] ++ [])
          = .ok (_, []) := rfl
    obtain ⟨later, hlater⟩ := run_of_performs hsecond hend
    exact run_of_performs hfirst hlater

end Told

theorem relays_borrow (a : Account) (env : Env) (sender : Address) (amount : Amount) :
    Relays a env sender (.borrow amount) (Ledger.mintJson env.self amount)
      (.mint env.self amount) where
  reads := Ledger.Message.ofJson?_mintJson _ _
  quiet := nofun
  tells step := by cases step; rfl
  accepted := execute_of_borrow

theorem relays_repay (a : Account) (env : Env) (sender : Address) (amount : Amount) :
    Relays a env sender (.repay amount) (Ledger.burnJson amount) (.burn amount) where
  reads := Ledger.Message.ofJson?_burnJson _
  quiet := nofun
  tells step := by cases step; rfl
  accepted := execute_of_repay

/-! ## Borrowing -/

/-- What the account asks of a borrowing, with the figures that it writes down. -/
structure Draws (a : Account) (now : Seconds) (amount : Amount) (f : Figures) : Prop where
  active : a.position.paused = false
  positive : amount ≠ 0
  drawn : f.debt.toNat = a.position.borrowed.toNat + amount.toNat
  capped : f.debt ≤ a.risk.maxBorrow
  fee : a.position.feeAt a.risk.spreadFee now = .ok f.fee

/-- What the ledger asks of a mint for a minter, with the figures that it writes down. -/
structure Mints (l : Ledger) (env : Env) (home : Address) (amount : Amount) (f : Figures) :
    Prop where
  registered : (l.minter home).listed = true ∧ (l.minter home).enabled = true
  active : l.config.paused = false
  acceptable : Address.Acceptable home
  counted : f.minted.toNat = (l.minter home).minted.toNat + amount.toNat
  capped : f.minted ≤ (l.minter home).maxAmount
  gate : l.config.mintAllowed env = .ok true
  admitted : Ledger.checkRecipient l.config env home = .ok ()
  credited : f.held.toNat = (l.balances.get home).toNat + amount.toNat
  raised : f.supply.toNat = l.token.supply.toNat + amount.toNat

/-- What the ledger sees when the account has booked figures and tells it so. -/
def envBooked (c : Chain σ) (self : Address) (a : Account) (f : Figures) : Env :=
  (c.put self (.account (a.booked f c.now))).env a.config.ledger

/-- A borrowing completes exactly when the borrower asks for it, and account and ledger have nothing
    against it. -/
theorem Joint.transact_borrow_iff (h : Joint c self a l)
    (orders : call.Orders sender self (.borrow amount)) :
    (∃ records, c.transact call = .ok (c', records)) ↔ sender = a.config.borrower ∧
      ∃ f, Draws a c.now amount f ∧ Mints l (c.envBooked self a f) self amount f ∧
        c' = c.booked self a l f := by
  rw [h.transact_order_iff orders (relays_borrow a _ sender amount) Ledger.execute_of_mint]
  constructor
  · rintro ⟨a', l', out, step, lstep, rfl⟩
    cases step with
    | @borrow _ debt fee authorized active positive drawn capped due =>
      generalize hout : ([] : List Outgoing) = out at lstep
      cases lstep with
      | configure step => cases step
      | @mint _ _ minted held supply registered lactive acceptable _ counted lcapped gate admitted
          credited raised =>
        exact ⟨authorized, ⟨debt, fee, minted, held, supply⟩,
          ⟨active, positive, drawn, capped, due⟩,
          ⟨registered, lactive, acceptable, counted, lcapped, gate, admitted, credited, raised⟩,
          rfl⟩
  · rintro ⟨authorized, f, draws, mints, rfl⟩
    exact ⟨_, _, _,
      .borrow authorized draws.active draws.positive draws.drawn draws.capped draws.fee,
      .mint mints.registered mints.active mints.acceptable draws.positive mints.counted mints.capped
        mints.gate mints.admitted mints.credited mints.raised, rfl⟩

/-! ## Repaying -/

/-- What account and ledger ask of a repayment, with the figures that they write down. -/
structure Redeems (a : Account) (l : Ledger) (now : Seconds) (home : Address) (amount : Amount)
    (f : Figures) : Prop where
  positive : amount ≠ 0
  repaid : a.position.borrowed.toNat = f.debt.toNat + amount.toNat
  fee : a.position.feeAt a.risk.spreadFee now = .ok f.fee
  valid : Address.validate home = .ok home
  listed : (l.minter home).listed = true
  counted : (l.minter home).minted.toNat = f.minted.toNat + amount.toNat
  debited : (l.balances.get home).toNat = f.held.toNat + amount.toNat
  lowered : l.token.supply.toNat = f.supply.toNat + amount.toNat

/-- A repayment completes exactly when the borrower asks for it, and account and ledger have nothing
    against it. -/
theorem Joint.transact_repay_iff (h : Joint c self a l)
    (orders : call.Orders sender self (.repay amount)) :
    (∃ records, c.transact call = .ok (c', records)) ↔ sender = a.config.borrower ∧
      ∃ f, Redeems a l c.now self amount f ∧ c' = c.booked self a l f := by
  rw [h.transact_order_iff orders (relays_repay a _ sender amount) Ledger.execute_of_burn]
  constructor
  · rintro ⟨a', l', out, step, lstep, rfl⟩
    cases step with
    | @repay _ debt balance fee authorized positive repaid asked enough due =>
      obtain ⟨valid, rfl⟩ := h.askBalance_eq_ok_iff.1 asked
      generalize hout : ([] : List Outgoing) = out at lstep
      cases lstep with
      | configure step => cases step
      | @burn _ minted held supply listed _ debited lowered counted =>
        exact ⟨authorized, ⟨debt, fee, minted, held, supply⟩,
          ⟨positive, repaid, due, valid, listed, counted, debited, lowered⟩, rfl⟩
  · rintro ⟨authorized, f, redeems, rfl⟩
    have henough : amount ≤ l.balances.get self := by
      have hdebited := redeems.debited
      rw [Amount.le_iff]
      omega
    exact ⟨_, _, _, .repay authorized redeems.positive redeems.repaid
        (h.askBalance_eq_ok_iff.2 ⟨redeems.valid, rfl⟩) henough redeems.fee,
      .burn redeems.listed redeems.positive redeems.debited redeems.lowered redeems.counted, rfl⟩

/-! ## A chain to borrow on -/

/-- The ledger of an account that owes 40 and may mint 60 more. -/
def lendingLedger : Ledger :=
  let l := sampleLedger (.ofNat precision) (.ofNat 40)
    (Table.empty.insert "account"
      { maxAmount := .ofNat 100, minted := .ofNat 40, listed := true, enabled := true })
    (Holdings.empty.set "account" (.ofNat 40)) .empty
  { l with
    config := { l.config with venue := some "venue", policy := some "policy" }
    registry := ["account"] }

/-- The fee on it is a tenth a year. -/
def lendingAccount : Account :=
  let a := sampleAccount 0 0 (.ofNat 40)
  { a with risk := { a.risk with spreadFee := 100000 } }

/-- A year after it was borrowed, with 50 invested, a venue at the target price and a policy that
    refuses nobody. -/
def lendingChain : Chain Collaborator :=
  (((sampleChain lendingLedger lendingAccount (Holdings.empty.set "account" (.ofNat 50)) .empty).put
    "venue" (.outside (.venue "ledger" "uquote" (.ofNat precision)))).put
    "policy" (.policy ⟨"owner", .blacklist, []⟩)).atTime 31536000

theorem joint_lendingChain : Joint lendingChain "account" lendingAccount lendingLedger :=
  ⟨rfl, rfl⟩

/-- The borrower of the chain tells the account to borrow or to repay. -/
def lendingCall (tag : String) (amount : Amount) : Call :=
  .execute "borrower" "account" (.tagged tag [("amount", .amount amount)]) []

end Chain

end Stablecoin
