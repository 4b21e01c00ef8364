import Stablecoin.Proofs.Chain.Joint
import Stablecoin.Proofs.Ledger.Minters

set_option autoImplicit false

/-! # The debt of an account and the counter of its ledger

An account writes down what it owes before the ledger has minted or burned anything. In between, the
difference is on its way: it is the mints and burns among the calls that the account still has to
make (`debtOf`). With them taken into account the two books never drift apart, but for a counter
that the ledger loses (`Runs.excess`); between transactions nothing is on its way. -/

namespace Stablecoin

namespace Chain

/-! ## Calls on their way -/

/-- What a call of an account to its ledger adds to the supply. -/
def Call.debt (self ledger : Address) : Call → Int
  | .execute sender contract message _ =>
    if sender = self ∧ contract = ledger then
      ((Ledger.Message.ofJson? message).map Ledger.Message.net).getD 0
    else 0
  | _ => 0

@[simp] theorem Call.debt_reply (self ledger b : Address) (id : Nat) :
    (Call.reply b id).debt self ledger = 0 := rfl

/-- What calls of an account to its ledger add to the supply. -/
def debtOf (self ledger : Address) : List Call → Int
  | [] => 0
  | call :: rest => call.debt self ledger + debtOf self ledger rest

variable {self ledger : Address}

@[simp] theorem debtOf_nil : debtOf self ledger [] = 0 := rfl

@[simp] theorem debtOf_cons (call : Call) (calls : List Call) :
    debtOf self ledger (call :: calls) = call.debt self ledger + debtOf self ledger calls := rfl

@[simp] theorem debtOf_append (calls calls' : List Call) :
    debtOf self ledger (calls ++ calls')
      = debtOf self ledger calls + debtOf self ledger calls' := by
  induction calls with
  | nil => rw [List.nil_append, debtOf_nil, Int.zero_add]
  | cons call rest ih => rw [List.cons_append, debtOf_cons, debtOf_cons, ih, Int.add_assoc]

/-- A call that somebody else is behind is no debt of the account. -/
theorem Call.debt_eq_zero_of_issuer_ne {call : Call} (h : call.issuer ≠ self) :
    call.debt self ledger = 0 := by
  cases call with
  | execute sender contract message funds => exact if_neg fun hcall => h hcall.1
  | reply contract id => rfl
  | send sender recipient coins => rfl

/-- A call to somebody else than the ledger is no debt. -/
theorem Call.debt_execute_of_ne {sender b : Address} {message : Json} {funds : List Coin}
    (h : b ≠ ledger) : (Call.execute sender b message funds).debt self ledger = 0 :=
  if_neg fun hcall => h hcall.2

/-- A message that no ledger understands is no debt. -/
theorem Call.debt_execute_of_none {sender b : Address} {message : Json} {funds : List Coin}
    (h : Ledger.Message.ofJson? message = none) :
    (Call.execute sender b message funds).debt self ledger = 0 := by
  simp only [debt, h, Option.map_none, Option.getD_none, ite_self]

theorem debtOf_callsOf_of_ne {b : Address} {out : List Outgoing} (h : b ≠ self) :
    debtOf self ledger (callsOf b out) = 0 := by
  have hcalls : ∀ call ∈ callsOf b out, call.issuer ≠ self := fun call hcall => by
    rw [issuer_of_mem_callsOf hcall]
    exact h
  generalize callsOf b out = calls at hcalls
  induction calls with
  | nil => rfl
  | cons call rest ih =>
    rw [debtOf_cons, Call.debt_eq_zero_of_issuer_ne (hcalls call (by simp)),
      ih fun later hlater => hcalls later (by simp [hlater])]
    rfl

end Chain

/-! ## The debt that an account books -/

namespace Account

open Chain

variable {a a' : Account} {env : Env} {self sender : Address} {m : Message} {out : List Outgoing}

/-- An action of an account as debt. -/
def actionDebt (a : Account) (self : Address) (action : Action) : Int :=
  (Call.ofAction self action).debt self a.config.ledger

/-- What the ledger is told counts as the ledger reads it. -/
theorem actionDebt_tellLedger {message : Json} {lm : Ledger.Message}
    (h : Ledger.Message.ofJson? message = some lm) :
    a.actionDebt self (a.tellLedger message) = lm.net := by
  simp [actionDebt, tellLedger, Call.ofAction, Call.debt, h]

@[simp] theorem actionDebt_mint (recipient : Address) (amount : Amount) :
    a.actionDebt self (a.tellLedger (Ledger.mintJson recipient amount)) = amount.toNat := by
  rw [actionDebt_tellLedger (Ledger.Message.ofJson?_mintJson recipient amount)]
  simp [Ledger.Message.net, Ledger.Message.issued, Ledger.Message.redeemed]

@[simp] theorem actionDebt_burn (amount : Amount) :
    a.actionDebt self (a.tellLedger (Ledger.burnJson amount)) = -amount.toNat := by
  rw [actionDebt_tellLedger (Ledger.Message.ofJson?_burnJson amount)]
  simp [Ledger.Message.net, Ledger.Message.issued, Ledger.Message.redeemed]

@[simp] theorem actionDebt_transfer (recipient : Address) (amount : Amount) :
    a.actionDebt self (a.tellLedger (Ledger.transferJson recipient amount)) = 0 :=
  actionDebt_tellLedger (Ledger.Message.ofJson?_transferJson recipient amount)

@[simp] theorem actionDebt_transferFrom (owner recipient : Address) (amount : Amount) :
    a.actionDebt self (a.tellLedger (Ledger.transferFromJson owner recipient amount)) = 0 :=
  actionDebt_tellLedger (Ledger.Message.ofJson?_transferFromJson owner recipient amount)

@[simp] theorem actionDebt_sellAction (amount minAmountOut : Amount) :
    a.actionDebt self (a.sellAction amount minAmountOut) = 0 :=
  actionDebt_tellLedger (Ledger.Message.ofJson?_sendJson _ amount _)

/-- A ledger understands nothing that is meant for a backend, wherever the backend stands. -/
@[simp] theorem actionDebt_tellBackend (bm : Backend.Message) (funds : List Coin) :
    a.actionDebt self (a.tellBackend bm funds) = 0 :=
  Call.debt_execute_of_none (by cases bm <;> rfl)

@[simp] theorem actionDebt_investAction (amount : Amount) :
    a.actionDebt self (a.investAction amount) = 0 :=
  actionDebt_tellBackend _ _

@[simp] theorem actionDebt_divestAction (amount : Amount) :
    a.actionDebt self (a.divestAction amount) = 0 :=
  actionDebt_tellBackend _ _

/-- Nor does it understand what is meant for a venue. -/
@[simp] theorem actionDebt_buyAction (amount minAmountOut : Amount) :
    a.actionDebt self (a.buyAction amount minAmountOut) = 0 :=
  Call.debt_execute_of_none rfl

@[simp] theorem actionDebt_send (recipient : Address) (coins : List Coin) :
    a.actionDebt self (.send recipient coins) = 0 := rfl

@[simp] theorem actionDebt_withdrawAction (asset : Asset) (amount : Amount) :
    a.actionDebt self (a.withdrawAction asset amount) = 0 := by
  cases asset with
  | quote => exact actionDebt_send _ _
  | stablecoin => exact actionDebt_transfer _ _

@[simp] theorem debtOf_ofOutgoing (o : Outgoing) :
    debtOf self a.config.ledger (Call.ofOutgoing self o) = a.actionDebt self o.action := by
  unfold Call.ofOutgoing
  split <;> simp [actionDebt, Call.debt]

/-- A liquidation burns the debt, whatever it pays. -/
theorem debtOf_settlement (liquidator : Address) (debt : Amount) (p : Payout) :
    debtOf self a.config.ledger
      (callsOf self ((a.settlement self liquidator debt p).map fun action => { action }))
      = -debt.toNat := by
  unfold settlement
  split <;> split <;> split <;> simp

/-- An account books exactly the debt that it tells its ledger of. -/
theorem Step.borrowed_eq (h : Step a env sender m a' out) :
    (a'.position.borrowed.toNat : Int)
      = a.position.borrowed.toNat + debtOf env.self a.config.ledger (callsOf env.self out) := by
  cases h with
  | borrow authorized active positive drawn capped fee => simp [drawn]
  | repay authorized positive repaid held enough fee =>
    simp only [callsOf_cons, callsOf_nil, debtOf_append, debtOf_ofOutgoing, actionDebt_burn,
      debtOf_nil]
    omega
  | autoInvest asked authorized active bounded enabled least valued measured healthy positive
      drawn capped fee priced fair => simp [drawn]
  | liquidate valued measured indebted defaulted owed paid priced summed =>
    rw [debtOf_settlement, Amount.toNat_zero]
    omega
  | _ => simp [Position.adjust]

/-- No reply changes the debt. -/
theorem Hears.borrowed_eq {id : Nat} (h : Hears a env id a' out) :
    (a'.position.borrowed.toNat : Int)
      = a.position.borrowed.toNat + debtOf env.self a.config.ledger (callsOf env.self out) := by
  cases h <;> simp [Position.adjust]

end Account

/-! ## Both books along a run -/

namespace Chain

/-- What an account owes beyond the counter of its ledger. -/
def excess (self : Address) (a : Account) (l : Ledger) : Int :=
  a.position.borrowed.toNat - (l.minter self).minted.toNat

variable {σ : Type}

/-- The ledger at an address. -/
def ledger? (c : Chain σ) (a : Address) : Option Ledger :=
  match c.contract? a with
  | some (.ledger l) => some l
  | _ => none

/-- The call adds an address as a minter whose counter is not at zero. -/
def Moment.Overwrites (ledger minter : Address) : Moment σ → Prop
  | ⟨c, .execute _ contract message _⟩ =>
    contract = ledger ∧ ∃ l ∈ c.ledger? ledger, ∃ m ∈ Ledger.Message.ofJson? message,
      l.overwritten minter m ≠ 0
  | _ => False

instance (ledger minter : Address) :
    DecidablePred (Moment.Overwrites ledger minter : Moment σ → Prop)
  | ⟨_, .execute ..⟩ => inferInstanceAs (Decidable (_ ∧ ∃ l ∈ _, ∃ m ∈ _, _ ≠ 0))
  | ⟨_, .reply ..⟩ => inferInstanceAs (Decidable False)
  | ⟨_, .send ..⟩ => inferInstanceAs (Decidable False)

variable [Outside σ] {c c' : Chain σ} {self : Address} {a a' : Account} {l l' : Ledger}

omit [Outside σ] in
theorem Joint.ledger?_eq (h : Joint c self a l) : c.ledger? a.config.ledger = some l := by
  rw [ledger?, h.ledger]

omit [Outside σ] in
theorem overwritten_eq_zero {sender : Address} {message : Json} {funds : List Coin}
    {m : Ledger.Message} (h : Joint c self a l) (decoded : Ledger.Message.ofJson? message = some m)
    (hkept : ¬ Moment.Overwrites a.config.ledger self
      ⟨c, .execute sender a.config.ledger message funds⟩) : l.overwritten self m = 0 := by
  exact Decidable.byContradiction fun hne => hkept ⟨rfl, l, h.ledger?_eq, m, decoded, hne⟩

/-- One call shifts debt from what is on its way to the books, and otherwise only ever loses some
    of the ledger's counter. -/
theorem Effect.excess {call : Call} {next : List Call} (h : Joint c self a l)
    (e : Effect c self a l call a' l' next) :
    a'.config = a.config ∧
    excess self a l - call.debt self a.config.ledger
      ≤ excess self a' l' - debtOf self a.config.ledger next ∧
    (¬ Moment.Overwrites a.config.ledger self ⟨c, call⟩ →
      excess self a' l' - debtOf self a.config.ledger next
        = excess self a l - call.debt self a.config.ledger) := by
  cases e with
  | account paid decoded step =>
    have hborrowed := step.borrowed_eq
    simp only [env] at hborrowed
    rw [Call.debt_execute_of_ne h.self_ne_ledger]
    unfold Chain.excess
    exact ⟨step.config_eq, by omega, fun _ => by omega⟩
  | hears hears =>
    have hborrowed := hears.borrowed_eq
    simp only [env] at hborrowed
    rw [Call.debt_reply]
    unfold Chain.excess
    exact ⟨hears.config_eq, by omega, fun _ => by omega⟩
  | @ledger sender message funds c₁ m l' out paid decoded step =>
    have hminted := step.minted_add_overwritten self
    rw [debtOf_callsOf_of_ne h.self_ne_ledger.symm]
    have hcall : (Call.execute sender a.config.ledger message funds).debt self a.config.ledger
        = if sender = self then m.net else 0 := by
      simp [Call.debt, decoded]
    rw [hcall]
    unfold Chain.excess
    refine ⟨rfl, by omega, fun hkept => ?_⟩
    have hzero := overwritten_eq_zero h decoded hkept
    omega
  | elsewhere other =>
    rw [Call.debt_execute_of_ne other.2, debtOf_callsOf_of_ne other.1]
    exact ⟨rfl, Int.le_refl _, fun _ => rfl⟩
  | hearsElsewhere other =>
    rw [debtOf_callsOf_of_ne other.1]
    exact ⟨rfl, Int.le_refl _, fun _ => rfl⟩
  | send => exact ⟨rfl, Int.le_refl _, fun _ => rfl⟩

/-- A run shifts all the debt that is on its way to the books, and otherwise only ever loses some of
    the ledger's counter. -/
theorem Runs.excess {calls : List Call} {tr : List (Moment σ)} (hr : Runs c calls tr c')
    (h : Joint c self a l) :
    ∃ a' l', Joint c' self a' l' ∧ a'.config = a.config ∧
      excess self a l - debtOf self a.config.ledger calls ≤ excess self a' l' ∧
      ((∀ m ∈ tr, ¬ m.Overwrites a.config.ledger self) →
        excess self a' l' = excess self a l - debtOf self a.config.ledger calls) := by
  -- one call moves its own debt into the books and puts that of the next calls on its way, so the
  -- sum over all that is still to be made is what the induction carries along
  induction hr generalizing a l with
  | done =>
    rw [debtOf_nil]
    exact ⟨a, l, h, rfl, by omega, fun _ => by omega⟩
  | @step c c₁ c' call next rest tr performs runs ih =>
    obtain ⟨a₁, l₁, h₁, effect⟩ := h.performs performs
    obtain ⟨hconfig₁, hle₁, heq₁⟩ := effect.excess h
    obtain ⟨a', l', h', hconfig, hle, heq⟩ := ih h₁
    rw [hconfig₁, debtOf_append] at hle heq
    rw [debtOf_cons]
    refine ⟨a', l', h', hconfig.trans hconfig₁, by omega, fun hkept => ?_⟩
    have hfirst := heq₁ (hkept _ (by simp))
    have hlater := heq fun m hm => hkept m (by simp [hm])
    omega

/-- Nothing is on its way before a transaction that somebody else begins, nor after it. -/
theorem excess_of_after {t : Transaction} (h : Joint c self a l) (own : t.sender ≠ self) :
    ∃ a' l', Joint (c.after t) self a' l' ∧ a'.config = a.config ∧
      excess self a l ≤ excess self a' l' ∧
      ((∀ m ∈ c.traceOf t, ¬ m.Overwrites a.config.ledger self) →
        excess self a' l' = excess self a l) := by
  have htime : Joint (c.atTime t.time) self a l := h.congr fun _ => rfl
  rcases runs_or_eq_of_after c t with hruns | ⟨heq, -⟩
  · have hissuer : t.call.issuer ≠ self := by
      unfold Transaction.call
      cases t.action <;> exact own
    obtain ⟨a', l', h', hconfig, hle, heq⟩ := hruns.excess htime
    rw [debtOf_cons, debtOf_nil, Call.debt_eq_zero_of_issuer_ne hissuer] at hle heq
    exact ⟨a', l', h', hconfig, by omega, fun hkept => by have := heq hkept; omega⟩
  · rw [heq]
    exact ⟨a, l, htime, rfl, Int.le_refl _, fun _ => rfl⟩

theorem excess_of_afterAll {ts : List Transaction} (h : Joint c self a l)
    (own : ∀ t ∈ ts, t.sender ≠ self) :
    ∃ a' l', Joint (c.afterAll ts) self a' l' ∧ a'.config = a.config ∧
      excess self a l ≤ excess self a' l' ∧
      ((∀ m ∈ c.traceAll ts, ¬ m.Overwrites a.config.ledger self) →
        excess self a' l' = excess self a l) := by
  induction ts generalizing c a l with
  | nil => exact ⟨a, l, h, rfl, Int.le_refl _, fun _ => rfl⟩
  | cons t rest ih =>
    obtain ⟨a₁, l₁, h₁, hconfig₁, hle₁, heq₁⟩ := excess_of_after h (own t (by simp))
    obtain ⟨a', l', h', hconfig, hle, heq⟩ := ih h₁ fun t ht => own t (by simp [ht])
    rw [hconfig₁] at heq
    refine ⟨a', l', h', hconfig.trans hconfig₁, Int.le_trans hle₁ hle, fun hkept => ?_⟩
    have hfirst := heq₁ fun m hm => hkept m (List.mem_append_left _ hm)
    have hlater := heq fun m hm => hkept m (List.mem_append_right _ hm)
    rw [hlater, hfirst]

/-- An account that starts without debt, on a ledger that does not know it, always owes at least
    what the ledger counts for it, and owes just that as long as no addition of a minter has lost
    any of the count. -/
theorem minted_le_borrowed {ts : List Transaction} (h : Joint c self a l)
    (clear : a.position.borrowed = 0) (unknown : l.minters.find? self = none)
    (own : ∀ t ∈ ts, t.sender ≠ self) :
    ∃ a' l', Joint (c.afterAll ts) self a' l' ∧ a'.config = a.config ∧
      (l'.minter self).minted ≤ a'.position.borrowed ∧
      ((∀ m ∈ c.traceAll ts, ¬ m.Overwrites a.config.ledger self) →
        (l'.minter self).minted = a'.position.borrowed) := by
  obtain ⟨a', l', h', hconfig, hle, heq⟩ := excess_of_afterAll h own
  have hstart : excess self a l = 0 := by
    rw [excess, clear, Ledger.minted_of_find?_eq_none unknown]
    rfl
  rw [hstart] at hle heq
  unfold excess at hle heq
  refine ⟨a', l', h', hconfig, ?_, fun hkept => ?_⟩
  · rw [Amount.le_iff]
    omega
  · have hzero := heq hkept
    exact Amount.ext (by omega)

/-- The account draws and repays; a second draw is within its own limit but above the cap of the
    ledger, and is undone. -/
def drawnRun : List Transaction :=
  [⟨1, "owner", order "ledger" "add_minter"
      [("minter", .str "account"), ("max_amount", .amount (.ofNat 100))]⟩,
    ⟨2, "borrower", order "account" "borrow" [("amount", .amount (.ofNat 90))]⟩,
    ⟨3, "borrower", order "account" "borrow" [("amount", .amount (.ofNat 90))]⟩,
    ⟨4, "borrower", order "account" "repay" [("amount", .amount (.ofNat 30))]⟩]

def newLedger : Ledger :=
  sampleLedger (.ofNat precision) 0 .empty .empty .empty

def clearChain : Chain Collaborator :=
  sampleChain newLedger (sampleAccount 0 0 0) .empty .empty

theorem minted_le_borrowed_of_drawnRun :
    (clearChain.traceAll drawnRun).length = 5 ∧
    ∃ a l, Joint (clearChain.afterAll drawnRun) "account" a l ∧
      (l.minter "account").minted = a.position.borrowed := by
  refine ⟨by decide +kernel, ?_⟩
  have hnew : Joint clearChain "account" (sampleAccount 0 0 0) newLedger :=
    joint_sampleChain _ _ _
  have own : ∀ t ∈ drawnRun, t.sender ≠ "account" := by decide
  obtain ⟨a, l, h, -, -, heq⟩ := minted_le_borrowed hnew rfl rfl own
  exact ⟨a, l, h, heq (by decide +kernel)⟩

end Chain

end Stablecoin
