import Stablecoin.Proofs.Account.Progress
import Stablecoin.Proofs.Chain.Liquidation
import Stablecoin.Proofs.Chain.Progress
import Stablecoin.Proofs.Chain.Standing

set_option autoImplicit false

/-! # Winding down

Nobody can keep an account from repaying: a repayment goes through on what the account owes and
holds alone (`exists_transact_repay`). A liquidation needs more, since its calls reach the
liquidator, the policy and the backend: it goes through if each of them grants what it is asked for
(`Moment.Granted`, `completes_settlement`), as a backend that pays plainly does
(`delivers_of_paysPlainly`). That the ledger's own checks pass follows from the good standing of the
account: the ledger counts all that the account owes, and no balance exceeds the supply.

A backend has to do more than pay, though. While it pays, the account owes nothing any more and has
not paid out its stablecoin yet, and nothing keeps the borrower from it. A backend that acts as the
borrower as well, or as the owner of the ledger, blocks the liquidation after it has paid
(`liquidation_blocked_by_backend`). -/

namespace Stablecoin.Chain

open Account

variable {σ : Type} [Outside σ] {c c₁ : Chain σ} {self liquidator sender : Address} {a a' : Account}
  {l l' : Ledger} {message : Json} {funds : List Coin} {amount : Amount}

/-! ## Single calls -/

theorem tellLedger_congr (h : a'.config = a.config) (message : Json) :
    a'.tellLedger message = a.tellLedger message := by
  rw [tellLedger, h, tellLedger]

/-- What an account can do with a message, the chain lets it do. -/
theorem Joint.performs_message (h : Joint c self a l) {m : Account.Message} {r : Response}
    (decoded : Account.Message.ofJson? message = some m)
    (paid : c.payAll sender self funds = .ok c₁)
    (done : a.execute (c₁.env self) sender m = .ok (a', r)) :
    Performs c (.execute sender self message funds) (c₁.put self (.account a'))
      (callsOf self r.outgoing) := by
  refine .execute h.account paid ?_
  rw [Contract.execute_account decoded, done]
  rfl

/-- What a ledger can do when its account tells it to, the chain lets it do. -/
theorem Joint.performs_tellLedger (h : Joint c self a l) {m : Ledger.Message} {r : Response}
    (decoded : Ledger.Message.ofJson? message = some m)
    (done : l.execute (c.env a.config.ledger) self m = .ok (l', r)) (quiet : r.outgoing = []) :
    Performs c (Call.ofAction self (a.tellLedger message)) (c.put a.config.ledger (.ledger l'))
      [] := by
  have entered : (Contract.ledger l : Contract σ).execute (c.env a.config.ledger) self [] message
      = .ok (.ledger l', r) := by
    rw [Contract.execute_ledger decoded, done]
    rfl
  have hp : Performs c (.execute self a.config.ledger message [])
      (c.put a.config.ledger (.ledger l')) (callsOf a.config.ledger r.outgoing) :=
    .execute h.ledger rfl entered
  rw [quiet] at hp
  exact hp

/-- Whoever has as much can pay it. -/
theorem performs_send {payer payee : Address} {denom : String}
    (enough : amount ≤ c.balance payer denom) :
    ∃ d, Performs c (.send payer payee [⟨denom, amount⟩]) d [] ∧ d.contracts = c.contracts := by
  obtain ⟨left, hleft⟩ := Amount.exists_checkedSub enough
  obtain ⟨d, hpay⟩ : ∃ d, c.pay payer payee ⟨denom, amount⟩ = .ok d :=
    ⟨_, pay_eq_ok_iff.2 ⟨left, Amount.checkedSub_eq_ok_iff.1 hleft, rfl⟩⟩
  have paid : c.payAll payer payee [⟨denom, amount⟩] = .ok d :=
    payAll_cons_eq_ok_iff.2 ⟨d, hpay, rfl⟩
  exact ⟨d, .send paid, (frame_of_payAll paid).1⟩

/-! ## Repayment -/

/-- A repayment of what an account owes and holds goes through, whoever has paused what. -/
theorem exists_transact_repay {fee : Amount} (h : Joint c self a l) (sound : l.Sound)
    (listed : (l.minter self).listed = true)
    (counted : (l.minter self).minted = a.position.borrowed)
    (decoded : Account.Message.ofJson? message = some (.repay amount))
    (paid : c.payAll a.config.borrower self funds = .ok c₁) (positive : amount ≠ 0)
    (owed : amount ≤ a.position.borrowed) (held : amount ≤ l.balances.get self)
    (due : a.position.feeAt a.risk.spreadFee c.now = .ok fee) :
    ∃ c' records a' l',
      c.transact (.execute a.config.borrower self message funds) = .ok (c', records) ∧
      Joint c' self a' l' ∧
      a.position.borrowed.toNat = a'.position.borrowed.toNat + amount.toNat := by
  have h₁ : Joint c₁ self a l := h.congr (contract?_of_payAll paid)
  have hbalance : a.stablecoinBalance (c₁.env self) = .ok (l.balances.get self) :=
    h₁.askBalance_eq_ok_iff.2 ⟨Address.validate_of_acceptable (sound.minter listed), rfl⟩
  have hdue : a.position.feeAt a.risk.spreadFee (c₁.env self).now = .ok fee := by
    rw [← due]
    exact congrArg _ (frame_of_payAll paid).2
  obtain ⟨a', r, done, hborrowed, hconfig, hout⟩ :=
    exists_repay rfl positive owed hbalance held hdue
  have h₂ : Joint (c₁.put self (.account a')) self a' l := h₁.put_account hconfig
  obtain ⟨l', r', burned, quiet⟩ : ∃ l' r', l.execute
      ((c₁.put self (.account a')).env a'.config.ledger) self (.burn amount) = .ok (l', r') ∧
      r'.outgoing = [] :=
    sound.exists_burn listed positive held (counted ▸ owed)
  have hfirst := h.performs_message decoded paid done
  have hsecond := h₂.performs_tellLedger (Ledger.Message.ofJson?_burnJson amount) burned quiet
  rw [hout] at hfirst
  rw [tellLedger_congr hconfig] at hsecond
  -- the burn is all that comes of the repayment
  have hend : run (callLimit - 2) ((c₁.put self (.account a')).put a'.config.ledger (.ledger l'))
      ([] ++ []) = .ok (_, []) := rfl
  obtain ⟨later, hlater⟩ := run_of_performs hsecond hend
  obtain ⟨records, hrun⟩ := run_of_performs hfirst hlater
  exact ⟨_, records, a', l', hrun, h₂.put_ledger, hborrowed⟩

/-! ## What a liquidation asks for -/

omit [Outside σ] in
/-- What an account has of the stablecoin of a ledger. -/
def holding (c : Chain σ) (ledger home : Address) : Amount :=
  ((c.ledger? ledger).map fun l => l.balances.get home).getD 0

/-- The ledger is not paused, and its policy, if it has one, admits a recipient. -/
def Admits (c : Chain σ) (ledger recipient : Address) : Prop :=
  ∃ l ∈ c.ledger? ledger, l.config.paused = false ∧
    ∀ policy ∈ l.config.policy, Policy.askAllowed c.querier policy recipient = .ok true

instance (c : Chain σ) (ledger recipient : Address) : Decidable (c.Admits ledger recipient) :=
  inferInstanceAs (Decidable (∃ l ∈ _, _ = false ∧ ∀ policy ∈ _, _ = Except.ok true))

/-- How many calls a liquidation leaves to the backend: all but its own. -/
def divestLimit : Nat := callLimit - 5

/-- The call goes through, and leaves a chain of which a property holds. -/
def EndsIn (c : Chain σ) (call : Call) (P : Chain σ → Prop) : Prop :=
  ∃ d records, run divestLimit c [call] = .ok (d, records) ∧ P d

instance (c : Chain σ) (call : Call) (P : Chain σ → Prop) [DecidablePred P] :
    Decidable (c.EndsIn call P) :=
  match h : run divestLimit c [call] with
  | .ok (d, records) =>
    decidable_of_iff (P d) ⟨fun hd => ⟨d, records, h, hd⟩, by
      rintro ⟨d', records', hrun, hd⟩
      cases h.symm.trans hrun
      exact hd⟩
  | .error e => isFalse (by
      rintro ⟨d, records, hrun, -⟩
      cases h.symm.trans hrun)

/-- The call of an account to its backend brings in an amount of quote currency. -/
def Brings (c : Chain σ) (home : Address) (config : Config) (call : Call) (amount : Amount) :
    Prop :=
  c.EndsIn call fun d => (c.balance home config.quoteDenom).toNat + amount.toNat
    ≤ (d.balance home config.quoteDenom).toNat

/-- The call of an account to its backend brings in an amount of quote currency, and the account
    keeps its stablecoin. A backend that is the borrower as well could pay with one hand and take
    out with the other, for by then the account owes nothing any more. -/
def Delivers (c : Chain σ) (home : Address) (config : Config) (call : Call) (amount : Amount) :
    Prop :=
  c.EndsIn call fun d =>
    (c.balance home config.quoteDenom).toNat + amount.toNat
      ≤ (d.balance home config.quoteDenom).toNat ∧
    c.holding config.ledger home ≤ d.holding config.ledger home

instance (c : Chain σ) (home : Address) (config : Config) (call : Call) (amount : Amount) :
    Decidable (c.Brings home config call amount) :=
  inferInstanceAs (Decidable (c.EndsIn call fun _ => _ ≤ _))

instance (c : Chain σ) (home : Address) (config : Config) (call : Call) (amount : Amount) :
    Decidable (c.Delivers home config call amount) :=
  inferInstanceAs (Decidable (c.EndsIn call fun _ => _ ∧ _))

/-- What a message to a backend draws. -/
def drawn? (message : Json) : Option Amount :=
  match Backend.Message.ofJson? message with
  | some (.divest amount) => some amount
  | _ => none

/-- To whom a message moves stablecoin. -/
def movedTo? (message : Json) : Option Address :=
  match Ledger.Message.ofJson? message with
  | some (.transfer recipient _) | some (.transferFrom _ recipient _) => some recipient
  | _ => none

/-- Where an account moves stablecoin, its ledger admits the recipient at that moment; where it
    draws on its backend, the backend delivers. -/
def Moment.Granted (home : Address) (config : Config) : Moment σ → Prop
  | ⟨c, .execute sender contract message funds⟩ => sender = home →
    (contract = config.ledger → ∀ recipient ∈ movedTo? message,
      c.Admits config.ledger recipient) ∧
    (contract = config.backend → ∀ amount ∈ drawn? message,
      c.Delivers home config (.execute sender contract message funds) amount)
  | _ => True

instance (home : Address) (config : Config) :
    DecidablePred (Moment.Granted home config : Moment σ → Prop)
  | ⟨_, .execute ..⟩ => inferInstanceAs (Decidable
      (_ → (_ → ∀ recipient ∈ _, Admits ..) ∧ (_ → ∀ amount ∈ _, Delivers ..)))
  | ⟨_, .reply ..⟩ => inferInstanceAs (Decidable True)
  | ⟨_, .send ..⟩ => inferInstanceAs (Decidable True)

namespace Joint

/-- A ledger lets stablecoin move to whom it admits. -/
theorem checkMovement_of_admits (h : Joint c self a l) {recipient : Address}
    (admits : c.Admits a.config.ledger recipient) :
    Ledger.checkMovement l.config (c.env a.config.ledger) recipient = .ok () := by
  obtain ⟨l', hl', active, admitted⟩ := admits
  cases h.ledger?_eq.symm.trans hl'
  have hactive : ¬ l.config.paused = true := by rw [active]; exact Bool.false_ne_true
  unfold Ledger.checkMovement Ledger.checkRecipient
  rw [require_of _ hactive, ok_bind]
  cases hpolicy : l.config.policy with
  | none => rfl
  | some policy =>
    have hask := admitted policy hpolicy
    simp only [env_querier, hask]
    rfl

omit [Outside σ] in
theorem holding_eq (h : Joint c self a l) :
    c.holding a.config.ledger self = l.balances.get self := by
  rw [holding, h.ledger?_eq]
  rfl

end Joint

/-- A backend that pays plainly delivers, if it has what it is to pay and the account can take it
    in. -/
theorem delivers_of_paysPlainly {next : List Call} (h : Joint c self a l)
    (plain : PaysPlainly c a.config.backend self a.config.quoteDenom)
    (hp : Performs c (Call.ofAction self (a.divestAction amount)) c₁ next)
    (funded : amount ≤ c.balance a.config.backend a.config.quoteDenom)
    (inRange : (c.balance self a.config.quoteDenom).toNat + amount.toNat < Amount.size) :
    c.Delivers self a.config (Call.ofAction self (a.divestAction amount)) amount := by
  have hfirst := hp
  cases hp with
  | @execute _ _ _ _ k k' c₂ r found paid entered =>
    cases paid
    obtain ⟨s, rfl, pays⟩ := plain _ found
    obtain ⟨s', hexecute, rfl⟩ := Contract.ofOutside_eq_ok entered
    rw [pays.pays hexecute] at hfirst
    obtain ⟨hself, hledger⟩ := plain.ne h
    -- the payment is all that comes of the call
    obtain ⟨d, hsend, hcontracts⟩ : ∃ d, Performs (c.put a.config.backend (.outside s'))
        (.send a.config.backend self [⟨a.config.quoteDenom, amount⟩]) d [] ∧
        d.contracts = (c.put a.config.backend (.outside s')).contracts := performs_send funded
    have hend : run (divestLimit - 2) d ([] ++ []) = .ok (d, []) := rfl
    obtain ⟨later, hlater⟩ := run_of_performs hsend hend
    obtain ⟨records, hrun⟩ := run_of_performs hfirst hlater
    refine ⟨d, records, hrun, ?_, ?_⟩
    · cases hsend with
      | send paid =>
        have hpaid := (balance_of_pay paid hself.symm).2
        rw [hpaid, Amount.toNat_saturatingAdd]
        have hsame : (c.put a.config.backend (.outside s')).balance self a.config.quoteDenom
            = c.balance self a.config.quoteDenom := rfl
        rw [hsame]
        omega
    · have hsame : d.ledger? a.config.ledger = c.ledger? a.config.ledger := by
        rw [ledger?, contract?, hcontracts, ← contract?, contract?_put_of_ne c _ hledger.symm,
          ledger?]
      rw [holding, holding, hsame]
      exact Nat.le_refl _

/-! ## The calls of a liquidation -/

variable {needed : Nat} {rest : List Call}

/-- A debt that the ledger counts can be pulled in and burned, if the liquidator has it and allows
    for it. -/
theorem completes_redeem {debt : Amount} (h : Joint c self a l) (hne : liquidator ≠ self)
    (sound : l.Sound) (listed : (l.minter self).listed = true) (positive : debt ≠ 0)
    (counted : debt ≤ (l.minter self).minted) (held : debt ≤ l.balances.get liquidator)
    (allowed : debt ≤ l.allowances.get (liquidator, self))
    (later : ∀ d l', l.Settled l' liquidator self debt 0 → l'.Sound → Joint d self a l' →
      OnlyAt a.config.ledger c d → Completes (Moment.Granted self a.config) needed d rest) :
    Completes (Moment.Granted self a.config) (needed + 2) c
      ([a.tellLedger (Ledger.transferFromJson liquidator self debt),
        a.tellLedger (Ledger.burnJson debt)].map (Call.ofAction self) ++ rest) := by
  have acceptable := sound.acceptable_of_le positive held
  refine Completes.step fun granted => ?_
  have hmoved : movedTo? (Ledger.transferFromJson liquidator self debt) = some self := by
    rw [movedTo?, Ledger.Message.ofJson?_transferFromJson]
  have hadmits := (granted rfl).1 rfl self hmoved
  obtain ⟨l₁, r₁, hpull, quiet₁⟩ := sound.exists_transferFrom
    ⟨acceptable, sound.minter listed⟩ positive (h.checkMovement_of_admits hadmits) allowed held
  have step₁ := Ledger.step_of_execute hpull
  obtain ⟨hminter, hpulled⟩ := Ledger.pulled_of_step hne step₁
  have sound₁ := step₁.sound sound
  have h₁ : Joint (c.put a.config.ledger (.ledger l₁)) self a l₁ := h.put_ledger
  refine ⟨_, h.performs_tellLedger
    (Ledger.Message.ofJson?_transferFromJson liquidator self debt) hpull quiet₁, ?_⟩
  refine Completes.step fun _ => ?_
  obtain ⟨l₂, r₂, hburn, quiet₂⟩ : ∃ l₂ r₂, l₁.execute
      ((c.put a.config.ledger (.ledger l₁)).env a.config.ledger) self (.burn debt) = .ok (l₂, r₂) ∧
      r₂.outgoing = [] :=
    sound₁.exists_burn (hminter ▸ listed) positive hpulled (hminter ▸ counted)
  have step₂ := Ledger.step_of_execute hburn
  refine ⟨_, h₁.performs_tellLedger (Ledger.Message.ofJson?_burnJson debt) hburn quiet₂, ?_⟩
  exact later _ l₂ (Ledger.settled_of_steps hne step₁ step₂) (step₂.sound sound₁) h₁.put_ledger
    ((OnlyAt.put c _ _).trans (OnlyAt.put _ _ _))

/-- The investment can be drawn on, if at all. -/
theorem completes_divest (h : Joint c self a l) (sound : l.Sound)
    (later : ∀ (d : Chain σ) a' l', Joint d self a' l' → a'.config = a.config → l'.Sound →
      (c.balance self a.config.quoteDenom).toNat + amount.toNat
        ≤ (d.balance self a.config.quoteDenom).toNat →
      l.balances.get self ≤ l'.balances.get self →
      Completes (Moment.Granted self a.config) needed d rest) :
    Completes (Moment.Granted self a.config) (divestLimit + needed) c
      ((if amount = 0 then [] else [a.divestAction amount]).map (Call.ofAction self) ++ rest) := by
  by_cases hzero : amount = 0
  · subst hzero
    exact (later c a l h rfl sound (Nat.le_refl _) (Nat.le_refl _)).mono (Nat.le_add_left _ _)
  · rw [if_neg hzero]
    refine Completes.of_run (Nat.sub_le callLimit 5) fun granted => ?_
    have hdrawn : drawn? (Backend.Message.divest amount).toJson = some amount := by
      rw [drawn?, Backend.Message.ofJson?_toJson]
    obtain ⟨d, records, hrun, hquote, hholding⟩ := (granted rfl).2 rfl amount hdrawn
    obtain ⟨a', l', h', hconfig, sound'⟩ := h.runs_sound sound (runs_of_run hrun)
    have hholding' := h'.holding_eq
    rw [hconfig] at hholding'
    rw [h.holding_eq, hholding'] at hholding
    exact ⟨d, records, hrun, later d a' l' h' hconfig sound' hquote hholding⟩

/-- The liquidator can be paid in quote currency, if at all. -/
theorem completes_send {P : Moment σ → Prop} (enough : amount ≤ c.balance self a.config.quoteDenom)
    (later : ∀ d, d.contracts = c.contracts → Completes P needed d rest) :
    Completes P (needed + 1) c
      ((if amount = 0 then [] else [.send liquidator (a.quoteCoins amount)]).map
        (Call.ofAction self) ++ rest) := by
  by_cases hzero : amount = 0
  · rw [if_pos hzero]
    exact (later c rfl).mono (Nat.le_succ _)
  · rw [if_neg hzero]
    obtain ⟨d, hp, hcontracts⟩ := performs_send enough
    exact Completes.step fun _ => ⟨d, hp, later d hcontracts⟩

/-- The liquidator can be paid in stablecoin, if at all. -/
theorem completes_transfer (h : Joint c self a l) (sound : l.Sound)
    (acceptable : Address.Acceptable liquidator) (enough : amount ≤ l.balances.get self) :
    Completes (Moment.Granted self a.config) 1 c
      ((if amount = 0 then [] else [a.tellLedger (Ledger.transferJson liquidator amount)]).map
        (Call.ofAction self)) := by
  by_cases hzero : amount = 0
  · rw [if_pos hzero]
    exact Completes.nil.mono (Nat.zero_le _)
  · rw [if_neg hzero]
    refine Completes.step fun granted => ?_
    have hmoved : movedTo? (Ledger.transferJson liquidator amount) = some liquidator := by
      rw [movedTo?, Ledger.Message.ofJson?_transferJson]
    have hadmits := (granted rfl).1 rfl liquidator hmoved
    obtain ⟨l', r, hpay, quiet⟩ := sound.exists_transfer acceptable hzero
      (h.checkMovement_of_admits hadmits) enough
    exact ⟨_, h.performs_tellLedger
      (Ledger.Message.ofJson?_transferJson liquidator amount) hpay quiet, Completes.nil⟩

theorem settlement_congr (h : a'.config = a.config) (liquidator : Address) (debt : Amount)
    (p : Payout) : a'.settlement self liquidator debt p = a.settlement self liquidator debt p := by
  simp only [settlement, tellLedger, divestAction, tellBackend, quoteCoins, h]

/-- All calls of a liquidation go through, if what they ask for is granted. -/
theorem completes_settlement {debt : Amount} {v : Valuation} {due : Nat} {p : Payout}
    (h : Joint c self a l) (hne : liquidator ≠ self) (sound : l.Sound)
    (listed : (l.minter self).listed = true) (positive : debt ≠ 0)
    (counted : debt ≤ (l.minter self).minted) (held : debt ≤ l.balances.get liquidator)
    (allowed : debt ≤ l.allowances.get (liquidator, self)) (covers : p.Covers v due)
    (hquote : v.quoteBalance = c.balance self a.config.quoteDenom)
    (hstablecoin : v.stablecoinBalance = l.balances.get self) :
    Completes (Moment.Granted self a.config) (divestLimit + 4) c
      (callsOf self ((a.settlement self liquidator debt p).map fun action => { action })) := by
  rw [callsOf_actions, settlement, List.map_append, List.map_append, List.map_append,
    List.append_assoc, List.append_assoc]
  have acceptable := sound.acceptable_of_le positive held
  refine completes_redeem h hne sound listed positive counted held allowed
    fun d l₁ settled sound₁ h₁ only => ?_
  refine completes_divest h₁ sound₁ fun d₂ a₂ l₂ h₂ hconfig sound₂ hpaid hkept => ?_
  -- what the backend has paid makes up for what the account lacked in quote currency
  have hquotePaid : p.quotePaid ≤ d₂.balance self a.config.quoteDenom := by
    have hadd := covers.quotePaid_eq_add
    have hfrom := covers.fromQuote
    rw [only.balance, ← hquote] at hpaid
    rw [Amount.le_iff]
    omega
  refine completes_send hquotePaid fun d₃ hcontracts => ?_
  have h₃ : Joint d₃ self a₂ l₂ := h₂.congr fun b => by rw [contract?, hcontracts, contract?]
  have hstablecoinPaid : p.stablecoinPaid ≤ l₂.balances.get self := by
    have henough := covers.enough
    have hminter := settled.minter
    rw [Amount.toNat_zero] at hminter
    rw [Amount.le_iff] at henough hkept ⊢
    rw [hstablecoin] at henough
    omega
  have hlast := completes_transfer h₃ sound₂ acceptable hstablecoinPaid
  rw [hconfig, tellLedger_congr hconfig] at hlast
  exact hlast

/-- An account that is in default can be liquidated by whoever has what it owes and allows the
    account to take it, if what the account then asks for is granted. -/
theorem exists_transact_liquidate (h : Joint c self a l) (hne : liquidator ≠ self)
    (standing : Standing self a l) (listed : (l.minter self).listed = true)
    (counted : (l.minter self).minted = a.position.borrowed)
    (decoded : Account.Message.ofJson? message = some .liquidate)
    (paid : c.payAll liquidator self funds = .ok c₁)
    (defaulted : a.query (c₁.env self) .isDefaulted = .ok (.bool true))
    (inRange : ∀ price, l.config.targetPrice c.now = .ok price →
      a.position.borrowed.toNat * price.toNat / precision
        * (precision + a.risk.liquidatorDiscount.toNat) / precision < Amount.size)
    (held : a.position.borrowed ≤ l.balances.get liquidator)
    (allowed : a.position.borrowed ≤ l.allowances.get (liquidator, self))
    (granted : ∀ m ∈ c.turnsOf (.execute liquidator self message funds),
      m.Granted self a.config) :
    ∃ c' records, c.transact (.execute liquidator self message funds) = .ok (c', records) := by
  have h₁ : Joint c₁ self a l := h.congr (contract?_of_payAll paid)
  obtain ⟨v, ratio, valued, measured, below⟩ := query_isDefaulted_eq_true defaulted
  obtain ⟨-, ⟨-, hstablecoin⟩, hprice, hquote⟩ := h₁.valuation_eq_ok_iff.1 valued
  obtain ⟨value, debtValue, -, owed, -⟩ := Valuation.equityRatio_eq_ok_iff.1 measured
  have priced : v.targetPrice ≠ 0 := standing.sound.targetPrice_ne_zero hprice
  rw [(frame_of_payAll paid).2] at hprice
  have hdebt := inRange _ hprice
  rw [← Valuation.debtValue_eq_ok_iff.1 owed] at hdebt
  obtain ⟨a', r, p, due, done, hconfig, covers, -, hout⟩ :=
    exists_liquidate standing.checked valued priced measured below owed hdebt
  have positive := indebted_of_isDefaulted standing.checked measured below
  have h₂ : Joint (c₁.put self (.account a')) self a' l := h₁.put_account hconfig
  have hrest := completes_settlement h₂ hne standing.sound listed positive
    (counted ▸ Nat.le_refl _) held allowed covers (by rw [hconfig]; exact hquote) hstablecoin
  rw [hconfig, settlement_congr hconfig] at hrest
  have performs := h.performs_message decoded paid done
  rw [hout] at performs
  exact transact_of_completes performs (by decide) hrest granted

/-! ## Every state that can be reached -/

/-- Let an account be a minter that was never removed. As long as the fee can be counted, the
    borrower can repay whatever the account owes and holds. If the account is in default, anybody
    else who has what it owes and allows it to take as much can liquidate it, as long as the value
    that is due can be counted and each of the calls that the account makes for it is granted in its
    turn: the ledger admits to whom the account moves stablecoin, and the backend pays what the
    account draws and leaves it its stablecoin. -/
theorem winding_down_completes (h : Enlisted c self a l) :
    (∀ {message : Json} {funds : List Coin} {amount fee : Amount} {c₁ : Chain σ},
      Account.Message.ofJson? message = some (.repay amount) →
      c.payAll a.config.borrower self funds = .ok c₁ →
      amount ≠ 0 → amount ≤ a.position.borrowed → amount ≤ l.balances.get self →
      a.position.feeAt a.risk.spreadFee c.now = .ok fee →
      ∃ c' records a' l',
        c.transact (.execute a.config.borrower self message funds) = .ok (c', records) ∧
        Joint c' self a' l' ∧
        a.position.borrowed.toNat = a'.position.borrowed.toNat + amount.toNat) ∧
    (∀ {liquidator : Address} {message : Json} {funds : List Coin} {c₁ : Chain σ},
      Account.Message.ofJson? message = some .liquidate → liquidator ≠ self →
      c.payAll liquidator self funds = .ok c₁ →
      a.query (c₁.env self) .isDefaulted = .ok (.bool true) →
      (∀ price, l.config.targetPrice c.now = .ok price →
        a.position.borrowed.toNat * price.toNat / precision
          * (precision + a.risk.liquidatorDiscount.toNat) / precision < Amount.size) →
      a.position.borrowed ≤ l.balances.get liquidator →
      a.position.borrowed ≤ l.allowances.get (liquidator, self) →
      (∀ m ∈ c.turnsOf (.execute liquidator self message funds), m.Granted self a.config) →
      ∃ c' records, c.transact (.execute liquidator self message funds) = .ok (c', records)) := by
  obtain ⟨standing, counted⟩ := h.standing
  constructor
  · intro message funds amount fee c₁ decoded paid positive owed held due
    exact exists_transact_repay h.joint standing.sound h.listed counted decoded paid positive owed
      held due
  · intro liquidator message funds c₁ decoded hne paid defaulted inRange held allowed granted
    exact exists_transact_liquidate h.joint hne standing h.listed counted decoded paid defaulted
      inRange held allowed granted

theorem eq_ok_bool_of_bool? {ε : Type} {x : Except ε Json} {b : Bool}
    (h : x.toOption.bind Json.bool? = some b) : x = .ok (.bool b) := by
  cases x with
  | error e => cases h
  | ok j =>
    cases j with
    | bool b' =>
      cases h
      rfl
    | _ => cases h

/-- An account that has to own a fifth of what it is worth, with 1200 of quote currency. -/
def agedAccount : Account :=
  sampleAccount 200000 100000 0

def agedChain : Chain Collaborator :=
  sampleChain newLedger agedAccount .empty
    (Holdings.empty.set ("account", "uquote") (.ofNat 1200))

/-- The account draws 1000, of which 200 stay with it, and invests 400; another minter gets hold of
    1000 as well. Then the account is disabled as a minter and paused, and a rise of the target
    price by 30 percent puts it in default. -/
def agedRun : List Transaction :=
  [⟨1, "owner", order "ledger" "add_minter"
      [("minter", .str "account"), ("max_amount", .amount (.ofNat 1000))]⟩,
    ⟨2, "borrower", order "account" "borrow" [("amount", .amount (.ofNat 1000))]⟩,
    ⟨3, "borrower", order "account" "withdraw"
      [("asset", .str "sweep"), ("amount", .amount (.ofNat 800))]⟩,
    ⟨4, "borrower", order "account" "invest"
      [("amount", .amount (.ofNat 400)), ("slippage", .word32 0)]⟩,
    ⟨5, "owner", order "ledger" "add_minter"
      [("minter", .str "liquidator"), ("max_amount", .amount (.ofNat 1000))]⟩,
    ⟨6, "liquidator", order "ledger" "minter_mint"
      [("recipient", .str "liquidator"), ("amount", .amount (.ofNat 1000))]⟩,
    ⟨7, "liquidator", order "ledger" "increase_allowance"
      [("spender", .str "account"), ("amount", .amount (.ofNat 1000))]⟩,
    ⟨8, "owner", order "ledger" "set_minter_enabled"
      [("minter", .str "account"), ("is_enabled", .bool false)]⟩,
    ⟨9, "owner", order "account" "pause" []⟩,
    ⟨10, "owner", order "ledger" "set_target_price"
      [("current", .amount (.ofNat 1300000)), ("next", .amount (.ofNat 1300000))]⟩]

def defaultedEnd : Chain Collaborator :=
  (agedChain.afterAll agedRun).atTime 20

theorem founded_agedChain : Founded agedChain "account" agedAccount newLedger := by
  have born : ∃ r, Account.setUp (agedChain.env "account") {
      name := "account", ledger := "ledger", borrower := "borrower", backend := "backend"
      venue := "venue", quoteDenom := "uquote", risk := some agedAccount.risk }
      = .ok (agedAccount, r) := ⟨_, rfl⟩
  obtain ⟨r, born⟩ := born
  exact .of_setUp born (joint_sampleChain _ _ _)
    ⟨Ledger.aloneEnv, "owner", Ledger.plainSetup, newLedger, _, [], rfl, rfl⟩ rfl

theorem enlisted_defaultedEnd :
    ∃ a l, Enlisted defaultedEnd "account" a l ∧ a.config = agedAccount.config := by
  have own : ∀ t ∈ agedRun, t.sender ≠ "account" := by decide
  have kept : ∀ m ∈ agedChain.traceAll agedRun, ¬ m.Removes "ledger" "account" := by
    decide +kernel
  have listed : ∀ l ∈ defaultedEnd.ledger? "ledger", (l.minter "account").listed = true := by
    decide +kernel
  exact founded_agedChain.exists_enlisted 20 own kept listed

/-- The account, for all that, repays 150 of what stayed with it; or else it is liquidated. -/
theorem winding_down_completes_of_agedRun :
    (∃ c' records a' l', defaultedEnd.transact (.execute "borrower" "account"
        (.tagged "repay" [("amount", .amount (.ofNat 150))]) []) = .ok (c', records) ∧
      Joint c' "account" a' l' ∧ a'.position.borrowed = .ofNat 850) ∧
    ∃ c' records, defaultedEnd.transact (.execute "liquidator" "account" (.tagged "liquidate" [])
      []) = .ok (c', records) := by
  obtain ⟨a, l, h, hconfig⟩ := enlisted_defaultedEnd
  have hledger := h.joint.ledger?_eq
  rw [hconfig] at hledger
  have hstate : ∀ a ∈ defaultedEnd.account? "account", ∀ l ∈ defaultedEnd.ledger? "ledger",
      a.position.borrowed = .ofNat 1000 ∧ .ofNat 150 ≤ l.balances.get "account" ∧
      a.position.feeAt a.risk.spreadFee 20 = .ok 0 ∧
      (a.query (defaultedEnd.env "account") .isDefaulted).toOption.bind Json.bool? = some true ∧
      l.config.targetPrice 20 = .ok (.ofNat 1300000) ∧ a.risk.liquidatorDiscount = 100000 ∧
      a.position.borrowed ≤ l.balances.get "liquidator" ∧
      a.position.borrowed ≤ l.allowances.get ("liquidator", "account") := by
    decide +kernel
  obtain ⟨hborrowed, held, fee, hquery, hprice, hdiscount, holds, allowed⟩ :=
    hstate a h.joint.account?_eq l hledger
  obtain ⟨repays, liquidates⟩ := winding_down_completes h
  constructor
  · have decoded : Account.Message.ofJson? (.tagged "repay" [("amount", .amount (.ofNat 150))])
        = some (.repay (.ofNat 150)) := by rfl
    have paid : defaultedEnd.payAll a.config.borrower "account" [] = .ok defaultedEnd := rfl
    have owed : Amount.ofNat 150 ≤ a.position.borrowed := by rw [hborrowed]; decide
    obtain ⟨c', records, a', l', done, h', hdebt⟩ :=
      repays decoded paid (by decide) owed held fee
    rw [hconfig] at done
    rw [hborrowed] at hdebt
    have hleft : a'.position.borrowed = .ofNat 850 :=
      Amount.ext (Nat.add_right_cancel (m := 150) hdebt).symm
    exact ⟨c', records, a', l', done, h', hleft⟩
  · have decoded : Account.Message.ofJson? (.tagged "liquidate" []) = some .liquidate := by rfl
    have paid : defaultedEnd.payAll "liquidator" "account" [] = .ok defaultedEnd := rfl
    have granted : ∀ m ∈ defaultedEnd.turnsOf
        (.execute "liquidator" "account" (.tagged "liquidate" []) []),
        m.Granted "account" agedAccount.config := by
      decide +kernel
    refine liquidates decoded (by decide) paid (eq_ok_bool_of_bool? hquery) ?_ holds allowed
      (hconfig ▸ granted)
    intro price h'
    cases hprice.symm.trans h'
    rw [hborrowed, hdiscount]
    decide

/-! ## A backend that pays and then acts for itself -/

/-- The backend of an account that is its borrower as well. It pays what it is asked for, and then
    does something of its own. Whatever is not for a backend it passes on, to the account if it is
    for an account, and to the ledger if not. -/
structure BackingBorrower where
  ledger : Address
  account : Address
  denom : String
  afterwards : List Action

/-- What a backend does that is the borrower as well. -/
def BackingBorrower.actions (b : BackingBorrower) (sender : Address) (message : Json) :
    List Action :=
  match Backend.Message.ofJson? message with
  | some (.divest amount) => .send sender [⟨b.denom, amount⟩] :: b.afterwards
  | some _ => []
  | none =>
    if (Account.Message.ofJson? message).isSome then [.execute b.account message []]
    else [.execute b.ledger message []]

/-- It counts all that it has as held for the account. -/
instance : Outside BackingBorrower where
  execute b _ sender _ message :=
    .ok (b, {
      attributes := []
      outgoing := (b.actions sender message).map fun action => { action } })
  reply _ _ _ := none
  query b env _ := .ok (.amount (env.querier.bankBalance env.self b.denom))

/-- Where an account draws on its backend, the backend pays. -/
def Moment.Paid (home : Address) (config : Config) : Moment σ → Prop
  | ⟨c, .execute sender contract message funds⟩ => sender = home → contract = config.backend →
    ∀ amount ∈ drawn? message,
      c.Brings home config (.execute sender contract message funds) amount
  | _ => True

instance (home : Address) (config : Config) :
    DecidablePred (Moment.Paid home config : Moment σ → Prop)
  | ⟨_, .execute ..⟩ => inferInstanceAs (Decidable (_ → _ → ∀ amount ∈ _, Brings ..))
  | ⟨_, .reply ..⟩ => inferInstanceAs (Decidable True)
  | ⟨_, .send ..⟩ => inferInstanceAs (Decidable True)

/-- An account that has to own nine percent of what it is worth, and whose backend is its
    borrower. -/
def selfBacked : Account :=
  { sampleAccount 90000 50000 0 with
    config := {
      name := "account", ledger := "ledger", borrower := "backend", backend := "backend"
      venue := "venue", quoteDenom := "uquote" } }

def selfBackedChain (afterwards : List Action) : Chain BackingBorrower where
  now := 0
  contracts :=
    ((Table.empty.insert "ledger" (.ledger newLedger)).insert "account"
      (.account selfBacked)).insert "backend"
        (.outside ⟨"ledger", "account", "uquote", afterwards⟩)
  bank := Holdings.empty.set ("account", "uquote") (.ofNat 500)

/-- The account draws 1000, of which 600 stay with it, and invests 500; another minter gets hold of
    1000 as well. The backend becomes the owner of the ledger, once a rise of the target price by
    10 percent has put the account in default. -/
def selfBackedRun : List Transaction :=
  [⟨1, "owner", order "ledger" "add_minter"
      [("minter", .str "account"), ("max_amount", .amount (.ofNat 1000))]⟩,
    ⟨2, "operator", order "backend" "borrow" [("amount", .amount (.ofNat 1000))]⟩,
    ⟨3, "operator", order "backend" "withdraw"
      [("asset", .str "sweep"), ("amount", .amount (.ofNat 400))]⟩,
    ⟨4, "operator", order "backend" "invest"
      [("amount", .amount (.ofNat 500)), ("slippage", .word32 0)]⟩,
    ⟨5, "owner", order "ledger" "add_minter"
      [("minter", .str "liquidator"), ("max_amount", .amount (.ofNat 1000))]⟩,
    ⟨6, "liquidator", order "ledger" "minter_mint"
      [("recipient", .str "liquidator"), ("amount", .amount (.ofNat 1000))]⟩,
    ⟨7, "liquidator", order "ledger" "increase_allowance"
      [("spender", .str "account"), ("amount", .amount (.ofNat 1000))]⟩,
    ⟨8, "owner", order "ledger" "set_target_price"
      [("current", .amount (.ofNat 1100000)), ("next", .amount (.ofNat 1100000))]⟩,
    ⟨9, "owner", order "ledger" "transfer_ownership" [("new_owner", .str "backend")]⟩,
    ⟨10, "operator", order "backend" "accept_ownership" []⟩]

def selfBackedEnd (afterwards : List Action) : Chain BackingBorrower :=
  ((selfBackedChain afterwards).afterAll selfBackedRun).atTime 20

/-- The backend takes out the stablecoin that the account has left. -/
def takingOut : List Action :=
  [order "account" "withdraw" [("asset", .str "sweep"), ("amount", .amount (.ofNat 600))]]

/-- The backend pauses the ledger. -/
def pausing : List Action :=
  [order "ledger" "pause" []]

theorem founded_selfBackedChain (afterwards : List Action) :
    Founded (selfBackedChain afterwards) "account" selfBacked newLedger := by
  have born : ∃ r, Account.setUp ((selfBackedChain afterwards).env "account") {
      name := "account", ledger := "ledger", borrower := "backend", backend := "backend"
      venue := "venue", quoteDenom := "uquote", risk := some selfBacked.risk }
      = .ok (selfBacked, r) := ⟨_, rfl⟩
  obtain ⟨r, born⟩ := born
  exact .of_setUp born ⟨rfl, rfl⟩
    ⟨Ledger.aloneEnv, "owner", Ledger.plainSetup, newLedger, _, [], rfl, rfl⟩ rfl

theorem enlisted_selfBackedEnd : ∀ afterwards ∈ [takingOut, pausing],
    ∃ a l, Enlisted (selfBackedEnd afterwards) "account" a l ∧ a.config = selfBacked.config := by
  intro afterwards hmem
  have own : ∀ t ∈ selfBackedRun, t.sender ≠ "account" := by decide
  have hrun : ∀ afterwards ∈ [takingOut, pausing],
      (∀ m ∈ (selfBackedChain afterwards).traceAll selfBackedRun,
        ¬ m.Removes "ledger" "account") ∧
      ∀ l ∈ (selfBackedEnd afterwards).ledger? "ledger", (l.minter "account").listed = true := by
    decide +kernel
  obtain ⟨kept, listed⟩ := hrun afterwards hmem
  exact (founded_selfBackedChain afterwards).exists_enlisted 20 own kept listed

/-- A liquidator could be expected to get through: the account is in default, the liquidator has
    what it owes and allows it to take as much, the ledger admits both, and the backend pays. -/
structure Liquidatable (c : Chain σ) (home liquidator : Address) (message : Json) (a : Account)
    (l : Ledger) : Prop where
  enlisted : Enlisted c home a l
  other : liquidator ≠ home
  decoded : Account.Message.ofJson? message = some .liquidate
  defaulted : a.query (c.env home) .isDefaulted = .ok (.bool true)
  inRange : ∀ price, l.config.targetPrice c.now = .ok price →
    a.position.borrowed.toNat * price.toNat / precision
      * (precision + a.risk.liquidatorDiscount.toNat) / precision < Amount.size
  held : a.position.borrowed ≤ l.balances.get liquidator
  allowed : a.position.borrowed ≤ l.allowances.get (liquidator, home)
  admitsHome : c.Admits a.config.ledger home
  admitsLiquidator : c.Admits a.config.ledger liquidator
  paid : ∀ m ∈ c.turnsOf (.execute liquidator home message []), m.Paid home a.config

/-- So it looks on the chain of the backend that acts for itself, whatever it is up to. -/
theorem liquidatable_selfBackedEnd : ∀ afterwards ∈ [takingOut, pausing],
    ∃ a l, Liquidatable (selfBackedEnd afterwards) "account" "liquidator"
      (.tagged "liquidate" []) a l := by
  intro afterwards hmem
  obtain ⟨a, l, enlisted, hconfig⟩ := enlisted_selfBackedEnd afterwards hmem
  have hledger := enlisted.joint.ledger?_eq
  rw [hconfig] at hledger
  have hend : ∀ afterwards ∈ [takingOut, pausing],
      (∀ a ∈ (selfBackedEnd afterwards).account? "account",
        ∀ l ∈ (selfBackedEnd afterwards).ledger? "ledger",
        (a.query ((selfBackedEnd afterwards).env "account") .isDefaulted).toOption.bind Json.bool?
          = some true ∧
        l.config.targetPrice 20 = .ok (.ofNat 1100000) ∧
        a.position.borrowed = .ofNat 1000 ∧ a.risk.liquidatorDiscount = 50000 ∧
        a.position.borrowed ≤ l.balances.get "liquidator" ∧
        a.position.borrowed ≤ l.allowances.get ("liquidator", "account")) ∧
      (selfBackedEnd afterwards).Admits "ledger" "account" ∧
      (selfBackedEnd afterwards).Admits "ledger" "liquidator" ∧
      ∀ m ∈ (selfBackedEnd afterwards).turnsOf
          (.execute "liquidator" "account" (.tagged "liquidate" []) []),
        m.Paid "account" selfBacked.config := by
    decide +kernel
  obtain ⟨hstate, admitsHome, admitsLiquidator, paid⟩ := hend afterwards hmem
  obtain ⟨hquery, hprice, hborrowed, hdiscount, held, allowed⟩ :=
    hstate a enlisted.joint.account?_eq l hledger
  refine ⟨a, l, {
    enlisted
    other := by decide
    decoded := rfl
    defaulted := eq_ok_bool_of_bool? hquery
    inRange := ?_
    held, allowed
    admitsHome := hconfig ▸ admitsHome
    admitsLiquidator := hconfig ▸ admitsLiquidator
    paid := hconfig ▸ paid }⟩
  intro price h'
  cases hprice.symm.trans h'
  rw [hborrowed, hdiscount]
  decide

/-- What a failed transaction says. -/
def complaint? {α : Type} : Except Error α → Option String
  | .ok _ => none
  | .error e => e.message

theorem eq_error_of_complaint? {α : Type} {x : Except Error α} {text : String}
    (h : complaint? x = some text) : ∃ e, x = .error e ∧ e.message = some text := by
  cases x with
  | ok y => cases h
  | error e => exact ⟨e, rfl, h⟩

/-- It is not enough that the backend pays. An account is in default, everybody has what is needed,
    the ledger admits everybody, and the backend pays in full. Still the liquidation fails, if the
    backend is the borrower and takes the stablecoin out as soon as it has paid, or if it owns the
    ledger and pauses it then. -/
theorem liquidation_blocked_by_backend :
    (∃ a l e,
      Liquidatable (selfBackedEnd takingOut) "account" "liquidator" (.tagged "liquidate" []) a l ∧
      (selfBackedEnd takingOut).transact
        (.execute "liquidator" "account" (.tagged "liquidate" []) []) = .error e ∧
      e.message = some "Not enough balance") ∧
    ∃ a l e,
      Liquidatable (selfBackedEnd pausing) "account" "liquidator" (.tagged "liquidate" []) a l ∧
      (selfBackedEnd pausing).transact
        (.execute "liquidator" "account" (.tagged "liquidate" []) []) = .error e ∧
      e.message = some "Ledger is paused" := by
  have fails : complaint? ((selfBackedEnd takingOut).transact
          (.execute "liquidator" "account" (.tagged "liquidate" []) []))
        = some "Not enough balance" ∧
      complaint? ((selfBackedEnd pausing).transact
          (.execute "liquidator" "account" (.tagged "liquidate" []) []))
        = some "Ledger is paused" := by
    decide +kernel
  obtain ⟨a, l, h⟩ := liquidatable_selfBackedEnd takingOut (by simp)
  obtain ⟨a', l', h'⟩ := liquidatable_selfBackedEnd pausing (by simp)
  obtain ⟨e, herror, hmessage⟩ := eq_error_of_complaint? fails.1
  obtain ⟨e', herror', hmessage'⟩ := eq_error_of_complaint? fails.2
  exact ⟨⟨a, l, e, h, herror, hmessage⟩, a', l', e', h', herror', hmessage'⟩

end Stablecoin.Chain
