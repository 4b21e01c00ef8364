import Stablecoin.Proofs.Chain.Investment
import Stablecoin.Proofs.Ledger.Commute

set_option autoImplicit false

/-! # What an account has

Only its own calls spend the quote currency of an account. Its stablecoin can be moved by others,
but only as far as the account has allowed them to, and an account never allows anybody anything
(`Step.ungranted`). So from an account that has granted no allowance nobody takes any, whatever they
do in between and however often they enter the account (`Joint.unpledged`, `unpledged_of_afterAll`).

While others make calls and tell the account nothing, it has no less of either currency than before,
and no more unless somebody pays it (`Apart`). -/

namespace Stablecoin

/-- What has not gone down is what it was and what it has gone up by. -/
theorem Amount.eq_add_saturatingSub {before after : Amount} (kept : before ≤ after) :
    after.toNat = before.toNat + (after.saturatingSub before).toNat := by
  rw [Amount.toNat_saturatingSub]
  exact (Nat.add_sub_of_le (Amount.le_iff.1 kept)).symm

/-! ## Allowances of an account -/

namespace Ledger

/-- The message grants somebody an allowance. -/
def Message.grants : Message → Bool
  | .increaseAllowance .. => true
  | _ => false

/-- Nobody has an allowance on the stablecoin of a holder. -/
def Unpledged (l : Ledger) (holder : Address) : Prop :=
  ∀ spender, l.allowances.get (holder, spender) = 0

variable {l l' : Ledger} {env : Env} {sender holder : Address} {m : Message} {out : List Outgoing}

/-- Only the holder can grant an allowance. -/
theorem Step.unpledged (h : Step l env sender m l' out) (unpledged : l.Unpledged holder)
    (ungranted : sender = holder → m.grants = false) : l'.Unpledged holder := by
  intro spender
  have hgranted : (Deed.mk l sender m).granted holder spender = 0 := by
    by_cases hsender : sender = holder
    · have hm := ungranted hsender
      cases m with
      | increaseAllowance => cases hm
      | _ => rfl
    · exact (granted_unwanted_of_ne hsender spender).1
  have hallowance := h.allowance holder spender
  rw [hgranted, unpledged spender, Amount.toNat_zero] at hallowance
  rw [Amount.eq_zero_iff]
  omega

/-- Nobody else takes anything from a holder who has granted no allowance. -/
theorem Step.debited_eq_zero (h : Step l env sender m l' out) (unpledged : l.Unpledged holder)
    (other : sender ≠ holder) : m.debited sender holder = 0 := by
  cases m with
  | transferFrom owner recipient amount =>
    refine if_neg ?_
    rintro rfl
    exact h.allowance_ne_zero (unpledged sender)
  | transfer | send | burn => exact if_neg other
  | _ => rfl

end Ledger

/-- The action asks a ledger for an allowance. -/
def Action.grants : Action → Bool
  | .execute _ message _ => (Ledger.Message.ofJson? message).any Ledger.Message.grants
  | .send .. => false

namespace Account

variable {a a' : Account} {env : Env} {sender : Address} {m : Message} {out : List Outgoing}

@[simp] theorem grants_send (recipient : Address) (coins : List Coin) :
    (Action.send recipient coins).grants = false := rfl

@[simp] theorem grants_tellLedger (message : Json) :
    (a.tellLedger message).grants
      = (Ledger.Message.ofJson? message).any Ledger.Message.grants := rfl

@[simp] theorem grants_sellAction (amount minAmountOut : Amount) :
    (a.sellAction amount minAmountOut).grants = false := by
  simp [sellAction, Ledger.Message.grants]

@[simp] theorem grants_buyAction (amount minAmountOut : Amount) :
    (a.buyAction amount minAmountOut).grants = false := rfl

@[simp] theorem grants_tellBackend (bm : Backend.Message) (funds : List Coin) :
    (a.tellBackend bm funds).grants = false := by
  cases bm <;> rfl

@[simp] theorem grants_withdrawAction (asset : Asset) (amount : Amount) :
    (a.withdrawAction asset amount).grants = false := by
  cases asset with
  | quote => rfl
  | stablecoin => simp [withdrawAction, Ledger.Message.grants]

theorem grants_settlement (self liquidator : Address) (debt : Amount) (p : Payout) :
    ∀ action ∈ a.settlement self liquidator debt p, action.grants = false := by
  unfold settlement
  split <;> split <;> split <;>
    simp [divestAction, Ledger.Message.grants]

/-- No message makes an account grant an allowance, -/
theorem Step.ungranted (h : Step a env sender m a' out) : ∀ o ∈ out, o.action.grants = false := by
  cases h with
  | liquidate =>
    intro o ho
    obtain ⟨action, haction, rfl⟩ := List.mem_map.1 ho
    exact grants_settlement _ _ _ _ action haction
  | _ => simp [investAction, divestAction, Ledger.Message.grants]

/-- and no reply does. -/
theorem Hears.ungranted {id : Nat} (h : Hears a env id a' out) :
    ∀ o ∈ out, o.action.grants = false := by
  cases h <;> simp [investAction]

end Account

namespace Chain

open Account

variable {σ : Type} {c c' c₁ d : Chain σ} {self home b payer payee : Address} {a : Account}
  {l l' l₁ : Ledger} {call : Call} {next calls : List Call} {tr : List (Moment σ)} {denom : String}

/-! ## Calls that move what an address has -/

/-- The call asks a ledger for an allowance on what an address has. -/
def Call.Grants (home : Address) : Call → Prop
  | .execute sender _ message _ =>
    sender = home ∧ (Ledger.Message.ofJson? message).any Ledger.Message.grants = true
  | _ => False

/-- Somebody else has the ledger take stablecoin from an address, -/
def Call.Takes (ledger home : Address) : Call → Prop
  | .execute sender contract message _ => (sender ≠ home ∧ contract = ledger) ∧
    ∃ m ∈ Ledger.Message.ofJson? message, m.debited sender home ≠ 0
  | _ => False

/-- or give stablecoin to it. -/
def Call.Gives (ledger home : Address) : Call → Prop
  | .execute sender contract message _ => (sender ≠ home ∧ contract = ledger) ∧
    ∃ m ∈ Ledger.Message.ofJson? message, m.credited home ≠ 0
  | _ => False

/-- Some of a currency is among the coins. -/
def Includes (denom : String) (coins : List Coin) : Prop :=
  ∃ coin ∈ coins, coin.denom = denom ∧ coin.amount ≠ 0

/-- The call pays an address some of a currency. -/
def Call.Pays (home : Address) (denom : String) : Call → Prop
  | .execute _ contract _ funds => contract = home ∧ Includes denom funds
  | .send _ recipient coins => recipient = home ∧ Includes denom coins
  | .reply .. => False

instance (ledger home : Address) : DecidablePred (Call.Takes ledger home)
  | .execute .. => inferInstanceAs (Decidable ((_ ∧ _) ∧ ∃ m ∈ _, _ ≠ 0))
  | .reply .. => inferInstanceAs (Decidable False)
  | .send .. => inferInstanceAs (Decidable False)

instance (ledger home : Address) : DecidablePred (Call.Gives ledger home)
  | .execute .. => inferInstanceAs (Decidable ((_ ∧ _) ∧ ∃ m ∈ _, _ ≠ 0))
  | .reply .. => inferInstanceAs (Decidable False)
  | .send .. => inferInstanceAs (Decidable False)

instance (denom : String) : DecidablePred (Includes denom) :=
  fun coins => inferInstanceAs (Decidable (∃ coin ∈ coins, _))

instance (home : Address) (denom : String) : DecidablePred (Call.Pays home denom)
  | .execute .. => inferInstanceAs (Decidable (_ ∧ Includes denom _))
  | .send .. => inferInstanceAs (Decidable (_ ∧ Includes denom _))
  | .reply .. => inferInstanceAs (Decidable False)

/-! ## Payments of others -/

/-- What somebody has who does not pay, after a coin has been paid. -/
theorem balance_of_pay_of_ne_payer {coin : Coin} (h : c.pay payer payee coin = .ok c')
    (hne : payer ≠ home) : c'.balance home denom
      = if payee = home ∧ coin.denom = denom then (c.balance home denom).saturatingAdd coin.amount
        else c.balance home denom := by
  obtain ⟨left, -, rfl⟩ := pay_eq_ok_iff.1 h
  simp only [balance_setBalance, Prod.mk.injEq]
  split
  · rename_i hpayee
    obtain ⟨rfl, rfl⟩ := hpayee
    simp [hne]
  · simp [hne]

/-- Nobody loses anything by a payment of somebody else, -/
theorem le_balance_of_payAll {coins : List Coin} (h : c.payAll payer payee coins = .ok c')
    (hne : payer ≠ home) : c.balance home denom ≤ c'.balance home denom := by
  induction coins generalizing c with
  | nil =>
    cases h
    exact Nat.le_refl _
  | cons coin rest ih =>
    obtain ⟨c₁, hpay, hrest⟩ := payAll_cons_eq_ok_iff.1 h
    have hfirst : c.balance home denom ≤ c₁.balance home denom := by
      rw [balance_of_pay_of_ne_payer hpay hne]
      have hlt := (c.balance home denom).isLt
      split
      · rw [Amount.le_iff, Amount.toNat_saturatingAdd]
        omega
      · exact Nat.le_refl _
    exact Nat.le_trans hfirst (ih hrest)

/-- and nobody gains anything who is not paid. -/
theorem balance_of_payAll_unpaid {coins : List Coin} (h : c.payAll payer payee coins = .ok c')
    (hne : payer ≠ home) (unpaid : ¬ (payee = home ∧ Includes denom coins)) :
    c'.balance home denom = c.balance home denom := by
  induction coins generalizing c with
  | nil =>
    cases h
    rfl
  | cons coin rest ih =>
    obtain ⟨c₁, hpay, hrest⟩ := payAll_cons_eq_ok_iff.1 h
    rw [ih hrest, balance_of_pay_of_ne_payer hpay hne]
    · split
      · rename_i hpayee
        have hnothing : coin.amount = 0 := by
          by_contra hsome
          exact unpaid ⟨hpayee.1, coin, List.mem_cons_self .., hpayee.2, hsome⟩
        rw [hnothing, Amount.saturatingAdd_zero]
      · rfl
    · rintro ⟨hpayee, other, hother, hsome⟩
      exact unpaid ⟨hpayee, other, List.mem_cons_of_mem _ hother, hsome⟩

variable [Outside σ]

/-- So it is with every call of somebody else. -/
theorem Performs.balance (hp : Performs c call c' next) (foreign : call.issuer ≠ home)
    (denom : String) : c.balance home denom ≤ c'.balance home denom ∧
      (¬ call.Pays home denom → c'.balance home denom = c.balance home denom) := by
  cases hp with
  | @execute sender b message funds k k' c₁ r found paid entered =>
    change c.balance home denom ≤ c₁.balance home denom ∧
      (_ → c₁.balance home denom = c.balance home denom)
    exact ⟨le_balance_of_payAll paid foreign, balance_of_payAll_unpaid paid foreign⟩
  | reply found heard => exact ⟨Nat.le_refl _, fun _ => rfl⟩
  | send paid => exact ⟨le_balance_of_payAll paid foreign, balance_of_payAll_unpaid paid foreign⟩

/-! ## Nobody takes from an account -/

omit [Outside σ] in
theorem Call.not_grants_of_issuer_ne (h : call.issuer ≠ home) : ¬ call.Grants home := by
  cases call with
  | execute sender contract message funds => exact fun hgrants => h hgrants.1
  | _ => exact id

omit [Outside σ] in
theorem not_grants_of_mem_callsOf {out : List Outgoing} (h : ∀ o ∈ out, o.action.grants = false)
    (hcall : call ∈ callsOf b out) : ¬ call.Grants home := by
  obtain ⟨⟨action, replyId⟩, ho, hcall⟩ := List.mem_flatMap.1 hcall
  have hquiet := h _ ho
  rcases List.mem_cons.1 hcall with rfl | hreply
  · cases action with
    | execute contract message funds =>
      rintro ⟨-, hgrants⟩
      exact Bool.false_ne_true (hquiet.symm.trans hgrants)
    | send recipient coins => exact id
  · cases replyId with
    | none => cases hreply
    | some k =>
      cases List.mem_singleton.1 hreply
      exact id

/-- An account grants no allowance in a run, unless it is about to. -/
theorem Runs.ungranted (hr : Runs c calls tr c') (stands : c.account? self = some a)
    (ungranted : ∀ call ∈ calls, ¬ call.Grants self) : ∀ m ∈ tr, ¬ m.call.Grants self := by
  induction hr generalizing a with
  | done =>
    intro m hm
    cases hm
  | @step c c₁ c' call next rest tr performs runs ih =>
    obtain ⟨a₁, stands₁, touches⟩ := touches_of_performs stands performs
    have hnext : ∀ later ∈ next, ¬ later.Grants self := by
      cases touches with
      | execute paid decoded step =>
        exact fun later hlater => not_grants_of_mem_callsOf step.ungranted hlater
      | reply hears => exact fun later hlater => not_grants_of_mem_callsOf hears.ungranted hlater
      | elsewhere other foreign =>
        exact fun later hlater => Call.not_grants_of_issuer_ne (foreign later hlater)
    have hlater := ih stands₁ fun later hlater => (List.mem_append.1 hlater).elim (hnext later)
      fun hrest => ungranted later (List.mem_cons_of_mem _ hrest)
    intro m hm
    rcases List.mem_cons.1 hm with rfl | hm
    · exact ungranted _ (List.mem_cons_self ..)
    · exact hlater m hm

/-- A call that grants nothing on what an account has leaves it without allowances, and takes
    nothing from it. -/
theorem Effect.unpledged {a' : Account} (h : Joint c self a l)
    (e : Effect c self a l call a' l' next) (ungranted : ¬ call.Grants self)
    (unpledged : l.Unpledged self) :
    l'.Unpledged self ∧ ¬ call.Takes a.config.ledger self := by
  cases e with
  | account paid decoded step =>
    exact ⟨unpledged, fun htakes => h.self_ne_ledger htakes.1.2⟩
  | hears hears => exact ⟨unpledged, id⟩
  | @ledger sender message funds c₁ m l' out paid decoded step =>
    constructor
    · refine step.unpledged unpledged fun hsender => Bool.eq_false_iff.2 fun hgrants => ?_
      exact ungranted ⟨hsender, by rw [decoded]; exact hgrants⟩
    · rintro ⟨⟨other, -⟩, m', decoded', htakes⟩
      cases decoded.symm.trans decoded'
      exact htakes (step.debited_eq_zero unpledged other)
  | elsewhere other => exact ⟨unpledged, fun htakes => other.2 htakes.1.2⟩
  | hearsElsewhere other => exact ⟨unpledged, id⟩
  | send => exact ⟨unpledged, id⟩

/-- Nobody takes stablecoin from an account that has granted no allowance, and it grants none. -/
theorem Joint.unpledged (h : Joint c self a l) (unpledged : l.Unpledged self)
    (hr : Runs c calls tr c') (ungranted : ∀ call ∈ calls, ¬ call.Grants self) :
    (∃ a' l', Joint c' self a' l' ∧ a'.config = a.config ∧ l'.Unpledged self) ∧
      ∀ m ∈ tr, ¬ m.call.Takes a.config.ledger self :=
  h.runs_along (P := fun _ l => l.Unpledged self) (K := fun m => ¬ m.call.Grants self)
    (Q := fun m => ¬ m.call.Takes a.config.ledger self)
    (fun hj effect hledger hK hP => hledger ▸ effect.unpledged hj hK hP) rfl unpledged hr
    (hr.ungranted h.account?_eq ungranted)

/-- So it stays, over every row of transactions. -/
theorem unpledged_of_afterAll (h : Joint c self a l) (unpledged : l.Unpledged self)
    {ts : List Transaction} (own : ∀ t ∈ ts, t.sender ≠ self) :
    ∃ a' l', Joint (c.afterAll ts) self a' l' ∧ a'.config = a.config ∧ l'.Unpledged self := by
  induction ts generalizing c a l with
  | nil => exact ⟨a, l, h, rfl, unpledged⟩
  | cons t rest ih =>
    have hfirst : ∃ a₁ l₁, Joint (c.after t) self a₁ l₁ ∧ a₁.config = a.config ∧
        l₁.Unpledged self := by
      rcases runs_or_eq_of_after c t with hruns | ⟨hafter, -⟩
      · refine ((h.atTime t.time).unpledged unpledged hruns ?_).1
        intro call hcall
        obtain rfl := List.mem_singleton.1 hcall
        refine Call.not_grants_of_issuer_ne ?_
        have hsender := own t (List.mem_cons_self ..)
        unfold Transaction.call
        cases t.action <;> exact hsender
      · rw [hafter]
        exact ⟨a, l, h.atTime t.time, rfl, unpledged⟩
    obtain ⟨a₁, l₁, h₁, hconfig₁, unpledged₁⟩ := hfirst
    obtain ⟨a', l', h', hconfig, unpledged'⟩ := ih h₁ unpledged₁
      fun t ht => own t (List.mem_cons_of_mem _ ht)
    exact ⟨a', l', h', hconfig.trans hconfig₁, unpledged'⟩

/-! ## While others make calls -/

/-- Others have made calls, and the account is as it was. It has no less quote currency, and no more
    if nobody has paid it any. If nobody has taken stablecoin from it, it has no less of that
    either, and no more if nobody has given it any. -/
structure Apart (c : Chain σ) (home : Address) (a : Account) (l : Ledger) (tr : List (Moment σ))
    (c' : Chain σ) (l' : Ledger) : Prop where
  joint : Joint c' home a l'
  foreign : ∀ m ∈ tr, m.call.issuer ≠ home
  kept : c.balance home a.config.quoteDenom ≤ c'.balance home a.config.quoteDenom
  unpaid : (∀ m ∈ tr, ¬ m.call.Pays home a.config.quoteDenom) →
    c'.balance home a.config.quoteDenom = c.balance home a.config.quoteDenom
  untaken : (∀ m ∈ tr, ¬ m.call.Takes a.config.ledger home) →
    l.balances.get home ≤ l'.balances.get home
  ungiven : (∀ m ∈ tr, ¬ m.call.Takes a.config.ledger home) →
    (∀ m ∈ tr, ¬ m.call.Gives a.config.ledger home) → l'.balances.get home = l.balances.get home

namespace Apart

omit [Outside σ] in
theorem refl (h : Joint c home a l) : Apart c home a l [] c l where
  joint := h
  foreign _ hm := by cases hm
  kept := Nat.le_refl _
  unpaid _ := rfl
  untaken _ := Nat.le_refl _
  ungiven _ _ := rfl

omit [Outside σ] in
theorem trans {first second : List (Moment σ)} (h : Apart c home a l first d l₁)
    (h' : Apart d home a l₁ second c' l') : Apart c home a l (first ++ second) c' l' where
  joint := h'.joint
  foreign m hm := (List.mem_append.1 hm).elim (h.foreign m) (h'.foreign m)
  kept := Nat.le_trans h.kept h'.kept
  unpaid hpays := by
    rw [List.forall_mem_append] at hpays
    rw [h'.unpaid hpays.2, h.unpaid hpays.1]
  untaken htakes := by
    rw [List.forall_mem_append] at htakes
    exact Nat.le_trans (h.untaken htakes.1) (h'.untaken htakes.2)
  ungiven htakes hgives := by
    rw [List.forall_mem_append] at htakes hgives
    rw [h'.ungiven htakes.2 hgives.2, h.ungiven htakes.1 hgives.1]

omit [Outside σ] in
/-- It does not matter what contracts stand on the chain before. -/
theorem of_put {k : Contract σ} (h : Apart (c.put b k) home a l tr c' l') :
    Apart c home a l tr c' l' :=
  ⟨h.joint, h.foreign, h.kept, h.unpaid, h.untaken, h.ungiven⟩

end Apart

/-- One call of somebody else that tells the account nothing, -/
theorem Joint.apart_of_performs (h : Joint c self a l) (hp : Performs c call c₁ next)
    (foreign : call.issuer ≠ self) (untold : ¬ call.Tells self) :
    (∃ l₁, Apart c self a l [⟨c, call⟩] c₁ l₁) ∧ ∀ later ∈ next, later.issuer ≠ self := by
  obtain ⟨a₁, l₁, h₁, effect⟩ := h.performs hp
  obtain ⟨kept, unpaid⟩ := hp.balance foreign a.config.quoteDenom
  have hforeign : ∀ {b : Address} {out : List Outgoing}, b ≠ self →
      ∀ later ∈ callsOf b out, later.issuer ≠ self := by
    intro b out hb later hlater
    rw [issuer_of_mem_callsOf hlater]
    exact hb
  -- a call that does not reach the ledger leaves the stablecoin where it is
  have haway (h₁ : Joint c₁ self a l) : Apart c self a l [⟨c, call⟩] c₁ l := by
    refine ⟨h₁, ?_, kept, ?_, fun _ => Nat.le_refl _, fun _ _ => rfl⟩
    · simpa using foreign
    · simpa using unpaid
  cases effect with
  | account => exact absurd rfl untold
  | hears => exact absurd rfl foreign
  | @ledger sender message funds c₂ m _ out paid decoded step =>
    refine ⟨⟨l₁, h₁, ?_, kept, ?_, ?_, ?_⟩, hforeign h.self_ne_ledger.symm⟩
    · simpa using foreign
    · simpa using unpaid
    all_goals
      have hbalance := step.balance_add_debited self
    · intro htakes
      have hdebited : m.debited sender self = 0 := by
        by_contra hsome
        exact htakes _ (List.mem_singleton_self _) ⟨⟨foreign, rfl⟩, m, decoded, hsome⟩
      rw [Amount.le_iff]
      omega
    · intro htakes hgives
      have hdebited : m.debited sender self = 0 := by
        by_contra hsome
        exact htakes _ (List.mem_singleton_self _) ⟨⟨foreign, rfl⟩, m, decoded, hsome⟩
      have hcredited : m.credited self = 0 := by
        by_contra hsome
        exact hgives _ (List.mem_singleton_self _) ⟨⟨foreign, rfl⟩, m, decoded, hsome⟩
      exact Amount.ext (by omega)
  | elsewhere other => exact ⟨⟨l, haway h₁⟩, hforeign other.1⟩
  | hearsElsewhere other => exact ⟨⟨l, haway h₁⟩, hforeign other.1⟩
  | send => exact ⟨⟨l, haway h₁⟩, fun later hlater => by cases hlater⟩

/-- and all that follows from such calls. -/
theorem Joint.apart (h : Joint c self a l) (hr : Runs c calls tr c')
    (foreign : ∀ call ∈ calls, call.issuer ≠ self) (quiet : ∀ m ∈ tr, ¬ m.call.Tells self) :
    ∃ l', Apart c self a l tr c' l' := by
  induction hr generalizing l with
  | done => exact ⟨l, .refl h⟩
  | @step c c₁ c' call next rest tr performs runs ih =>
    obtain ⟨⟨l₁, hfirst⟩, hnext⟩ := h.apart_of_performs performs
      (foreign call (List.mem_cons_self ..)) (quiet _ (List.mem_cons_self ..))
    obtain ⟨l', hlater⟩ := ih hfirst.joint
      (fun later hlater => (List.mem_append.1 hlater).elim (hnext later)
        fun hrest => foreign later (List.mem_cons_of_mem _ hrest))
      fun m hm => quiet m (List.mem_cons_of_mem _ hm)
    exact ⟨l', hfirst.trans hlater⟩

/-- What an account tells another contract, something that no ledger can read, and all that follows
    from it. -/
theorem Joint.apart_of_outgoing {message : Json} {funds : List Coin} (h : Joint c self a l)
    (unread : Ledger.Message.ofJson? message = none)
    (hr : Runs c [.execute self b message funds] tr d) (quiet : ∀ m ∈ tr, ¬ m.call.Tells self) :
    ∃ c₁ later l', b ≠ self ∧ c.payAll self b funds = .ok c₁ ∧
      tr = ⟨c, .execute self b message funds⟩ :: later ∧ Apart c₁ self a l later d l' := by
  cases hr with
  | step performs runs =>
    have hself : b ≠ self := quiet _ (List.mem_cons_self ..)
    have hledger : b ≠ a.config.ledger := by
      rintro rfl
      obtain ⟨_, m, l', out, -, decoded, -⟩ := h.performs_ledger performs
      cases unread.symm.trans decoded
    cases performs with
    | @execute _ _ _ _ k k' c₁ r found paid entered =>
      have h₁ : Joint (c₁.put b k') self a l :=
        (h.congr (contract?_of_payAll paid)).put_other ⟨hself, hledger⟩
      rw [List.append_nil] at runs
      obtain ⟨l', happart⟩ := h₁.apart runs
        (fun later hlater => by rw [issuer_of_mem_callsOf hlater]; exact hself)
        fun m hm => quiet m (List.mem_cons_of_mem _ hm)
      exact ⟨c₁, _, l', hself, paid, rfl, happart.of_put⟩

/-- A sale moves just what is sold, and all else is what others do. -/
theorem Sells.apart {sold minAmountOut : Amount} (h : Joint c self a l)
    (s : Sells c self a l sold minAmountOut tr d) (quiet : ∀ m ∈ tr, ¬ m.call.Tells self) :
    ∃ l₁ l', (l₁.balances.get self).toNat + sold.toNat = (l.balances.get self).toNat ∧
      Apart c self a l₁ tr.tail d l' := by
  obtain ⟨balances, swap, -, hleft, rfl, hr⟩ := s.moves
  have h₁ : Joint (c.put a.config.ledger (.ledger { l with balances })) self a
      { l with balances } := h.put_ledger
  obtain ⟨l', happart⟩ := h₁.apart hr
    (fun call hcall => by rw [List.mem_singleton.1 hcall]; exact h.self_ne_ledger.symm)
    fun m hm => quiet m (List.mem_cons_of_mem _ hm)
  exact ⟨_, l', hleft, happart.of_put⟩

/-! ## A message and what follows from it -/

/-- A transaction that tells an account something and completes: the account does its step on the
    chain where the funds have come in, and all else follows from that. -/
theorem Joint.runs_of_transact {sender : Address} {message : Json} {funds : List Coin}
    {records : List Record} {m : Account.Message} (h : Joint c self a l)
    (decoded : Account.Message.ofJson? message = some m)
    (completes : c.transact (.execute sender self message funds) = .ok (c', records)) :
    ∃ c₁ a' out later, c.payAll sender self funds = .ok c₁ ∧ Joint c₁ self a l ∧
      a.Step (c₁.env self) sender m a' out ∧
      trace callLimit c [.execute sender self message funds]
        = ⟨c, .execute sender self message funds⟩ :: later ∧
      Runs (c₁.put self (.account a')) (callsOf self out) later c' := by
  have hr := runs_of_run completes
  generalize trace callLimit c [.execute sender self message funds] = tr at hr
  cases hr with
  | step performs runs =>
    obtain ⟨c₁, m', a', out, paid, decoded', step, rfl, rfl⟩ := h.performs_account performs
    cases decoded.symm.trans decoded'
    rw [List.append_nil] at runs
    exact ⟨c₁, a', out, _, paid, h.congr (contract?_of_payAll paid), step, rfl, runs⟩

end Chain

end Stablecoin
