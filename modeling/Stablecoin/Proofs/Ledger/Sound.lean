import Stablecoin.Proofs.Crawl
import Stablecoin.Proofs.Ledger.Minters

set_option autoImplicit false

/-! # Sound ledgers

What a ledger checks when it is asked for something is more than it needs to check: much of it holds
of every ledger that can be reached. `Sound` collects this: balances add up to the supply, whoever
holds anything or is a listed minter has an address that a ledger takes, and no anchor of the target
price is zero. On a sound ledger a movement or a burn needs no more than its own conditions
(`exists_transfer`, `exists_transferFrom`, `exists_burn`). -/

namespace Stablecoin.Ledger

/-- What holds of every ledger that can be reached. -/
structure Sound (l : Ledger) : Prop where
  total : l.balances.total = l.token.supply.toNat
  holder {a : Address} : l.balances.get a ≠ 0 → Address.Acceptable a
  minter {a : Address} : (l.minter a).listed = true → Address.Acceptable a
  current : l.config.currentPrice ≠ 0
  next : l.config.nextPrice ≠ 0

variable {l l' : Ledger} {env : Env} {sender : Address} {m : Message} {out : List Outgoing}

theorem sound_of_isNew (h : l.IsNew) : l.Sound where
  total := by
    rw [h.balances, h.supply]
    rfl
  holder := by
    intro a ha
    rw [h.balances] at ha
    exact absurd rfl ha
  minter := by
    intro a ha
    rw [Ledger.minter, h.minters] at ha
    cases ha
  current := h.priced
  next := by
    rw [h.resting]
    exact h.priced

/-! ## Steps -/

/-- Whoever holds something has held something before, or has been named as a recipient. -/
theorem Step.holder (h : Step l env sender m l' out) {a : Address}
    (hl : l.balances.get a ≠ 0 → Address.Acceptable a) (ha : l'.balances.get a ≠ 0) :
    Address.Acceptable a := by
  cases h with
  | transfer acceptable positive movable moves =>
    rcases moves.eq_payee_or_get_ne_zero ha with rfl | hbefore
    · exact acceptable
    · exact hl hbefore
  | transferFrom acceptable positive movable allowed moves =>
    rcases moves.eq_payee_or_get_ne_zero ha with rfl | hbefore
    · exact acceptable.2
    · exact hl hbefore
  | send acceptable positive movable moves =>
    rcases moves.eq_payee_or_get_ne_zero ha with rfl | hbefore
    · exact acceptable
    · exact hl hbefore
  | @mint recipient amount minted balance supply registered active acceptable =>
    by_cases hrecipient : recipient = a
    · exact hrecipient ▸ acceptable
    · rw [Holdings.get_set_of_ne _ _ hrecipient] at ha
      exact hl ha
  | @burn amount minted balance supply listed positive debited =>
    by_cases hsender : sender = a
    · subst hsender
      rw [Holdings.get_set_self] at ha
      refine hl fun hzero => ha (Amount.eq_zero_iff.2 ?_)
      rw [hzero, Amount.toNat_zero] at debited
      omega
    · rw [Holdings.get_set_of_ne _ _ hsender] at ha
      exact hl ha
  | _ => exact hl ha

theorem listed_of_insert {b a : Address} {x : Minter} (h : l'.minters = l.minters.insert b x)
    (ha : (l'.minter a).listed = true) :
    (b = a ∧ x.listed = true) ∨ (l.minter a).listed = true := by
  rw [minter_eq_of_insert h] at ha
  split at ha
  · rename_i heq
    exact .inl ⟨heq, ha⟩
  · exact .inr ha

/-- Whoever is a listed minter has been one before, or has been added. -/
theorem Step.listed (h : Step l env sender m l' out) {a : Address}
    (ha : (l'.minter a).listed = true) :
    (l.minter a).listed = true ∨ Address.Acceptable a := by
  cases h with
  | mint registered =>
    rcases listed_of_insert (l := l) rfl ha with ⟨rfl, -⟩ | hbefore
    · exact .inl registered.1
    · exact .inl hbefore
  | burn listed =>
    rcases listed_of_insert (l := l) rfl ha with ⟨rfl, -⟩ | hbefore
    · exact .inl listed
    · exact .inl hbefore
  | addMinter governs acceptable =>
    rcases listed_of_insert (l := l) rfl ha with ⟨rfl, -⟩ | hbefore
    · exact .inr acceptable
    · exact .inl hbefore
  | removeMinter governs acceptable listed =>
    rcases listed_of_insert (l := l) rfl ha with ⟨-, hx⟩ | hbefore
    · cases hx
    · exact .inl hbefore
  | setMinterMaxAmount governs acceptable listed =>
    rcases listed_of_insert (l := l) rfl ha with ⟨rfl, -⟩ | hbefore
    · exact .inl listed
    · exact .inl hbefore
  | setMinterEnabled governs acceptable listed =>
    rcases listed_of_insert (l := l) rfl ha with ⟨rfl, -⟩ | hbefore
    · exact .inl listed
    · exact .inl hbefore
  | _ => exact .inl ha

/-- No step sets an anchor of the target price to zero. -/
theorem Step.anchors (h : Step l env sender m l' out)
    (hl : l.config.currentPrice ≠ 0 ∧ l.config.nextPrice ≠ 0) :
    l'.config.currentPrice ≠ 0 ∧ l'.config.nextPrice ≠ 0 := by
  cases h with
  | configure step =>
    cases step with
    | startPeriod governs => exact ⟨hl.2, hl.2⟩
    | setTargetPrice governs positive => exact positive
    | _ => exact hl
  | _ => exact hl

theorem Step.sound (h : Step l env sender m l' out) (hl : l.Sound) : l'.Sound where
  total := by
    have hsupply := h.supply
    have htotal := h.total
    have hbefore := hl.total
    omega
  holder := h.holder hl.holder
  minter ha := by
    rcases h.listed ha with hbefore | acceptable
    · exact hl.minter hbefore
    · exact acceptable
  current := (h.anchors ⟨hl.current, hl.next⟩).1
  next := (h.anchors ⟨hl.current, hl.next⟩).2

theorem Reachable.sound (h : l.Reachable) : l.Sound :=
  h.induction (fun hsetUp => sound_of_isNew (isNew_of_setUp hsetUp)) fun hstep hl => hstep.sound hl

/-! ## Prices -/

/-- A crawl between two prices that are not zero never passes through zero. -/
theorem targetPriceAt_ne_zero {current next price : Amount} {start length now : Nat}
    (hcurrent : current ≠ 0) (hnext : next ≠ 0)
    (h : targetPriceAt current next start length now = .ok price) : price ≠ 0 := by
  obtain ⟨price', hprice', hbetween⟩ := exists_targetPriceAt current next start length now
  rw [h] at hprice'
  cases hprice'
  rw [Ne, Amount.eq_zero_iff] at hcurrent hnext ⊢
  simp only [Amount.le_iff] at hbetween
  omega

theorem Sound.targetPrice_ne_zero (h : l.Sound) {now : Seconds} {price : Amount}
    (hprice : l.config.targetPrice now = .ok price) : price ≠ 0 :=
  targetPriceAt_ne_zero h.current h.next hprice

/-! ## What goes through -/

variable {amount : Amount}

/-- Whoever has something has an address that the ledger takes. -/
theorem Sound.acceptable_of_le (h : l.Sound) {a : Address} (positive : amount ≠ 0)
    (held : amount ≤ l.balances.get a) : Address.Acceptable a := by
  refine h.holder fun hzero => positive (Amount.eq_zero_iff.2 ?_)
  rw [hzero, Amount.le_iff, Amount.toNat_zero] at held
  omega

theorem Sound.total_lt (h : l.Sound) : l.balances.total < Amount.size := by
  rw [h.total]
  exact l.token.supply.isLt

/-- Whoever has an amount can give it to anybody. -/
theorem Sound.exists_debit_credit (h : l.Sound) {payer : Address} (payee : Address)
    (held : amount ≤ l.balances.get payer) :
    ∃ l₁ l₂, l.debit payer amount = .ok l₁ ∧ l₁.credit payee amount = .ok l₂ := by
  obtain ⟨left, grown, hleft, hgrown⟩ := l.balances.exists_moves payee held h.total_lt
  exact ⟨_, _, debit_eq_ok_iff.2 ⟨left, hleft, rfl⟩, credit_eq_ok_iff.2 ⟨grown, hgrown, rfl⟩⟩

theorem Sound.exists_transfer (h : l.Sound) {recipient : Address}
    (acceptable : Address.Acceptable recipient) (positive : amount ≠ 0)
    (movable : checkMovement l.config env recipient = .ok ())
    (held : amount ≤ l.balances.get sender) :
    ∃ l' r, l.execute env sender (.transfer recipient amount) = .ok (l', r) ∧ r.outgoing = [] := by
  obtain ⟨l₁, l₂, hdebit, hcredit⟩ := h.exists_debit_credit recipient held
  have hvalid : validAddress recipient = .ok recipient := validAddress_eq_ok_iff.2 ⟨rfl, acceptable⟩
  simp only [execute, transfer, hvalid, require_of _ positive, movable, hdebit, hcredit, ok_bind]
  exact ⟨_, _, rfl, rfl⟩

theorem Sound.exists_transferFrom (h : l.Sound) {owner recipient : Address}
    (acceptable : Address.Acceptable owner ∧ Address.Acceptable recipient) (positive : amount ≠ 0)
    (movable : checkMovement l.config env recipient = .ok ())
    (allowed : amount ≤ l.allowances.get (owner, sender))
    (held : amount ≤ l.balances.get owner) :
    ∃ l' r, l.execute env sender (.transferFrom owner recipient amount) = .ok (l', r) ∧
      r.outgoing = [] := by
  have howner : validAddress owner = .ok owner := validAddress_eq_ok_iff.2 ⟨rfl, acceptable.1⟩
  have hrecipient : validAddress recipient = .ok recipient :=
    validAddress_eq_ok_iff.2 ⟨rfl, acceptable.2⟩
  obtain ⟨left, hleft⟩ := Amount.exists_checkedSub allowed
  have hspent : l.useAllowance owner sender amount
      = .ok { l with allowances := l.allowances.set (owner, sender) left } := by
    rw [useAllowance, hleft]
    rfl
  -- the allowance has no part in what is sound
  obtain ⟨l₁, l₂, hdebit, hcredit⟩ := Sound.exists_debit_credit
    (l := { l with allowances := l.allowances.set (owner, sender) left })
    ⟨h.total, h.holder, h.minter, h.current, h.next⟩ recipient held
  simp only [execute, transferFrom, howner, hrecipient, require_of _ positive, movable, hspent,
    hdebit, hcredit, ok_bind]
  exact ⟨_, _, rfl, rfl⟩

/-- A listed minter can burn what it holds and has minted. -/
theorem Sound.exists_burn (h : l.Sound) (listed : (l.minter sender).listed = true)
    (positive : amount ≠ 0) (held : amount ≤ l.balances.get sender)
    (counted : amount ≤ (l.minter sender).minted) :
    ∃ l' r, l.execute env sender (.burn amount) = .ok (l', r) ∧ r.outgoing = [] := by
  have hminter : l.listedMinter sender = .ok (l.minter sender) :=
    listedMinter_eq_ok_iff.2 ⟨rfl, listed⟩
  obtain ⟨balance, hbalance⟩ := Amount.exists_checkedSub held
  have hdebit : l.debit sender amount = .ok { l with balances := l.balances.set sender balance } :=
    debit_eq_ok_iff.2 ⟨balance, Amount.checkedSub_eq_ok_iff.1 hbalance, rfl⟩
  -- the supply is no less than what a single holder has
  have hsupply : amount ≤ l.token.supply := by
    have hpart := l.balances.get_le_total sender
    have htotal := h.total
    rw [Amount.le_iff] at held ⊢
    omega
  obtain ⟨supply, hlowered⟩ := Amount.exists_checkedSub hsupply
  have hlower : ({ l with balances := l.balances.set sender balance } : Ledger).lowerSupply amount
      = .ok { l with
          balances := l.balances.set sender balance
          token := { l.token with supply } } := by
    simp only [lowerSupply, hlowered]
    rfl
  obtain ⟨minted, hminted⟩ := Amount.exists_checkedSub counted
  have hcount : (l.minter sender).minted.minus amount = .ok minted :=
    Amount.minus_eq_ok_iff.2 (Amount.checkedSub_eq_ok_iff.1 hminted)
  simp only [execute, burn, hminter, require_of _ positive, require_of _ counted, hdebit, hlower,
    hcount, ok_bind]
  exact ⟨_, _, rfl, rfl⟩

end Stablecoin.Ledger
