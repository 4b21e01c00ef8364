import Stablecoin.Chain.Contract
import Stablecoin.Proofs.Account.Inert
import Stablecoin.Proofs.Ledger.Inert

set_option autoImplicit false

/-! # What accounts and ledgers ask

An account asks its ledger for the configuration, the target price and a balance, and its backend
for a value; a ledger asks its venue for a price and its policy whom it allows. They ask nothing
else. Of the configuration an account reads who has a role. So where two environments agree on the
answers to these questions, but for the rates in a configuration (`Env.Agrees`), accounts and
ledgers do the same in both. -/

namespace Stablecoin

open Account

/-- Two environments give the same answers to whatever an account or a ledger asks, but for the
    rates in a configuration. -/
structure Env.Agrees (env env' : Env) : Prop where
  here : env'.self = env.self
  now : env'.now = env.now
  bank : env'.querier.bankBalance = env.querier.bankBalance
  askConfig (b : Address) : Ledger.Config.stripped <$> Ledger.askConfig env'.querier b
    = Ledger.Config.stripped <$> Ledger.askConfig env.querier b
  askTargetPrice (b : Address) :
    Ledger.askTargetPrice env'.querier b = Ledger.askTargetPrice env.querier b
  askBalance (b owner : Address) :
    Ledger.askBalance env'.querier b owner = Ledger.askBalance env.querier b owner
  askAssetValue (b owner : Address) :
    Backend.askAssetValue env'.querier b owner = Backend.askAssetValue env.querier b owner
  askPrice (b : Address) : Venue.askPrice env'.querier b = Venue.askPrice env.querier b
  askAllowed (b recipient : Address) :
    Policy.askAllowed env'.querier b recipient = Policy.askAllowed env.querier b recipient

namespace Env.Agrees

variable {env env' : Env} (h : env.Agrees env') {a : Account} {l : Ledger} {sender : Address}

include h

/-! ## Accounts -/

/-- What is done with a configuration is the same if the rates do not count in it. -/
theorem askConfig_bind {β : Type} (b : Address) {f : Ledger.Config → Except Account.Error β}
    (hf : ∀ c, f c.stripped = f c) :
    ((Ledger.askConfig env'.querier b : Except Account.Error Ledger.Config) >>= f)
      = ((Ledger.askConfig env.querier b : Except Account.Error Ledger.Config) >>= f) := by
  have hask := h.askConfig b
  generalize Ledger.askConfig env.querier b = x, Ledger.askConfig env'.querier b = x' at hask ⊢
  cases x with
  | error e =>
    cases x' with
    | error e' =>
      cases hask
      rfl
    | ok c' => cases hask
  | ok c =>
    cases x' with
    | error e' => cases hask
    | ok c' =>
      have hstripped : c'.stripped = c.stripped := Except.ok.inj hask
      show f c' = f c
      rw [← hf c', hstripped, hf c]

theorem quoteBalance_eq : a.quoteBalance env' = a.quoteBalance env := by
  rw [quoteBalance, quoteBalance, h.here, h.bank]

theorem stablecoinBalance_eq : a.stablecoinBalance env' = a.stablecoinBalance env := by
  rw [stablecoinBalance, stablecoinBalance, h.here, h.askBalance]

theorem assetValue_eq : a.assetValue env' = a.assetValue env := by
  rw [assetValue, assetValue, h.here]
  simp only [h.askAssetValue]

theorem valuation_eq : a.valuation env' = a.valuation env := by
  rw [valuation, valuation, h.assetValue_eq, h.stablecoinBalance_eq, h.askTargetPrice,
    h.quoteBalance_eq]

theorem execute_account_eq (m : Account.Message) :
    a.execute env' sender m = a.execute env sender m := by
  cases m with
  | payFee =>
    simp only [Account.execute, payFee, h.now, h.stablecoinBalance_eq]
    exact bind_congr fun _ => bind_congr fun _ => bind_congr fun _ => bind_congr fun _ =>
      bind_congr fun _ => h.askConfig_bind _ fun _ => rfl
  | autoInvest =>
    simp only [Account.execute, autoInvest, increaseDebt, h.here, h.now, h.valuation_eq]
    exact h.askConfig_bind _ fun _ => rfl
  | stateValue => exact h.askConfig_bind _ fun _ => rfl
  | pause => exact h.askConfig_bind _ fun _ => rfl
  | unpause => exact h.askConfig_bind _ fun _ => rfl
  | _ =>
    simp only [Account.execute, configure, borrow, increaseDebt, repay, invest, divestFrom, sell,
      buy, collect, withdraw, liquidate, h.here, h.now, h.stablecoinBalance_eq, h.valuation_eq]

theorem reply_account_eq (id : Nat) : a.reply env' id = a.reply env id := by
  have hbalance : ∀ (a : Account) asset, a.balanceOf env' asset = a.balanceOf env asset := by
    intro a asset
    cases asset
    · rw [Account.balanceOf, Account.balanceOf, h.quoteBalance_eq]
    · rw [Account.balanceOf, Account.balanceOf, h.stablecoinBalance_eq]
  simp only [Account.reply, swapDone, divestDone, hbalance, h.quoteBalance_eq,
    h.stablecoinBalance_eq, h.askTargetPrice]

theorem query_account_eq (q : Account.Query) : a.query env' q = a.query env q := by
  cases q <;>
    simp only [Account.query, positionAnswer, currentEquityRatio, totalDebt, h.valuation_eq, h.now]

/-! ## Ledgers -/

theorem marketPrice_eq (c : Ledger.Config) : c.marketPrice env' = c.marketPrice env :=
  Ledger.Config.marketPrice_congr h.now fun venue _ => h.askPrice venue

theorem mintAllowed_eq (c : Ledger.Config) : c.mintAllowed env' = c.mintAllowed env :=
  Ledger.Config.mintAllowed_congr h.now fun venue _ => h.askPrice venue

theorem checkRecipient_eq (c : Ledger.Config) (recipient : Address) :
    Ledger.checkRecipient c env' recipient = Ledger.checkRecipient c env recipient :=
  Ledger.checkRecipient_congr fun policy _ => h.askAllowed policy recipient

theorem execute_ledger_eq (m : Ledger.Message) :
    l.execute env' sender m = l.execute env sender m := by
  cases m <;>
    simp only [Ledger.execute, Ledger.transfer, Ledger.transferFrom, Ledger.send, Ledger.mint,
      Ledger.startPeriod, Ledger.checkMovement, h.checkRecipient_eq, h.mintAllowed_eq, h.now]

theorem query_ledger_eq (q : Ledger.Query) : l.query env' q = l.query env q := by
  cases q <;> simp only [Ledger.query, h.marketPrice_eq, h.mintAllowed_eq, h.now]

/-! ## Contracts of this library -/

variable {σ : Type} [Outside σ] {k : Contract σ} (inside : ∀ s, k ≠ .outside s)

include inside

/-- A contract of this library does the same in both, -/
theorem execute_eq (sender : Address) (funds : List Coin) (message : Json) :
    k.execute env' sender funds message = k.execute env sender funds message := by
  cases k with
  | ledger l => simp only [Contract.execute, h.execute_ledger_eq]
  | account a => simp only [Contract.execute, h.execute_account_eq]
  | outside s => exact absurd rfl (inside s)
  | _ => rfl

theorem reply_eq (id : Nat) : k.reply env' id = k.reply env id := by
  cases k with
  | account a => simp only [Contract.reply, h.reply_account_eq]
  | outside s => exact absurd rfl (inside s)
  | _ => rfl

/-- and answers alike. -/
theorem query_eq (q : Json) : k.query env' q = k.query env q := by
  cases k with
  | ledger l => simp only [Contract.query, h.query_ledger_eq]
  | account a => simp only [Contract.query, h.query_account_eq]
  | outside s => exact absurd rfl (inside s)
  | _ => rfl

end Env.Agrees

end Stablecoin
