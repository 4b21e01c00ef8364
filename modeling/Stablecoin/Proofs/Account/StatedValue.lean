import Mathlib.Algebra.GroupWithZero.Nat
import Stablecoin.Proofs.Account.Payout

set_option autoImplicit false

/-! # The stated value of an investment

Where the collateral agency states the value of the investment, the account goes on from there by
its own messages to the backend: what it sends along to be invested is added, what it asks back is
taken off. Every message and every reply books just what it sends to the backend
(`Step.carriesStated`, `Hears.carriesStated`), and none asks for more than the stated value. -/

namespace Stablecoin.Account

/-! ## What an account tells its backend -/

/-- What an action tells the backend, and the coins that come with it. -/
def Config.told? (c : Config) : Action → Option (Backend.Message × List Coin)
  | .execute contract message funds =>
    if contract = c.backend then (Backend.Message.ofJson? message).map fun m => (m, funds)
    else none
  | .send _ _ => none

/-- The quote currency that an action brings to the backend to be invested. -/
def Config.invested (c : Config) (action : Action) : Nat :=
  match c.told? action with
  | some (.invest, funds) =>
    ((funds.filter fun coin => coin.denom = c.quoteDenom).map fun coin => coin.amount.toNat).sum
  | _ => 0

/-- The quote currency that an action asks the backend for. -/
def Config.divested (c : Config) (action : Action) : Nat :=
  match c.told? action with
  | some (.divest amount, _) => amount.toNat
  | _ => 0

/-- All that some actions bring to the backend. -/
def Config.investedBy (c : Config) (actions : List Action) : Nat :=
  (actions.map c.invested).sum

/-- All that some actions ask the backend for. -/
def Config.divestedBy (c : Config) (actions : List Action) : Nat :=
  (actions.map c.divested).sum

/-- The actions bring nothing to the backend and ask it for nothing. -/
def Config.Spares (c : Config) (actions : List Action) : Prop :=
  c.investedBy actions = 0 ∧ c.divestedBy actions = 0

variable {c : Config} {a a' : Account} {env : Env} {sender : Address} {amount : Amount}
  {first second : List Action}

theorem Config.investedBy_append (c : Config) (first second : List Action) :
    c.investedBy (first ++ second) = c.investedBy first + c.investedBy second := by
  simp [investedBy]

theorem Config.divestedBy_append (c : Config) (first second : List Action) :
    c.divestedBy (first ++ second) = c.divestedBy first + c.divestedBy second := by
  simp [divestedBy]

theorem Config.spares_nil : c.Spares [] :=
  ⟨rfl, rfl⟩

theorem Config.Spares.append (h : c.Spares first) (h' : c.Spares second) :
    c.Spares (first ++ second) := by
  refine ⟨?_, ?_⟩
  · rw [investedBy_append, h.1, h'.1]
  · rw [divestedBy_append, h.2, h'.2]

theorem Config.spares_ite {p : Prop} [Decidable p] (h : c.Spares first) :
    c.Spares (if p then [] else first) := by
  split
  · exact spares_nil
  · exact h

theorem Config.spares_send (recipient : Address) (coins : List Coin) :
    c.Spares [.send recipient coins] :=
  ⟨rfl, rfl⟩

/-- A message that a backend does not understand spares it, wherever it goes. -/
theorem Config.spares_execute (contract : Address) {message : Json} (funds : List Coin)
    (h : Backend.Message.ofJson? message = none) : c.Spares [.execute contract message funds] := by
  have htold : c.told? (.execute contract message funds) = none := by simp [told?, h]
  refine ⟨?_, ?_⟩
  · simp [investedBy, invested, htold]
  · simp [divestedBy, divested, htold]

theorem spares_withdrawAction (asset : Asset) :
    a.config.Spares [a.withdrawAction asset amount] := by
  cases asset with
  | quote => exact Config.spares_send _ _
  | stablecoin => exact Config.spares_execute _ _ rfl

theorem told?_tellBackend (a : Account) (m : Backend.Message) (funds : List Coin) :
    a.config.told? (a.tellBackend m funds) = some (m, funds) := by
  simp [Config.told?, tellBackend]

theorem spares_collect (recipient : String) :
    a.config.Spares [a.tellBackend (.collect recipient) []] := by
  simp [Config.Spares, Config.investedBy, Config.divestedBy, Config.invested, Config.divested,
    told?_tellBackend]

theorem investedBy_investAction :
    a.config.investedBy [a.investAction amount] = amount.toNat ∧
      a.config.divestedBy [a.investAction amount] = 0 := by
  simp [Config.investedBy, Config.divestedBy, Config.invested, Config.divested, investAction,
    told?_tellBackend, quoteCoins]

theorem divestedBy_divestAction :
    a.config.investedBy [a.divestAction amount] = 0 ∧
      a.config.divestedBy [a.divestAction amount] = amount.toNat := by
  simp [Config.investedBy, Config.divestedBy, Config.invested, Config.divested, divestAction,
    told?_tellBackend]

/-- Of a settlement, only the divestment is for the backend. -/
theorem divestedBy_settlement (self liquidator : Address) (debt : Amount) (p : Payout) :
    a.config.investedBy (a.settlement self liquidator debt p) = 0 ∧
      a.config.divestedBy (a.settlement self liquidator debt p) = p.fromBackend.toNat := by
  have hredeem : a.config.Spares [a.tellLedger (Ledger.transferFromJson liquidator self debt),
      a.tellLedger (Ledger.burnJson debt)] :=
    (Config.spares_execute _ _ rfl).append (Config.spares_execute _ _ rfl)
  have hquote : a.config.Spares (if p.quotePaid = 0 then []
      else [.send liquidator (a.quoteCoins p.quotePaid)]) :=
    Config.spares_ite (Config.spares_send _ _)
  have hstablecoin : a.config.Spares (if p.stablecoinPaid = 0 then []
      else [a.tellLedger (Ledger.transferJson liquidator p.stablecoinPaid)]) :=
    Config.spares_ite (Config.spares_execute _ _ rfl)
  have hdrawn : a.config.investedBy (if p.fromBackend = 0 then []
        else [a.divestAction p.fromBackend]) = 0 ∧
      a.config.divestedBy (if p.fromBackend = 0 then [] else [a.divestAction p.fromBackend])
        = p.fromBackend.toNat := by
    split
    · rename_i hzero
      rw [hzero]
      exact Config.spares_nil
    · exact divestedBy_divestAction
  refine ⟨?_, ?_⟩
  · rw [settlement, Config.investedBy_append, Config.investedBy_append, Config.investedBy_append,
      hredeem.1, hdrawn.1, hquote.1, hstablecoin.1]
  · rw [settlement, Config.divestedBy_append, Config.divestedBy_append, Config.divestedBy_append,
      hredeem.2, hdrawn.2, hquote.2, hstablecoin.2, Nat.zero_add, Nat.add_zero]

/-! ## How a stated value goes on -/

/-- What becomes of a stated value when so much is invested and divested: it covers what is
    divested, and goes up and down by the two unless it would become greater than an amount can be.
    A value that is not stated stays so. -/
def Carries (value value' : Option Amount) (invested divested : Nat) : Prop :=
  match value with
  | none => value' = none
  | some v => divested ≤ v.toNat ∧ (v.toNat + invested < Amount.size + divested →
      ∃ v', value' = some v' ∧ v'.toNat + divested = v.toNat + invested)

theorem carries_refl (value : Option Amount) : Carries value value 0 0 := by
  cases value with
  | none => rfl
  | some v => exact ⟨Nat.zero_le _, fun _ => ⟨v, rfl, rfl⟩⟩

theorem carries_of_spares {value : Option Amount} (h : c.Spares first) :
    Carries value value (c.investedBy first) (c.divestedBy first) := by
  rw [h.1, h.2]
  exact carries_refl value

theorem carries_adjust_invested (value : Option Amount) (amount : Amount) :
    Carries value (adjustStated value amount 0) amount.toNat 0 := by
  cases value with
  | none => rfl
  | some v =>
    refine ⟨Nat.zero_le _, fun room => ⟨_, rfl, ?_⟩⟩
    show ((v.saturatingAdd amount).saturatingSub 0).toNat + 0 = _
    rw [Amount.toNat_saturatingSub, Amount.toNat_saturatingAdd, Amount.toNat_zero]
    omega

theorem carries_adjust_divested {value : Option Amount} (h : ∀ v ∈ value, amount ≤ v) :
    Carries value (adjustStated value 0 amount) 0 amount.toNat := by
  cases value with
  | none => rfl
  | some v =>
    have henough : amount ≤ v := h v rfl
    rw [Amount.le_iff] at henough
    refine ⟨henough, fun _ => ⟨_, rfl, ?_⟩⟩
    show ((v.saturatingAdd 0).saturatingSub amount).toNat + _ = _
    rw [Amount.saturatingAdd_zero, Amount.toNat_saturatingSub]
    omega

/-- Where a value is stated, an account goes by it. -/
theorem assetValue_of_stated {v : Valuation} {value : Amount} (valued : a.valuation env = .ok v)
    (stated : a.position.statedValue = some value) : v.assetValue = value := by
  have hasset := (valuation_eq_ok_iff.1 valued).1
  rw [assetValue, stated] at hasset
  exact (Except.ok.inj hasset).symm

theorem fromBackend_le_of_payout {v : Valuation} {entitled : Amount} {p : Payout}
    (h : payout v entitled = .ok p) : p.fromBackend ≤ v.assetValue := by
  simp only [payout, bind_eq_ok_iff, pure_eq_ok_iff] at h
  obtain ⟨afterQuote, -, afterBackend, -, quotePaid, -, stablecoin, -, rfl⟩ := h
  rw [Amount.le_iff, Amount.toNat_min]
  exact Nat.min_le_right _ _

theorem carries_investAction (a : Account) (amount : Amount) :
    Carries a.position.statedValue (adjustStated a.position.statedValue amount 0)
      (a.config.investedBy [a.investAction amount])
      (a.config.divestedBy [a.investAction amount]) := by
  rw [investedBy_investAction.1, investedBy_investAction.2]
  exact carries_adjust_invested _ _

theorem carries_divestAction {v : Valuation} (valued : a.valuation env = .ok v)
    (enough : amount ≤ v.assetValue) :
    Carries a.position.statedValue (adjustStated a.position.statedValue 0 amount)
      (a.config.investedBy [a.divestAction amount])
      (a.config.divestedBy [a.divestAction amount]) := by
  rw [divestedBy_divestAction.1, divestedBy_divestAction.2]
  exact carries_adjust_divested fun value stated => assetValue_of_stated valued stated ▸ enough

/-! ## Messages and replies -/

/-- The value that a message states, or that it leaves to the backend. -/
def Message.stated? : Message → Option (Option Amount)
  | .stateValue value => some value
  | _ => none

/-- Such a message sends nothing to anybody. -/
theorem Step.of_stated? {m : Message} {out : List Outgoing} {value : Option Amount}
    (h : Step a env sender m a' out) (hm : m.stated? = some value) :
    a'.position.statedValue = value ∧ out = [] := by
  cases h with
  | stateValue asked authorized =>
    cases hm
    exact ⟨rfl, rfl⟩
  | _ => cases hm

/-- Every other message books just what it sends to the backend. -/
theorem Step.carriesStated {m : Message} {out : List Outgoing} (h : Step a env sender m a' out)
    (hm : m.stated? = none) :
    Carries a.position.statedValue a'.position.statedValue
      (a.config.investedBy (out.map (·.action))) (a.config.divestedBy (out.map (·.action))) := by
  cases h with
  | configure => exact carries_of_spares Config.spares_nil
  | borrow => exact carries_of_spares (Config.spares_execute _ _ rfl)
  | repay => exact carries_of_spares (Config.spares_execute _ _ rfl)
  | payFee => exact carries_of_spares (Config.spares_execute _ _ rfl)
  | investIdle => exact carries_investAction _ _
  | investSold => exact carries_of_spares (Config.spares_execute _ _ rfl)
  | divest authorized positive valued enough => exact carries_divestAction valued enough
  | divestToBuy authorized positive valued enough => exact carries_divestAction valued enough
  | sell => exact carries_of_spares (Config.spares_execute _ _ rfl)
  | buy => exact carries_of_spares (Config.spares_execute _ _ rfl)
  | collect => exact carries_of_spares (spares_collect _)
  | withdraw => exact carries_of_spares (spares_withdrawAction _)
  | autoInvest =>
    exact carries_of_spares ((Config.spares_execute _ _ rfl).append (Config.spares_execute _ _ rfl))
  | stateValue => cases hm
  | pause => exact carries_of_spares Config.spares_nil
  | unpause => exact carries_of_spares Config.spares_nil
  | @liquidate v ratio p entitled stablecoinValue paidValue valued measured indebted defaulted owed
      paid priced summed =>
    have hactions : ((a.settlement env.self sender a.position.borrowed p).map
        fun action => ({ action } : Outgoing)).map (·.action)
        = a.settlement env.self sender a.position.borrowed p := by
      simp [Function.comp_def]
    obtain ⟨hinvested, hdivested⟩ := divestedBy_settlement (a := a) env.self sender
      a.position.borrowed p
    rw [hactions, hinvested, hdivested]
    refine carries_adjust_divested fun value stated => ?_
    exact assetValue_of_stated valued stated ▸ fromBackend_le_of_payout paid

/-- So does every reply. -/
theorem Hears.carriesStated {id : Nat} {out : List Outgoing} (h : Hears a env id a' out) :
    Carries a.position.statedValue a'.position.statedValue
      (a.config.investedBy (out.map (·.action))) (a.config.divestedBy (out.map (·.action))) := by
  cases h with
  | swapHeld => exact carries_of_spares Config.spares_nil
  | swapInvested => exact carries_investAction _ _
  | divestKept => exact carries_of_spares Config.spares_nil
  | divestSpent => exact carries_of_spares (Config.spares_execute _ _ rfl)

end Stablecoin.Account
