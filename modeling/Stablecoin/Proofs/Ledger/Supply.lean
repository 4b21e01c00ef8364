import Stablecoin.Proofs.Ledger.Run

set_option autoImplicit false

/-! # Conservation of the stablecoin

The balances of a ledger add up to its supply. Only a mint raises either, only a burn lowers them,
and both by their amount; a movement keeps the sum, whoever of sender, owner and recipient
coincide. -/

namespace Stablecoin.Ledger

/-- What a message brings into being. -/
def Message.issued : Message → Nat
  | .mint _ amount => amount.toNat
  | _ => 0

/-- What a message destroys. -/
def Message.redeemed : Message → Nat
  | .burn amount => amount.toNat
  | _ => 0

variable {l l' : Ledger} {env : Env} {sender : Address} {m : Message} {out : List Outgoing}

/-- A change of the configuration issues and redeems nothing. -/
theorem Config.Step.issued_redeemed {c c' : Config} {now : Seconds} (h : c.Step now sender m c') :
    m.issued = 0 ∧ m.redeemed = 0 := by
  cases h <;> exact ⟨rfl, rfl⟩

theorem Step.supply (h : Step l env sender m l' out) :
    l'.token.supply.toNat + m.redeemed = l.token.supply.toNat + m.issued := by
  cases h with
  | mint registered active acceptable positive counted capped gate admitted credited raised =>
    exact raised
  | burn listed positive debited lowered counted => exact lowered.symm
  | configure step =>
    obtain ⟨hi, hr⟩ := step.issued_redeemed
    rw [hi, hr]
  | _ => rfl

theorem Step.total (h : Step l env sender m l' out) :
    l'.balances.total + m.redeemed = l.balances.total + m.issued := by
  cases h with
  | transfer acceptable positive movable moves => exact moves.total_eq
  | transferFrom acceptable positive movable allowed moves => exact moves.total_eq
  | send acceptable positive movable moves => exact moves.total_eq
  | @mint recipient amount minted balance supply registered active acceptable positive counted
      capped gate admitted credited raised =>
    have hset := l.balances.total_set recipient balance
    simp only [Message.issued, Message.redeemed]
    omega
  | @burn amount minted balance supply listed positive debited lowered counted =>
    have hset := l.balances.total_set sender balance
    simp only [Message.issued, Message.redeemed]
    omega
  | configure step =>
    obtain ⟨hi, hr⟩ := step.issued_redeemed
    rw [hi, hr]
  | _ => rfl

/-- The balances add up to the supply. -/
theorem Reachable.total_eq_supply (h : l.Reachable) :
    l.balances.total = l.token.supply.toNat := by
  refine h.induction (P := fun l => l.balances.total = l.token.supply.toNat) ?_ ?_
  · intro env sender s l r hsetUp
    have hnew := isNew_of_setUp hsetUp
    rw [hnew.supply, hnew.balances]
    rfl
  · intro l env sender m l' out hstep ih
    have hs := hstep.supply
    have ht := hstep.total
    omega

/-- Stablecoin is conserved: in every reachable ledger the balances add up to the supply, and a
    message moves both by what it issues and redeems, which is nothing unless it mints or burns. -/
theorem supply_conserved (h : l.Reachable) :
    l.balances.total = l.token.supply.toNat ∧
      ∀ {env sender m l' r}, l.execute env sender m = .ok (l', r) →
        l'.token.supply.toNat + m.redeemed = l.token.supply.toNat + m.issued ∧
        l'.balances.total + m.redeemed = l.balances.total + m.issued := by
  refine ⟨h.total_eq_supply, fun hexec => ?_⟩
  exact ⟨(step_of_execute hexec).supply, (step_of_execute hexec).total⟩

/-- A ledger with nobody to ask. -/
def aloneEnv : Env where
  self := "ledger"
  now := 0
  querier := { ask := fun a _ => .error (.noContract a), bankBalance := fun _ _ => 0 }

def plainSetup : Setup where
  name := "Stable"
  symbol := "STB"
  decimals := 6
  owner := none
  targetPrice := none
  arbSpread := 0
  periodLength := none
  venue := none
  treasury := none
  balancer := none
  collateralAgency := none
  policy := none

/-- A mint, a transfer to oneself and one to somebody else, and a mint that the cap forbids. -/
def mintedRun : List Invocation :=
  [⟨aloneEnv, "owner", .addMinter "minter" (.ofNat 100)⟩,
    ⟨aloneEnv, "minter", .mint "minter" (.ofNat 90)⟩,
    ⟨aloneEnv, "minter", .transfer "minter" (.ofNat 40)⟩,
    ⟨aloneEnv, "minter", .transfer "alice" (.ofNat 50)⟩,
    ⟨aloneEnv, "minter", .mint "minter" (.ofNat 90)⟩]

theorem supply_conserved_of_mintedRun :
    ∃ l l' : Ledger, l.Reachable ∧ l.token.supply.toNat = 90 ∧ l.balances.total = 90 ∧
      l'.token.supply.toNat = 70 ∧ l'.balances.total = 70 := by
  -- both ledgers are computed: what the run leaves, and what a burn of 20 leaves after it
  have hrun : ∃ l l' : Ledger, ∃ r, l.Reachable ∧
      l.execute aloneEnv "minter" (.burn (.ofNat 20)) = .ok (l', r) ∧
      l.token.supply.toNat = 90 :=
    ⟨_, _, _, ⟨aloneEnv, "owner", plainSetup, _, _, mintedRun, rfl, rfl⟩, rfl, rfl⟩
  obtain ⟨l, l', r, hl, hburn, hs⟩ := hrun
  obtain ⟨htotal, hstep⟩ := supply_conserved hl
  obtain ⟨hsupply, hbalances⟩ := hstep hburn
  have hburned : (Amount.ofNat 20).toNat = 20 := rfl
  simp only [Message.issued, Message.redeemed, hburned] at hsupply hbalances
  exact ⟨l, l', hl, hs, by omega, by omega, by omega⟩

end Stablecoin.Ledger
