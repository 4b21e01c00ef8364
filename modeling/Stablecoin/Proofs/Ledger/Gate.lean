import Stablecoin.Policy.Basic
import Stablecoin.Proofs.Ledger.History

set_option autoImplicit false

/-! # The gate before every credit

Stablecoin comes to an address by a transfer, by one that an owner allowed, by one that tells a
contract, and by a mint. All four pass the same gate, each in its own order of checks: the ledger
must not be paused, and its policy, if it has one, must admit the address (`Step.credit_gated`).

While a ledger is paused nothing passes, so from a pause to the next time the pause is lifted no
balance grows and neither does the supply (`Paused.of_invokeAll`). Burning is not behind the gate:
it goes on as if neither the pause nor the policy were there (`burn_ungated`). -/

namespace Stablecoin.Ledger

/-! ## The gate -/

/-- The ledger lets stablecoin come to an address: it is not paused, and its policy, if it has one,
    answers that the address may receive. -/
def OpenTo (l : Ledger) (env : Env) (a : Address) : Prop :=
  l.config.paused = false ∧
    ∀ policy, l.config.policy = some policy →
      env.querier.ask policy (Policy.Query.isAllowed a).toJson = .ok (.bool true)

/-- Who pays and who is paid when a message moves stablecoin. -/
def Message.parties? (sender : Address) : Message → Option (Address × Address)
  | .transfer recipient _ => some (sender, recipient)
  | .transferFrom owner recipient _ => some (owner, recipient)
  | .send contract _ _ => some (sender, contract)
  | _ => none

/-- A message credits an address if it raises its balance, or moves stablecoin from the address to
    itself. -/
def Credits (l l' : Ledger) (sender : Address) (m : Message) (a : Address) : Prop :=
  l.balances.get a < l'.balances.get a ∨ m.parties? sender = some (a, a)

variable {l l' : Ledger} {env : Env} {sender : Address} {m : Message} {out : List Outgoing}

theorem askAllowed_eq_ok_true_iff {q : Querier} {policy a : Address} :
    Policy.askAllowed q policy a = .ok true
      ↔ q.ask policy (Policy.Query.isAllowed a).toJson = .ok (.bool true) := by
  simp only [Policy.askAllowed, Querier.askFor, bind_eq_ok_iff, orMalformed_eq_ok_iff]
  constructor
  · rintro ⟨answer, hask, hread⟩
    cases answer with
    | bool b =>
      cases hread
      exact hask
    | _ => cases hread
  · intro hask
    exact ⟨_, hask, rfl⟩

theorem checkRecipient_eq_ok_iff {c : Config} {a : Address} :
    checkRecipient c env a = .ok () ↔ ∀ policy, c.policy = some policy →
      env.querier.ask policy (Policy.Query.isAllowed a).toJson = .ok (.bool true) := by
  unfold checkRecipient
  split
  · rename_i hnone
    simp [hnone]
  · rename_i policy hsome
    simp [hsome, bind_eq_ok_iff, askAllowed_eq_ok_true_iff]

theorem checkMovement_eq_ok_iff {a : Address} :
    checkMovement l.config env a = .ok () ↔ l.OpenTo env a := by
  simp only [checkMovement, bind_eq_ok_iff, require_eq_ok_iff, exists_const, Bool.not_eq_true,
    checkRecipient_eq_ok_iff, OpenTo]

/-- Whoever is credited by a movement is the one that is paid. -/
theorem eq_payee_of_credits {payer payee a : Address} {amount : Amount}
    {balances : Holdings Address} (moves : l.balances.Moves payer payee amount balances)
    (h : l.balances.get a < balances.get a ∨ some (payer, payee) = some (a, a)) : a = payee := by
  rcases h with hlt | hself
  · exact moves.eq_payee_of_get_lt hlt
  · cases hself
    rfl

/-- Nothing that only changes the configuration moves stablecoin. -/
theorem Config.Step.parties? {c c' : Config} {now : Seconds} (h : c.Step now sender m c') :
    m.parties? sender = none := by
  cases h <;> rfl

/-- No address is credited but through the gate. -/
theorem Step.credit_gated (h : Step l env sender m l' out) {a : Address}
    (ha : Credits l l' sender m a) : l.OpenTo env a := by
  unfold Credits at ha
  cases h with
  | transfer acceptable positive movable moves =>
    rw [eq_payee_of_credits moves ha]
    exact checkMovement_eq_ok_iff.1 movable
  | transferFrom acceptable positive movable allowed moves =>
    rw [eq_payee_of_credits moves ha]
    exact checkMovement_eq_ok_iff.1 movable
  | send acceptable positive movable moves =>
    rw [eq_payee_of_credits moves ha]
    exact checkMovement_eq_ok_iff.1 movable
  | @mint recipient amount minted balance supply registered active acceptable positive counted
      capped gate admitted credited raised =>
    rcases ha with hlt | hself
    · by_cases hrecipient : recipient = a
      · subst hrecipient
        exact ⟨active, checkRecipient_eq_ok_iff.1 admitted⟩
      · rw [Holdings.get_set_of_ne _ _ hrecipient] at hlt
        exact absurd hlt (Nat.lt_irrefl _)
    · cases hself
  | @burn amount minted balance supply listed positive debited lowered counted =>
    -- a burn only takes, and only from its sender
    rcases ha with hlt | hself
    · rw [Amount.lt_iff, Holdings.get_set] at hlt
      split at hlt
      · rename_i hsender
        subst hsender
        omega
      · omega
    · cases hself
  | configure step =>
    rw [step.parties?] at ha
    rcases ha with hlt | hself
    · exact absurd hlt (Nat.lt_irrefl _)
    · cases hself
  | _ =>
    rcases ha with hlt | hself
    · exact absurd hlt (Nat.lt_irrefl _)
    · cases hself

/-! ## While a ledger is paused -/

/-- A ledger that is paused and has not let anything grow since it was another one. -/
structure Paused (l₀ l : Ledger) : Prop where
  paused : l.config.paused = true
  balance : ∀ a, l.balances.get a ≤ l₀.balances.get a
  supply : l.token.supply ≤ l₀.token.supply

theorem Paused.refl (h : l.config.paused = true) : Paused l l :=
  ⟨h, fun _ => Nat.le_refl _, Nat.le_refl _⟩

theorem Step.paused_of_pause (h : Step l env sender .pause l' out) : l'.config.paused = true := by
  cases h with
  | configure step =>
    cases step
    rfl

/-- Only one message lifts a pause. -/
theorem Step.paused (h : Step l env sender m l' out) (hl : l.config.paused = true)
    (hm : m ≠ .unpause) : l'.config.paused = true := by
  cases h with
  | configure step =>
    cases step with
    | unpause => exact absurd rfl hm
    | pause => rfl
    | _ => exact hl
  | _ => exact hl

/-- A paused ledger issues nothing. -/
theorem Step.issued_of_paused (h : Step l env sender m l' out) (hl : l.config.paused = true) :
    m.issued = 0 := by
  cases h with
  | mint registered active =>
    rw [active] at hl
    cases hl
  | configure step => exact step.issued_redeemed.1
  | _ => rfl

theorem Paused.step {l₀ : Ledger} (hl : Paused l₀ l) (h : Step l env sender m l' out)
    (hm : m ≠ .unpause) : Paused l₀ l' := by
  refine ⟨h.paused hl.paused hm, ?_, ?_⟩
  · intro a
    refine Nat.le_trans (Nat.le_of_not_lt fun hlt => ?_) (hl.balance a)
    -- what grows has passed the gate, and the gate is shut
    have hopen := (h.credit_gated (.inl hlt)).1
    rw [hl.paused] at hopen
    cases hopen
  · have hsupply := h.supply
    rw [h.issued_of_paused hl.paused] at hsupply
    have hbefore := hl.supply
    rw [Amount.le_iff] at hbefore ⊢
    omega

/-- A run that does not lift the pause lets nothing grow. -/
theorem Paused.of_invokeAll (hl : l.config.paused = true) (is : List Invocation)
    (his : ∀ d ∈ l.deeds is, d.message ≠ .unpause) : Paused l (l.invokeAll is) := by
  have hstart : (∀ d ∈ ([] : List Deed), d.message ≠ .unpause) → Paused l l := fun _ => .refl hl
  have hrun := deeds_induction (P := fun l' past => (∀ d ∈ past, d.message ≠ .unpause) →
    Paused l l') ?_ hstart is
  · exact hrun his
  · intro l₁ env sender m l₂ out past hstep ih hpast
    refine (ih fun d hd => hpast d (by simp [hd])).step hstep ?_
    exact hpast ⟨l₁, sender, m⟩ (by simp)

/-! ## Burning -/

/-- The ledger without a pause and without a policy. -/
def ungated (l : Ledger) : Ledger :=
  { l with config := { l.config with paused := false, policy := none } }

theorem debit_ungated (a : Address) (amount : Amount) :
    l.ungated.debit a amount = (l.debit a amount).map ungated := by
  unfold debit
  rcases h : (l.balances.get a).checkedSub amount with e | left <;> simp [ungated, h, Except.map]

theorem lowerSupply_ungated (amount : Amount) :
    l.ungated.lowerSupply amount = (l.lowerSupply amount).map ungated := by
  unfold lowerSupply
  rcases h : l.token.supply.checkedSub amount with e | left <;> simp [ungated, h, Except.map]

/-- A burn looks at neither the pause nor the policy, whether it succeeds or fails. -/
theorem burn_ungated (sender : Address) (amount : Amount) :
    l.ungated.burn sender amount = (l.burn sender amount).map fun r => (r.1.ungated, r.2) := by
  unfold burn
  have hlisted : l.ungated.listedMinter sender = l.listedMinter sender := rfl
  rw [hlisted, debit_ungated]
  rcases l.listedMinter sender with e | minter
  · rfl
  rcases require (amount ≠ 0) Error.zeroAmount with e | _
  · rfl
  rcases hcovered : require (amount ≤ minter.minted) Error.burnExceedsMinted with e | _
  · simp [hcovered, Except.map]
  rcases l.debit sender amount with e | l₁
  · simp [hcovered, Except.map]
  simp only [ok_bind, hcovered, Except.map, lowerSupply_ungated]
  rcases l₁.lowerSupply amount with e | l₂
  · rfl
  rcases minter.minted.minus amount with e | minted <;> rfl

/-! ## Every ledger -/

/-- Every credit is gated, on every ledger and whoever sends the message: an address is credited
    only by a ledger that is not paused and whose policy, if it has one, answers that the address
    may receive. From a pause on, as long as no message lifts it, no balance and no supply is ever
    greater than it was before, while a burn does the same, or fails in the same way, as if there
    were neither pause nor policy. -/
theorem credits_gated (l : Ledger) :
    (∀ {env sender m l' r a}, l.execute env sender m = .ok (l', r) → Credits l l' sender m a →
        l.OpenTo env a) ∧
      (∀ {env sender l' r}, l.execute env sender .pause = .ok (l', r) →
        ∀ first second, (∀ d ∈ l'.deeds (first ++ second), d.message ≠ .unpause) →
          (∀ a, (l'.invokeAll (first ++ second)).balances.get a
            ≤ (l'.invokeAll first).balances.get a) ∧
          (l'.invokeAll (first ++ second)).token.supply ≤ (l'.invokeAll first).token.supply) ∧
      ∀ env env' sender amount, l.ungated.execute env' sender (.burn amount)
        = (l.execute env sender (.burn amount)).map fun r => (r.1.ungated, r.2) := by
  refine ⟨?_, ?_, ?_⟩
  · intro env sender m l' r a hexec ha
    exact (step_of_execute hexec).credit_gated ha
  · intro env sender l' r hexec first second hrun
    have hpaused := (step_of_execute hexec).paused_of_pause
    rw [deeds_append] at hrun
    have hfirst := Paused.of_invokeAll hpaused first
      fun d hd => hrun d (List.mem_append_left _ hd)
    have hsecond := Paused.of_invokeAll hfirst.paused second
      fun d hd => hrun d (List.mem_append_right _ hd)
    rw [invokeAll_append]
    exact ⟨hsecond.balance, hsecond.supply⟩
  · intro env env' sender amount
    exact burn_ungated sender amount

/-- A ledger that can ask a policy which refuses one address. -/
def screenedEnv : Env :=
  { aloneEnv with
    querier := {
      ask := fun a q => do
        if a = "policy" then
          Policy.query ⟨"owner", .blacklist, ["mallory"]⟩ (← orMalformed (Policy.Query.ofJson? q))
        else
          throw (.noContract a)
      bankBalance := fun _ _ => 0 } }

/-- A mint that the policy admits and one that it does not. -/
def screenedRun : List Invocation :=
  [⟨screenedEnv, "owner", .addMinter "minter" (.ofNat 100)⟩,
    ⟨screenedEnv, "minter", .mint "minter" (.ofNat 90)⟩,
    ⟨screenedEnv, "minter", .mint "mallory" (.ofNat 10)⟩]

/-- What a paused ledger does not do, between two burns. -/
def stoppedRun : List Invocation :=
  [⟨screenedEnv, "minter", .transfer "alice" (.ofNat 5)⟩,
    ⟨screenedEnv, "minter", .mint "alice" (.ofNat 5)⟩,
    ⟨screenedEnv, "minter", .burn (.ofNat 10)⟩]

theorem credits_gated_of_screenedRun :
    ∃ l l₁ l₂ : Ledger, ∃ r₁ r₂, l.Reachable ∧ l.config.policy = some "policy" ∧
      l.execute screenedEnv "minter" (.transfer "minter" (.ofNat 40)) = .ok (l₁, r₁) ∧
      screenedEnv.querier.ask "policy" (Policy.Query.isAllowed "minter").toJson
        = .ok (.bool true) ∧
      l.execute screenedEnv "owner" .pause = .ok (l₂, r₂) ∧
      (l₂.deeds (⟨screenedEnv, "minter", .burn (.ofNat 20)⟩ :: stoppedRun)).length = 2 ∧
      ((l₂.invoke ⟨screenedEnv, "minter", .burn (.ofNat 20)⟩).invokeAll stoppedRun).token.supply
        ≤ (l₂.invoke ⟨screenedEnv, "minter", .burn (.ofNat 20)⟩).token.supply ∧
      ∃ l₃ r₃, l₂.ungated.execute aloneEnv "minter" (.burn (.ofNat 20)) = .ok (l₃, r₃) := by
  -- the ledger and what it does next are computed, and what the policy has answered follows
  have hrun : ∃ l l₁ l₂ l₃ : Ledger, ∃ r₁ r₂ r₃, l.Reachable ∧ l.config.policy = some "policy" ∧
      l.execute screenedEnv "minter" (.transfer "minter" (.ofNat 40)) = .ok (l₁, r₁) ∧
      l.execute screenedEnv "owner" .pause = .ok (l₂, r₂) ∧
      l₂.execute screenedEnv "minter" (.burn (.ofNat 20)) = .ok (l₃, r₃) ∧
      (l₂.deeds (⟨screenedEnv, "minter", .burn (.ofNat 20)⟩ :: stoppedRun)).map Deed.message
        = [.burn (.ofNat 20), .burn (.ofNat 10)] :=
    ⟨_, _, _, _, _, _, _, ⟨screenedEnv, "owner", { plainSetup with policy := some "policy" }, _, _,
      screenedRun, rfl, rfl⟩, rfl, rfl, rfl, rfl, rfl⟩
  obtain ⟨l, l₁, l₂, l₃, r₁, r₂, r₃, hl, hpolicy, hself, hpause, hburn, hdeeds⟩ := hrun
  obtain ⟨hgated, hstopped, -⟩ := credits_gated l
  obtain ⟨-, -, hburns⟩ := credits_gated l₂
  have hkept : ∀ d ∈ l₂.deeds (⟨screenedEnv, "minter", .burn (.ofNat 20)⟩ :: stoppedRun),
      d.message ≠ .unpause := by
    intro d hd hm
    have hmem := List.mem_map_of_mem (f := Deed.message) hd
    rw [hdeeds, hm] at hmem
    simp at hmem
  have hsupply := (hstopped hpause [⟨screenedEnv, "minter", .burn (.ofNat 20)⟩] stoppedRun hkept).2
  have hungated := hburns screenedEnv aloneEnv "minter" (.ofNat 20)
  rw [hburn] at hungated
  refine ⟨l, l₁, l₂, r₁, r₂, hl, hpolicy, hself, (hgated hself (.inr rfl)).2 _ hpolicy, hpause, ?_,
    hsupply, _, _, hungated⟩
  rw [← List.length_map (f := Deed.message), hdeeds]
  rfl

end Stablecoin.Ledger
