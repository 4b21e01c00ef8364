import Stablecoin.Ledger.Query
import Stablecoin.Proofs.Ledger.Allowances

set_option autoImplicit false

/-! # Messages of different senders commute

A block orders the messages that reach a ledger as it likes. For holders and minters the order does
not matter: where two messages of different senders can be carried out in both orders, the ledger
that comes of them is the same (`operations_commute`).

What a message adds to a balance and takes off it depends on the message and its sender alone
(`Step.balance_add_debited`), and so does what it does to the supply. An entry of a minter is
written by its own messages only (`Step.entry_of_ne`). What is left are allowances, where a decrease
takes what there is if there is less than it asks for; then there is nothing left for the spender,
who cannot have had anything to take in the other order either
(`allowance_congr_of_not_owner`). -/

namespace Stablecoin.Ledger

/-! ## Ledgers that agree -/

/-- Two ledgers that hold the same for everyone, wherever in their tables it stands. -/
structure Agrees (l l' : Ledger) : Prop where
  config : l'.config = l.config
  token : l'.token = l.token
  registry : l'.registry = l.registry
  nominee : l'.nominee = l.nominee
  minters : ∀ a, l'.minters.find? a = l.minters.find? a
  balances : ∀ a, l'.balances.get a = l.balances.get a
  allowances : ∀ owner spender,
    l'.allowances.get (owner, spender) = l.allowances.get (owner, spender)

/-- Nobody who asks can tell them apart. -/
theorem Agrees.query_eq {l l' : Ledger} (h : Agrees l l') (env : Env) (q : Query) :
    l'.query env q = l.query env q := by
  have hminter : ∀ a, l'.minter a = l.minter a := fun a => congrArg (Option.getD · _) (h.minters a)
  cases q <;> simp only [query, minterPage, h.config, h.token, h.registry, hminter, h.balances,
    h.allowances]

/-! ## The messages of holders and minters -/

/-- The message moves, mints or burns stablecoin, or changes an allowance. -/
def Message.isOperation : Message → Bool
  | .transfer .. | .transferFrom .. | .send .. | .increaseAllowance .. | .decreaseAllowance ..
  | .mint .. | .burn .. => true
  | _ => false

variable {l l' : Ledger} {env : Env} {sender : Address} {m : Message} {out : List Outgoing}

theorem Config.Step.not_isOperation {c c' : Config} {now : Seconds}
    (h : c.Step now sender m c') : ¬ m.isOperation = true := by
  cases h <;> exact Bool.false_ne_true

/-- Such a message leaves the rest of the ledger alone, and of the token all but the supply. -/
theorem Step.frame (h : Step l env sender m l' out) (hm : m.isOperation = true) :
    l'.config = l.config ∧ l'.registry = l.registry ∧ l'.nominee = l.nominee ∧
      l'.token = { l.token with supply := l'.token.supply } := by
  cases h with
  | configure step => exact absurd hm step.not_isOperation
  | transfer | transferFrom | send | increaseAllowance | decreaseAllowance | mint | burn =>
    exact ⟨rfl, rfl, rfl, rfl⟩
  | _ => cases hm

/-! ## Balances -/

/-- What a message adds to a balance. -/
def Message.credited (a : Address) : Message → Nat
  | .transfer payee amount | .transferFrom _ payee amount | .send payee amount _
  | .mint payee amount => if payee = a then amount.toNat else 0
  | _ => 0

/-- What a message takes off a balance. -/
def Message.debited (sender a : Address) : Message → Nat
  | .transfer _ amount | .send _ amount _ | .burn amount => if sender = a then amount.toNat else 0
  | .transferFrom owner _ amount => if owner = a then amount.toNat else 0
  | _ => 0

theorem Config.Step.credited_debited {c c' : Config} {now : Seconds} (h : c.Step now sender m c')
    (a : Address) : m.credited a = 0 ∧ m.debited sender a = 0 := by
  cases h <;> exact ⟨rfl, rfl⟩

/-- A balance moves by what the message and its sender say, whatever the ledger is. -/
theorem Step.balance_add_debited (h : Step l env sender m l' out) (a : Address) :
    (l'.balances.get a).toNat + m.debited sender a
      = (l.balances.get a).toNat + m.credited a := by
  cases h with
  | transfer acceptable positive movable moves => exact moves.get_add_paid a
  | transferFrom acceptable positive movable allowed moves => exact moves.get_add_paid a
  | send acceptable positive movable moves => exact moves.get_add_paid a
  | mint registered active acceptable positive counted capped gate admitted credited raised =>
    simp only [Message.credited, Message.debited, Holdings.get_set]
    split
    · rename_i ha
      rw [← ha, credited, Nat.add_zero]
    · rfl
  | burn listed positive debited lowered counted =>
    simp only [Message.credited, Message.debited, Holdings.get_set]
    split
    · rename_i ha
      rw [← ha, debited, Nat.add_zero]
    · rfl
  | configure step =>
    obtain ⟨hcredited, hdebited⟩ := step.credited_debited a
    rw [hcredited, hdebited]
  | _ => rfl

/-! ## Entries of minters -/

/-- Only a minter's own messages write its entry. -/
theorem Step.entry_of_ne (h : Step l env sender m l' out) (hm : m.isOperation = true) {a : Address}
    (hne : sender ≠ a) : l'.minters.find? a = l.minters.find? a := by
  cases h with
  | configure step => exact absurd hm step.not_isOperation
  | mint | burn => exact Table.find?_insert_of_ne _ _ hne
  | transfer | transferFrom | send | increaseAllowance | decreaseAllowance => rfl
  | _ => cases hm

/-- What they write depends on the entry alone. -/
theorem Step.entry_congr {k k' : Ledger} {env' : Env} {out' : List Outgoing}
    (h : Step l env sender m l' out) (h' : Step k env' sender m k' out')
    (hm : m.isOperation = true) (same : k.minters.find? sender = l.minters.find? sender) :
    k'.minters.find? sender = l'.minters.find? sender := by
  have hminter : k.minter sender = l.minter sender := congrArg (Option.getD · _) same
  cases h with
  | configure step => exact absurd hm step.not_isOperation
  | mint registered active acceptable positive counted =>
    cases h' with
    | configure step => cases step
    | mint registered' active' acceptable' positive' counted' =>
      rw [hminter, ← counted] at counted'
      rw [Table.find?_insert_self, Table.find?_insert_self, hminter, Amount.ext counted']
  | burn listed positive debited lowered counted =>
    cases h' with
    | configure step => cases step
    | burn listed' positive' debited' lowered' counted' =>
      rw [hminter, counted] at counted'
      rw [Table.find?_insert_self, Table.find?_insert_self, hminter,
        Amount.ext (Nat.add_right_cancel counted')]
  | transfer | transferFrom | send | increaseAllowance | decreaseAllowance =>
    cases h' with
    | configure step => cases step
    | _ => exact same
  | _ => cases hm

/-! ## Allowances -/

/-- What a message asks to take off the allowance of a spender without moving anything. -/
def Message.unwanted (sender owner spender : Address) : Message → Nat
  | .decreaseAllowance other amount =>
    if sender = owner ∧ other = spender then amount.toNat else 0
  | _ => 0

/-- What is taken back is what is asked for, or all that there is. -/
theorem revoked_eq_min (owner spender : Address) :
    (Deed.mk l sender m).revoked owner spender
      = min (m.unwanted sender owner spender) (l.allowances.get (owner, spender)).toNat := by
  cases m with
  | decreaseAllowance other amount =>
    simp only [Deed.revoked, Message.unwanted]
    split
    · rfl
    · exact (Nat.zero_min _).symm
  | _ => exact (Nat.zero_min _).symm

/-- Only the owner grants or takes back. -/
theorem granted_unwanted_of_ne {owner : Address} (hne : sender ≠ owner) (spender : Address) :
    (Deed.mk l sender m).granted owner spender = 0 ∧ m.unwanted sender owner spender = 0 := by
  have hpair : ∀ other, ¬ (sender = owner ∧ other = spender) := fun other h => hne h.1
  cases m with
  | increaseAllowance other amount => exact ⟨if_neg (hpair other), rfl⟩
  | decreaseAllowance other amount => exact ⟨rfl, if_neg (hpair other)⟩
  | _ => exact ⟨rfl, rfl⟩

/-- A message that takes back does nothing else to an allowance. -/
theorem pulled_granted_of_unwanted {owner spender : Address}
    (h : m.unwanted sender owner spender ≠ 0) :
    (Deed.mk l sender m).pulled owner spender = 0 ∧
      (Deed.mk l sender m).granted owner spender = 0 := by
  cases m with
  | decreaseAllowance other amount => exact ⟨rfl, rfl⟩
  | _ => exact absurd rfl h

/-! ## Both orders -/

variable {l₁ l₂ l₁₂ l₂₁ : Ledger} {env₁ env₂ env₁' env₂' : Env} {s₁ s₂ : Address} {m₁ m₂ : Message}
  {out₁ out₂ out₁₂ out₂₁ : List Outgoing}

/-- The owner's message may take back what the other one draws on. It takes back less than it asks
    for only if there is nothing left to draw on. -/
theorem allowance_congr_of_not_owner {owner : Address} (hne : s₂ ≠ owner)
    (h₁ : Step l env₁ s₁ m₁ l₁ out₁) (h₁₂ : Step l₁ env₂ s₂ m₂ l₁₂ out₁₂)
    (h₂ : Step l env₂' s₂ m₂ l₂ out₂) (h₂₁ : Step l₂ env₁' s₁ m₁ l₂₁ out₂₁) (spender : Address) :
    l₂₁.allowances.get (owner, spender) = l₁₂.allowances.get (owner, spender) := by
  have first := h₁.allowance owner spender
  have second := h₁₂.allowance owner spender
  have first' := h₂.allowance owner spender
  have second' := h₂₁.allowance owner spender
  -- what a message moves and grants is the same on every ledger
  have hpulled₁ : (Deed.mk l₂ s₁ m₁).pulled owner spender
      = (Deed.mk l s₁ m₁).pulled owner spender :=
    rfl
  have hpulled₂ : (Deed.mk l₁ s₂ m₂).pulled owner spender
      = (Deed.mk l s₂ m₂).pulled owner spender :=
    rfl
  have hgranted₁ :
      (Deed.mk l₂ s₁ m₁).granted owner spender = (Deed.mk l s₁ m₁).granted owner spender := rfl
  obtain ⟨hgranted, hunwanted⟩ := granted_unwanted_of_ne (l := l) (m := m₂) hne spender
  obtain ⟨hgranted', -⟩ := granted_unwanted_of_ne (l := l₁) (m := m₂) hne spender
  rw [revoked_eq_min] at first second first' second'
  rw [hunwanted, hgranted, Nat.zero_min] at first'
  rw [hunwanted, hgranted', hpulled₂, Nat.zero_min] at second
  rw [hpulled₁, hgranted₁] at second'
  apply Amount.ext
  by_cases hquiet : m₁.unwanted s₁ owner spender = 0
  · rw [hquiet, Nat.zero_min] at first second'
    omega
  · obtain ⟨hpulled, hgranted⟩ := pulled_granted_of_unwanted (l := l) hquiet
    rw [hpulled, hgranted] at first second'
    omega

/-- What is left of an allowance does not depend on the order: one of the messages is not the
    owner's. -/
theorem allowance_congr (hne : s₁ ≠ s₂) (h₁ : Step l env₁ s₁ m₁ l₁ out₁)
    (h₁₂ : Step l₁ env₂ s₂ m₂ l₁₂ out₁₂) (h₂ : Step l env₂' s₂ m₂ l₂ out₂)
    (h₂₁ : Step l₂ env₁' s₁ m₁ l₂₁ out₂₁) (owner spender : Address) :
    l₂₁.allowances.get (owner, spender) = l₁₂.allowances.get (owner, spender) := by
  by_cases hsecond : s₂ = owner
  · subst hsecond
    exact (allowance_congr_of_not_owner hne h₂ h₂₁ h₁ h₁₂ spender).symm
  · exact allowance_congr_of_not_owner hsecond h₁ h₁₂ h₂ h₂₁ spender

theorem balance_congr (h₁ : Step l env₁ s₁ m₁ l₁ out₁) (h₁₂ : Step l₁ env₂ s₂ m₂ l₁₂ out₁₂)
    (h₂ : Step l env₂' s₂ m₂ l₂ out₂) (h₂₁ : Step l₂ env₁' s₁ m₁ l₂₁ out₂₁) (a : Address) :
    l₂₁.balances.get a = l₁₂.balances.get a := by
  have first := h₁.balance_add_debited a
  have second := h₁₂.balance_add_debited a
  have first' := h₂.balance_add_debited a
  have second' := h₂₁.balance_add_debited a
  exact Amount.ext (by omega)

theorem supply_congr (h₁ : Step l env₁ s₁ m₁ l₁ out₁) (h₁₂ : Step l₁ env₂ s₂ m₂ l₁₂ out₁₂)
    (h₂ : Step l env₂' s₂ m₂ l₂ out₂) (h₂₁ : Step l₂ env₁' s₁ m₁ l₂₁ out₂₁) :
    l₂₁.token.supply = l₁₂.token.supply := by
  have first := h₁.supply
  have second := h₁₂.supply
  have first' := h₂.supply
  have second' := h₂₁.supply
  exact Amount.ext (by omega)

/-- The entry of a minter has been written by its own message, if at all, from what it was. -/
theorem entry_congr (hne : s₁ ≠ s₂) (op₁ : m₁.isOperation = true) (op₂ : m₂.isOperation = true)
    (h₁ : Step l env₁ s₁ m₁ l₁ out₁) (h₁₂ : Step l₁ env₂ s₂ m₂ l₁₂ out₁₂)
    (h₂ : Step l env₂' s₂ m₂ l₂ out₂) (h₂₁ : Step l₂ env₁' s₁ m₁ l₂₁ out₂₁) (a : Address) :
    l₂₁.minters.find? a = l₁₂.minters.find? a := by
  by_cases hfirst : s₁ = a
  · subst hfirst
    rw [h₁₂.entry_of_ne op₂ hne.symm]
    exact h₁.entry_congr h₂₁ op₁ (h₂.entry_of_ne op₂ hne.symm)
  · rw [h₂₁.entry_of_ne op₁ hfirst]
    by_cases hsecond : s₂ = a
    · subst hsecond
      exact h₁₂.entry_congr h₂ op₂ (h₁.entry_of_ne op₁ hfirst).symm
    · rw [h₁₂.entry_of_ne op₂ hsecond, h₁.entry_of_ne op₁ hfirst, h₂.entry_of_ne op₂ hsecond]

/-- Messages of different senders commute, on every ledger and whatever the venue and the policy
    answer meanwhile: where a message of a holder or a minter and one of another sender can be
    carried out one after the other in either order, the ledgers in the end agree on every balance,
    every allowance, the supply and every entry of a minter, and on the rest. -/
theorem operations_commute {r₁ r₂ r₁₂ r₂₁ : Response} (hne : s₁ ≠ s₂)
    (op₁ : m₁.isOperation = true) (op₂ : m₂.isOperation = true)
    (h₁ : l.execute env₁ s₁ m₁ = .ok (l₁, r₁)) (h₁₂ : l₁.execute env₂ s₂ m₂ = .ok (l₁₂, r₁₂))
    (h₂ : l.execute env₂' s₂ m₂ = .ok (l₂, r₂)) (h₂₁ : l₂.execute env₁' s₁ m₁ = .ok (l₂₁, r₂₁)) :
    Agrees l₁₂ l₂₁ := by
  have first := step_of_execute h₁
  have second := step_of_execute h₁₂
  have first' := step_of_execute h₂
  have second' := step_of_execute h₂₁
  obtain ⟨hconfig, hregistry, hnominee, htoken⟩ := first.frame op₁
  obtain ⟨hconfig₂, hregistry₂, hnominee₂, htoken₂⟩ := second.frame op₂
  obtain ⟨hconfig', hregistry', hnominee', htoken'⟩ := first'.frame op₂
  obtain ⟨hconfig₂', hregistry₂', hnominee₂', htoken₂'⟩ := second'.frame op₁
  refine ⟨?_, ?_, ?_, ?_, ?_, ?_, ?_⟩
  · rw [hconfig₂', hconfig', hconfig₂, hconfig]
  · rw [htoken₂', htoken', htoken₂, htoken, supply_congr first second first' second']
  · rw [hregistry₂', hregistry', hregistry₂, hregistry]
  · rw [hnominee₂', hnominee', hnominee₂, hnominee]
  · exact entry_congr hne op₁ op₂ first second first' second'
  · exact balance_congr first second first' second'
  · exact allowance_congr hne first second first' second'

/-- A minter that mints to itself and to a holder who lets it take 30 on its behalf. -/
def allowedRun : List Invocation :=
  [⟨aloneEnv, "owner", .addMinter "minter" (.ofNat 100)⟩,
    ⟨aloneEnv, "minter", .mint "minter" (.ofNat 20)⟩,
    ⟨aloneEnv, "minter", .mint "alice" (.ofNat 50)⟩,
    ⟨aloneEnv, "alice", .increaseAllowance "minter" (.ofNat 30)⟩]

/-- The holder takes back ten of the thirty, and the minter draws on the rest, in either order. -/
theorem operations_commute_of_allowedRun :
    ∃ l l₁₂ l₂₁ : Ledger, l.Reachable ∧
      l.invokeAll [⟨aloneEnv, "alice", .decreaseAllowance "minter" (.ofNat 10)⟩,
        ⟨aloneEnv, "minter", .transferFrom "alice" "minter" (.ofNat 20)⟩] = l₁₂ ∧
      l.invokeAll [⟨aloneEnv, "minter", .transferFrom "alice" "minter" (.ofNat 20)⟩,
        ⟨aloneEnv, "alice", .decreaseAllowance "minter" (.ofNat 10)⟩] = l₂₁ ∧
      (l₁₂.balances.get "minter").toNat = 40 ∧
      (l₁₂.allowances.get ("alice", "minter")).toNat = 0 ∧ Agrees l₁₂ l₂₁ := by
  have hrun : ∃ l l₁ l₂ l₁₂ l₂₁ : Ledger, ∃ r₁ r₂ r₁₂ r₂₁, l.Reachable ∧
      l.execute aloneEnv "alice" (.decreaseAllowance "minter" (.ofNat 10)) = .ok (l₁, r₁) ∧
      l₁.execute aloneEnv "minter" (.transferFrom "alice" "minter" (.ofNat 20))
        = .ok (l₁₂, r₁₂) ∧
      l.execute aloneEnv "minter" (.transferFrom "alice" "minter" (.ofNat 20)) = .ok (l₂, r₂) ∧
      l₂.execute aloneEnv "alice" (.decreaseAllowance "minter" (.ofNat 10)) = .ok (l₂₁, r₂₁) ∧
      (l₁₂.balances.get "minter").toNat = 40 ∧
      (l₁₂.allowances.get ("alice", "minter")).toNat = 0 :=
    ⟨_, _, _, _, _, _, _, _, _, ⟨aloneEnv, "owner", plainSetup, _, _, allowedRun, rfl, rfl⟩,
      rfl, rfl, rfl, rfl, rfl, rfl⟩
  obtain ⟨l, l₁, l₂, l₁₂, l₂₁, r₁, r₂, r₁₂, r₂₁, hl, h₁, h₁₂, h₂, h₂₁, hbalance, hallowance⟩ := hrun
  refine ⟨l, l₁₂, l₂₁, hl, ?_, ?_, hbalance, hallowance,
    operations_commute (by decide) rfl rfl h₁ h₁₂ h₂ h₂₁⟩
  · simp only [invokeAll, List.foldl_cons, List.foldl_nil, invoke, h₁, h₁₂]
  · simp only [invokeAll, List.foldl_cons, List.foldl_nil, invoke, h₂, h₂₁]

end Stablecoin.Ledger
