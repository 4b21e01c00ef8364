import Stablecoin.Proofs.Ledger.Step

set_option autoImplicit false

/-! # Runs of a ledger

A ledger is set up once and then gets messages from anyone at any time; a message that fails leaves
it as it was. What holds of every new ledger and is kept by `Step` holds of every ledger that can
be reached (`Reachable.induction`). -/

namespace Stablecoin.Ledger

/-- A message on its way to a ledger: who sends it, and what the ledger sees when it comes. -/
structure Invocation where
  env : Env
  sender : Address
  message : Message

/-- The ledger after a message. -/
def invoke (l : Ledger) (i : Invocation) : Ledger :=
  match l.execute i.env i.sender i.message with
  | .ok (l', _) => l'
  | .error _ => l

/-- The ledger after messages, one after the other. -/
def invokeAll (l : Ledger) (is : List Invocation) : Ledger :=
  is.foldl invoke l

theorem invokeAll_append (l : Ledger) (first second : List Invocation) :
    l.invokeAll (first ++ second) = (l.invokeAll first).invokeAll second :=
  List.foldl_append ..

/-- The ledgers that come of a setup and of messages after it. -/
def Reachable (l : Ledger) : Prop :=
  ∃ env sender s l₀ r is, setUp env sender s = .ok (l₀, r) ∧ l = l₀.invokeAll is

/-- A message is either carried out or leaves no trace. -/
theorem step_or_eq_of_invoke (l : Ledger) (i : Invocation) :
    (∃ out, Step l i.env i.sender i.message (l.invoke i) out) ∨ l.invoke i = l := by
  unfold invoke
  split
  · rename_i l' r h
    exact .inl ⟨r.outgoing, step_of_execute h⟩
  · exact .inr rfl

/-- What every step keeps is kept by every run. -/
theorem invokeAll_induction {P : Ledger → Prop} {l : Ledger} (h : P l)
    (step : ∀ {l env sender m l' out}, Step l env sender m l' out → P l → P l')
    (is : List Invocation) : P (l.invokeAll is) := by
  induction is generalizing l with
  | nil => exact h
  | cons i rest ih =>
    apply ih
    rcases step_or_eq_of_invoke l i with ⟨out, hstep⟩ | heq
    · exact step hstep h
    · rw [heq]; exact h

/-- What holds of every new ledger, and is kept by every step, holds of every reachable ledger. -/
theorem Reachable.induction {P : Ledger → Prop}
    (base : ∀ {env sender s l r}, setUp env sender s = .ok (l, r) → P l)
    (step : ∀ {l env sender m l' out}, Step l env sender m l' out → P l → P l')
    {l : Ledger} (h : l.Reachable) : P l := by
  obtain ⟨env, sender, s, l₀, r, is, hsetUp, rfl⟩ := h
  exact invokeAll_induction (base hsetUp) step is

/-- A ledger that can be reached stays one as it carries out a message. -/
theorem Reachable.execute {l l' : Ledger} {env : Env} {sender : Address} {m : Message}
    {r : Response} (h : l.Reachable) (hexec : l.execute env sender m = .ok (l', r)) :
    l'.Reachable := by
  obtain ⟨env₀, sender₀, s, l₀, r₀, is, hsetUp, rfl⟩ := h
  refine ⟨env₀, sender₀, s, l₀, r₀, is ++ [⟨env, sender, m⟩], hsetUp, ?_⟩
  rw [invokeAll_append, invokeAll, List.foldl_cons, List.foldl_nil, invoke, hexec]

/-- A ledger that has been set up and has not heard a message yet. -/
structure IsNew (l : Ledger) : Prop where
  supply : l.token.supply = 0
  balances : l.balances = .empty
  allowances : l.allowances = .empty
  minters : l.minters = .empty
  registry : l.registry = []
  nominee : l.nominee = none
  active : l.config.paused = false
  /-- The crawl starts at rest. -/
  resting : l.config.nextPrice = l.config.currentPrice
  priced : l.config.currentPrice ≠ 0
  spread : l.config.arbSpread.toNat ≤ precision

theorem isNew_of_setUp {env : Env} {sender : Address} {s : Setup} {l : Ledger} {r : Response}
    (h : setUp env sender s = .ok (l, r)) : l.IsNew := by
  unfold setUp at h
  -- the owner is named or the sender; the rest of the setup does not depend on it
  split at h
  all_goals
    simp only [bind_eq_ok_iff, require_eq_ok_iff, exists_const, pure_eq_ok_iff] at h
    obtain ⟨owner, -, priced, spread, treasury, -, balancer, -, agency, -, venue, -, policy, -,
      h⟩ := h
    cases h
    exact ⟨rfl, rfl, rfl, rfl, rfl, rfl, rfl, rfl, priced, spread⟩

end Stablecoin.Ledger
