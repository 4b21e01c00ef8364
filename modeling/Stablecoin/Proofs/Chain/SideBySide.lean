import Stablecoin.Proofs.Chain.Run

set_option autoImplicit false

/-! # Chains side by side

Two chains at the same time and with the same money, where what stands at an address on the one is
related to what stands there on the other (`SideBySide`). If related contracts respond alike and
stay related, whatever they are told (`Simulation`), then the two chains do the same with every call
and with every row of calls, and are side by side again (`SideBySide.run`). The relation may depend
on the time, which no call changes. -/

namespace Stablecoin.Chain

variable {σ : Type} {R : Seconds → Address → Contract σ → Contract σ → Prop} {c c' : Chain σ}
  {sender b : Address} {entry : Entry}

/-- Two chains at the same time and with the same money, and related contracts. -/
structure SideBySide (R : Seconds → Address → Contract σ → Contract σ → Prop) (c c' : Chain σ) :
    Prop where
  now : c'.now = c.now
  bank : c'.bank = c.bank
  contract? (b : Address) : (c.contract? b = none ∧ c'.contract? b = none) ∨
    ∃ k k', c.contract? b = some k ∧ c'.contract? b = some k' ∧ R c.now b k k'

/-- Two chains are side by side, and what came of a step besides is the same. -/
def Alongside (R : Seconds → Address → Contract σ → Contract σ → Prop) {α : Type}
    (x x' : Chain σ × α) : Prop :=
  SideBySide R x.1 x'.1 ∧ x'.2 = x.2

/-- Two chains are side by side, and a contract was entered on both with related responses. -/
def Entered (R : Seconds → Address → Contract σ → Contract σ → Prop) (b : Address) (entry : Entry)
    (Q : Response → Response → Prop) (x x' : Chain σ × Record) : Prop :=
  SideBySide R x.1 x'.1 ∧ ∃ r r', Q r r' ∧ x.2 = ⟨b, entry, r⟩ ∧ x'.2 = ⟨b, entry, r'⟩

theorem Entered.alongside {x x' : Chain σ × Record}
    (h : Entered R b entry (fun r r' => r' = r) x x') : Alongside R x x' := by
  obtain ⟨beside, r, _, rfl, hx, hx'⟩ := h
  exact ⟨beside, hx'.trans hx.symm⟩

namespace SideBySide

theorem balance_eq (h : SideBySide R c c') : c'.balance = c.balance := by
  funext b denom
  rw [balance, balance, h.bank]

theorem isSome_eq (h : SideBySide R c c') (b : Address) :
    (c'.contract? b).isSome = (c.contract? b).isSome := by
  rcases h.contract? b with ⟨none, none'⟩ | ⟨k, k', stands, stands', -⟩
  · rw [none, none']
  · rw [stands, stands']
    rfl

theorem put (h : SideBySide R c c') {k k' : Contract σ} (hk : R c.now b k k') :
    SideBySide R (c.put b k) (c'.put b k') := by
  refine ⟨h.now, h.bank, fun b' => ?_⟩
  by_cases hb : b = b'
  · subst hb
    exact .inr ⟨k, k', contract?_put_self _ _ _, contract?_put_self _ _ _, hk⟩
  · rw [contract?_put_of_ne _ _ hb, contract?_put_of_ne _ _ hb]
    exact h.contract? b'

theorem payAll (h : SideBySide R c c') (payer payee : Address) (coins : List Coin) :
    InStep (SideBySide R) (c.payAll payer payee coins) (c'.payAll payer payee coins) := by
  refine (inStep_payAll h.bank payer payee coins).mono ?_
  rintro d _ ⟨⟨hcontracts, hnow⟩, rfl⟩
  refine ⟨h.now.trans hnow.symm, rfl, fun b => ?_⟩
  rw [hnow, show d.contract? b = c.contract? b by rw [Chain.contract?, hcontracts, Chain.contract?]]
  exact h.contract? b

/-! ## Entries -/

theorem enter (h : SideBySide R c c') {Q : Response → Response → Prop}
    {run run' : Contract σ → Except Contract.Error (Contract σ × Response)}
    (inStep : ∀ k k', c.contract? b = some k → R c.now b k k' →
      InStep (fun x x' => R c.now b x.1 x'.1 ∧ Q x.2 x'.2) (run k) (run' k')) :
    InStep (Entered R b entry Q) (c.enter b entry run) (c'.enter b entry run') := by
  unfold Chain.enter
  rcases h.contract? b with ⟨none, none'⟩ | ⟨k, k', stands, stands', hk⟩
  · rw [none, none']
    exact .error
  · rw [stands, stands']
    refine ((inStep k k' stands hk).mapError _).bind ?_
    rintro ⟨k₁, r⟩ ⟨k₁', r'⟩ ⟨hk₁, hr⟩
    exact .ok ⟨h.put hk₁, r, r', hr, rfl, rfl⟩

variable [Outside σ]

/-- A contract is told something on both, not necessarily the same. -/
theorem execute_with (h : SideBySide R c c') {Q : Response → Response → Prop}
    {message message' : Json} {funds : List Coin}
    (inStep : ∀ d d' k k', SideBySide R d d' → c.contract? b = some k → R d.now b k k' →
      InStep (fun x x' => R d.now b x.1 x'.1 ∧ Q x.2 x'.2)
        (k.execute (d.env b) sender funds message) (k'.execute (d'.env b) sender funds message')) :
    InStep (Entered R b .execute Q) (c.execute sender b message funds)
      (c'.execute sender b message' funds) := by
  unfold Chain.execute
  rw [h.isSome_eq]
  apply InStep.bind_same
  intro _
  refine ((h.payAll sender b funds).and fun d paid => contract?_of_payAll paid b).bind ?_
  rintro d d' ⟨hcontract, hd⟩
  exact hd.enter fun k k' stands hk => inStep d d' k k' hd (hcontract ▸ stands) hk

end SideBySide

variable [Outside σ]

/-- Contracts that are related on chains side by side do the same with what they are told and hear,
    and stay related. -/
structure Simulation (R : Seconds → Address → Contract σ → Contract σ → Prop) : Prop where
  execute {c c' : Chain σ} {b : Address} {k k' : Contract σ} (h : SideBySide R c c')
    (hk : R c.now b k k') (sender : Address) (funds : List Coin) (message : Json) :
    InStep (fun x x' => R c.now b x.1 x'.1 ∧ x'.2 = x.2)
      (k.execute (c.env b) sender funds message) (k'.execute (c'.env b) sender funds message)
  reply {c c' : Chain σ} {b : Address} {k k' : Contract σ} (h : SideBySide R c c')
    (hk : R c.now b k k') (id : Nat) :
    InStep (fun x x' => R c.now b x.1 x'.1 ∧ x'.2 = x.2) (k.reply (c.env b) id)
      (k'.reply (c'.env b) id)

namespace SideBySide

variable (simulation : Simulation R)

include simulation

/-! ## Calls -/

theorem execute (h : SideBySide R c c') (sender b : Address) (message : Json) (funds : List Coin) :
    InStep (Alongside R) (c.execute sender b message funds)
      (c'.execute sender b message funds) := by
  refine (h.execute_with fun d d' k k' hd _ hk => ?_).mono fun _ _ => Entered.alongside
  exact simulation.execute hd hk sender funds message

theorem reply (h : SideBySide R c c') (b : Address) (id : Nat) :
    InStep (Alongside R) (c.reply b id) (c'.reply b id) := by
  unfold Chain.reply
  rw [h.isSome_eq]
  apply InStep.bind_same
  intro _
  refine (h.enter fun k k' _ hk => ?_).mono fun _ _ => Entered.alongside
  exact simulation.reply h hk id

/-- Both chains carry out a call alike, and the same calls follow from it. -/
theorem perform (h : SideBySide R c c') (call : Call) :
    InStep (Alongside R) (c.perform call) (c'.perform call) := by
  cases call with
  | execute sender b message funds =>
    refine (h.execute simulation sender b message funds).bind ?_
    rintro ⟨d, r⟩ ⟨d', _⟩ ⟨hd, rfl⟩
    exact .ok ⟨hd, rfl⟩
  | reply b id =>
    refine (h.reply simulation b id).bind ?_
    rintro ⟨d, r⟩ ⟨d', _⟩ ⟨hd, rfl⟩
    exact .ok ⟨hd, rfl⟩
  | send sender recipient coins =>
    refine (h.payAll sender recipient coins).bind ?_
    intro d d' hd
    exact .ok ⟨hd, rfl⟩

/-- So they do with a whole row of calls. -/
theorem run (h : SideBySide R c c') (limit : Nat) (calls : List Call) :
    InStep (Alongside R) (run limit c calls) (run limit c' calls) := by
  induction limit generalizing c c' calls with
  | zero =>
    cases calls with
    | nil => exact .ok ⟨h, rfl⟩
    | cons call rest => exact .error
  | succ limit ih =>
    cases calls with
    | nil => exact .ok ⟨h, rfl⟩
    | cons call rest =>
      refine (h.perform simulation call).bind ?_
      rintro ⟨d, records, next⟩ ⟨d', _, _⟩ ⟨hd, ⟨⟩⟩
      refine (ih hd (next ++ rest)).bind ?_
      rintro ⟨e, later⟩ ⟨e', _⟩ ⟨he, rfl⟩
      exact .ok ⟨he, rfl⟩

/-- A transaction that both chains are to carry out leaves them side by side, also if it fails. -/
theorem after {t : Transaction} (h : SideBySide R (c.atTime t.time) (c'.atTime t.time)) :
    SideBySide R (c.after t) (c'.after t) := by
  have hrun := h.run simulation callLimit [t.call]
  unfold Chain.after transact
  generalize Chain.run callLimit (c.atTime t.time) [t.call] = x,
    Chain.run callLimit (c'.atTime t.time) [t.call] = x' at hrun ⊢
  cases hrun with
  | ok related => exact related.1
  | error => exact h

end SideBySide

end Stablecoin.Chain
