import Stablecoin.Proofs.Chain.Debt
import Stablecoin.Proofs.Ledger.Sound

set_option autoImplicit false

/-! # Accounts in good standing

An account is in good standing while its ledger is sound, its own parameters pass their check, and
the ledger counts something for it only while it is a minter. Every call keeps this, unless it
removes the account as a minter (`Effect.standing`). So an account that started without debt and was
never removed (`Enlisted`) is in good standing, and owes just what the ledger counts for it
(`Enlisted.standing`). -/

namespace Stablecoin.Chain

variable {σ : Type}

/-- The call removes an address as a minter. -/
def Moment.Removes (ledger minter : Address) : Moment σ → Prop
  | ⟨_, .execute _ contract message _⟩ =>
    contract = ledger ∧ ∃ m ∈ Ledger.Message.ofJson? message, m.removes minter = true
  | _ => False

instance (ledger minter : Address) :
    DecidablePred (Moment.Removes ledger minter : Moment σ → Prop)
  | ⟨_, .execute ..⟩ => inferInstanceAs (Decidable (_ ∧ ∃ m ∈ _, _ = true))
  | ⟨_, .reply ..⟩ => inferInstanceAs (Decidable False)
  | ⟨_, .send ..⟩ => inferInstanceAs (Decidable False)

/-- What holds of an account and its ledger as long as the account is not removed as a minter. -/
structure Standing (home : Address) (a : Account) (l : Ledger) : Prop where
  sound : l.Sound
  checked : a.risk.check = .ok ()
  counted : (l.minter home).listed = true ∨ (l.minter home).minted = 0

variable {c c' : Chain σ} {self : Address} {a a' : Account} {l l' : Ledger}

/-- Where an account stands there is no other, and neither is there another ledger of it. -/
theorem Joint.unique (h : Joint c self a l) (h' : Joint c self a' l') : a' = a ∧ l' = l := by
  have haccount := h'.account
  rw [h.account] at haccount
  cases haccount
  have hledger := h'.ledger
  rw [h.ledger] at hledger
  cases hledger
  exact ⟨rfl, rfl⟩

variable [Outside σ]

/-! ## Standing -/

/-- Ledgers stay sound, whatever is called. -/
theorem Effect.sound {call : Call} {next : List Call} (e : Effect c self a l call a' l' next)
    (hl : l.Sound) : l'.Sound := by
  cases e with
  | ledger paid decoded step => exact step.sound hl
  | _ => exact hl

theorem Joint.runs_sound {calls : List Call} {tr : List (Moment σ)} (h : Joint c self a l)
    (hl : l.Sound) (hr : Runs c calls tr c') :
    ∃ a' l', Joint c' self a' l' ∧ a'.config = a.config ∧ l'.Sound :=
  (h.runs_along (P := fun _ l => l.Sound) (K := fun _ => True) (Q := fun _ => True)
    (fun _ effect _ _ hl => ⟨effect.sound hl, trivial⟩) rfl hl hr fun _ _ => trivial).1

/-- A call that does not remove the account keeps it in good standing, and overwrites no counter of
    it. -/
theorem Effect.standing {call : Call} {next : List Call} (h : Joint c self a l)
    (e : Effect c self a l call a' l' next)
    (kept : ¬ Moment.Removes a.config.ledger self ⟨c, call⟩) (hs : Standing self a l) :
    Standing self a' l' ∧ ¬ Moment.Overwrites a.config.ledger self ⟨c, call⟩ := by
  have hsound := e.sound hs.sound
  have hchecked := e.risk_check hs.checked
  cases e with
  | account paid decoded step =>
    exact ⟨⟨hsound, hchecked, hs.counted⟩, fun ho => h.self_ne_ledger ho.1⟩
  | hears hears => exact ⟨⟨hsound, hchecked, hs.counted⟩, fun ho => ho⟩
  | @ledger sender message funds c₁ m l' out paid decoded step =>
    have hkept : m.removes self = false :=
      Bool.eq_false_iff.2 fun hm => kept ⟨rfl, m, decoded, hm⟩
    refine ⟨⟨hsound, hchecked, step.listed_or_uncounted hkept hs.counted⟩, ?_⟩
    rintro ⟨-, l₀, hl₀, m', hm', hne⟩
    cases h.ledger?_eq.symm.trans hl₀
    cases decoded.symm.trans hm'
    exact hne (step.overwritten_eq_zero hs.counted)
  | elsewhere other => exact ⟨⟨hsound, hchecked, hs.counted⟩, fun ho => other.2 ho.1⟩
  | hearsElsewhere other => exact ⟨⟨hsound, hchecked, hs.counted⟩, fun ho => ho⟩
  | send => exact ⟨⟨hsound, hchecked, hs.counted⟩, fun ho => ho⟩

/-! ## From the start -/

/-- An account that owes nothing, on a ledger that counts nothing for it. -/
structure Founded (c : Chain σ) (home : Address) (a : Account) (l : Ledger) : Prop where
  joint : Joint c home a l
  clear : a.position.borrowed = 0
  checked : a.risk.check = .ok ()
  reachable : l.Reachable
  uncounted : (l.minter home).minted = 0

namespace Founded

omit [Outside σ] in
/-- So every account starts. -/
theorem of_setUp {env : Env} {s : Account.Setup} {r : Response}
    (born : Account.setUp env s = .ok (a, r)) (joint : Joint c self a l) (reachable : l.Reachable)
    (uncounted : (l.minter self).minted = 0) : Founded c self a l :=
  ⟨joint, Account.borrowed_of_setUp born, Account.risk_check_of_setUp born, reachable, uncounted⟩

omit [Outside σ] in
theorem standing (h : Founded c self a l) : Standing self a l :=
  ⟨h.reachable.sound, h.checked, .inr h.uncounted⟩

omit [Outside σ] in
theorem excess_eq_zero (h : Founded c self a l) : excess self a l = 0 := by
  rw [excess, h.uncounted, h.clear]
  rfl

end Founded

/-- An account that is a minter of its ledger and was never removed as one, whatever transactions
    there have been since it was founded. -/
structure Enlisted (c : Chain σ) (home : Address) (a : Account) (l : Ledger) : Prop where
  joint : Joint c home a l
  listed : (l.minter home).listed = true
  history : ∃ c₀ a₀ l₀ ts, Founded c₀ home a₀ l₀ ∧ (∀ t ∈ ts, t.sender ≠ home) ∧
    (∀ m ∈ c₀.traceAll ts, ¬ m.Removes a₀.config.ledger home) ∧
    c = (c₀.afterAll ts).atTime c.now

/-- An account that was founded, is a minter and was never removed as one is enlisted. -/
theorem Founded.exists_enlisted (h : Founded c self a l) {ts : List Transaction} (now : Seconds)
    (own : ∀ t ∈ ts, t.sender ≠ self)
    (kept : ∀ m ∈ c.traceAll ts, ¬ m.Removes a.config.ledger self)
    (listed : ∀ k ∈ ((c.afterAll ts).atTime now).ledger? a.config.ledger,
      (k.minter self).listed = true) :
    ∃ a' l', Enlisted ((c.afterAll ts).atTime now) self a' l' ∧ a'.config = a.config := by
  obtain ⟨a', l', hend, hconfig, -, -⟩ := excess_of_afterAll h.joint own
  have joint := hend.atTime now
  have hledger := joint.ledger?_eq
  rw [hconfig] at hledger
  exact ⟨a', l', ⟨joint, listed l' hledger, c, a, l, ts, h, own, kept, rfl⟩, hconfig⟩

/-- An account that was never removed as a minter is in good standing, and the ledger counts for it
    all that it owes. -/
theorem Enlisted.standing (h : Enlisted c self a l) :
    Standing self a l ∧ (l.minter self).minted = a.position.borrowed := by
  obtain ⟨c₀, a₀, l₀, ts, founded, own, kept, hc⟩ := h.history
  have joint := h.joint
  rw [hc] at joint
  obtain ⟨⟨a₁, l₁, h₁, -, standing⟩, intact⟩ := founded.joint.afterAll_along
    (P := Standing self) (K := fun m => ¬ m.Removes a₀.config.ledger self)
    (Q := fun m => ¬ m.Overwrites a₀.config.ledger self)
    (fun hj effect hledger hkept hs => hledger ▸ effect.standing hj (hledger ▸ hkept) hs)
    rfl founded.standing kept
  obtain ⟨a₂, l₂, h₂, -, -, heq⟩ := excess_of_afterAll founded.joint own
  have hexcess := heq intact
  obtain ⟨rfl, rfl⟩ := (h₁.atTime c.now).unique joint
  obtain ⟨rfl, rfl⟩ := (h₂.atTime c.now).unique joint
  rw [founded.excess_eq_zero, excess] at hexcess
  exact ⟨standing, Amount.ext (by omega)⟩

end Stablecoin.Chain
