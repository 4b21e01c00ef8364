import Stablecoin.Holdings

set_option autoImplicit false

/-! # Movements between holders

A movement lowers what one holder has and raises what another has, one after the other. The two may
be the same holder; the total stays in any case (`Moves.total_eq`). -/

namespace Stablecoin.Holdings

variable {κ : Type} [DecidableEq κ] {h h' : Holdings κ} {payer payee k : κ} {amount : Amount}

/-- `h'` is `h` after the payer has given an amount to the payee. -/
def Moves (h : Holdings κ) (payer payee : κ) (amount : Amount) (h' : Holdings κ) : Prop :=
  ∃ left grown : Amount, (h.get payer).toNat = left.toNat + amount.toNat ∧
    grown.toNat = ((h.set payer left).get payee).toNat + amount.toNat ∧
    h' = (h.set payer left).set payee grown

namespace Moves

/-- The payer had what it gave. -/
theorem le_get (m : h.Moves payer payee amount h') : amount ≤ h.get payer := by
  obtain ⟨left, grown, hleft, -, -⟩ := m
  rw [Amount.le_iff]
  omega

/-- No movement creates or destroys anything. -/
theorem total_eq (m : h.Moves payer payee amount h') : h'.total = h.total := by
  obtain ⟨left, grown, hleft, hgrown, rfl⟩ := m
  have hdebit := h.total_set payer left
  have hcredit := (h.set payer left).total_set payee grown
  omega

/-- Who neither gives nor takes keeps what it has. -/
theorem get_of_ne (m : h.Moves payer payee amount h') (hpayer : payer ≠ k) (hpayee : payee ≠ k) :
    h'.get k = h.get k := by
  obtain ⟨left, grown, -, -, rfl⟩ := m
  rw [get_set_of_ne _ _ hpayee, get_set_of_ne _ _ hpayer]

theorem get_payer (m : h.Moves payer payee amount h') (hne : payer ≠ payee) :
    (h'.get payer).toNat + amount.toNat = (h.get payer).toNat := by
  obtain ⟨left, grown, hleft, -, rfl⟩ := m
  rw [get_set_of_ne _ _ hne.symm, get_set_self, hleft]

theorem get_payee (m : h.Moves payer payee amount h') (hne : payer ≠ payee) :
    (h'.get payee).toNat = (h.get payee).toNat + amount.toNat := by
  obtain ⟨left, grown, -, hgrown, rfl⟩ := m
  rw [get_set_self, hgrown, get_set_of_ne _ _ hne]

/-- Who pays itself keeps what it has. -/
theorem get_self (m : h.Moves k k amount h') : h'.get k = h.get k := by
  obtain ⟨left, grown, hleft, hgrown, rfl⟩ := m
  rw [get_set_self] at hgrown
  rw [get_set_self]
  exact Amount.ext (by omega)

/-- What anyone has after a movement, whoever of payer and payee they are. -/
theorem get_add_paid (m : h.Moves payer payee amount h') (k : κ) :
    (h'.get k).toNat + (if payer = k then amount.toNat else 0)
      = (h.get k).toNat + (if payee = k then amount.toNat else 0) := by
  by_cases hpayer : payer = k
  · subst hpayer
    by_cases hpayee : payee = payer
    · subst hpayee
      rw [m.get_self]
    · rw [if_pos rfl, if_neg hpayee, Nat.add_zero]
      exact m.get_payer (Ne.symm hpayee)
  · by_cases hpayee : payee = k
    · subst hpayee
      rw [if_neg hpayer, if_pos rfl, Nat.add_zero]
      exact m.get_payee hpayer
    · rw [if_neg hpayer, if_neg hpayee, m.get_of_ne hpayer hpayee]

/-- Only the payee can have something without having had anything before. -/
theorem eq_payee_or_get_ne_zero (m : h.Moves payer payee amount h') (hk : h'.get k ≠ 0) :
    k = payee ∨ h.get k ≠ 0 := by
  obtain ⟨left, grown, hleft, -, rfl⟩ := m
  by_cases hpayee : payee = k
  · exact .inl hpayee.symm
  · right
    rw [get_set_of_ne _ _ hpayee] at hk
    by_cases hpayer : payer = k
    · subst hpayer
      rw [get_set_self] at hk
      intro hzero
      rw [hzero, Amount.toNat_zero] at hleft
      exact hk (Amount.eq_zero_iff.2 (by omega))
    · rw [get_set_of_ne _ _ hpayer] at hk
      exact hk

/-- Only the payee can have more than before. -/
theorem eq_payee_of_get_lt (m : h.Moves payer payee amount h') (hk : h.get k < h'.get k) :
    k = payee := by
  refine Decidable.byContradiction fun hne => ?_
  rw [Amount.lt_iff] at hk
  by_cases hpayer : payer = k
  · subst hpayer
    have hleft := m.get_payer hne
    omega
  · rw [m.get_of_ne hpayer (Ne.symm hne)] at hk
    omega

end Moves

/-- Whoever has an amount can give it to anybody, as long as all together have no more than can be
    counted. -/
theorem exists_moves (h : Holdings κ) (payee : κ) (held : amount ≤ h.get payer)
    (inRange : h.total < Amount.size) : ∃ left grown : Amount,
      (h.get payer).toNat = left.toNat + amount.toNat ∧
      grown.toNat = ((h.set payer left).get payee).toNat + amount.toNat := by
  rw [Amount.le_iff] at held
  have hlt := (h.get payer).isLt
  refine ⟨⟨(h.get payer).toNat - amount.toNat, by omega⟩, ?_⟩
  generalize hleft : (⟨(h.get payer).toNat - amount.toNat, by omega⟩ : Amount) = left
  have htoNat : left.toNat = (h.get payer).toNat - amount.toNat := by rw [← hleft]
  have hdebit := h.total_set payer left
  have hpart := (h.set payer left).get_le_total payee
  exact ⟨⟨((h.set payer left).get payee).toNat + amount.toNat, by omega⟩, by omega, rfl⟩

end Stablecoin.Holdings
