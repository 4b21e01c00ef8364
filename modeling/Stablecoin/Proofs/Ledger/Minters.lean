import Stablecoin.Proofs.Ledger.Supply

set_option autoImplicit false

/-! # The counters of minters

The ledger counts for every minter what it has minted and not burned. The counter of an address
follows the mints and burns of that address and nothing else, with one exception: when the address
is added as a minter, its counter starts again at zero, and what it was before is lost
(`Step.minted_add_overwritten`). That can only be something if the address has been removed as a
minter before (`Step.listed_or_uncounted`). -/

namespace Stablecoin.Ledger

/-- What a message adds to the supply. -/
def Message.net (m : Message) : Int :=
  m.issued - m.redeemed

/-- What a message takes off the counter of an address without a burn. -/
def overwritten (l : Ledger) (a : Address) : Message → Nat
  | .addMinter minter _ => if minter = a then (l.minter a).minted.toNat else 0
  | _ => 0

variable {l l' : Ledger} {env : Env} {sender : Address} {m : Message} {out : List Outgoing}

/-- Whoever never was a minter has minted nothing. -/
theorem minted_of_find?_eq_none {a : Address} (h : l.minters.find? a = none) :
    (l.minter a).minted = 0 := by
  rw [minter, h]
  rfl

theorem minter_eq_of_insert {a b : Address} {x : Minter} (h : l'.minters = l.minters.insert b x) :
    l'.minter a = if b = a then x else l.minter a := by
  rw [minter, h, Table.find?_insert]
  split <;> rfl

theorem minted_eq_of_insert {a b : Address} {x : Minter} (h : l'.minters = l.minters.insert b x) :
    (l'.minter a).minted = if b = a then x.minted else (l.minter a).minted := by
  rw [minter_eq_of_insert h]
  split <;> rfl

/-- A change of the configuration overwrites no counter. -/
theorem Config.Step.overwritten {c c' : Config} {now : Seconds} (h : c.Step now sender m c')
    (a : Address) : l.overwritten a m = 0 := by
  cases h <;> rfl

/-- The counter of an address moves with its own mints and burns, and by what is overwritten. -/
theorem Step.minted_add_overwritten (h : Step l env sender m l' out) (a : Address) :
    ((l'.minter a).minted.toNat : Int) + l.overwritten a m
      = (l.minter a).minted.toNat + if sender = a then m.net else 0 := by
  cases h with
  | @mint recipient amount minted balance supply registered active acceptable positive counted
      capped gate admitted credited raised =>
    rw [minted_eq_of_insert (l := l) rfl]
    simp only [overwritten, Message.net, Message.issued, Message.redeemed]
    split
    · rename_i heq
      subst heq
      omega
    · omega
  | @burn amount minted balance supply listed positive debited lowered counted =>
    rw [minted_eq_of_insert (l := l) rfl]
    simp only [overwritten, Message.net, Message.issued, Message.redeemed]
    split
    · rename_i heq
      subst heq
      omega
    · omega
  | @addMinter minter maxAmount governs acceptable positive unlisted =>
    rw [minted_eq_of_insert (l := l) rfl]
    simp only [overwritten, Message.net, Message.issued, Message.redeemed]
    split <;> simp
  | @removeMinter minter governs acceptable listed =>
    -- the entry that is written keeps its counter, whoever it is of
    rw [minted_eq_of_insert (l := l) rfl]
    simp only [overwritten, Message.net, Message.issued, Message.redeemed]
    by_cases ha : minter = a <;> simp [ha]
  | @setMinterMaxAmount minter maxAmount governs acceptable listed covered =>
    rw [minted_eq_of_insert (l := l) rfl]
    simp only [overwritten, Message.net, Message.issued, Message.redeemed]
    by_cases ha : minter = a <;> simp [ha]
  | @setMinterEnabled minter enabled governs acceptable listed =>
    rw [minted_eq_of_insert (l := l) rfl]
    simp only [overwritten, Message.net, Message.issued, Message.redeemed]
    by_cases ha : minter = a <;> simp [ha]
  | configure step =>
    obtain ⟨hissued, hredeemed⟩ := step.issued_redeemed
    rw [step.overwritten, Message.net, hissued, hredeemed]
    simp [minter]
  | _ => simp [overwritten, Message.net, Message.issued, Message.redeemed, minter]

/-! ## Removal -/

/-- The message removes an address as a minter. -/
def Message.removes (a : Address) : Message → Bool
  | .removeMinter minter => minter = a
  | _ => false

/-- The ledger counts something for an address only while it is a minter, as long as it is not
    removed. -/
theorem Step.listed_or_uncounted (h : Step l env sender m l' out) {a : Address}
    (kept : m.removes a = false)
    (hl : (l.minter a).listed = true ∨ (l.minter a).minted = 0) :
    (l'.minter a).listed = true ∨ (l'.minter a).minted = 0 := by
  -- whoever is written into the table otherwise is listed in it
  have hinsert : ∀ {b : Address} {x : Minter}, l'.minters = l.minters.insert b x →
      x.listed = true → (l'.minter a).listed = true ∨ (l'.minter a).minted = 0 := by
    intro b x hminters hx
    rw [minter_eq_of_insert hminters]
    split
    · exact .inl hx
    · exact hl
  cases h with
  | mint registered => exact hinsert rfl registered.1
  | burn listed => exact hinsert rfl listed
  | addMinter => exact hinsert rfl rfl
  | @removeMinter minter governs acceptable listed =>
    rw [minter_eq_of_insert (l := l) rfl, if_neg (of_decide_eq_false kept)]
    exact hl
  | setMinterMaxAmount governs acceptable listed => exact hinsert rfl listed
  | setMinterEnabled governs acceptable listed => exact hinsert rfl listed
  | _ => exact hl

/-- Then no counter that is not at zero is overwritten. -/
theorem Step.overwritten_eq_zero (h : Step l env sender m l' out) {a : Address}
    (hl : (l.minter a).listed = true ∨ (l.minter a).minted = 0) : l.overwritten a m = 0 := by
  cases h with
  | @addMinter minter maxAmount governs acceptable positive unlisted =>
    show (if minter = a then (l.minter a).minted.toNat else 0) = 0
    split
    · rename_i heq
      subst heq
      rcases hl with listed | uncounted
      · rw [unlisted] at listed
        cases listed
      · rw [uncounted, Amount.toNat_zero]
    · rfl
  | configure step => exact step.overwritten a
  | _ => rfl

end Stablecoin.Ledger
