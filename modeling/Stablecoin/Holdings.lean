import Stablecoin.Amount
import Stablecoin.Table

set_option autoImplicit false

/-! # Holdings

How much each of finitely many holders has; everyone else has nothing. Balances, allowances, bank
accounts and deposits are holdings. `Holdings.total_set` is the law of bookkeeping: a write moves
the total by the difference it makes to one holder. -/

namespace Stablecoin

/-- How much each holder has. -/
structure Holdings (κ : Type) where
  table : Table κ Amount

namespace Holdings

variable {κ : Type} [DecidableEq κ]

/-- Nobody has anything. -/
def empty : Holdings κ := ⟨Table.empty⟩

instance : Inhabited (Holdings κ) := ⟨empty⟩

/-- What a holder has. -/
def get (h : Holdings κ) (k : κ) : Amount :=
  (h.table.find? k).getD 0

/-- Sets what a holder has. -/
def set (h : Holdings κ) (k : κ) (a : Amount) : Holdings κ :=
  ⟨h.table.insert k a⟩

/-- The sum over all holders. -/
def total (h : Holdings κ) : Nat :=
  h.table.sumOf Amount.toNat

/-- The holders that have something, and how much. -/
def nonzero (h : Holdings κ) : List (κ × Amount) :=
  h.table.toList.filter fun e => e.2 ≠ 0

@[simp] theorem get_empty (k : κ) : (empty : Holdings κ).get k = 0 := rfl

theorem get_set (h : Holdings κ) (k k' : κ) (a : Amount) :
    (h.set k a).get k' = if k = k' then a else h.get k' := by
  simp only [get, set, Table.find?_insert]
  split <;> rfl

@[simp] theorem get_set_self (h : Holdings κ) (k : κ) (a : Amount) : (h.set k a).get k = a := by
  simp [get_set]

theorem get_set_of_ne (h : Holdings κ) {k k' : κ} (a : Amount) (hk : k ≠ k') :
    (h.set k a).get k' = h.get k' := by
  simp [get_set, hk]

/-- Only the last write for a holder counts. -/
@[simp] theorem set_set (h : Holdings κ) (k : κ) (a b : Amount) :
    (h.set k a).set k b = h.set k b := by
  simp only [set, Table.insert_insert]

/-- A write of what a holder has already takes nothing from anybody. -/
theorem get_set_get (h : Holdings κ) (k k' : κ) : (h.set k (h.get k)).get k' = h.get k' := by
  rw [get_set]
  split
  · rename_i heq
    rw [heq]
  · rfl

omit [DecidableEq κ] in
@[simp] theorem total_empty : (empty : Holdings κ).total = 0 := rfl

theorem toNat_get (h : Holdings κ) (k : κ) :
    (h.get k).toNat = ((h.table.find? k).map Amount.toNat).getD 0 := by
  simp only [get]
  cases h.table.find? k <;> rfl

/-- A write moves the total by the difference it makes to one holder. -/
theorem total_set (h : Holdings κ) (k : κ) (a : Amount) :
    (h.set k a).total + (h.get k).toNat = h.total + a.toNat := by
  rw [toNat_get]
  exact h.table.sumOf_insert Amount.toNat k a

/-- No holder has more than all together. -/
theorem get_le_total (h : Holdings κ) (k : κ) : (h.get k).toNat ≤ h.total := by
  rw [toNat_get]
  exact h.table.find?_le_sumOf Amount.toNat k

end Holdings

end Stablecoin
