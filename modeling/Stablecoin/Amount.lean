import Stablecoin.Text.Decimal

set_option autoImplicit false

/-! # Amounts

Every quantity of an asset and every price is a natural number below `Amount.size`. A sum or
difference that leaves this range is an `Overflow` that carries its operands (`checkedAdd`,
`checkedSub`), or is clamped to the range (`saturatingAdd`, `saturatingSub`). -/

namespace Stablecoin

/-- Two to the power of 128: amounts are the numbers below it. -/
def Amount.size : Nat := 340282366920938463463374607431768211456

theorem Amount.size_pos : 0 < Amount.size := by decide

/-- A quantity of an asset, or a price. -/
@[ext] structure Amount where
  toNat : Nat
  isLt : toNat < Amount.size
deriving DecidableEq

/-- A sum or a difference of two amounts that is not an amount. -/
inductive Overflow where
  | add (a b : Amount)
  | sub (a b : Amount)
deriving DecidableEq

namespace Amount

instance : Zero Amount := ⟨⟨0, size_pos⟩⟩

instance : Inhabited Amount := ⟨0⟩

instance : LE Amount := ⟨fun a b => a.toNat ≤ b.toNat⟩

instance : LT Amount := ⟨fun a b => a.toNat < b.toNat⟩

instance (a b : Amount) : Decidable (a ≤ b) := inferInstanceAs (Decidable (a.toNat ≤ b.toNat))

instance (a b : Amount) : Decidable (a < b) := inferInstanceAs (Decidable (a.toNat < b.toNat))

instance : Min Amount := ⟨fun a b => if a ≤ b then a else b⟩

@[simp] theorem toNat_zero : (0 : Amount).toNat = 0 := rfl

theorem le_iff {a b : Amount} : a ≤ b ↔ a.toNat ≤ b.toNat := Iff.rfl

theorem lt_iff {a b : Amount} : a < b ↔ a.toNat < b.toNat := Iff.rfl

theorem eq_zero_iff {a : Amount} : a = 0 ↔ a.toNat = 0 := Amount.ext_iff

@[simp] theorem toNat_min (a b : Amount) : (min a b).toNat = min a.toNat b.toNat := by
  change (if a ≤ b then a else b).toNat = min a.toNat b.toNat
  simp only [le_iff]
  split <;> omega

/-! ## Numbers and text -/

/-- The amount of that number, if it is in range. -/
def ofNat? (n : Nat) : Option Amount :=
  if h : n < size then some ⟨n, h⟩ else none

@[simp] theorem ofNat?_toNat (a : Amount) : ofNat? a.toNat = some a :=
  dif_pos a.isLt

theorem ofNat?_eq_some_iff {n : Nat} {a : Amount} : ofNat? n = some a ↔ a.toNat = n := by
  constructor
  · intro h
    simp only [ofNat?] at h
    split at h
    · cases h; rfl
    · cases h
  · rintro rfl
    exact ofNat?_toNat a

/-- The amount of that number, modulo the size of the range. -/
def ofNat (n : Nat) : Amount :=
  ⟨n % size, Nat.mod_lt n size_pos⟩

theorem toNat_ofNat {n : Nat} (h : n < size) : (ofNat n).toNat = n :=
  Nat.mod_eq_of_lt h

theorem ofNat?_eq_none_iff {n : Nat} : ofNat? n = none ↔ size ≤ n := by
  simp only [ofNat?]
  split <;> simp <;> omega

/-- An amount is written in decimal. -/
def toText (a : Amount) : String :=
  Decimal.write a.toNat

/-- Reads decimal digits, with at most one plus sign in front. -/
def ofText? (text : String) : Option Amount :=
  let digits := match text.toList with
    | '+' :: rest => rest
    | all => all
  (Decimal.ofDigits? digits).bind ofNat?

/-- What is written for an amount reads back. -/
@[simp] theorem ofText?_toText (a : Amount) : ofText? a.toText = some a := by
  have noPlus : ∀ rest, Nat.toDigits 10 a.toNat ≠ '+' :: rest := by
    intro rest h
    have := Nat.isDigit_of_mem_toDigits (b := 10) (n := a.toNat) (c := '+') (by decide) (by decide)
      (by simp [h])
    exact absurd this (by decide)
  unfold ofText? toText Decimal.write
  rw [String.toList_ofList]
  split
  · rename_i rest h
    exact absurd h (noPlus rest)
  · simp [Decimal.ofDigits?_toDigits]

/-! ## Checked and clamped sums -/

/-- The sum, unless it is out of range. -/
def checkedAdd (a b : Amount) : Except Overflow Amount :=
  if h : a.toNat + b.toNat < size then .ok ⟨a.toNat + b.toNat, h⟩ else .error (.add a b)

/-- The difference, unless it is negative. -/
def checkedSub (a b : Amount) : Except Overflow Amount :=
  if b.toNat ≤ a.toNat then .ok ⟨a.toNat - b.toNat, by have := a.isLt; omega⟩
  else .error (.sub a b)

/-- The sum, or the largest amount. -/
def saturatingAdd (a b : Amount) : Amount :=
  ⟨min (a.toNat + b.toNat) (size - 1), by have := size_pos; omega⟩

/-- The difference, or zero. -/
def saturatingSub (a b : Amount) : Amount :=
  ⟨a.toNat - b.toNat, by have := a.isLt; omega⟩

theorem checkedAdd_eq_ok_iff {a b c : Amount} :
    a.checkedAdd b = .ok c ↔ c.toNat = a.toNat + b.toNat := by
  have := c.isLt
  simp only [checkedAdd]
  split <;> simp [Amount.ext_iff] <;> omega

theorem checkedAdd_eq_error_iff {a b : Amount} {e : Overflow} :
    a.checkedAdd b = .error e ↔ e = .add a b ∧ size ≤ a.toNat + b.toNat := by
  simp only [checkedAdd]
  split
  · simp; omega
  · simp [eq_comm]; omega

theorem checkedSub_eq_ok_iff {a b c : Amount} :
    a.checkedSub b = .ok c ↔ a.toNat = c.toNat + b.toNat := by
  simp only [checkedSub]
  split <;> simp [Amount.ext_iff] <;> omega

theorem exists_checkedSub {a b : Amount} (h : b ≤ a) : ∃ c, a.checkedSub b = .ok c :=
  ⟨_, if_pos h⟩

theorem checkedSub_eq_error_iff {a b : Amount} {e : Overflow} :
    a.checkedSub b = .error e ↔ e = .sub a b ∧ a.toNat < b.toNat := by
  simp only [checkedSub]
  split
  · simp; omega
  · simp [eq_comm]; omega

@[simp] theorem toNat_saturatingAdd (a b : Amount) :
    (a.saturatingAdd b).toNat = min (a.toNat + b.toNat) (size - 1) := rfl

@[simp] theorem saturatingAdd_zero (a : Amount) : a.saturatingAdd 0 = a := by
  have hlt := a.isLt
  apply Amount.ext
  rw [toNat_saturatingAdd, toNat_zero]
  omega

@[simp] theorem toNat_saturatingSub (a b : Amount) :
    (a.saturatingSub b).toNat = a.toNat - b.toNat := rfl

/-- What is added where there is room for it is what is there more than before. -/
theorem saturatingSub_saturatingAdd {a b : Amount} (room : a.toNat + b.toNat < size) :
    (a.saturatingAdd b).saturatingSub a = b := by
  apply Amount.ext
  rw [toNat_saturatingSub, toNat_saturatingAdd]
  omega

end Amount

/-- The wording of an overflow. -/
def Overflow.message : Overflow → String
  | .add a b => "Cannot Add with " ++ a.toText ++ " and " ++ b.toText
  | .sub a b => "Cannot Sub with " ++ a.toText ++ " and " ++ b.toText

end Stablecoin
