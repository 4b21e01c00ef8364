set_option autoImplicit false

/-! # Decimal text

Natural numbers and integers are written in decimal without leading zeros. Reading a natural
number wants at least one ASCII digit and nothing else, and allows leading zeros.
`Decimal.read?_write` says that what is written reads back. -/

namespace Stablecoin.Decimal

/-- The decimal digits of a natural number. -/
def write (n : Nat) : String :=
  String.ofList (Nat.toDigits 10 n)

/-- The decimal text of an integer, a minus sign in front of a negative one. -/
def writeInt : Int → String
  | .ofNat n => write n
  | .negSucc n => "-" ++ write (n + 1)

/-- The number that a non-empty run of ASCII digits denotes. -/
def ofDigits? (digits : List Char) : Option Nat :=
  if digits ≠ [] ∧ digits.all Char.isDigit then some (Nat.ofDigitChars 10 digits 0) else none

/-- Reads a natural number. -/
def read? (text : String) : Option Nat :=
  ofDigits? text.toList

theorem ofDigits?_toDigits (n : Nat) : ofDigits? (Nat.toDigits 10 n) = some n := by
  have digits : (Nat.toDigits 10 n).all Char.isDigit = true :=
    List.all_eq_true.2 fun _ hc => Nat.isDigit_of_mem_toDigits (by decide) (by decide) hc
  simp [ofDigits?, digits, Nat.ofDigitChars_toDigits, Nat.toDigits_ne_nil]

@[simp] theorem read?_write (n : Nat) : read? (write n) = some n := by
  simp [read?, write, ofDigits?_toDigits]

end Stablecoin.Decimal
