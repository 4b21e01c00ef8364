import Stablecoin.Text.Blank
import Stablecoin.Text.Decimal
import Stablecoin.Text.Lowercase

set_option autoImplicit false

/-! # Addresses

An address is a text. The chain accepts one that a message names when its length is within bounds,
it is in lower case, and it holds no null character; senders are taken as they are.

What the chain compares a named text with is the lower case of it, cut to the largest length, less
its null characters. Lower case can be longer than the text, so the cut can go through a character;
what is left is then no text, and that is a rejection of its own. -/

namespace Stablecoin

/-- Where a contract or an owner of funds is found. -/
abbrev Address := String

namespace Address

/-- Why the chain does not accept an address. -/
inductive Rejection where
  | tooShort
  | tooLong
  | notNormalized
  /-- The cut goes through a character, after so many bytes. -/
  | cutThrough (bytes : Nat)
deriving DecidableEq

/-- The wording of a rejection. -/
def Rejection.message : Rejection → String
  | .tooShort =>
    "Generic error: Invalid input: human address too short for this mock implementation " ++
      "(must be >= 3)."
  | .tooLong =>
    "Generic error: Invalid input: human address too long for this mock implementation " ++
      "(must be <= 90)."
  | .notNormalized => "Generic error: Invalid input: address not normalized"
  | .cutThrough bytes =>
    "Cannot decode UTF8 bytes into string: incomplete utf-8 byte sequence from index " ++
      Decimal.write bytes

/-- A text in lower case without null characters. -/
def isNormal (text : String) : Bool :=
  Text.isLowercase text && !text.toList.contains '\x00'

/-- The largest length of an address in bytes. -/
def maxSize : Nat := 90

/-- The characters of a text in lower case, each as the bytes that it takes up to the cut and the
    bytes that are left of it when null characters are dropped. -/
def sizes (text : String) : List (Nat × Nat) :=
  text.toList.flatMap fun c =>
    if c = '\x00' then [(1, 0)] else (Text.lowercaseSizes c).map fun size => (size, size)

/-- How many bytes are left of the characters in front of the one that a cut goes through, if it
    goes through one. -/
def cut? (room : Nat) : List (Nat × Nat) → Option Nat
  | [] => none
  | (taken, left) :: rest =>
    if taken ≤ room then (cut? (room - taken) rest).map (left + ·)
    else if room = 0 then none
    else some 0

/-- Why a text of acceptable length that is not normal is rejected. -/
def rejection (text : String) : Rejection :=
  match cut? maxSize (sizes text) with
  | some bytes => .cutThrough bytes
  | none => .notNormalized

/-- Accepts three to ninety bytes of normal text. -/
def check (text : String) : Except Rejection Address :=
  if text.utf8ByteSize < 3 then .error .tooShort
  else if maxSize < text.utf8ByteSize then .error .tooLong
  else if isNormal text then .ok text
  else .error (rejection text)

/-- An accepted address is kept as it is. -/
theorem check_eq_ok_iff {text : String} {a : Address} :
    check text = .ok a ↔
      a = text ∧ 3 ≤ text.utf8ByteSize ∧ text.utf8ByteSize ≤ maxSize ∧ isNormal text = true := by
  unfold check
  split
  · simp; omega
  · split
    · simp; omega
    · split
      · rename_i h₁ h₂ h₃
        simp [eq_comm, h₃]; omega
      · rename_i h
        simp [h]

end Address

end Stablecoin
