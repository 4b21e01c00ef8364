import Stablecoin.Amount
import Stablecoin.Text.Graphic

set_option autoImplicit false

/-! # Descriptions

The one-line form in which a record appears in an attribute: the name of its type, then its fields
in order with their names, as in `Name { field: value, other: value }`. -/

namespace Stablecoin.Describe

/-- A code point in hexadecimal between braces. -/
def codePoint (c : Char) : List Char :=
  '\\' :: 'u' :: '\x7b' :: (Nat.toDigits 16 c.toNat ++ ['\x7d'])

/-- A character inside a quoted string. -/
def char : Char → List Char
  | '\x00' => ['\\', '0']
  | '\t' => ['\\', 't']
  | '\r' => ['\\', 'r']
  | '\n' => ['\\', 'n']
  | '"' => ['\\', '"']
  | '\\' => ['\\', '\\']
  | c => if Text.isGraphic c then [c] else codePoint c

/-- A string in quotes. -/
def string (s : String) : String :=
  String.ofList ('"' :: s.toList.flatMap char ++ ['"'])

/-- A truth value. -/
def bool (b : Bool) : String :=
  if b then "true" else "false"

/-- A number of 32 bits. -/
def word32 (w : UInt32) : String := Decimal.write w.toNat

/-- A number of 64 bits. -/
def word64 (w : UInt64) : String := Decimal.write w.toNat

/-- A number of 64 bits with a sign. -/
def signed64 (w : Int64) : String := Decimal.writeInt w.toInt

/-- An amount. -/
def amount (a : Amount) : String := "Uint128(" ++ a.toText ++ ")"

/-- An address. -/
def address (a : String) : String := "Addr(" ++ string a ++ ")"

/-- An optional value. -/
def option {α : Type} (describe : α → String) : Option α → String
  | none => "None"
  | some a => "Some(" ++ describe a ++ ")"

/-- A record with the described fields. -/
def record (name : String) (fields : List (String × String)) : String :=
  name ++ " \x7b " ++ ", ".intercalate (fields.map fun f => f.1 ++ ": " ++ f.2) ++ " \x7d"

end Stablecoin.Describe
