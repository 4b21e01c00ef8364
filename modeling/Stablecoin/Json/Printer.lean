import Stablecoin.Json.Basic
import Stablecoin.Text.Decimal

set_option autoImplicit false

/-! # Compact JSON text

Values are written without any blank, fields in the order they have. Inside a string the quote,
the backslash and the control characters are escaped, and nothing else. -/

namespace Stablecoin.Json

/-- The written form of one character of a string. -/
def escapeChar (c : Char) : List Char :=
  match c with
  | '"' => ['\\', '"']
  | '\\' => ['\\', '\\']
  | '\n' => ['\\', 'n']
  | '\r' => ['\\', 'r']
  | '\t' => ['\\', 't']
  | '\x08' => ['\\', 'b']
  | '\x0c' => ['\\', 'f']
  | c =>
    if c.toNat < 0x20 then
      ['\\', 'u', '0', '0', Nat.digitChar (c.toNat / 16), Nat.digitChar (c.toNat % 16)]
    else [c]

/-- A string in quotes. -/
def quote (s : String) : String :=
  String.ofList ('"' :: s.toList.flatMap escapeChar ++ ['"'])

mutual

/-- The compact text of a value. -/
def print : Json → String
  | .null => "null"
  | .bool true => "true"
  | .bool false => "false"
  | .int n => Decimal.writeInt n
  | .decimal text => text
  | .str s => quote s
  | .arr items => "[" ++ ",".intercalate (printItems items) ++ "]"
  | .obj fields => "\x7b" ++ ",".intercalate (printFields fields) ++ "\x7d"

/-- The texts of the items of an array. -/
def printItems : List Json → List String
  | [] => []
  | j :: rest => print j :: printItems rest

/-- The texts of the fields of an object. -/
def printFields : List (String × Json) → List String
  | [] => []
  | (k, j) :: rest => (quote k ++ ":" ++ print j) :: printFields rest

end

end Stablecoin.Json
