set_option autoImplicit false

/-! # JSON values

The data that contracts exchange: messages, queries and answers. A number that is written as a
plain integer and fits into 64 bits is an `int`; any other number keeps its text. An object is the
list of its fields. -/

namespace Stablecoin

/-- A JSON value. -/
inductive Json where
  | null
  | bool (b : Bool)
  | int (n : Int)
  | decimal (text : String)
  | str (s : String)
  | arr (items : List Json)
  | obj (fields : List (String × Json))
deriving Inhabited

namespace Json

/-- A natural number as JSON. -/
def nat (n : Nat) : Json := .int n

/-- A number of 8 bits as JSON. -/
def word8 (w : UInt8) : Json := .nat w.toNat

/-- A number of 32 bits as JSON. -/
def word32 (w : UInt32) : Json := .nat w.toNat

/-- A number of 64 bits as JSON. -/
def word64 (w : UInt64) : Json := .nat w.toNat

/-- A number of 64 bits with a sign as JSON. -/
def signed64 (w : Int64) : Json := .int w.toInt

/-- An optional value as JSON: `null` when absent. -/
def option {α : Type} (write : α → Json) : Option α → Json
  | none => .null
  | some a => write a

/-- Texts as JSON. -/
def texts (ts : List String) : Json := .arr (ts.map .str)

/-- An object with a single field: the form of a message, whose key names its kind. -/
def tagged (tag : String) (fields : List (String × Json)) : Json :=
  .obj [(tag, .obj fields)]

end Json

end Stablecoin
