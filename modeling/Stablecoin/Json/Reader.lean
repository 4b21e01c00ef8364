import Stablecoin.Json.Basic
import Stablecoin.Text.Decimal

set_option autoImplicit false

/-! # Reading JSON text

`Json.read?` accepts exactly one JSON value with blanks around it. Of several fields with one key
the last one counts. Readers take the characters that are left and return what they read together
with the characters after it; nested values are bounded by the length of the text. -/

namespace Stablecoin.Json

/-- Skips the four blanks that JSON allows between tokens. -/
def skipBlanks (cs : List Char) : List Char :=
  cs.dropWhile fun c => c = ' ' || c = '\t' || c = '\n' || c = '\r'

/-! ## Strings -/

/-- The value of a hexadecimal digit. -/
def hexValue? (c : Char) : Option Nat :=
  if '0' ≤ c ∧ c ≤ '9' then some (c.toNat - '0'.toNat)
  else if 'a' ≤ c ∧ c ≤ 'f' then some (c.toNat - 'a'.toNat + 10)
  else if 'A' ≤ c ∧ c ≤ 'F' then some (c.toNat - 'A'.toNat + 10)
  else none

/-- The value of four hexadecimal digits. -/
def hexUnit? (a b c d : Char) : Option Nat := do
  return (((← hexValue? a) * 16 + (← hexValue? b)) * 16 + (← hexValue? c)) * 16 + (← hexValue? d)

/-- The character after a backslash that stands for one character. -/
def simpleEscape? : Char → Option Char
  | '"' => some '"'
  | '\\' => some '\\'
  | '/' => some '/'
  | 'b' => some '\x08'
  | 'f' => some '\x0c'
  | 'n' => some '\n'
  | 'r' => some '\r'
  | 't' => some '\t'
  | _ => none

/-- Reads up to the closing quote, as code points in which escaped surrogates stay apart. -/
def readUnits : List Char → Option (List Nat × List Char)
  | [] => none
  | '"' :: rest => some ([], rest)
  | '\\' :: 'u' :: a :: b :: c :: d :: rest => do
    let unit ← hexUnit? a b c d
    let (units, after) ← readUnits rest
    return (unit :: units, after)
  | '\\' :: e :: rest => do
    let c ← simpleEscape? e
    let (units, after) ← readUnits rest
    return (c.toNat :: units, after)
  | c :: rest =>
    if c.toNat < 0x20 then none else do
      let (units, after) ← readUnits rest
      return (c.toNat :: units, after)

/-- Joins each high surrogate with the low one after it; a surrogate alone has no character. -/
def joinSurrogates? : List Nat → Option (List Char)
  | [] => some []
  | [u] => if 0xd800 ≤ u ∧ u < 0xe000 then none else some [Char.ofNat u]
  | u :: v :: rest =>
    if 0xd800 ≤ u ∧ u < 0xdc00 then
      if 0xdc00 ≤ v ∧ v < 0xe000 then
        (joinSurrogates? rest).map (Char.ofNat (0x10000 + (u - 0xd800) * 0x400 + (v - 0xdc00)) :: ·)
      else none
    else if 0xdc00 ≤ u ∧ u < 0xe000 then none
    else (joinSurrogates? (v :: rest)).map (Char.ofNat u :: ·)

/-- Reads a string whose opening quote is gone. -/
def readString (cs : List Char) : Option (String × List Char) := do
  let (units, rest) ← readUnits cs
  return (String.ofList (← joinSurrogates? units), rest)

/-! ## Numbers -/

/-- An integer part: a zero alone, or digits that do not start with zero. -/
def isIntegerPart (digits : List Char) : Bool :=
  digits ≠ [] && (digits.head? ≠ some '0' || digits = ['0'])

/-- The longest fraction in front: a point and digits. `none` if digits are missing. -/
def takeFraction : List Char → Option (List Char × List Char)
  | '.' :: rest =>
    let digits := rest.takeWhile Char.isDigit
    if digits = [] then none else some ('.' :: digits, rest.dropWhile Char.isDigit)
  | rest => some ([], rest)

/-- The longest exponent in front: `e`, a sign or none, and digits. `none` if digits are missing. -/
def takeExponent : List Char → Option (List Char × List Char)
  | e :: rest =>
    if e = 'e' ∨ e = 'E' then
      let sign := rest.takeWhile (fun c => c = '+' ∨ c = '-')
      let body := rest.drop sign.length
      let digits := body.takeWhile Char.isDigit
      if digits = [] ∨ 1 < sign.length then none
      else some (e :: sign ++ digits, body.dropWhile Char.isDigit)
    else some ([], e :: rest)
  | [] => some ([], [])

/-- A number with 64 bits, with a sign or without, can hold the integer. -/
def fitsWord (n : Int) : Bool :=
  Int64.minValue.toInt ≤ n && n < UInt64.size

/-- Reads a number. A plain integer becomes an `int` if a word can hold it and it is not `-0`. Any
    other number becomes a `decimal` with its text, to which a plain integer adds a fraction. -/
def readNumber (cs : List Char) : Option (Json × List Char) := do
  let negative := cs.head? = some '-'
  let body := if negative then cs.tail else cs
  let digits := body.takeWhile Char.isDigit
  guard (isIntegerPart digits)
  let (fraction, rest) ← takeFraction (body.dropWhile Char.isDigit)
  let (exponent, rest) ← takeExponent rest
  let size := Nat.ofDigitChars 10 digits 0
  let n : Int := if negative then -size else size
  let plain := fraction = [] ∧ exponent = []
  if plain ∧ fitsWord n ∧ ¬ (negative ∧ size = 0) then return (.int n, rest)
  else
    let sign := if negative then ['-'] else []
    let fraction := if plain then ['.', '0'] else fraction
    return (.decimal (String.ofList (sign ++ digits ++ fraction ++ exponent)), rest)

/-! ## Values -/

/-- The word in front, if the text starts with it. -/
def readWord (word : String) (value : Json) (cs : List Char) : Option (Json × List Char) :=
  if word.toList.isPrefixOf cs then some (value, cs.drop word.length) else none

/-- Adds a field in front of those after it, unless one of them has its key. -/
def addField (key : String) (value : Json) (later : List (String × Json)) : List (String × Json) :=
  if later.any (fun f => f.1 = key) then later else (key, value) :: later

mutual

/-- Reads a value. -/
def readValue : Nat → List Char → Option (Json × List Char)
  | 0, _ => none
  | fuel + 1, cs =>
    match skipBlanks cs with
    | '"' :: rest => do
      let (s, rest) ← readString rest
      return (.str s, rest)
    | '[' :: rest =>
      match skipBlanks rest with
      | ']' :: rest => some (.arr [], rest)
      | rest => do
        let (items, rest) ← readItems fuel rest
        return (.arr items, rest)
    | '\x7b' :: rest =>
      match skipBlanks rest with
      | '\x7d' :: rest => some (.obj [], rest)
      | rest => do
        let (fields, rest) ← readFields fuel rest
        return (.obj fields, rest)
    | 'n' :: rest => readWord "null" .null ('n' :: rest)
    | 't' :: rest => readWord "true" (.bool true) ('t' :: rest)
    | 'f' :: rest => readWord "false" (.bool false) ('f' :: rest)
    | rest => readNumber rest

/-- Reads the items of an array up to the closing bracket. -/
def readItems : Nat → List Char → Option (List Json × List Char)
  | 0, _ => none
  | fuel + 1, cs => do
    let (item, rest) ← readValue fuel cs
    match skipBlanks rest with
    | ',' :: rest => do
      let (items, rest) ← readItems fuel rest
      return (item :: items, rest)
    | ']' :: rest => return ([item], rest)
    | _ => none

/-- Reads the fields of an object up to the closing brace. -/
def readFields : Nat → List Char → Option (List (String × Json) × List Char)
  | 0, _ => none
  | fuel + 1, cs =>
    match skipBlanks cs with
    | '"' :: rest => do
      let (key, rest) ← readString rest
      match skipBlanks rest with
      | ':' :: rest => do
        let (value, rest) ← readValue fuel rest
        match skipBlanks rest with
        | ',' :: rest => do
          let (fields, rest) ← readFields fuel rest
          return (addField key value fields, rest)
        | '\x7d' :: rest => return ([(key, value)], rest)
        | _ => none
      | _ => none
    | _ => none

end

/-- Reads a text that holds one value. -/
def read? (text : String) : Option Json :=
  match readValue (text.length + 1) text.toList with
  | some (value, rest) => if skipBlanks rest = [] then some value else none
  | none => none

end Stablecoin.Json
