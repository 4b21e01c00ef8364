import Stablecoin.Amount
import Stablecoin.Json.Basic
import Stablecoin.Table

set_option autoImplicit false

/-! # Strict decoding

Messages are decoded strictly: an object may hold none but the fields of its type, and every field
that is not optional must be there with a value of its type. An optional field may be missing or
`null`. Two types are open, balances and notices of receipt: there, fields that are not known are
passed over, but they may not nest without bound. -/

namespace Stablecoin.Json

/-! ## Scalars -/

/-- A boolean. -/
def bool? : Json → Option Bool
  | .bool b => some b
  | _ => none

/-- A string. -/
def str? : Json → Option String
  | .str s => some s
  | _ => none

/-- An integer from zero to below a bound. -/
def natBelow? (bound : Nat) : Json → Option Nat
  | .int (.ofNat n) => if n < bound then some n else none
  | _ => none

/-- An integer that fits into 8 bits. -/
def word8? (j : Json) : Option UInt8 := (natBelow? UInt8.size j).map UInt8.ofNat

/-- An integer that fits into 32 bits. -/
def word32? (j : Json) : Option UInt32 := (natBelow? UInt32.size j).map UInt32.ofNat

/-- An integer that fits into 64 bits. -/
def word64? (j : Json) : Option UInt64 := (natBelow? UInt64.size j).map UInt64.ofNat

/-- An integer that fits into 64 bits with a sign. -/
def signed64? : Json → Option Int64
  | .int n => if Int64.minValue.toInt ≤ n ∧ n ≤ Int64.maxValue.toInt then some (.ofInt n) else none
  | _ => none

/-- An amount, which stands in a string. -/
def amount? : Json → Option Amount
  | .str s => Amount.ofText? s
  | _ => none

/-- An amount as JSON. -/
def amount (a : Amount) : Json := .str a.toText

@[simp] theorem str?_str (s : String) : str? (.str s) = some s := rfl

@[simp] theorem bool?_bool (b : Bool) : bool? (.bool b) = some b := rfl

@[simp] theorem amount?_amount (a : Amount) : amount? (amount a) = some a := by
  simp [amount?, amount]

theorem natBelow?_nat {bound n : Nat} (h : n < bound) : natBelow? bound (nat n) = some n :=
  if_pos h

@[simp] theorem word8?_word8 (w : UInt8) : word8? (word8 w) = some w := by
  simp [word8?, word8, natBelow?_nat w.toNat_lt_size]

@[simp] theorem word32?_word32 (w : UInt32) : word32? (word32 w) = some w := by
  simp [word32?, word32, natBelow?_nat w.toNat_lt_size]

@[simp] theorem word64?_word64 (w : UInt64) : word64? (word64 w) = some w := by
  simp [word64?, word64, natBelow?_nat w.toNat_lt_size]

@[simp] theorem signed64?_signed64 (w : Int64) : signed64? (signed64 w) = some w := by
  simp only [signed64?, signed64]
  rw [if_pos ⟨w.minValue_le_toInt, w.toInt_le⟩, Int64.ofInt_toInt]

/-! ## Depth

What is passed over has to be walked through, and a reader goes only so deep. The types themselves
are flat, so where no field is passed over the bound does not show. -/

mutual

/-- How deep arrays and objects are nested in a value. -/
def depth : Json → Nat
  | .arr items => itemsDepth items + 1
  | .obj fields => fieldsDepth fields + 1
  | _ => 0

/-- The depth of the deepest item. -/
def itemsDepth : List Json → Nat
  | [] => 0
  | j :: rest => max (depth j) (itemsDepth rest)

/-- The depth of the deepest field. -/
def fieldsDepth : List (String × Json) → Nat
  | [] => 0
  | (_, j) :: rest => max (depth j) (fieldsDepth rest)

end

/-- The depth to which a value is read. -/
def maxDepth : Nat := 127

/-- The value, unless it is nested too deeply to be read. -/
def shallow? (j : Json) : Option Json :=
  if j.depth ≤ maxDepth then some j else none

theorem shallow?_of_depth {j : Json} (h : Nat.ble j.depth maxDepth = true) : shallow? j = some j :=
  if_pos (Nat.le_of_ble_eq_true h)

/-! ## Records -/

/-- The fields of an object that has no field outside `known`. -/
def fields? (known : List String) : Json → Option (List (String × Json))
  | .obj fields => if fields.all (fun f => f.1 ∈ known) then some fields else none
  | _ => none

/-- The fields of an object, known or not. -/
def openFields? : Json → Option (List (String × Json))
  | .obj fields => some fields
  | _ => none

/-- The field of that name, which must be there. -/
def required {α : Type} (fields : List (String × Json)) (name : String) (decode : Json → Option α) :
    Option α :=
  (Table.lookup name fields).bind decode

/-- The field of that name, which may be missing or `null`. -/
def optional {α : Type} (fields : List (String × Json)) (name : String) (decode : Json → Option α) :
    Option (Option α) :=
  match Table.lookup name fields with
  | none => some none
  | some .null => some none
  | some value => (decode value).map some

/-- The key and the value of an object with a single field. -/
def variant? : Json → Option (String × Json)
  | .obj [field] => some field
  | _ => none

/-- An object without fields. -/
def unit? (j : Json) : Option Unit :=
  (fields? [] j).map fun _ => ()

theorem fields?_of_keys {known : List String} {fields : List (String × Json)}
    (h : fields.map Prod.fst = known) : fields? known (.obj fields) = some fields := by
  subst h
  refine if_pos (List.all_eq_true.2 fun f hf => ?_)
  exact decide_eq_true (List.mem_map_of_mem hf)

/-- A field that is there is decoded. -/
theorem required_of_lookup {α : Type} {fields : List (String × Json)} {name : String} {value : Json}
    {decode : Json → Option α} {a : α} (h : Table.lookup name fields = some value)
    (hd : decode value = some a) : required fields name decode = some a := by
  simp only [required, h, Option.bind_some, hd]

/-- An optional text that is there, if only as `null`, is decoded. -/
theorem optional_of_lookup {fields : List (String × Json)} {name : String} {x : Option String}
    (h : Table.lookup name fields = some (.option .str x)) :
    optional fields name str? = some x := by
  cases x <;> simp only [optional, h, option, str?_str, Option.map_some]

/-- What is read goes on to the rest of the reading. -/
theorem then_of_read {α β : Type} {read : Option α} {rest : α → Option β} {a : α} {b : β}
    (h : read = some a) (hr : rest a = some b) : (read >>= rest) = some b := by
  rw [h]
  exact hr

@[simp] theorem variant?_tagged (tag : String) (fields : List (String × Json)) :
    variant? (tagged tag fields) = some (tag, .obj fields) := rfl

end Stablecoin.Json
