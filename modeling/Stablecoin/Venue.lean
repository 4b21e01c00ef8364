import Stablecoin.Json.Printer
import Stablecoin.Ledger.Message

set_option autoImplicit false

/-! # Swap venues

How contracts speak with a venue that swaps stablecoin and quote currency, and what a venue
understands. The venue's price is the market price. -/

namespace Stablecoin.Venue

/-- What a venue can be told to do. -/
inductive Message where
  /-- Pays stablecoin for the attached quote currency. -/
  | swap (minAmountOut : Amount)
  /-- Pays quote currency for stablecoin that a ledger says has arrived from a sender. -/
  | receive (sender : String) (amount : Amount) (payload : List UInt8)

/-- The order to swap, with the least amount that is acceptable. -/
def swapJson (minAmountOut : Amount) : Json :=
  .tagged "swap" [("min_amount_out", .amount minAmountOut)]

/-- What a seller of stablecoin sends along with it: the text of the order. -/
def sellPayload (minAmountOut : Amount) : List UInt8 :=
  (swapJson minAmountOut).print.toUTF8.toList

/-- The notice that stablecoin has arrived. -/
def receiveJson (sender : Address) (amount : Amount) (payload : List UInt8) : Json :=
  .tagged "receive"
    [("sender", .str sender), ("amount", .amount amount), ("msg", Ledger.binary payload)]

/-- Reads a message. A notice of receipt may hold more than is read of it. -/
def Message.ofJson? (j : Json) : Option Message := do
  let (tag, body) ← (← j.shallow?).variant?
  match tag with
  | "swap" => do
    let r ← body.fields? ["min_amount_out"]
    return .swap (← Json.required r "min_amount_out" Json.amount?)
  | "receive" => do
    let r ← body.openFields?
    return .receive (← Json.required r "sender" Json.str?) (← Json.required r "amount" Json.amount?)
      (← Json.required r "msg" Ledger.binary?)
  | _ => none

@[simp] theorem Message.ofJson?_swapJson (minAmountOut : Amount) :
    Message.ofJson? (swapJson minAmountOut) = some (.swap minAmountOut) :=
  Json.then_of_read (Json.shallow?_of_depth rfl) <|
    Json.then_of_read (Json.variant?_tagged _ _) <| Json.then_of_read (Json.fields?_of_keys rfl) <|
    Json.then_of_read (Json.required_of_lookup rfl (Json.amount?_amount _)) rfl

@[simp] theorem Message.ofJson?_receiveJson (sender : Address) (amount : Amount)
    (payload : List UInt8) :
    Message.ofJson? (receiveJson sender amount payload) = some (.receive sender amount payload) :=
  Json.then_of_read (Json.shallow?_of_depth rfl) <|
    Json.then_of_read (Json.variant?_tagged _ _) <| Json.then_of_read rfl <|
    Json.then_of_read (Json.required_of_lookup rfl rfl) <|
    Json.then_of_read (Json.required_of_lookup rfl (Json.amount?_amount _)) <|
    Json.then_of_read (Json.required_of_lookup rfl (Ledger.binary?_binary _)) rfl

/-- The question for the price. -/
def priceQuery : Json := .tagged "price" []

/-- Whether a query asks for the price. -/
def isPriceQuery (j : Json) : Bool :=
  match j.variant? with
  | some ("price", body) => body.unit?.isSome
  | _ => false

/-- The answer to the question for the price. -/
def priceAnswer (price : Amount) : Json :=
  .obj [("price", .amount price)]

/-- Reads the answer to the question for the price. -/
def priceAnswer? (j : Json) : Option Amount := do
  let r ← j.fields? ["price"]
  Json.required r "price" Json.amount?

@[simp] theorem priceAnswer?_priceAnswer (price : Amount) :
    priceAnswer? (priceAnswer price) = some price :=
  Json.then_of_read (Json.fields?_of_keys rfl) <|
    Json.required_of_lookup rfl (Json.amount?_amount _)

/-- Asks a venue for its price: quote currency per stablecoin, in millionths. -/
def askPrice (q : Querier) (venue : Address) : Except Fault Amount :=
  q.askFor priceAnswer? venue priceQuery

end Stablecoin.Venue
