import Stablecoin.Ledger.Query

set_option autoImplicit false

/-! # Speaking to a ledger

The messages that other contracts send to a ledger and the questions they ask it. The lemmas say
that a ledger reads each of them as what it means. -/

namespace Stablecoin.Ledger

/-! ## Messages -/

/-- Asks for a transfer from the sender. -/
def transferJson (recipient : Address) (amount : Amount) : Json :=
  .tagged "transfer" [("recipient", .str recipient), ("amount", .amount amount)]

/-- Asks for a transfer from an owner who allowed it. -/
def transferFromJson (owner recipient : Address) (amount : Amount) : Json :=
  .tagged "transfer_from"
    [("owner", .str owner), ("recipient", .str recipient), ("amount", .amount amount)]

/-- Asks for a transfer to a contract that is then told of it. -/
def sendJson (contract : Address) (amount : Amount) (payload : List UInt8) : Json :=
  .tagged "send"
    [("contract", .str contract), ("amount", .amount amount), ("msg", binary payload)]

/-- Asks for new stablecoin. -/
def mintJson (recipient : Address) (amount : Amount) : Json :=
  .tagged "minter_mint" [("recipient", .str recipient), ("amount", .amount amount)]

/-- Asks for stablecoin of the sender to be destroyed. -/
def burnJson (amount : Amount) : Json :=
  .tagged "minter_burn_from" [("amount", .amount amount)]

@[simp] theorem Message.ofJson?_transferJson (recipient : Address) (amount : Amount) :
    Message.ofJson? (transferJson recipient amount) = some (.transfer recipient amount) :=
  Json.then_of_read (Json.variant?_tagged _ _) <| Json.then_of_read (Json.fields?_of_keys rfl) <|
    Json.then_of_read (Json.required_of_lookup rfl rfl) <|
    Json.then_of_read (Json.required_of_lookup rfl (Json.amount?_amount _)) rfl

@[simp] theorem Message.ofJson?_transferFromJson (owner recipient : Address) (amount : Amount) :
    Message.ofJson? (transferFromJson owner recipient amount)
      = some (.transferFrom owner recipient amount) :=
  Json.then_of_read (Json.variant?_tagged _ _) <| Json.then_of_read (Json.fields?_of_keys rfl) <|
    Json.then_of_read (Json.required_of_lookup rfl rfl) <|
    Json.then_of_read (Json.required_of_lookup rfl rfl) <|
    Json.then_of_read (Json.required_of_lookup rfl (Json.amount?_amount _)) rfl

@[simp] theorem Message.ofJson?_sendJson (contract : Address) (amount : Amount)
    (payload : List UInt8) :
    Message.ofJson? (sendJson contract amount payload) = some (.send contract amount payload) :=
  Json.then_of_read (Json.variant?_tagged _ _) <| Json.then_of_read (Json.fields?_of_keys rfl) <|
    Json.then_of_read (Json.required_of_lookup rfl rfl) <|
    Json.then_of_read (Json.required_of_lookup rfl (Json.amount?_amount _)) <|
    Json.then_of_read (Json.required_of_lookup rfl (binary?_binary _)) rfl

@[simp] theorem Message.ofJson?_mintJson (recipient : Address) (amount : Amount) :
    Message.ofJson? (mintJson recipient amount) = some (.mint recipient amount) :=
  Json.then_of_read (Json.variant?_tagged _ _) <| Json.then_of_read (Json.fields?_of_keys rfl) <|
    Json.then_of_read (Json.required_of_lookup rfl rfl) <|
    Json.then_of_read (Json.required_of_lookup rfl (Json.amount?_amount _)) rfl

@[simp] theorem Message.ofJson?_burnJson (amount : Amount) :
    Message.ofJson? (burnJson amount) = some (.burn amount) :=
  Json.then_of_read (Json.variant?_tagged _ _) <| Json.then_of_read (Json.fields?_of_keys rfl) <|
    Json.then_of_read (Json.required_of_lookup rfl (Json.amount?_amount _)) rfl

/-! ## Questions -/

/-- The question for the configuration. -/
def configQuery : Json := .tagged "config" []

/-- The question for the target price. -/
def targetPriceQuery : Json := .tagged "target_price" []

/-- The question for a balance. -/
def balanceQuery (a : Address) : Json := .tagged "balance" [("address", .str a)]

@[simp] theorem Query.ofJson?_configQuery : Query.ofJson? configQuery = some .config := rfl

@[simp] theorem Query.ofJson?_targetPriceQuery :
    Query.ofJson? targetPriceQuery = some .targetPrice := rfl

@[simp] theorem Query.ofJson?_balanceQuery (a : Address) :
    Query.ofJson? (balanceQuery a) = some (.balance a) :=
  Json.then_of_read (Json.variant?_tagged _ _) <| Json.then_of_read (Json.fields?_of_keys rfl) <|
    Json.then_of_read (Json.required_of_lookup rfl rfl) rfl

/-- Asks a ledger for its configuration. -/
def askConfig (q : Querier) (ledger : Address) : Except Fault Config :=
  q.askFor Config.ofJson? ledger configQuery

/-- Asks a ledger for the target price. -/
def askTargetPrice (q : Querier) (ledger : Address) : Except Fault Amount :=
  q.askFor Json.amount? ledger targetPriceQuery

/-- Asks a ledger for a balance. -/
def askBalance (q : Querier) (ledger a : Address) : Except Fault Amount :=
  q.askFor balanceAnswer? ledger (balanceQuery a)

end Stablecoin.Ledger
