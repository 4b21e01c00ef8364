import Stablecoin.Proofs.Ledger.Faults
import Stablecoin.Proofs.Ledger.Refusals

set_option autoImplicit false

/-! # The table of a mint

A mint makes ten checks one after the other, and whoever asks for one is told the first that fails.
`mintRefusals` is this as a table: its rows are in the order of precedence, and each says whether it
applies and with what error. The program decides as the table does (`mint_decided`): a row for each
step that can fail (`decides_step`). That there are no more rows is because a ledger is sound: no
balance is greater than the supply, so that a sum that is no amount shows in the supply. -/

namespace Stablecoin

variable {ε α β : Type} {rest : List (Option ε)} {Q : β → Prop}

/-- A row of a table of refusals. -/
def refuse (p : Prop) [Decidable p] (e : ε) : Option ε :=
  if p then some e else none

theorem refuse_eq_some_iff {p : Prop} [Decidable p] {e e' : ε} :
    refuse p e = some e' ↔ p ∧ e = e' := by
  unfold refuse
  split <;> simp_all

theorem refuse_eq_none_iff {p : Prop} [Decidable p] {e : ε} : refuse p e = none ↔ ¬ p := by
  unfold refuse
  split <;> simp_all

/-- The first row that applies. -/
def firstRefusal (rows : List (Option ε)) : Option ε :=
  rows.findSome? id

@[simp] theorem firstRefusal_nil : firstRefusal ([] : List (Option ε)) = none := rfl

@[simp] theorem firstRefusal_some_cons (e : ε) : firstRefusal (some e :: rest) = some e := rfl

@[simp] theorem firstRefusal_none_cons : firstRefusal (none :: rest) = firstRefusal rest := rfl

/-- A table tells how a row of steps ends: with the error of the first row that applies, and, if
    none does, with a result of that kind. -/
def Decides (rows : List (Option ε)) (x : Except ε β) (Q : β → Prop) : Prop :=
  match firstRefusal rows with
  | some e => x = .error e
  | none => ∃ b, x = .ok b ∧ Q b

/-- A step that can fail, and the row that stands for it. -/
theorem decides_step {row : Option ε} {x : Except ε α} {f : α → Except ε β}
    (refused : ∀ e, row = some e → x = .error e)
    (passed : row = none → ∃ a, x = .ok a ∧ Decides rest (f a) Q) :
    Decides (row :: rest) (x >>= f) Q := by
  cases row with
  | some e =>
    rw [refused e rfl]
    exact rfl
  | none =>
    obtain ⟨a, hx, hrest⟩ := passed rfl
    rw [hx]
    exact hrest

/-- A check, and the row for what it does not let pass. -/
theorem decides_check {p q : Prop} [Decidable p] [Decidable q] {e : ε} {f : Unit → Except ε β}
    (hpq : q ↔ ¬ p) (passed : p → Decides rest (f ()) Q) :
    Decides (refuse q e :: rest) (require p e >>= f) Q := by
  refine decides_step ?_ ?_
  · intro e' hrow
    obtain ⟨hq, rfl⟩ := refuse_eq_some_iff.1 hrow
    exact require_eq_error_iff.2 ⟨hpq.1 hq, rfl⟩
  · intro hrow
    have hp : p := Decidable.not_not.1 (mt hpq.2 (refuse_eq_none_iff.1 hrow))
    exact ⟨(), require_of e hp, passed hp⟩

theorem Decides.eq_error_iff {rows : List (Option ε)} {x : Except ε β} (h : Decides rows x Q)
    (e : ε) : x = .error e ↔ firstRefusal rows = some e := by
  unfold Decides at h
  split at h
  · rename_i e' hfirst
    simp [h, hfirst]
  · rename_i hfirst
    obtain ⟨b, hx, -⟩ := h
    simp [hx, hfirst]

theorem Decides.exists_ok {rows : List (Option ε)} {x : Except ε β} (h : Decides rows x Q)
    (hnone : firstRefusal rows = none) : ∃ b, x = .ok b ∧ Q b := by
  unfold Decides at h
  rw [hnone] at h
  exact h

namespace Ledger

/-! ## The table -/

/-- The row for a text that the chain rejects as an address. -/
def rejectedRow (text : String) : Option Error :=
  match Address.check text with
  | .error r => some (.fault (.invalidAddress r))
  | .ok _ => none

/-- The row for a market below the band: the ledger, if it is asked, answers that nobody may
    mint. -/
def gateRow (l : Ledger) (env : Env) : Option Error :=
  match l.query env .isMintAllowed with
  | .ok (.bool false) => some .mintNotAllowed
  | _ => none

/-- The row for a recipient that the policy, if there is one, does not admit. -/
def policyRow (c : Config) (env : Env) (recipient : Address) : Option Error :=
  match c.policy.map fun policy => Policy.askAllowed env.querier policy recipient with
  | some (.ok false) => some .transferNotAllowed
  | _ => none

/-- What refuses a mint, in the order of precedence. -/
def mintRefusals (l : Ledger) (env : Env) (sender : Address) (recipient : String)
    (amount : Amount) : List (Option Error) :=
  let minter := l.minter sender
  let balance := l.balances.get recipient
  [ refuse (¬ (minter.listed ∧ minter.enabled)) .invalidMinter,
    refuse l.config.paused .paused,
    refuse (Text.isBlank recipient) .zeroAddress,
    rejectedRow recipient,
    refuse (amount = 0) .zeroAmount,
    refuse (Amount.size ≤ minter.minted.toNat + amount.toNat)
      (.overflow (.add minter.minted amount)),
    refuse (minter.maxAmount.toNat < minter.minted.toNat + amount.toNat) .mintCapReached,
    l.gateRow env,
    policyRow l.config env recipient,
    -- the balance of the recipient is raised before the supply is
    refuse (Amount.size ≤ l.token.supply.toNat + amount.toNat)
      (.overflow (if Amount.size ≤ balance.toNat + amount.toNat then .add balance amount
        else .add l.token.supply amount)) ]

/-- `l'` is `l` after the sender has minted an amount to a recipient, and nothing else. -/
structure Mints (l : Ledger) (sender recipient : Address) (amount : Amount) (l' : Ledger) :
    Prop where
  minted : (l'.minter sender).minted.toNat = (l.minter sender).minted.toNat + amount.toNat
  balance : (l'.balances.get recipient).toNat = (l.balances.get recipient).toNat + amount.toNat
  supply : l'.token.supply.toNat = l.token.supply.toNat + amount.toNat
  minter : l'.minter sender = { l.minter sender with minted := (l'.minter sender).minted }
  minters (a : Address) : a ≠ sender → l'.minter a = l.minter a
  balances (a : Address) : a ≠ recipient → l'.balances.get a = l.balances.get a
  rest : l' = { l with
    minters := l'.minters
    balances := l'.balances
    token := { l.token with supply := l'.token.supply } }

/-! ## Steps and rows -/

variable {l : Ledger} {env : Env} {sender : Address} {amount : Amount}

theorem decides_validate {rest : List (Option Error)} {text : String} {f : Address → Except Error β}
    (passed : Address.check text = .ok text → Decides rest (f text) Q) :
    Decides (rejectedRow text :: rest) (liftM (Address.validate text) >>= f) Q := by
  unfold rejectedRow
  cases hcheck : Address.check text with
  | error r =>
    simp only [Address.validate, hcheck, mapError_error]
    exact rfl
  | ok a =>
    obtain ⟨rfl, -⟩ := Address.check_eq_ok_iff.1 hcheck
    simp only [Address.validate, hcheck, mapError_ok]
    exact passed hcheck

theorem decides_checkedAdd {rest : List (Option Error)} {a b : Amount} {f : Amount → Except Error β}
    (passed : ∀ c : Amount, c.toNat = a.toNat + b.toNat → Decides rest (f c) Q) :
    Decides (refuse (Amount.size ≤ a.toNat + b.toNat) (.overflow (.add a b)) :: rest)
      ((a.checkedAdd b).mapError Error.overflow >>= f) Q := by
  refine decides_step ?_ fun hrow => ?_
  · intro e hrow
    obtain ⟨hover, rfl⟩ := refuse_eq_some_iff.1 hrow
    rw [Amount.checkedAdd_eq_error_iff.2 ⟨rfl, hover⟩, mapError_error]
  · have hlt := Nat.lt_of_not_le (refuse_eq_none_iff.1 hrow)
    have hsum : a.checkedAdd b = .ok ⟨_, hlt⟩ := Amount.checkedAdd_eq_ok_iff.2 rfl
    rw [hsum, mapError_ok]
    exact ⟨_, rfl, passed _ rfl⟩

/-- The peg gate answers if the venue does. -/
theorem Config.Usable.exists_mintAllowed {c : Config} (h : c.Usable)
    (prices : ∀ venue ∈ c.venue, ∃ price, Venue.askPrice env.querier venue = .ok price) :
    ∃ gate, c.mintAllowed env = .ok gate := by
  cases hgate : c.mintAllowed env with
  | ok gate => exact ⟨gate, rfl⟩
  | error f =>
    obtain ⟨venue, hvenue, hfails⟩ := h.mintAllowed_eq_error_iff.1 hgate
    obtain ⟨price, hprice⟩ := prices venue hvenue
    rw [hprice] at hfails
    cases hfails

/-- Whoever asks the ledger is told what the gate says. -/
theorem query_isMintAllowed {gate : Bool} (hgate : l.config.mintAllowed env = .ok gate) :
    l.query env .isMintAllowed = .ok (.bool gate) := by
  simp only [query, hgate, ok_bind]
  rfl

theorem decides_mintAllowed {rest : List (Option Error)} {gate : Bool} {f : Unit → Except Error β}
    (hgate : l.config.mintAllowed env = .ok gate) (passed : Decides rest (f ()) Q) :
    Decides (l.gateRow env :: rest)
      (do
        let open? ← (liftM (l.config.mintAllowed env) : Except Error Bool)
        let u ← require (open? = true) Error.mintNotAllowed
        f u) Q := by
  simp only [gateRow, query_isMintAllowed hgate, hgate]
  cases gate with
  | false => exact rfl
  | true => exact passed

theorem decides_checkRecipient {rest : List (Option Error)} {c : Config} {a : Address}
    {f : Unit → Except Error β} (screens : ∀ policy ∈ c.policy, ∃ answer,
      Policy.askAllowed env.querier policy a = .ok answer)
    (passed : Decides rest (f ()) Q) :
    Decides (policyRow c env a :: rest) (checkRecipient c env a >>= f) Q := by
  unfold policyRow checkRecipient
  cases hpolicy : c.policy with
  | none => exact passed
  | some policy =>
    obtain ⟨answer, hanswer⟩ := screens policy hpolicy
    simp only [Option.map_some, hanswer]
    cases answer with
    | false => exact rfl
    | true => exact passed

/-- What is credited and added to the supply. The row is one for two sums: nobody has more than the
    supply, so a balance that would be out of range shows there. -/
theorem decides_issue {a : Address} {x : Response} (held : l.balances.get a ≤ l.token.supply)
    {Q : Ledger × Response → Prop}
    (issued : ∀ balance supply : Amount,
      balance.toNat = (l.balances.get a).toNat + amount.toNat →
      supply.toNat = l.token.supply.toNat + amount.toNat →
      Q ({ l with
        balances := l.balances.set a balance
        token := { l.token with supply } }, x)) :
    Decides [refuse (Amount.size ≤ l.token.supply.toNat + amount.toNat)
        (.overflow (if Amount.size ≤ (l.balances.get a).toNat + amount.toNat
          then .add (l.balances.get a) amount else .add l.token.supply amount))]
      (do
        let l₁ ← l.credit a amount
        let l₂ ← l₁.raiseSupply amount
        return (l₂, x)) Q := by
  rw [Amount.le_iff] at held
  by_cases hbalance : Amount.size ≤ (l.balances.get a).toNat + amount.toNat
  · have hsupply : Amount.size ≤ l.token.supply.toNat + amount.toNat := by omega
    simp only [refuse, if_pos hsupply, if_pos hbalance, credit,
      Amount.checkedAdd_eq_error_iff.2 ⟨rfl, hbalance⟩, mapError_error]
    exact rfl
  · obtain ⟨balance, hgrown⟩ : ∃ balance : Amount,
        balance.toNat = (l.balances.get a).toNat + amount.toNat :=
      ⟨⟨_, Nat.lt_of_not_le hbalance⟩, rfl⟩
    simp only [credit_eq_ok_iff.2 ⟨balance, hgrown, rfl⟩, ok_bind, if_neg hbalance, raiseSupply,
      bind_assoc]
    refine decides_checkedAdd fun supply hsupply => ?_
    exact ⟨_, rfl, issued balance supply hgrown hsupply⟩

theorem Mints.of_eq {recipient : Address} {minted balance supply : Amount}
    (counted : minted.toNat = (l.minter sender).minted.toNat + amount.toNat)
    (credited : balance.toNat = (l.balances.get recipient).toNat + amount.toNat)
    (raised : supply.toNat = l.token.supply.toNat + amount.toNat) :
    l.Mints sender recipient amount { l with
      minters := l.minters.insert sender { l.minter sender with minted }
      balances := l.balances.set recipient balance
      token := { l.token with supply } } where
  minted := by
    rw [minted_eq_of_insert rfl, if_pos rfl]
    exact counted
  balance := by
    rw [Holdings.get_set_self]
    exact credited
  supply := raised
  minter := by
    rw [minter_eq_of_insert rfl, if_pos rfl]
  minters a ha := by
    rw [minter_eq_of_insert rfl, if_neg ha.symm]
  balances a ha := Holdings.get_set_of_ne _ _ ha.symm
  rest := rfl

/-- A mint does what its table says. -/
theorem Sound.decides_mint (h : l.Sound) (usable : l.config.Usable) {recipient : String}
    (prices : ∀ venue ∈ l.config.venue, ∃ price, Venue.askPrice env.querier venue = .ok price)
    (screens : Address.Acceptable recipient → ∀ policy ∈ l.config.policy, ∃ answer,
      Policy.askAllowed env.querier policy recipient = .ok answer) :
    Decides (l.mintRefusals env sender recipient amount)
      (l.execute env sender (.mint recipient amount))
      fun r => l.Mints sender recipient amount r.1 ∧ r.2.outgoing = [] := by
  obtain ⟨gate, hgate⟩ := usable.exists_mintAllowed prices
  have held : l.balances.get recipient ≤ l.token.supply := by
    rw [Amount.le_iff, ← h.total]
    exact l.balances.get_le_total recipient
  simp only [execute, mint, mintRefusals, validAddress, bind_assoc]
  refine decides_check (by simp) fun registered => ?_
  refine decides_check (by simp) fun active => ?_
  refine decides_check (by simp) fun hblank => ?_
  refine decides_validate fun hcheck => ?_
  refine decides_check (by simp) fun positive => ?_
  refine decides_checkedAdd fun minted counted => ?_
  refine decides_check (by rw [Amount.le_iff, counted, Nat.not_le]) fun capped => ?_
  refine decides_mintAllowed hgate ?_
  have acceptable : Address.Acceptable recipient :=
    ⟨Bool.eq_false_iff.2 hblank, (Address.check_eq_ok_iff.1 hcheck).2⟩
  refine decides_checkRecipient (screens acceptable) ?_
  refine decides_issue (l := l.setMinter sender { l.minter sender with minted }) held ?_
  intro balance supply credited raised
  exact ⟨.of_eq counted credited raised, rfl⟩

/-! ## Every ledger -/

/-- A mint is decided by its table, in every ledger that can be reached, for every sender, recipient
    and amount, as long as the venue answers, and the policy does where the recipient is an address
    that it can be asked about. The ledger then answers, too, whether minting is allowed. The mint
    fails with an error just when that error is the one of the first row that applies. If no row
    applies it succeeds: the amount is added to what the sender has minted, to what the recipient
    has, and to the supply, nothing else changes, and nobody is told anything. -/
theorem mint_decided {l : Ledger} (h : l.Reachable) (env : Env) (sender : Address)
    (recipient : String) (amount : Amount)
    (prices : ∀ venue ∈ l.config.venue, ∃ price, Venue.askPrice env.querier venue = .ok price)
    (screens : Address.Acceptable recipient → ∀ policy ∈ l.config.policy, ∃ answer,
      Policy.askAllowed env.querier policy recipient = .ok answer) :
    (∃ gate, l.query env .isMintAllowed = .ok (.bool gate)) ∧
      (∀ e, l.execute env sender (.mint recipient amount) = .error e
        ↔ firstRefusal (l.mintRefusals env sender recipient amount) = some e) ∧
      (firstRefusal (l.mintRefusals env sender recipient amount) = none →
        ∃ l' r, l.execute env sender (.mint recipient amount) = .ok (l', r) ∧
          l.Mints sender recipient amount l' ∧ r.outgoing = []) := by
  have htable : Decides (l.mintRefusals env sender recipient amount) _ _ :=
    h.sound.decides_mint h.usable prices screens
  refine ⟨?_, htable.eq_error_iff, fun hnone => ?_⟩
  · obtain ⟨gate, hgate⟩ := h.usable.exists_mintAllowed prices
    exact ⟨gate, query_isMintAllowed hgate⟩
  · obtain ⟨⟨l', r⟩, hexec, hmints, hout⟩ := htable.exists_ok hnone
    exact ⟨l', r, hexec, hmints, hout⟩

/-- A venue with a price, beside the policy that refuses one address. -/
def pricedEnv (price : Amount) : Env :=
  { screenedEnv with
    querier := { screenedEnv.querier with
      ask := fun a q =>
        if a = "venue" then .ok (Venue.priceAnswer price) else screenedEnv.querier.ask a q } }

/-- A minter with room for 10 more. -/
def pricedRun : List Invocation :=
  [⟨pricedEnv (.ofNat 1000000), "owner", .addMinter "minter" (.ofNat 100)⟩,
    ⟨pricedEnv (.ofNat 1000000), "minter", .mint "minter" (.ofNat 90)⟩]

theorem mint_decided_of_pricedRun :
    ∃ l : Ledger, l.Reachable ∧ l.config.venue = some "venue" ∧ l.config.policy = some "policy" ∧
      (∃ l' r, l.execute (pricedEnv (.ofNat 1000000)) "minter" (.mint "alice" (.ofNat 10))
        = .ok (l', r) ∧ l.Mints "minter" "alice" (.ofNat 10) l') ∧
      l.execute (pricedEnv (.ofNat 1000000)) "minter" (.mint "mallory" (.ofNat 10))
        = .error .transferNotAllowed ∧
      l.execute (pricedEnv (.ofNat 999999)) "minter" (.mint "mallory" (.ofNat 10))
        = .error .mintNotAllowed ∧
      l.execute (pricedEnv (.ofNat 999999)) "minter" (.mint "mallory" (.ofNat 11))
        = .error .mintCapReached := by
  have hrun : ∃ l : Ledger, l.Reachable ∧ l.config.venue = some "venue" ∧
      l.config.policy = some "policy" ∧
      firstRefusal (l.mintRefusals (pricedEnv (.ofNat 1000000)) "minter" "alice" (.ofNat 10))
        = none ∧
      firstRefusal (l.mintRefusals (pricedEnv (.ofNat 1000000)) "minter" "mallory" (.ofNat 10))
        = some .transferNotAllowed ∧
      firstRefusal (l.mintRefusals (pricedEnv (.ofNat 999999)) "minter" "mallory" (.ofNat 10))
        = some .mintNotAllowed ∧
      firstRefusal (l.mintRefusals (pricedEnv (.ofNat 999999)) "minter" "mallory" (.ofNat 11))
        = some .mintCapReached :=
    ⟨_, ⟨pricedEnv (.ofNat 1000000), "owner",
      { plainSetup with policy := some "policy", venue := some "venue" }, _, _, pricedRun, rfl,
      rfl⟩, rfl, rfl, rfl, rfl, rfl, rfl⟩
  obtain ⟨l, hl, hvenue, hpolicy, hnone, hscreened, hshut, hcapped⟩ := hrun
  have prices (price : Amount) : ∀ venue ∈ l.config.venue,
      ∃ p, Venue.askPrice (pricedEnv price).querier venue = .ok p := by
    rintro venue hv
    obtain rfl : "venue" = venue := Option.some.inj (hvenue ▸ hv)
    exact ⟨price, orMalformed_eq_ok_iff.2 (Venue.priceAnswer?_priceAnswer price)⟩
  have screens (price : Amount) (a : Address) (answer : Bool)
      (ha : Policy.askAllowed (pricedEnv price).querier "policy" a = .ok answer) :
      ∀ policy ∈ l.config.policy, ∃ b, Policy.askAllowed (pricedEnv price).querier policy a
        = .ok b := by
    rintro policy hp
    obtain rfl : "policy" = policy := Option.some.inj (hpolicy ▸ hp)
    exact ⟨answer, ha⟩
  obtain ⟨-, -, hmints⟩ := mint_decided hl (pricedEnv (.ofNat 1000000)) "minter" "alice" (.ofNat 10)
    (prices _) fun _ => screens _ _ true rfl
  obtain ⟨l', r, hexec, hminted, -⟩ := hmints hnone
  have refused (price : Amount)
      (ha : Policy.askAllowed (pricedEnv price).querier "policy" "mallory" = .ok false)
      (amount : Amount) := (mint_decided hl (pricedEnv price) "minter" "mallory" amount
        (prices _) fun _ => screens _ _ false ha).2.1
  exact ⟨l, hl, hvenue, hpolicy, ⟨l', r, hexec, hminted⟩, (refused _ rfl _ _).2 hscreened,
    (refused _ rfl _ _).2 hshut, (refused _ rfl _ _).2 hcapped⟩

end Ledger

end Stablecoin
