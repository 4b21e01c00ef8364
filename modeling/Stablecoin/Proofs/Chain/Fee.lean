import Stablecoin.Proofs.Account.Fee
import Stablecoin.Proofs.Chain.Debt
import Stablecoin.Proofs.Chain.Events

set_option autoImplicit false

/-! # The fee along a run

The tab of an account is read off the events of a run: it is opened anew where the fee is paid or
forfeited, and a segment ends where debt or rate change (`readTab`). From the setup of an account
on, what the account reports at any time is what its tab comes to (`fee_reported`). -/

namespace Stablecoin.Chain

open Account

variable {σ : Type}

/-- The message that an event hands to an account, if it does. -/
def Event.message? (e : Event σ) (self : Address) : Option Account.Message :=
  match e.call with
  | .execute _ contract message _ =>
    if contract = self then Account.Message.ofJson? message else none
  | _ => none

theorem Event.message?_of_entered_ne {e : Event σ} {self : Address}
    (h : e.call.entered ≠ some self) : e.message? self = none := by
  unfold message?
  split
  · rename_i sender contract message funds hcall
    rw [hcall] at h
    exact if_neg fun heq => h (congrArg some heq)
  · rfl

theorem Event.message?_execute (c c₁ : Chain σ) (sender self : Address) (message : Json)
    (funds : List Coin) (cause : Option (Deed σ)) :
    (⟨⟨⟨c, .execute sender self message funds⟩, c₁⟩, cause⟩ : Event σ).message? self
      = Account.Message.ofJson? message :=
  if_pos rfl

/-- The tab of an account after an event. -/
def readTab (self : Address) (t : Tab) (e : Event σ) : Tab :=
  match e.message? self, e.after.account? self with
  | some m, some a => t.after m a e.chain.now
  | _, _ => t

/-- The tab of an account after events. -/
def tabAfter (self : Address) (t : Tab) (es : List (Event σ)) : Tab :=
  es.foldl (readTab self) t

theorem tabAfter_concat (self : Address) (t : Tab) (es : List (Event σ)) (e : Event σ) :
    tabAfter self t (es ++ [e]) = readTab self (tabAfter self t es) e := by
  simp [tabAfter]

/-- Wherever the event changes debt or rate, the account reports the same fee right before it and
    right after it. -/
def Event.KeepsFee (e : Event σ) (self : Address) : Prop :=
  ∀ m, e.message? self = some m → m.cutsFee = true → ∃ a a' fee,
    e.chain.account? self = some a ∧ e.after.account? self = some a' ∧
    a.position.feeAt a.risk.spreadFee e.chain.now = .ok fee ∧
    a'.position.feeAt a'.risk.spreadFee e.chain.now = .ok fee

/-- Account and tab agree after some events, and every event has kept the fee. -/
structure BilledAfter (home : Address) (t : Tab) (c : Chain σ) (past : List (Event σ)) : Prop where
  billed : ∃ a, c.account? home = some a ∧ Billed a (tabAfter home t past)
  later : (tabAfter home t past).since ≤ c.now
  kept : ∀ e ∈ past, e.KeepsFee home

variable {c c₁ : Chain σ} {self : Address} {t : Tab} {past : List (Event σ)} {call : Call}
  {cause : Option (Deed σ)} {next : List Call}

theorem BilledAfter.atTime (h : BilledAfter self t c past) {now : Seconds} (later : c.now ≤ now) :
    BilledAfter self t (c.atTime now) past :=
  ⟨h.billed, UInt64.le_trans h.later later, h.kept⟩

/-- An event that hands the account no message leaves its tab as it is. -/
theorem BilledAfter.concat_quiet {e : Event σ} {a a' : Account} (h : BilledAfter self t c past)
    (ha : c.account? self = some a) (ha' : c₁.account? self = some a') (hnow : c₁.now = c.now)
    (quiet : e.message? self = none) (same : SameFee a a') :
    BilledAfter self t c₁ (past ++ [e]) := by
  have htab : tabAfter self t (past ++ [e]) = tabAfter self t past := by
    rw [tabAfter_concat, readTab, quiet]
  obtain ⟨b, hb, hbilled⟩ := h.billed
  rw [ha] at hb
  cases hb
  refine ⟨⟨a', ha', ?_⟩, ?_, ?_⟩
  · rw [htab]
    exact hbilled.congr same
  · rw [htab, hnow]
    exact h.later
  · intro e' hmem
    rcases List.mem_append.1 hmem with hmem | hmem
    · exact h.kept e' hmem
    · rw [List.mem_singleton.1 hmem]
      intro m hm
      rw [quiet] at hm
      cases hm

variable [Outside σ]

/-- Every call keeps account and tab in agreement. -/
theorem BilledAfter.performs (h : BilledAfter self t c past) (hp : Performs c call c₁ next) :
    BilledAfter self t c₁ (past ++ [⟨⟨⟨c, call⟩, c₁⟩, cause⟩]) := by
  obtain ⟨a, ha, hbilled⟩ := h.billed
  obtain ⟨a', ha', htouches⟩ := touches_of_performs ha hp
  have hnow := hp.now_eq
  cases htouches with
  | @execute sender message funds c₂ m _ out paid decoded step =>
    have hmessage : (Event.mk ⟨⟨c, .execute sender self message funds⟩, c₂.put self (.account a')⟩
        cause).message? self = some m := by
      rw [← decoded]
      exact if_pos rfl
    have henv : (c₂.env self).now = c.now := (frame_of_payAll paid).2
    have hstep := step.billed hbilled (henv ▸ h.later)
    have hkept := step.feeAt_of_cutsFee hbilled.checked
    rw [henv] at hstep hkept
    have htab : tabAfter self t (past ++ [⟨⟨⟨c, .execute sender self message funds⟩,
        c₂.put self (.account a')⟩, cause⟩]) = (tabAfter self t past).after m a' c.now := by
      rw [tabAfter_concat, readTab, hmessage, ha']
    refine ⟨⟨a', ha', ?_⟩, ?_, ?_⟩
    · rw [htab]
      exact hstep
    · rw [htab, hnow]
      exact Tab.since_after_le h.later
    · intro e hmem
      rcases List.mem_append.1 hmem with hmem | hmem
      · exact h.kept e hmem
      · rw [List.mem_singleton.1 hmem]
        intro m' hm' hcuts
        cases hmessage.symm.trans hm'
        obtain ⟨fee, hbefore, hafter⟩ := hkept hcuts
        exact ⟨a, a', fee, ha, ha', hbefore, hafter⟩
  | reply hears => exact h.concat_quiet ha ha' hnow rfl hears.sameFee
  | elsewhere other foreign =>
    exact h.concat_quiet ha ha' hnow (Event.message?_of_entered_ne other) ⟨rfl, rfl, rfl, rfl⟩

/-! ## Runs -/

theorem BilledAfter.after (h : BilledAfter self t c past) {x : Transaction}
    (later : c.now ≤ x.time) : BilledAfter self t (c.after x) (past ++ c.eventsOf x) :=
  eventsOf_induction (P := fun c _ past => BilledAfter self t c past)
    (fun hp h => h.performs hp) (h.atTime later) (h.atTime later)

theorem BilledAfter.afterAll {ts : List Transaction} (h : BilledAfter self t c past)
    (ordered : (c.now :: ts.map Transaction.time).Pairwise (· ≤ ·)) :
    BilledAfter self t (c.afterAll ts) (past ++ c.eventsAll ts) := by
  induction ts generalizing c past with
  | nil =>
    rw [eventsAll, List.append_nil]
    exact h
  | cons x rest ih =>
    rw [List.map_cons, List.pairwise_cons] at ordered
    obtain ⟨hfirst, hrest⟩ := ordered
    have hx := h.after (hfirst x.time (by simp))
    have hlater := ih hx (by rw [now_after]; exact hrest)
    rw [List.append_assoc] at hlater
    exact hlater

/-- The tab of an account that stands on a chain, after transactions. -/
def tabOf (c : Chain σ) (self : Address) (a : Account) (ts : List Transaction) : Tab :=
  tabAfter self (.opened a c.now) (c.eventsAll ts)

/-- The spread fee over a whole run, from the setup of an account on: at any time the account
    reports the sum of the charges of all segments since the fee was last paid or forfeited,
    provided that this is an amount. The sum does not exceed the exact fee, and falls short of it by
    less than one unit for each segment and one for each year. Nothing that changes the debt or the
    rate changes the fee reported at its own time. -/
theorem fee_reported {env : Env} {s : Setup} {a₀ : Account} {r : Response} {ts : List Transaction}
    {now : Seconds} (born : Account.setUp env s = .ok (a₀, r)) (start : env.now = c.now)
    (stands : c.account? self = some a₀)
    (ordered : (c.now :: ts.map Transaction.time ++ [now]).Pairwise (· ≤ ·)) :
    ∃ a t ss, (c.afterAll ts).account? self = some a ∧ t = c.tabOf self a₀ ts ∧
      ss = t.segments now ∧ a.position.borrowed = t.debt ∧ a.risk.spreadFee = t.rate ∧
      t.reset.toNat + lengthSum ss = now.toNat ∧
      (∀ fee, a.position.feeAt a.risk.spreadFee now = .ok fee ↔ fee.toNat = chargeSum ss) ∧
      chargeSum ss * (precision * secondsPerYear) ≤ exactSum ss ∧
      exactSum ss < chargeSum ss * (precision * secondsPerYear)
        + ss.length * (precision * secondsPerYear) + lengthSum ss * precision ∧
      ∀ e ∈ c.eventsAll ts, e.KeepsFee self := by
  obtain ⟨htimes, -, hnow⟩ := List.pairwise_append.1 ordered
  have hstart : BilledAfter self (.opened a₀ c.now) c [] := by
    have hbilled := billed_of_setUp born
    rw [start] at hbilled
    exact ⟨⟨a₀, stands, hbilled⟩, UInt64.le_refl _, fun e he => by cases he⟩
  have hend := hstart.afterAll htimes
  rw [List.nil_append] at hend
  obtain ⟨a, ha, hbilled⟩ := hend.billed
  have hlater : (c.tabOf self a₀ ts).since ≤ now :=
    UInt64.le_trans hend.later (hnow _ (now_afterAll_mem c ts) now (List.mem_singleton_self _))
  exact ⟨a, _, _, ha, rfl, rfl, hbilled.debt, hbilled.rate, hbilled.lengthSum_segments hlater,
    fun fee => hbilled.feeAt_eq_ok_iff, chargeSum_mul_le _, exactSum_lt (Tab.segments_ne_nil _ _),
    hend.kept⟩

/-- Risk parameters that matter for the fee alone. -/
def feeRisk (spreadFee : Ratio) (maxBorrow : Amount) : RiskConfig :=
  { RiskConfig.zero with spreadFee, maxBorrow }

/-- An account at a rate of 3 percent. -/
def feeSetup : Setup where
  name := "account"
  ledger := "ledger"
  borrower := "borrower"
  backend := "backend"
  venue := "venue"
  quoteDenom := "uquote"
  risk := some (feeRisk 30000 (.ofNat 10000000000))

def feeAccount : Account :=
  { sampleAccount 0 0 0 with risk := feeRisk 30000 (.ofNat 10000000000) }

def feeChain : Chain Collaborator :=
  sampleChain newLedger feeAccount .empty .empty

/-- The account borrows, pays the fee after half a year, and borrows more; then the rate is doubled,
    a draw fails, and some of the debt is repaid. -/
def feeRun : List Transaction :=
  [⟨0, "owner", order "ledger" "add_minter"
      [("minter", .str "account"), ("max_amount", .amount (.ofNat 10000000000))]⟩,
    ⟨0, "borrower", order "account" "borrow" [("amount", .amount (.ofNat 1000000000))]⟩,
    ⟨15768000, "borrower", order "account" "pay_fee" []⟩,
    ⟨15768010, "borrower", order "account" "borrow" [("amount", .amount (.ofNat 500000001))]⟩,
    ⟨20000000, "borrower", .execute "account"
      (.obj [("configure", (feeRisk 60000 (.ofNat 2000000000)).toJson)]) []⟩,
    ⟨20000000, "borrower", order "account" "borrow" [("amount", .amount (.ofNat 1000000000))]⟩,
    ⟨30000000, "borrower", order "account" "repay" [("amount", .amount (.ofNat 300000000))]⟩]

/-- Four segments are charged 9, 6038798, 28538812 and 22831050, which is 2 less than the exact fee
    rounded down. -/
theorem fee_reported_of_feeRun :
    ∃ a, (feeChain.afterAll feeRun).account? "account" = some a ∧
      a.position.feeAt a.risk.spreadFee 40000000 = .ok (.ofNat 57408669) ∧
      exactSum ((feeChain.tabOf "account" feeAccount feeRun).segments 40000000)
        / (precision * secondsPerYear) = 57408671 := by
  have born : ∃ r, Account.setUp (feeChain.env "account") feeSetup = .ok (feeAccount, r) :=
    ⟨_, rfl⟩
  obtain ⟨r, born⟩ := born
  have stands : feeChain.account? "account" = some feeAccount := rfl
  have ordered : (feeChain.now :: feeRun.map Transaction.time ++ [40000000]).Pairwise (· ≤ ·) := by
    decide +kernel
  obtain ⟨a, t, ss, ha, ht, hss, -, -, -, hfee, -⟩ := fee_reported born rfl stands ordered
  have hcharged : (Amount.ofNat 57408669).toNat = chargeSum ss := by
    rw [hss, ht]
    decide +kernel
  have hreported := (hfee _).2 hcharged
  exact ⟨a, ha, hreported, by decide +kernel⟩

end Stablecoin.Chain
