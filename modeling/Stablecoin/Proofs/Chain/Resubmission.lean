import Stablecoin.Proofs.Account.Resubmission
import Stablecoin.Proofs.Chain.Fee
import Stablecoin.Proofs.Chain.Progress
import Stablecoin.Proofs.Chain.SideBySide
import Stablecoin.Proofs.Chain.View

set_option autoImplicit false

/-! # Parameters that are set to what they are

The borrower of an account may set its risk parameters to what they are. That puts the fee on record
and does nothing else, but a fraction of a unit is not put on record. So it changes no answer of
anybody on the chain, then or later, if the fee since the record before is a whole amount, and else
it can take one unit from the debt that is reported later (`resubmission_unseen`).

The proof runs two chains side by side, which are alike but for the account (`Alike`): on the second
one it has more of the fee on record. As long as both report the same fee (`Level`), all contracts
see the same, and so every call does the same on both (`level_simulation`). -/

namespace Stablecoin

open Account

variable {σ : Type} [Outside σ]

deriving instance DecidableEq for RiskConfig

/-! ## Accounts that report the same fee -/

/-- At one address stand accounts that report the same fee, and elsewhere the same contracts. -/
inductive Level (home : Address) (now : Seconds) : Address → Contract σ → Contract σ → Prop where
  | account {a a' : Account} (trails : TrailsAt now a a') :
      Level home now home (.account a) (.account a')
  | other {b : Address} (k : Contract σ) (hb : b ≠ home) : Level home now b k k

namespace Level

variable {home b : Address} {now : Seconds} {env : Env} {k k' : Contract σ}

omit [Outside σ] in
theorem inStep_ofAccount {x x' : Except Account.Error (Account × Response)}
    (h : InStep (fun x x' => TrailsAt now x.1 x'.1 ∧ x'.2 = x.2) x x') :
    InStep (fun x x' => Level home now home x.1 x'.1 ∧ x'.2 = x.2)
      (Contract.ofAccount x : Except Contract.Error (Contract σ × Response))
      (Contract.ofAccount x') := by
  refine (h.mapError Contract.Error.account).map ?_
  rintro _ _ ⟨trails, same⟩
  exact ⟨.account trails, same⟩

theorem inStep_execute (h : Level home env.now b k k') (sender : Address) (funds : List Coin)
    (message : Json) :
    InStep (fun x x' => Level home env.now b x.1 x'.1 ∧ x'.2 = x.2)
      (k.execute env sender funds message) (k'.execute env sender funds message) := by
  cases h with
  | account trails => exact .bind_same fun m => inStep_ofAccount trails.execute
  | other k hb => exact .same _ fun x => ⟨.other x.1 hb, rfl⟩

theorem inStep_reply (h : Level home env.now b k k') (id : Nat) :
    InStep (fun x x' => Level home env.now b x.1 x'.1 ∧ x'.2 = x.2) (k.reply env id)
      (k'.reply env id) := by
  cases h with
  | account trails => exact inStep_ofAccount (trails.reply id)
  | other k hb => exact .same _ fun x => ⟨.other x.1 hb, rfl⟩

theorem query_eq (h : Level home env.now b k k') (q : Json) : k'.query env q = k.query env q := by
  cases h with
  | account trails => simp only [Contract.query, trails.query_eq]
  | other k hb => rfl

end Level

namespace Chain

variable {c c' : Chain σ} {home sender b : Address} {a a' : Account} {call : Call}

/-- All contracts see the same on both chains. -/
theorem mirrors_of_level (h : SideBySide (Level home) c c') : Mirrors c c' where
  now := h.now
  balance := h.balance_eq
  contract? b := by
    refine (h.contract? b).imp_right ?_
    rintro ⟨k, k', stands, stands', level⟩
    exact ⟨k, k', stands, stands', fun env q hnow => (hnow ▸ level).query_eq q⟩

/-- So they do the same, and still report the same fee. -/
theorem level_simulation : Simulation (Level home : Seconds → Address → Contract σ → _ → Prop) where
  execute {c c' b k k'} h level sender funds message := by
    have level : Level home (c.env b).now b k k' := level
    rw [(mirrors_of_level h).env_eq]
    exact level.inStep_execute sender funds message
  reply {c c' b k k'} h level id := by
    have level : Level home (c.env b).now b k k' := level
    rw [(mirrors_of_level h).env_eq]
    exact level.inStep_reply id

/-- Two chains are alike but for the time and the account at an address. -/
structure Alike (home : Address) (R : Account → Account → Prop) (c c' : Chain σ) : Prop where
  bank : c'.bank = c.bank
  others {b : Address} : b ≠ home → c'.contract? b = c.contract? b
  account : ∃ a a', c.contract? home = some (.account a) ∧
    c'.contract? home = some (.account a') ∧ R a a'

/-! ## Resubmissions -/

/-- The borrower of an account sets its risk parameters to what they are. -/
structure Resubmits (home : Address) (a : Account) (t : Transaction) : Prop where
  sender : t.sender = a.config.borrower
  message : ∃ message, t.action = .execute home message [] ∧
    Account.Message.ofJson? message = some (.configure a.risk)

variable {t : Transaction}

/-- If that goes through, the fee is on record, and nothing else has changed. -/
theorem after_of_resubmits (stands : c.contract? home = some (.account a))
    (h : Resubmits home a t) : c.after t = c.atTime t.time ∨
      ∃ fee, a.position.feeAt a.risk.spreadFee t.time = .ok fee ∧
        c.after t = (c.atTime t.time).put home (.account (a.onRecord fee t.time)) := by
  obtain ⟨message, haction, decoded⟩ := h.message
  rcases runs_or_eq_of_after c t with hruns | ⟨hafter, -⟩
  · right
    rw [Transaction.call, haction] at hruns
    generalize c.traceOf t = tr, c.after t = d at hruns ⊢
    cases hruns with
    | step performs runs =>
      cases performs with
      | @execute _ _ _ _ _ _ _ r found paid entered =>
        cases paid
        cases (show (c.atTime t.time).contract? home = _ from stands).symm.trans found
        obtain ⟨m, a', decoded', step, rfl⟩ := Contract.step_of_execute_account entered
        cases decoded.symm.trans decoded'
        generalize r.outgoing = out at step runs
        cases step with
        | configure authorized bounded fee =>
          cases runs
          exact ⟨_, fee, rfl⟩
  · exact .inl hafter

/-- It does go through if the fee can be reckoned with. -/
theorem after_of_resubmits_of_feeAt {fee : Amount} (stands : c.contract? home = some (.account a))
    (h : Resubmits home a t) (checked : a.risk.check = .ok ())
    (hfee : a.position.feeAt a.risk.spreadFee t.time = .ok fee) :
    c.after t = (c.atTime t.time).put home (.account (a.onRecord fee t.time)) := by
  obtain ⟨message, haction, decoded⟩ := h.message
  have hdue : a.position.feeAt a.risk.spreadFee ((c.atTime t.time).env home).now = .ok fee := hfee
  obtain ⟨r, done, quiet⟩ := exists_resubmit checked hdue
  have entered : (Contract.account a : Contract σ).execute ((c.atTime t.time).env home) t.sender []
      message = .ok (.account (a.onRecord fee t.time), r) := by
    rw [Contract.execute_account decoded, h.sender, done]
    rfl
  have hperforms : Performs (c.atTime t.time) t.call
      ((c.atTime t.time).put home (.account (a.onRecord fee t.time)))
      (callsOf home r.outgoing) := by
    rw [Transaction.call, haction]
    exact .execute stands rfl entered
  rw [quiet] at hperforms
  have hend : run (callLimit - 1) ((c.atTime t.time).put home (.account (a.onRecord fee t.time)))
      ([] ++ []) = .ok (_, []) := rfl
  obtain ⟨records, hrun⟩ := run_of_performs hperforms hend
  have htransact : (c.atTime t.time).transact t.call
      = .ok ((c.atTime t.time).put home (.account (a.onRecord fee t.time)), records) := hrun
  rw [after, htransact]

/-! ## Runs with resubmissions -/

/-- Transactions, and the same ones with resubmissions among them, each at a time at which the fee
    since the record before is a whole amount. The chain is the one that they meet in the latter. -/
inductive Interspersed (home : Address) : Chain σ → List Transaction → List Transaction → Prop where
  | nil {c : Chain σ} : Interspersed home c [] []
  | kept {c : Chain σ} {t : Transaction} {ts ts' : List Transaction}
      (rest : Interspersed home (c.after t) ts ts') : Interspersed home c (t :: ts) (t :: ts')
  | resubmitted {c : Chain σ} {a : Account} {t : Transaction} {ts ts' : List Transaction}
      (stands : c.contract? home = some (.account a)) (resubmits : Resubmits home a t)
      (whole : a.WholeFee t.time.toNat) (rest : Interspersed home (c.after t) ts ts') :
      Interspersed home c ts (t :: ts')

omit [Outside σ] in
/-- The fee at a time is an amount. -/
def FeeFits (c : Chain σ) (home : Address) (now : Seconds) : Prop :=
  ∀ a ∈ c.account? home, a.feeOwed now.toNat < Amount.size

instance (c : Chain σ) (home : Address) (now : Seconds) : Decidable (c.FeeFits home now) :=
  inferInstanceAs (Decidable (∀ a ∈ c.account? home, _))

/-- It is one at the time of each transaction, and at a time after them. -/
def FeesFit (home : Address) : Chain σ → List Transaction → Seconds → Prop
  | c, [], now => c.FeeFits home now
  | c, t :: ts, now => c.FeeFits home t.time ∧ FeesFit home (c.after t) ts now

instance decidableFeesFit (home : Address) : (c : Chain σ) → (ts : List Transaction) →
    (now : Seconds) → Decidable (FeesFit home c ts now)
  | c, [], now => inferInstanceAs (Decidable (c.FeeFits home now))
  | c, t :: ts, now =>
    have := decidableFeesFit home (c.after t) ts now
    inferInstanceAs (Decidable (c.FeeFits home t.time ∧ FeesFit home (c.after t) ts now))

/-- The account on the second chain trails the one on the first, and its time has come. -/
def Follows (home : Address) (c c' : Chain σ) : Prop :=
  Alike home (fun a a' => Trails a a' ∧ a'.position.checkpoint ≤ c'.now) c c'

namespace Follows

omit [Outside σ] in
/-- At the same time the two report the same fee. -/
theorem level {now : Seconds} (h : Follows home c c') (later : c'.now ≤ now)
    (fits : c.FeeFits home now) : SideBySide (Level home) (c.atTime now) (c'.atTime now) := by
  obtain ⟨bank, others, a, a', stands, stands', trails, since⟩ := h
  refine ⟨rfl, bank, fun b => ?_⟩
  by_cases hb : b = home
  · subst hb
    refine .inr ⟨_, _, stands, stands', .account ⟨trails, UInt64.le_trans since later, ?_⟩⟩
    exact ⟨⟨a.feeOwed now.toNat, fits a (account?_eq_some_iff.2 stands)⟩,
      (feeAt_eq_ok_iff_feeOwed trails.checked).2 rfl⟩
  · show (c.contract? b = none ∧ c'.contract? b = none) ∨ ∃ k k', c.contract? b = some k ∧
      c'.contract? b = some k' ∧ Level home now b k k'
    rw [others hb]
    cases c.contract? b with
    | none => exact .inl ⟨rfl, rfl⟩
    | some k => exact .inr ⟨k, k, rfl, rfl, .other k hb⟩

omit [Outside σ] in
/-- And where the two do, the one follows the other. -/
theorem of_level (h : SideBySide (Level home) c c') (stands : (c.account? home).isSome) :
    Follows home c c' := by
  obtain ⟨a, ha⟩ := Option.isSome_iff_exists.1 stands
  have standsHere := account?_eq_some_iff.1 ha
  refine ⟨h.bank, fun {b} hb => ?_, ?_⟩
  · rcases h.contract? b with ⟨none, none'⟩ | ⟨k, k', found, found', level⟩
    · rw [none, none']
    · cases level with
      | account trails => exact absurd rfl hb
      | other k hb => rw [found, found']
  · rcases h.contract? home with ⟨none, -⟩ | ⟨k, k', found, found', level⟩
    · rw [none] at standsHere
      cases standsHere
    · cases level with
      | account trails => exact ⟨_, _, found, found', trails.toTrails, h.now ▸ trails.later⟩
      | other k hb => exact absurd rfl hb

/-- A transaction that both carry out. -/
theorem after (h : Follows home c c') (later : c'.now ≤ t.time) (fits : c.FeeFits home t.time) :
    Follows home (c.after t) (c'.after t) := by
  obtain ⟨-, -, a, -, stands, -⟩ := id h
  have hkept : ((c.after t).account? home).isSome := by
    refine after_keeps (K := fun c => (c.account? home).isSome) ?_ (fun _ hc => hc) ?_ t
    · intro d d' call next performs hd
      obtain ⟨b, hb⟩ := Option.isSome_iff_exists.1 hd
      obtain ⟨b', hb', -⟩ := touches_of_performs hb performs
      rw [hb']
      rfl
    · rw [account?_eq_some_iff.2 stands]
      rfl
  exact of_level ((h.level later fits).after level_simulation) hkept

/-- A resubmission that only the second one carries out. -/
theorem resubmitted (h : Follows home c c') (later : c'.now ≤ t.time)
    (stands : c'.contract? home = some (.account a')) (resubmits : Resubmits home a' t)
    (whole : a'.WholeFee t.time.toNat) : Follows home c (c'.after t) := by
  obtain ⟨bank, others, a, b, stands₁, stands₂, trails, since⟩ := h
  cases stands.symm.trans stands₂
  have hlater := UInt64.le_trans since later
  rcases after_of_resubmits stands resubmits with hafter | ⟨fee, hfee, hafter⟩
  · rw [hafter]
    exact ⟨bank, others, a, a', stands₁, stands, trails, hlater⟩
  · rw [hafter]
    refine ⟨bank, fun {b} hb => ?_, a, _, stands₁, contract?_put_self _ _ _,
      trails.onRecord hlater hfee whole, UInt64.le_refl _⟩
    rw [contract?_put_of_ne _ _ hb.symm]
    exact others hb

/-- So the two answer the same after transactions with such resubmissions among them. -/
theorem query_eq {ts ts' : List Transaction} {now : Seconds} (h : Follows home c c')
    (interspersed : Interspersed home c' ts ts') (fits : FeesFit home c ts now)
    (ordered : (c'.now :: ts'.map Transaction.time ++ [now]).Pairwise (· ≤ ·)) (b : Address)
    (q : Json) :
    ((c'.afterAll ts').atTime now).query b q = ((c.afterAll ts).atTime now).query b q := by
  rw [List.cons_append] at ordered
  induction interspersed generalizing c with
  | nil =>
    have hlevel := h.level (List.rel_of_pairwise_cons ordered (List.mem_singleton_self _)) fits
    exact (mirrors_of_level hlevel).query_eq b q
  | kept rest ih =>
    obtain ⟨hfirst, hrest⟩ := List.pairwise_cons.1 ordered
    have hlater := hfirst _ (List.mem_cons_self ..)
    refine ih (h.after hlater fits.1) fits.2 ?_
    rw [now_after]
    exact hrest
  | resubmitted stands resubmits whole rest ih =>
    obtain ⟨hfirst, hrest⟩ := List.pairwise_cons.1 ordered
    have hlater := hfirst _ (List.mem_cons_self ..)
    refine ih (h.resubmitted hlater stands resubmits whole) fits ?_
    rw [now_after]
    exact hrest

end Follows

/-- The debt that an account on a chain reports. -/
theorem query_debt_eq_ok_iff {d : Amount} {q : Json} (stands : c.contract? home = some (.account a))
    (decoded : Account.Query.ofJson? q = some .debt) (checked : a.risk.check = .ok ()) :
    c.query home q = .ok (.amount d)
      ↔ d.toNat = a.position.borrowed.toNat + a.feeOwed c.now.toNat := by
  have hdebt : a.query (c.env home) .debt = .ok (.amount d)
      ↔ d.toNat = a.position.borrowed.toNat + a.feeOwed c.now.toNat :=
    Account.query_debt_eq_ok_iff checked
  rw [← hdebt]
  simp only [query, stands, Contract.query, decoded, mapError_eq_ok_iff, bind_eq_ok_iff, liftM,
    Contract.monadLift_eq_ok_iff, orMalformed_eq_ok_iff]
  simp

/-- Resubmitting the parameters of an account, at any times among any transactions, changes no
    answer of anybody on the chain, if the fee since the record before is a whole amount at each of
    these times. A resubmission at any other time takes the unit from the debt that is reported
    later that the two parts of the fee, before and after it, would have come to together, and no
    more. -/
theorem resubmission_unseen (stands : c.contract? home = some (.account a))
    (checked : a.risk.check = .ok ()) (since : a.position.checkpoint ≤ c.now) :
    (∀ ts ts' now, Interspersed home c ts ts' →
      (c.now :: ts'.map Transaction.time ++ [now]).Pairwise (· ≤ ·) → FeesFit home c ts now →
      ∀ b q, ((c.afterAll ts').atTime now).query b q = ((c.afterAll ts).atTime now).query b q) ∧
    ∀ t now d q, Resubmits home a t → c.now ≤ t.time → t.time ≤ now →
      Account.Query.ofJson? q = some .debt →
      (c.atTime now).query home q = .ok (.amount d) →
      ∃ d', ((c.after t).atTime now).query home q = .ok (.amount d') ∧
        d.toNat = d'.toNat + a.feeLost t.time.toNat now.toNat := by
  constructor
  · intro ts ts' now interspersed ordered fits b q
    have hfollows : Follows home c c :=
      ⟨rfl, fun _ => rfl, a, a, stands, stands, .refl checked, since⟩
    exact hfollows.query_eq interspersed fits ordered b q
  · intro t now d q resubmits earlier later decoded answered
    have stands₁ : (c.atTime now).contract? home = some (.account a) := stands
    have hdebt : d.toNat = a.position.borrowed.toNat + a.feeOwed now.toNat :=
      (query_debt_eq_ok_iff stands₁ decoded checked).1 answered
    have hlt := d.isLt
    have hlater := UInt64.le_iff_toNat_le.1 later
    have hearlier := UInt64.le_iff_toNat_le.1 (UInt64.le_trans since earlier)
    -- the fee at the resubmission is an amount because the later one is
    obtain ⟨fee, hfee⟩ : ∃ fee : Amount, fee.toNat = a.feeOwed t.time.toNat :=
      ⟨⟨a.feeOwed t.time.toNat, by have := a.feeOwed_mono hlater; omega⟩, rfl⟩
    have hrecorded := feeOwed_onRecord hfee hearlier hlater
    have hafter := after_of_resubmits_of_feeAt stands resubmits checked
      ((feeAt_eq_ok_iff_feeOwed checked).2 hfee)
    have stands₂ : ((c.after t).atTime now).contract? home
        = some (.account (a.onRecord fee t.time)) := by
      rw [hafter]
      exact contract?_put_self (c.atTime t.time) _ _
    refine ⟨⟨a.position.borrowed.toNat + (a.onRecord fee t.time).feeOwed now.toNat, by omega⟩,
      (query_debt_eq_ok_iff stands₂ decoded checked).2 rfl, ?_⟩
    show d.toNat = a.position.borrowed.toNat + (a.onRecord fee t.time).feeOwed now.toNat + _
    omega

/-! ## Resubmissions on a small chain -/

/-- The risk parameters of the account on `feeChain`, once more. -/
def resubmission (time : Seconds) : Transaction :=
  ⟨time, "borrower", .execute "account"
    (.obj [("configure", (feeRisk 30000 (.ofNat 10000000000)).toJson)]) []⟩

/-- The account has drawn some stablecoin, at a rate of 3 percent. -/
def indebtedChain (amount : Amount) : Chain Collaborator :=
  feeChain.afterAll
    [⟨0, "owner", order "ledger" "add_minter"
        [("minter", .str "account"), ("max_amount", .amount (.ofNat 10000000000))]⟩,
      ⟨0, "borrower", order "account" "borrow" [("amount", .amount amount)]⟩]

/-- It has the parameters that are to be resubmitted. -/
def Resubmittable (c : Chain Collaborator) : Prop :=
  (c.account? "account").isSome ∧ ∀ a ∈ c.account? "account",
    a.config.borrower = "borrower" ∧ a.risk = feeRisk 30000 (.ofNat 10000000000)

instance (c : Chain Collaborator) : Decidable (Resubmittable c) :=
  inferInstanceAs (Decidable (_ ∧ _))

theorem Resubmittable.exists_resubmits {c : Chain Collaborator} (h : Resubmittable c) :
    ∃ a, c.account? "account" = some a ∧ c.contract? "account" = some (.account a) ∧
      a.risk = feeRisk 30000 (.ofNat 10000000000) ∧
      ∀ time, Resubmits "account" a (resubmission time) := by
  obtain ⟨hsome, hsame⟩ := h
  obtain ⟨a, ha⟩ := Option.isSome_iff_exists.1 hsome
  obtain ⟨hborrower, hrisk⟩ := hsame a ha
  refine ⟨a, ha, account?_eq_some_iff.1 ha, hrisk, fun time => ⟨hborrower.symm, _, rfl, ?_⟩⟩
  rw [hrisk]
  rfl

/-- The fee is one unit for each second, so that it is a whole amount at all times. -/
def wholeChain : Chain Collaborator :=
  indebtedChain (.ofNat 1051200000)

/-- The fee is a little less than one unit for each second. -/
def fractionalChain : Chain Collaborator :=
  indebtedChain (.ofNat 1000000000)

def payment : Transaction :=
  ⟨50, "borrower", order "account" "pay_fee" []⟩

theorem Interspersed.resubmission {c : Chain Collaborator} {time : Seconds}
    {ts ts' : List Transaction} (h : Resubmittable c)
    (whole : ∀ a ∈ c.account? "account", a.WholeFee time.toNat)
    (rest : Interspersed "account" (c.after (resubmission time)) ts ts') :
    Interspersed "account" c ts (Chain.resubmission time :: ts') := by
  obtain ⟨a, ha, stands, -, resubmits⟩ := h.exists_resubmits
  exact .resubmitted stands (resubmits time) (whole a ha) rest

/-- Resubmissions before and after the fee is paid cannot be seen where they find the fee whole.
    Where they do not, one after the first second takes away the fee of two. -/
theorem resubmission_unseen_of_indebtedChain :
    (∀ q, ((wholeChain.afterAll [resubmission 10, resubmission 20, payment, resubmission 60]).atTime
        100).query "account" q = ((wholeChain.afterAll [payment]).atTime 100).query "account" q) ∧
      (fractionalChain.atTime 2).query "account" (.tagged "debt" [])
        = .ok (.amount (.ofNat 1000000001)) ∧
      ((fractionalChain.after (resubmission 1)).atTime 2).query "account" (.tagged "debt" [])
        = .ok (.amount (.ofNat 1000000000)) := by
  have hrisk : (feeRisk 30000 (.ofNat 10000000000)).check = .ok () := by rfl
  constructor
  · have hstart : Resubmittable wholeChain ∧ ∀ a ∈ wholeChain.account? "account",
        a.position.checkpoint ≤ wholeChain.now := by
      decide +kernel
    obtain ⟨resubmittable, since⟩ := hstart
    obtain ⟨a, ha, stands, same, -⟩ := resubmittable.exists_resubmits
    have interspersed : Interspersed "account" wholeChain [payment]
        [resubmission 10, resubmission 20, payment, resubmission 60] :=
      .resubmission (by decide +kernel) (by decide +kernel) <|
        .resubmission (by decide +kernel) (by decide +kernel) <|
        .kept <| .resubmission (by decide +kernel) (by decide +kernel) .nil
    have fits : FeesFit "account" wholeChain [payment] 100 := by decide +kernel
    obtain ⟨unseen, -⟩ := resubmission_unseen stands (same ▸ hrisk) (since a ha)
    exact unseen _ _ 100 interspersed (by decide +kernel) fits "account"
  · have hstart : Resubmittable fractionalChain ∧ ∀ a ∈ fractionalChain.account? "account",
        a.position.checkpoint ≤ fractionalChain.now ∧
          1000000001 = a.position.borrowed.toNat + a.feeOwed 2 ∧ a.feeLost 1 2 = 1 := by
      decide +kernel
    obtain ⟨resubmittable, hstate⟩ := hstart
    obtain ⟨a, ha, stands, same, resubmits⟩ := resubmittable.exists_resubmits
    obtain ⟨since, howed, hlost⟩ := hstate a ha
    have stands₁ : (fractionalChain.atTime 2).contract? "account" = some (.account a) := stands
    have answered : (fractionalChain.atTime 2).query "account" (.tagged "debt" [])
        = .ok (.amount (.ofNat 1000000001)) :=
      (query_debt_eq_ok_iff stands₁ rfl (same ▸ hrisk)).2 howed
    obtain ⟨-, lost⟩ := resubmission_unseen stands (same ▸ hrisk) since
    obtain ⟨d, hd, hless⟩ := lost (resubmission 1) 2 _ _ (resubmits 1) (by decide +kernel)
      (by decide) rfl answered
    rw [show (resubmission 1).time.toNat = 1 from rfl, show (2 : Seconds).toNat = 2 from rfl,
      hlost] at hless
    have hleft : d = .ofNat 1000000000 := Amount.ext (Nat.add_right_cancel (m := 1) hless).symm
    rw [hleft] at hd
    exact ⟨answered, hd⟩

end Chain

end Stablecoin
