import Stablecoin.Proofs.Chain.Failures
import Stablecoin.Proofs.Chain.Joint
import Stablecoin.Proofs.Ledger.Supply

set_option autoImplicit false

/-! # Amounts stay in range

Ledgers and accounts add, subtract and take ratios off a whole in places where they do not check
that the result is in range. On a chain on which all ledgers and accounts have come about by what
they do themselves (`Genuine`), whatever else stands there, none of these operations leaves its
range (`arithmetic_in_range`): not for a spread or a slippage, and not for one that was stored long
before it is used. -/

namespace Stablecoin

open Chain

variable {σ : Type}

/-- A ledger is one that can be reached, and so is an account. -/
def Contract.Genuine (k : Contract σ) : Prop :=
  match k with
  | .ledger l => l.Reachable
  | .account a => a.Reachable
  | _ => True

/-- All ledgers and accounts on the chain can be reached. -/
def Chain.Genuine (c : Chain σ) : Prop :=
  ∀ b k, c.contract? b = some k → k.Genuine

namespace Contract

variable [Outside σ] {k k' : Contract σ} {env : Env} {sender : Address} {message : Json}
  {r : Response} {f : Fault}

omit [Outside σ] in
theorem genuine_of_setUp (h : k.setUp env sender message = .ok (k', r)) : k'.Genuine := by
  cases k with
  | vacantLedger allowances =>
    simp only [setUp, bind_eq_ok_iff, liftM, monadLift_eq_ok_iff] at h
    obtain ⟨s, -, h⟩ := h
    obtain ⟨l, hl, rfl⟩ := ofLedger_eq_ok h
    exact ⟨env, sender, s, l, r, [], hl, rfl⟩
  | vacantAccount =>
    simp only [setUp, bind_eq_ok_iff, liftM, monadLift_eq_ok_iff] at h
    obtain ⟨s, -, h⟩ := h
    obtain ⟨a, ha, rfl⟩ := ofAccount_eq_ok h
    exact .setUp ha
  | vacantPolicy =>
    simp only [setUp, bind_eq_ok_iff, liftM, monadLift_eq_ok_iff, ofPolicy, map_eq_ok_iff] at h
    obtain ⟨s, -, p, -, ⟨⟩⟩ := h
    trivial
  | _ => cases h

theorem Genuine.execute (hk : k.Genuine) {funds : List Coin}
    (h : k.execute env sender funds message = .ok (k', r)) : k'.Genuine := by
  cases k with
  | ledger l =>
    simp only [Contract.execute, bind_eq_ok_iff, liftM, monadLift_eq_ok_iff] at h
    obtain ⟨m, -, h⟩ := h
    obtain ⟨l', hl', rfl⟩ := ofLedger_eq_ok h
    exact Ledger.Reachable.execute hk hl'
  | account a =>
    simp only [Contract.execute, bind_eq_ok_iff, liftM, monadLift_eq_ok_iff] at h
    obtain ⟨m, -, h⟩ := h
    obtain ⟨a', ha', rfl⟩ := ofAccount_eq_ok h
    exact .execute hk ha'
  | vacantLedger allowances =>
    simp only [Contract.execute, bind_eq_ok_iff, liftM, monadLift_eq_ok_iff, map_eq_ok_iff] at h
    obtain ⟨m, -, allowances', -, ⟨⟩⟩ := h
    trivial
  | policy p =>
    simp only [Contract.execute, bind_eq_ok_iff, liftM, monadLift_eq_ok_iff, ofPolicy,
      map_eq_ok_iff] at h
    obtain ⟨m, -, p', -, ⟨⟩⟩ := h
    trivial
  | outside s =>
    obtain ⟨s', -, rfl⟩ := ofOutside_eq_ok h
    trivial
  | _ =>
    simp only [Contract.execute, bind_eq_ok_iff, reduceCtorEq, and_false, exists_false] at h

theorem Genuine.reply (hk : k.Genuine) {id : Nat} (h : k.reply env id = .ok (k', r)) :
    k'.Genuine := by
  cases k with
  | account a =>
    obtain ⟨a', ha', rfl⟩ := ofAccount_eq_ok h
    exact .reply hk ha'
  | outside s =>
    rw [Contract.reply] at h
    split at h
    · obtain ⟨s', -, rfl⟩ := ofOutside_eq_ok h
      trivial
    · cases h
  | _ => cases h

omit [Outside σ] in
/-- What can be reached does not leave the range of amounts. -/
theorem Genuine.guarded (hk : k.Genuine) (reports : env.querier.Reports) :
    k.Guarded env .outOfRange := by
  cases k with
  | ledger l => exact ⟨Ledger.Reachable.usable hk, reports⟩
  | account a => exact ⟨reports, nofun, fun _ => Account.Reachable.bounded hk⟩
  | _ => trivial

end Contract

namespace Chain

variable {c c' : Chain σ}

theorem genuine_empty (now : Seconds) : (empty now : Chain σ).Genuine := nofun

theorem Genuine.put (h : c.Genuine) {k : Contract σ} (hk : k.Genuine) (b : Address) :
    (c.put b k).Genuine := by
  intro b' k' found
  by_cases hb : b = b'
  · subst hb
    rw [contract?_put_self] at found
    cases found
    exact hk
  · rw [contract?_put_of_ne c k hb] at found
    exact h b' k' found

theorem Genuine.congr (h : c.Genuine) (same : ∀ b, c'.contract? b = c.contract? b) :
    c'.Genuine := by
  intro b k found
  rw [same] at found
  exact h b k found

variable [Outside σ]

theorem Genuine.performs {call : Call} {next : List Call} (hp : Performs c call c' next)
    (h : c.Genuine) : c'.Genuine := by
  cases hp with
  | execute found paid entered =>
    exact (h.congr (contract?_of_payAll paid)).put ((h _ _ found).execute entered) _
  | reply found heard => exact h.put ((h _ _ found).reply heard) _
  | send paid => exact h.congr (contract?_of_payAll paid)

/-- Whatever is set up on a chain is genuine. -/
theorem Genuine.setUp (h : c.Genuine) {b sender : Address} {k : Contract σ} {message : Json}
    {record : Record} (hsetUp : c.setUp b k sender message = .ok (c', record)) : c'.Genuine := by
  obtain ⟨k₀, k', r, -, hrun, rfl, -⟩ := enter_eq_ok hsetUp
  have hput := h.put (Contract.genuine_of_setUp hrun) b
  rwa [put_put]

end Chain

/-! ## The narrowing of the equity ratio -/

namespace Account

/-- A ratio of what is left of a value to the value fits into 32 bits. -/
theorem toNat_narrowed {value debt equity wide : Amount} (hequity : value.minus debt = .ok equity)
    (hwide : mulDiv equity precision value.toNat = .ok wide) :
    (UInt32.ofNat wide.toNat).toNat = wide.toNat := by
  obtain ⟨-, hvalue⟩ := mulDiv_eq_ok_iff.1 hwide
  rw [Amount.minus_eq_ok_iff] at hequity
  apply toNat_ofNat_of_le_precision
  rw [hvalue]
  exact Nat.div_le_of_le_mul (Nat.mul_le_mul_right _ (by omega))

end Account

/-- No amount and no ratio leaves its range where the rules rely on it.

    A ledger that can be reached has a spread of at most one, and whatever it sees of the world, no
    message and no query takes it out of range; an account that can be reached has a slippage of at
    most one in store, if any, and no message, reply or query takes it out of range. The equity
    ratio can always be told, and its narrowing to 32 bits loses nothing.

    What a chain reports is all that these have to rely on. So on a genuine chain no contract of
    this library goes out of range in any transaction, after any others, nor when it is asked where
    a call is made. -/
theorem arithmetic_in_range :
    (∀ l : Ledger, l.Reachable → l.config.arbSpread.toNat ≤ precision ∧
      ∀ env : Env, env.querier.Reports →
        (∀ sender m, l.execute env sender m ≠ .error (.fault .outOfRange)) ∧
        ∀ q, l.query env q ≠ .error .outOfRange) ∧
      (∀ a : Account, a.Reachable → (∀ d ∈ a.divest, d.slippage.toNat ≤ precision) ∧
        ∀ env : Env, env.querier.Reports →
          (∀ sender m, a.execute env sender m ≠ .error (.fault .outOfRange)) ∧
          (∀ id, a.reply env id ≠ .error (.fault .outOfRange)) ∧
          ∀ q, a.query env q ≠ .error .outOfRange) ∧
      (∀ value debt : Amount, ∃ ratio, Account.equityRatio value debt = .ok ratio ∧
        ratio.toNat = Account.equityShare value.toNat debt.toNat ∧
        ∀ equity wide, value.minus debt = .ok equity →
          mulDiv equity precision value.toNat = .ok wide →
          (UInt32.ofNat wide.toNat).toNat = wide.toNat) ∧
      ∀ {σ : Type} [Outside σ] {c : Chain σ}, c.Genuine →
        (∀ depth, Querier.Reports ⟨c.ask depth, c.balance⟩) ∧
        ∀ ts t b,
          (∀ e, ((c.afterAll ts).atTime t.time).transact t.call = .error (.contract b e) →
            ¬ e.Shows .outOfRange) ∧
          ∀ m ∈ c.attempts ts t, ∀ q e, m.chain.query b q = .error (.contract b e) →
            ¬ e.Shows .outOfRange := by
  refine ⟨fun l hl => ⟨hl.usable.spread, fun env reports => ⟨fun sender m => ?_, fun q => ?_⟩⟩,
    fun a ha => ⟨ha.bounded, fun env reports => ?_⟩, fun value debt => ?_, ?_⟩
  · exact Ledger.avoids_execute .outOfRange hl.usable reports m
  · exact Ledger.avoids_query .outOfRange hl.usable reports q
  · have guarded : a.Guarded env .outOfRange := ⟨reports, nofun, fun _ => ha.bounded⟩
    exact ⟨fun sender m => Account.avoids_execute .outOfRange guarded m,
      fun id => Account.avoids_reply .outOfRange guarded id,
      fun q => Account.avoids_query .outOfRange guarded q⟩
  · obtain ⟨ratio, hratio, hshare⟩ := Account.exists_equityRatio value debt
    exact ⟨ratio, hratio, hshare, fun _ _ => Account.toNat_narrowed⟩
  · intro σ _ c hc
    refine ⟨c.reports_ask, fun ts t b => ⟨fun e hfails => ?_, fun m hm q e hfails => ?_⟩⟩
    · exact transact_not_shows Genuine.performs (fun _ h => h.congr fun _ => rfl)
        (fun h same found => ((h.congr same) _ _ found).guarded (reports_querier _))
        .outOfRange hc hfails
    · have hmoment := attempts_keep Genuine.performs (fun _ h => h.congr fun _ => rfl) hc hm
      exact query_not_shows (K := Genuine)
        (fun h same found => ((h.congr same) _ _ found).guarded (reports_querier _))
        .outOfRange hmoment hfails

/-- A ledger and an account on it, both set up on a chain where there was nothing before. -/
def foundedChain : Except Chain.Error (Chain Collaborator) := do
  let (c, _) ← (Chain.empty 0).setUp "ledger" (.vacantLedger .empty) "owner"
    (.obj [("name", .str "Stable"), ("symbol", .str "STB"), ("decimals", .word8 6),
      ("arb_spread", .word32 5000)])
  let (c, _) ← c.setUp "account" .vacantAccount "borrower"
    (.obj [("name", .str "account"), ("sweep", .str "ledger"), ("borrower", .str "borrower"),
      ("yield_backend", .str "backend"), ("amm", .str "venue"), ("quote_denom", .str "uquote")])
  return c

/-- The agency states a value, so that there is something to divest. -/
def statedRun : List Transaction :=
  [⟨1, "owner", order "account" "update_value" [("value", .amount (.ofNat 100))]⟩]

/-- The account stores a slippage of a twentieth as it divests. When it hears of the divestment, and
    when it is liquidated without a default, it does not go out of range. -/
theorem arithmetic_in_range_of_statedRun :
    ∃ c : Chain Collaborator, foundedChain = .ok c ∧
      (∃ a a' : Account, ∃ r, (c.afterAll statedRun).contract? "account" = some (.account a) ∧
        a.execute ((c.afterAll statedRun).env "account") "borrower"
          (.divest (.ofNat 40) (some 50000)) = .ok (a', r) ∧
        a'.divest.map Account.PendingDivest.slippage = some 50000 ∧
        ∀ c' : Chain Collaborator,
          a'.reply (c'.env "account") Account.divestReply ≠ .error (.fault .outOfRange)) ∧
      ∃ e, ((c.afterAll statedRun).atTime 2).transact
          (.execute "anyone" "account" (.tagged "liquidate" []) [])
            = .error (.contract "account" e) ∧
        ¬ e.Shows .outOfRange := by
  have hrun : ∃ c : Chain Collaborator, ∃ a a' : Account, ∃ r, foundedChain = .ok c ∧
      (c.afterAll statedRun).contract? "account" = some (.account a) ∧
      a.execute ((c.afterAll statedRun).env "account") "borrower"
        (.divest (.ofNat 40) (some 50000)) = .ok (a', r) ∧
      a'.divest.map Account.PendingDivest.slippage = some 50000 ∧
      ((c.afterAll statedRun).atTime 2).transact
        (.execute "anyone" "account" (.tagged "liquidate" []) [])
        = .error (.contract "account" (.account .notDefaulted)) :=
    ⟨_, _, _, _, rfl, rfl, rfl, rfl, rfl⟩
  obtain ⟨c, a, a', r, hfounded, hstands, hdivest, hstored, hliquidate⟩ := hrun
  -- all that stands on the chain has been set up there
  have hgenuine : c.Genuine := by
    simp only [foundedChain, bind_eq_ok_iff, pure_eq_ok_iff] at hfounded
    obtain ⟨⟨c₁, _⟩, hledger, ⟨c₂, _⟩, haccount, rfl⟩ := hfounded
    exact ((genuine_empty 0).setUp hledger).setUp haccount
  have ha : a.Reachable :=
    afterAll_keeps Genuine.performs (fun _ h => h.congr fun _ => rfl) hgenuine statedRun _ _ hstands
  obtain ⟨-, account, -, chain⟩ := arithmetic_in_range
  obtain ⟨reports, transacts⟩ := chain hgenuine
  refine ⟨c, hfounded, ⟨a, a', r, hstands, hdivest, hstored, fun c' => ?_⟩, _, hliquidate,
    (transacts statedRun ⟨2, "anyone", order "account" "liquidate" []⟩ "account").1 _ hliquidate⟩
  exact ((account a' (.execute ha hdivest)).2 _ (reports_querier c')).2.1 Account.divestReply

end Stablecoin
