import Stablecoin.Proofs.Chain.Loan

set_option autoImplicit false

/-! # Splitting a borrowing or a repayment

It does not matter whether the borrower takes an amount at once or in two parts in the same block,
and likewise for what is paid back: one way completes exactly when the other one does, and both lead
to the same chain (`splitting_immaterial`).

For what is borrowed every cap is met in two parts if it is met by the sum, because the first part
reaches no further (`Draws.first`, `Mints.first`). The peg gate and the policy are asked once more
than for the sum; that they give the same answers each time has to be assumed (`Fixed`). -/

namespace Stablecoin

/-! ## What the gates depend on -/

/-- The venue of a ledger answers so when it is asked for the price, and the policy when it is asked
    about an address. -/
structure Querier.Answers (q : Querier) (config : Ledger.Config) (recipient : Address)
    (price admission : Except Fault Json) : Prop where
  price : ∀ venue ∈ config.venue, q.ask venue Venue.priceQuery = price
  admission : ∀ policy ∈ config.policy,
    q.ask policy (Policy.Query.isAllowed recipient).toJson = admission

section Answers

variable {env env' : Env} {config : Ledger.Config} {recipient : Address}
  {price admission : Except Fault Json}

/-- Where the venue answers alike, the peg gate is the same. -/
theorem Querier.Answers.mintAllowed_eq
    (answers : env.querier.Answers config recipient price admission)
    (answers' : env'.querier.Answers config recipient price admission) (now : env'.now = env.now) :
    config.mintAllowed env' = config.mintAllowed env := by
  refine Ledger.Config.mintAllowed_congr now fun venue hvenue => ?_
  unfold Venue.askPrice Querier.askFor
  rw [answers.price venue hvenue, answers'.price venue hvenue]

/-- Where the policy answers alike, the same addresses may receive. -/
theorem Querier.Answers.checkRecipient_eq
    (answers : env.querier.Answers config recipient price admission)
    (answers' : env'.querier.Answers config recipient price admission) :
    Ledger.checkRecipient config env' recipient = Ledger.checkRecipient config env recipient := by
  refine Ledger.checkRecipient_congr fun policy hpolicy => ?_
  unfold Policy.askAllowed Querier.askFor
  rw [answers.admission policy hpolicy, answers'.admission policy hpolicy]

end Answers

namespace Chain

open Account

variable {σ : Type} [Outside σ] {c c' : Chain σ} {self sender : Address} {a : Account} {l : Ledger}
  {x y z : Amount} {f g : Figures} {now : Seconds} {env env₁ env₂ : Env}

theorem positive_of_sum (positive : x ≠ 0) (sum : z.toNat = x.toNat + y.toNat) : z ≠ 0 := by
  intro hzero
  rw [hzero, Amount.toNat_zero] at sum
  exact positive (Amount.eq_zero_iff.2 (by omega))

/-! ## Borrowing in two parts -/

/-- Two parts of a debt are booked as the sum is. -/
theorem Draws.join (checked : a.risk.check = .ok ()) (sum : z.toNat = x.toNat + y.toNat)
    (first : Draws a now x f) (second : Draws (a.booked f now) now y g) : Draws a now z g where
  active := first.active
  positive := positive_of_sum first.positive sum
  drawn := by
    have hfirst := first.drawn
    have hsecond : g.debt.toNat = f.debt.toNat + y.toNat := second.drawn
    omega
  capped := second.capped
  fee := by
    have hsame : f.fee = g.fee :=
      Except.ok.inj ((feeAt_booked checked f now).symm.trans second.fee)
    rw [first.fee, hsame]

theorem Mints.join (sum : z.toNat = x.toNat + y.toNat) (first : Mints l env₁ self x f)
    (second : Mints (l.booked self f) env₂ self y g)
    (gate : l.config.mintAllowed env = .ok true)
    (admitted : Ledger.checkRecipient l.config env self = .ok ()) : Mints l env self z g where
  registered := first.registered
  active := first.active
  acceptable := first.acceptable
  counted := by
    have hfirst := first.counted
    have hsecond := second.counted
    rw [Ledger.minter_booked] at hsecond
    simp only at hsecond
    omega
  capped := by
    have hsecond := second.capped
    rw [Ledger.minter_booked] at hsecond
    exact hsecond
  gate := gate
  admitted := admitted
  credited := by
    have hfirst := first.credited
    have hsecond := second.credited
    rw [Ledger.get_balances_booked] at hsecond
    omega
  raised := by
    have hfirst := first.raised
    have hsecond : g.supply.toNat = f.supply.toNat + y.toNat := second.raised
    omega

/-- The figures after a part of what is borrowed. -/
structure Midway (a : Account) (l : Ledger) (home : Address) (part : Amount) (f : Figures) :
    Prop where
  debt : f.debt.toNat = a.position.borrowed.toNat + part.toNat
  minted : f.minted.toNat = (l.minter home).minted.toNat + part.toNat
  held : f.held.toNat = (l.balances.get home).toNat + part.toNat
  supply : f.supply.toNat = l.token.supply.toNat + part.toNat

/-- They are in range, because those after the whole of it are. -/
theorem exists_midway (sum : z.toNat = x.toNat + y.toNat) (draws : Draws a now z g)
    (mints : Mints l env self z g) : ∃ f, Midway a l self x f ∧ f.fee = g.fee := by
  have hdebt := draws.drawn
  have hminted := mints.counted
  have hheld := mints.credited
  have hsupply := mints.raised
  have part : ∀ {before after : Amount}, after.toNat = before.toNat + z.toNat →
      ∃ between : Amount, between.toNat = before.toNat + x.toNat := by
    intro before after hafter
    have hlt := after.isLt
    exact ⟨⟨before.toNat + x.toNat, by omega⟩, rfl⟩
  obtain ⟨debt, debt_eq⟩ := part hdebt
  obtain ⟨minted, minted_eq⟩ := part hminted
  obtain ⟨held, held_eq⟩ := part hheld
  obtain ⟨supply, supply_eq⟩ := part hsupply
  exact ⟨⟨debt, g.fee, minted, held, supply⟩, ⟨debt_eq, minted_eq, held_eq, supply_eq⟩, rfl⟩

/-- The first part of a debt reaches no further than the whole of it. -/
theorem Draws.first (positive : x ≠ 0) (sum : z.toNat = x.toNat + y.toNat)
    (midway : Midway a l self x f) (fee : f.fee = g.fee) (whole : Draws a now z g) :
    Draws a now x f where
  active := whole.active
  positive := positive
  drawn := midway.debt
  capped := by
    have hpart := midway.debt
    have hwhole := whole.drawn
    have hcapped := whole.capped
    rw [Amount.le_iff] at hcapped ⊢
    omega
  fee := by
    rw [fee]
    exact whole.fee

theorem Draws.second (checked : a.risk.check = .ok ()) (positive : y ≠ 0)
    (sum : z.toNat = x.toNat + y.toNat) (midway : Midway a l self x f) (fee : f.fee = g.fee)
    (whole : Draws a now z g) : Draws (a.booked f now) now y g where
  active := whole.active
  positive := positive
  drawn := by
    have hpart := midway.debt
    have hwhole := whole.drawn
    show g.debt.toNat = f.debt.toNat + y.toNat
    omega
  capped := whole.capped
  fee := by
    rw [← fee]
    exact feeAt_booked checked f now

theorem Mints.first (sum : z.toNat = x.toNat + y.toNat) (midway : Midway a l self x f)
    (whole : Mints l env self z g) (gate : l.config.mintAllowed env₁ = .ok true)
    (admitted : Ledger.checkRecipient l.config env₁ self = .ok ()) : Mints l env₁ self x f where
  registered := whole.registered
  active := whole.active
  acceptable := whole.acceptable
  counted := midway.minted
  capped := by
    have hpart := midway.minted
    have hwhole := whole.counted
    have hcapped := whole.capped
    rw [Amount.le_iff] at hcapped ⊢
    omega
  gate := gate
  admitted := admitted
  credited := midway.held
  raised := midway.supply

theorem Mints.second (sum : z.toNat = x.toNat + y.toNat) (midway : Midway a l self x f)
    (whole : Mints l env self z g) (gate : l.config.mintAllowed env₂ = .ok true)
    (admitted : Ledger.checkRecipient l.config env₂ self = .ok ()) :
    Mints (l.booked self f) env₂ self y g where
  registered := by
    rw [Ledger.minter_booked]
    exact whole.registered
  active := whole.active
  acceptable := whole.acceptable
  counted := by
    have hpart := midway.minted
    have hwhole := whole.counted
    rw [Ledger.minter_booked]
    simp only
    omega
  capped := by
    rw [Ledger.minter_booked]
    exact whole.capped
  gate := gate
  admitted := admitted
  credited := by
    have hpart := midway.held
    have hwhole := whole.credited
    rw [Ledger.get_balances_booked]
    omega
  raised := by
    have hpart := midway.supply
    have hwhole := whole.raised
    show g.supply.toNat = f.supply.toNat + y.toNat
    omega

section Borrow

variable {price admission : Except Fault Json} {call first second whole : Call}

/-- The venue and the policy answer so whenever a call is carried out on the way. -/
def Fixed (c : Chain σ) (call : Call) (l : Ledger) (recipient : Address)
    (price admission : Except Fault Json) : Prop :=
  ∀ m ∈ trace callLimit c [call], m.chain.querier.Answers l.config recipient price admission

/-- So they do when the ledger is told to mint. -/
theorem Joint.answers_of_draws (h : Joint c self a l)
    (orders : call.Orders a.config.borrower self (.borrow x)) (draws : Draws a c.now x f)
    (fixed : Fixed c call l self price admission) :
    (c.envBooked self a f).querier.Answers l.config self price admission := by
  have step : a.Step (c.env self) a.config.borrower (.borrow x) (a.booked f c.now)
      [{ action := a.tellLedger (Ledger.mintJson self x) }] :=
    .borrow rfl draws.active draws.positive draws.drawn draws.capped draws.fee
  exact fixed _ (h.mem_trace orders (relays_borrow a (c.env self) _ x) step)

theorem Joint.borrow_split_iff (h : Joint c self a l) (checked : a.risk.check = .ok ())
    (positive : x ≠ 0 ∧ y ≠ 0) (sum : z.toNat = x.toNat + y.toNat)
    (hfirst : first.Orders sender self (.borrow x))
    (hsecond : second.Orders sender self (.borrow y))
    (hwhole : whole.Orders sender self (.borrow z))
    (fixed : Fixed c whole l self price admission) (fixed₁ : Fixed c first l self price admission)
    (fixed₂ : ∀ c₁ records, c.transact first = .ok (c₁, records) →
      Fixed c₁ second l self price admission) :
    (∃ c₁ records records', c.transact first = .ok (c₁, records) ∧
        c₁.transact second = .ok (c', records')) ↔
      ∃ records, c.transact whole = .ok (c', records) := by
  rw [h.transact_borrow_iff hwhole]
  constructor
  · rintro ⟨c₁, records, records', done, done'⟩
    have fixed₂ := fixed₂ c₁ records done
    obtain ⟨rfl, f, draws, mints, rfl⟩ := (h.transact_borrow_iff hfirst).1 ⟨records, done⟩
    obtain ⟨-, g, draws', mints', rfl⟩ :=
      ((h.booked f).transact_borrow_iff hsecond).1 ⟨records', done'⟩
    have joined : Draws a c.now z g := draws.join checked sum draws'
    -- the gates let the sum pass because they let the second part pass
    have answers := h.answers_of_draws hwhole joined fixed
    have answers' := (h.booked f).answers_of_draws hsecond draws' fixed₂
    have gate : l.config.mintAllowed (c.envBooked self a g) = .ok true :=
      (answers'.mintAllowed_eq answers rfl).trans mints'.gate
    have admitted : Ledger.checkRecipient l.config (c.envBooked self a g) self = .ok () :=
      (answers'.checkRecipient_eq answers).trans mints'.admitted
    exact ⟨rfl, g, joined, mints.join sum mints' gate admitted, h.booked_booked f g⟩
  · rintro ⟨rfl, g, draws, mints, rfl⟩
    obtain ⟨f, midway, hfee⟩ := exists_midway sum draws mints
    have answers := h.answers_of_draws hwhole draws fixed
    -- first the one part
    have draws₁ := draws.first positive.1 sum midway hfee
    have answers₁ := h.answers_of_draws hfirst draws₁ fixed₁
    have mints₁ := mints.first sum midway
      ((answers.mintAllowed_eq answers₁ rfl).trans mints.gate)
      ((answers.checkRecipient_eq answers₁).trans mints.admitted)
    obtain ⟨records, done⟩ := (h.transact_borrow_iff hfirst).2 ⟨rfl, f, draws₁, mints₁, rfl⟩
    -- then the other one
    have draws₂ := draws.second checked positive.2 sum midway hfee
    have answers₂ := (h.booked f).answers_of_draws hsecond draws₂ (fixed₂ _ _ done)
    have mints₂ := mints.second sum midway
      ((answers.mintAllowed_eq answers₂ rfl).trans mints.gate)
      ((answers.checkRecipient_eq answers₂).trans mints.admitted)
    obtain ⟨records', done'⟩ := ((h.booked f).transact_borrow_iff hsecond).2
      ⟨rfl, g, draws₂, mints₂, (h.booked_booked f g).symm⟩
    exact ⟨_, records, records', done, done'⟩

end Borrow

/-! ## Repaying in two parts -/

theorem Redeems.join (checked : a.risk.check = .ok ()) (sum : z.toNat = x.toNat + y.toNat)
    (first : Redeems a l now self x f)
    (second : Redeems (a.booked f now) (l.booked self f) now self y g) :
    Redeems a l now self z g where
  positive := positive_of_sum first.positive sum
  repaid := by
    have hfirst := first.repaid
    have hsecond : f.debt.toNat = g.debt.toNat + y.toNat := second.repaid
    omega
  fee := by
    have hsame : f.fee = g.fee :=
      Except.ok.inj ((feeAt_booked checked f now).symm.trans second.fee)
    rw [first.fee, hsame]
  valid := first.valid
  listed := first.listed
  counted := by
    have hfirst := first.counted
    have hsecond := second.counted
    rw [Ledger.minter_booked] at hsecond
    simp only at hsecond
    omega
  debited := by
    have hfirst := first.debited
    have hsecond := second.debited
    rw [Ledger.get_balances_booked] at hsecond
    omega
  lowered := by
    have hfirst := first.lowered
    have hsecond : f.supply.toNat = g.supply.toNat + y.toNat := second.lowered
    omega

/-- What is paid back in whole can be paid back in parts. -/
theorem Redeems.split (checked : a.risk.check = .ok ()) (positive : x ≠ 0 ∧ y ≠ 0)
    (sum : z.toNat = x.toNat + y.toNat) (whole : Redeems a l now self z g) :
    ∃ f, Redeems a l now self x f ∧ Redeems (a.booked f now) (l.booked self f) now self y g := by
  have part : ∀ {before after : Amount}, before.toNat = after.toNat + z.toNat →
      ∃ between : Amount, before.toNat = between.toNat + x.toNat ∧
        between.toNat = after.toNat + y.toNat := by
    intro before after hbefore
    have hlt := before.isLt
    exact ⟨⟨after.toNat + y.toNat, by omega⟩, by simp only; omega, rfl⟩
  obtain ⟨debt, debt₁, debt₂⟩ := part whole.repaid
  obtain ⟨minted, minted₁, minted₂⟩ := part whole.counted
  obtain ⟨held, held₁, held₂⟩ := part whole.debited
  obtain ⟨supply, supply₁, supply₂⟩ := part whole.lowered
  refine ⟨⟨debt, g.fee, minted, held, supply⟩,
    ⟨positive.1, debt₁, whole.fee, whole.valid, whole.listed, minted₁, held₁, supply₁⟩,
    ⟨positive.2, debt₂, feeAt_booked checked _ now, whole.valid, ?_, ?_, ?_, supply₂⟩⟩
  · rw [Ledger.minter_booked]
    exact whole.listed
  · rw [Ledger.minter_booked]
    exact minted₂
  · rw [Ledger.get_balances_booked]
    exact held₂

theorem Joint.repay_split_iff {first second whole : Call} (h : Joint c self a l)
    (checked : a.risk.check = .ok ()) (positive : x ≠ 0 ∧ y ≠ 0)
    (sum : z.toNat = x.toNat + y.toNat) (hfirst : first.Orders sender self (.repay x))
    (hsecond : second.Orders sender self (.repay y))
    (hwhole : whole.Orders sender self (.repay z)) :
    (∃ c₁ records records', c.transact first = .ok (c₁, records) ∧
        c₁.transact second = .ok (c', records')) ↔
      ∃ records, c.transact whole = .ok (c', records) := by
  rw [h.transact_repay_iff hwhole]
  constructor
  · rintro ⟨c₁, records, records', done, done'⟩
    obtain ⟨rfl, f, redeems, rfl⟩ := (h.transact_repay_iff hfirst).1 ⟨records, done⟩
    obtain ⟨-, g, redeems', rfl⟩ :=
      ((h.booked f).transact_repay_iff hsecond).1 ⟨records', done'⟩
    exact ⟨rfl, g, redeems.join checked sum redeems', h.booked_booked f g⟩
  · rintro ⟨rfl, g, redeems, rfl⟩
    obtain ⟨f, redeems₁, redeems₂⟩ := redeems.split checked positive sum
    obtain ⟨records, done⟩ := (h.transact_repay_iff hfirst).2 ⟨rfl, f, redeems₁, rfl⟩
    obtain ⟨records', done'⟩ := ((h.booked f).transact_repay_iff hsecond).2
      ⟨rfl, g, redeems₂, (h.booked_booked f g).symm⟩
    exact ⟨_, records, records', done, done'⟩

/-! ## Both -/

/-- Splitting does not matter, on every chain: for two amounts that are not zero and their sum, two
    borrowings in the same block complete and lead to a chain exactly when one of the sum completes
    and leads to it, if the venue and the policy of the ledger give the same answers all the while;
    and two repayments do exactly when one of the sum does, whatever anybody answers. -/
theorem splitting_immaterial (h : Joint c self a l) (checked : a.risk.check = .ok ())
    (positive : x ≠ 0 ∧ y ≠ 0) (sum : z.toNat = x.toNat + y.toNat) (sender : Address)
    (c' : Chain σ) :
    (∀ {first second whole : Call} {price admission : Except Fault Json},
      first.Orders sender self (.borrow x) → second.Orders sender self (.borrow y) →
      whole.Orders sender self (.borrow z) →
      Fixed c whole l self price admission → Fixed c first l self price admission →
      (∀ c₁ records, c.transact first = .ok (c₁, records) →
        Fixed c₁ second l self price admission) →
      ((∃ c₁ records records', c.transact first = .ok (c₁, records) ∧
          c₁.transact second = .ok (c', records')) ↔
        ∃ records, c.transact whole = .ok (c', records))) ∧
    ∀ {first second whole : Call}, first.Orders sender self (.repay x) →
      second.Orders sender self (.repay y) → whole.Orders sender self (.repay z) →
      ((∃ c₁ records records', c.transact first = .ok (c₁, records) ∧
          c₁.transact second = .ok (c', records')) ↔
        ∃ records, c.transact whole = .ok (c', records)) := by
  constructor
  · intro first second whole price admission hfirst hsecond hwhole fixed fixed₁ fixed₂
    exact h.borrow_split_iff checked positive sum hfirst hsecond hwhole fixed fixed₁ fixed₂
  · intro first second whole hfirst hsecond hwhole
    exact h.repay_split_iff checked positive sum hfirst hsecond hwhole

/-- The venue and the policy of the chain to borrow on answer so as long as they stand there. -/
theorem answers_of_stands {d : Chain Collaborator}
    (venue : d.contract? "venue" = lendingChain.contract? "venue")
    (policy : d.contract? "policy" = lendingChain.contract? "policy") :
    d.querier.Answers lendingLedger.config "account"
      (.ok (Venue.priceAnswer (.ofNat precision))) (.ok (.bool true)) where
  price := by
    rintro _ ⟨⟩
    show d.ask (9 + 1) "venue" _ = _
    rw [ask, venue]
    rfl
  admission := by
    rintro _ ⟨⟩
    show d.ask (9 + 1) "policy" _ = _
    rw [ask, policy]
    rfl

theorem fixed_of_trace {d : Chain Collaborator} {call : Call} {m₁ m₂ : Moment Collaborator}
    (htrace : trace callLimit d [call] = [m₁, m₂])
    (h₁ : m₁.chain.contract? "venue" = lendingChain.contract? "venue" ∧
      m₁.chain.contract? "policy" = lendingChain.contract? "policy")
    (h₂ : m₂.chain.contract? "venue" = lendingChain.contract? "venue" ∧
      m₂.chain.contract? "policy" = lendingChain.contract? "policy") :
    Fixed d call lendingLedger "account" (.ok (Venue.priceAnswer (.ofNat precision)))
      (.ok (.bool true)) := by
  intro m hm
  rw [htrace] at hm
  rcases List.mem_cons.1 hm with rfl | hm
  · exact answers_of_stands h₁.1 h₁.2
  · cases List.mem_singleton.1 hm
    exact answers_of_stands h₂.1 h₂.2

/-- What the ledger lets the account mint, to the last unit, is borrowed at once and in two parts;
    so is half of the debt repaid. -/
theorem splitting_immaterial_of_lendingChain :
    ∃ borrowed repaid records records',
      lendingChain.transact (lendingCall "borrow" (.ofNat 60)) = .ok (borrowed, records) ∧
      (∃ c₁ records₁ records₂,
        lendingChain.transact (lendingCall "borrow" (.ofNat 25)) = .ok (c₁, records₁) ∧
        c₁.transact (lendingCall "borrow" (.ofNat 35)) = .ok (borrowed, records₂)) ∧
      lendingChain.transact (lendingCall "repay" (.ofNat 20)) = .ok (repaid, records') ∧
      ∃ c₁ records₁ records₂,
        lendingChain.transact (lendingCall "repay" (.ofNat 5)) = .ok (c₁, records₁) ∧
        c₁.transact (lendingCall "repay" (.ofNat 15)) = .ok (repaid, records₂) := by
  have hwhole : ∃ borrowed records,
      lendingChain.transact (lendingCall "borrow" (.ofNat 60)) = .ok (borrowed, records) ∧
      Fixed lendingChain (lendingCall "borrow" (.ofNat 60)) lendingLedger "account"
        (.ok (Venue.priceAnswer (.ofNat precision))) (.ok (.bool true)) :=
    ⟨_, _, rfl, fixed_of_trace rfl ⟨rfl, rfl⟩ ⟨rfl, rfl⟩⟩
  have hparts : ∃ c₁ records₁,
      lendingChain.transact (lendingCall "borrow" (.ofNat 25)) = .ok (c₁, records₁) ∧
      Fixed lendingChain (lendingCall "borrow" (.ofNat 25)) lendingLedger "account"
        (.ok (Venue.priceAnswer (.ofNat precision))) (.ok (.bool true)) ∧
      Fixed c₁ (lendingCall "borrow" (.ofNat 35)) lendingLedger "account"
        (.ok (Venue.priceAnswer (.ofNat precision))) (.ok (.bool true)) :=
    ⟨_, _, rfl, fixed_of_trace rfl ⟨rfl, rfl⟩ ⟨rfl, rfl⟩, fixed_of_trace rfl ⟨rfl, rfl⟩ ⟨rfl, rfl⟩⟩
  have hrepaid : ∃ repaid records',
      lendingChain.transact (lendingCall "repay" (.ofNat 20)) = .ok (repaid, records') :=
    ⟨_, _, rfl⟩
  obtain ⟨borrowed, records, done, fixed⟩ := hwhole
  obtain ⟨c₁, records₁, done₁, fixed₁, fixed₂⟩ := hparts
  obtain ⟨repaid, records', done'⟩ := hrepaid
  have borrowable : Amount.ofNat 25 ≠ 0 ∧ Amount.ofNat 35 ≠ 0 := by decide
  have repayable : Amount.ofNat 5 ≠ 0 ∧ Amount.ofNat 15 ≠ 0 := by decide
  have sixty : (Amount.ofNat 60).toNat = (Amount.ofNat 25).toNat + (Amount.ofNat 35).toNat := rfl
  have twenty : (Amount.ofNat 20).toNat = (Amount.ofNat 5).toNat + (Amount.ofNat 15).toNat := rfl
  obtain ⟨borrow, -⟩ :=
    splitting_immaterial joint_lendingChain rfl borrowable sixty "borrower" borrowed
  obtain ⟨-, repay⟩ :=
    splitting_immaterial joint_lendingChain rfl repayable twenty "borrower" repaid
  refine ⟨borrowed, repaid, records, records', done, ?_, done', ?_⟩
  · refine (borrow ⟨_, rfl, rfl⟩ ⟨_, rfl, rfl⟩ ⟨_, rfl, rfl⟩ fixed fixed₁ ?_).2 ⟨records, done⟩
    intro d _ hd
    cases done₁.symm.trans hd
    exact fixed₂
  · exact (repay ⟨_, rfl, rfl⟩ ⟨_, rfl, rfl⟩ ⟨_, rfl, rfl⟩).2 ⟨records', done'⟩

end Chain

end Stablecoin
