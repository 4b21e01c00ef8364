import Stablecoin.Proofs.Chain.View
import Stablecoin.Proofs.Ledger.Refusals
import Stablecoin.Proofs.Policy.History

set_option autoImplicit false

/-! # Ledgers that follow a policy

A ledger with a policy asks it about whoever is to be credited, and does otherwise what it would do
without one (`Ledger.execute_of_unscreened`). So where nothing else is in the way, the answer of the
policy decides, and the answer rests on what the policy has been told
(`screening_follows_history`). -/

namespace Stablecoin

namespace Ledger

/-- Whom a message credits. -/
def Message.payee? : Message → Option Address
  | .transfer payee _ | .transferFrom _ payee _ | .send payee _ _ | .mint payee _ => some payee
  | _ => none

/-- The ledger without a policy. -/
def unscreened (l : Ledger) : Ledger :=
  { l with config := { l.config with policy := none } }

/-- The ledger with a policy. -/
def screened (l : Ledger) (policy : Address) : Ledger :=
  { l with config := { l.config with policy := some policy } }

variable {l l' : Ledger} {env : Env} {sender a policy : Address} {m : Message} {r : Response}

/-! ## Credits with and without a policy -/

section Entries

variable {amount : Amount} (policy : Address)

theorem debit_screened (h : l.debit a amount = .ok l') :
    (l.screened policy).debit a amount = .ok (l'.screened policy) := by
  obtain ⟨left, hleft, rfl⟩ := debit_eq_ok_iff.1 h
  exact debit_eq_ok_iff.2 ⟨left, hleft, rfl⟩

theorem credit_screened (h : l.credit a amount = .ok l') :
    (l.screened policy).credit a amount = .ok (l'.screened policy) := by
  obtain ⟨grown, hgrown, rfl⟩ := credit_eq_ok_iff.1 h
  exact credit_eq_ok_iff.2 ⟨grown, hgrown, rfl⟩

theorem raiseSupply_screened (h : l.raiseSupply amount = .ok l') :
    (l.screened policy).raiseSupply amount = .ok (l'.screened policy) := by
  simp only [raiseSupply, bind_eq_ok_iff, pure_eq_ok_iff] at h ⊢
  obtain ⟨supply, hsupply, rfl⟩ := h
  exact ⟨supply, hsupply, rfl⟩

theorem useAllowance_screened {owner : Address} (h : l.useAllowance owner a amount = .ok l') :
    (l.screened policy).useAllowance owner a amount = .ok (l'.screened policy) := by
  simp only [useAllowance, bind_eq_ok_iff, pure_eq_ok_iff] at h ⊢
  obtain ⟨left, hleft, rfl⟩ := h
  exact ⟨left, hleft, rfl⟩

theorem checkMovement_screened (active : ¬ l.config.paused = true) :
    checkMovement (l.screened policy).config env a
      = checkRecipient (l.screened policy).config env a := by
  have active' : ¬ (l.screened policy).config.paused = true := active
  rw [checkMovement, require_of Error.paused active', ok_bind]

end Entries

/-- A credit that goes through where there is no policy goes through where there is one just if the
    policy has no objection. -/
theorem execute_screened (policy : Address) (credits : m.payee? = some a)
    (h : l.execute env sender m = .ok (l', r)) :
    (l.screened policy).execute env sender m
      = checkRecipient (l.screened policy).config env a >>= fun _ =>
          .ok (l'.screened policy, r) := by
  cases m with
  | transfer recipient amount =>
    cases credits
    simp only [execute, transfer, checkMovement, bind_eq_ok_iff, require_eq_ok_iff, exists_const,
      validAddress_eq_ok_iff] at h
    obtain ⟨_, ⟨rfl, acceptable⟩, positive, _, ⟨active, -⟩, l₁, hdebit, l₂, hcredit, h⟩ := h
    cases h
    simp only [execute, transfer, validAddress_eq_ok_iff.2 ⟨rfl, acceptable⟩,
      require_of _ positive, checkMovement_screened policy active, debit_screened policy hdebit,
      credit_screened policy hcredit, ok_bind]
    rfl
  | transferFrom owner recipient amount =>
    cases credits
    simp only [execute, transferFrom, checkMovement, bind_eq_ok_iff, require_eq_ok_iff,
      exists_const, validAddress_eq_ok_iff] at h
    obtain ⟨payer, ⟨rfl, howner⟩, _, ⟨rfl, acceptable⟩, positive, _, ⟨active, -⟩, l₀, hspent, l₁,
      hdebit, l₂, hcredit, h⟩ := h
    cases h
    simp only [execute, transferFrom, validAddress_eq_ok_iff.2 ⟨rfl, howner⟩,
      validAddress_eq_ok_iff.2 ⟨rfl, acceptable⟩, require_of _ positive,
      checkMovement_screened policy active, useAllowance_screened policy hspent,
      debit_screened policy hdebit, credit_screened policy hcredit, ok_bind]
    rfl
  | send contract amount payload =>
    cases credits
    simp only [execute, send, checkMovement, bind_eq_ok_iff, require_eq_ok_iff, exists_const,
      validAddress_eq_ok_iff] at h
    obtain ⟨_, ⟨rfl, acceptable⟩, positive, _, ⟨active, -⟩, l₁, hdebit, l₂, hcredit, h⟩ := h
    cases h
    simp only [execute, send, validAddress_eq_ok_iff.2 ⟨rfl, acceptable⟩,
      require_of _ positive, checkMovement_screened policy active, debit_screened policy hdebit,
      credit_screened policy hcredit, ok_bind]
    rfl
  | mint recipient amount =>
    cases credits
    simp only [execute, mint, bind_eq_ok_iff, require_eq_ok_iff, exists_const,
      validAddress_eq_ok_iff, mapError_eq_ok_iff, liftM, monadLift_eq_ok_iff] at h
    obtain ⟨registered, active, _, ⟨rfl, acceptable⟩, positive, minted, counted, capped, _, gate,
      rfl, _, -, l₁, hcredit, l₂, hraised, h⟩ := h
    cases h
    -- neither the pause nor the entry of the minter nor the peg gate has to do with the policy
    have active' : ¬ (l.screened policy).config.paused = true := active
    have hminter : (l.screened policy).minter sender = l.minter sender := rfl
    have hgate : (l.screened policy).config.mintAllowed env = .ok true := gate
    have hcredit' : ((l.screened policy).setMinter sender
        { l.minter sender with minted }).credit _ amount = _ := credit_screened policy hcredit
    simp only [execute, mint, hminter, require_of _ registered, require_of _ active',
      validAddress_eq_ok_iff.2 ⟨rfl, acceptable⟩, require_of _ positive, counted, mapError_ok,
      require_of _ capped, hgate, hcredit', raiseSupply_screened policy hraised, ok_bind]
    rfl
  | _ => cases credits

theorem screened_unscreened (h : l.config.policy = some policy) :
    l.unscreened.screened policy = l := by
  simp only [screened, unscreened, ← h]

/-- Whoever is credited has an address that the ledger takes. -/
theorem Step.payee_acceptable {out : List Outgoing} (h : Step l env sender m l' out)
    (credits : m.payee? = some a) : Address.Acceptable a := by
  cases h with
  | transfer acceptable => exact Option.some.inj credits ▸ acceptable
  | transferFrom acceptable => exact Option.some.inj credits ▸ acceptable.2
  | send acceptable => exact Option.some.inj credits ▸ acceptable
  | mint registered active acceptable => exact Option.some.inj credits ▸ acceptable
  | configure step => cases step <;> cases credits
  | _ => cases credits

end Ledger

namespace Chain

variable {σ : Type} [Outside σ] {c : Chain σ} {a policy : Address} {p : Policy}

/-- A policy that stands on the chain answers what it allows. -/
theorem askAllowed_eq (h : c.contract? policy = some (.policy p))
    (valid : Address.validate a = .ok a) :
    Policy.askAllowed c.querier policy a = .ok (p.allows a) := by
  obtain ⟨env, -, hask⟩ := ask_queryDepth h (Policy.Query.isAllowed a).toJson
  have hquery : (Contract.policy p : Contract σ).query env (Policy.Query.isAllowed a).toJson
      = .ok (.bool (p.allows a)) := by
    simp only [Contract.query, bind_eq_ok_iff, liftM, Contract.monadLift_eq_ok_iff,
      orMalformed_eq_ok_iff]
    exact ⟨_, Policy.Query.ofJson?_toJson _, Policy.query_isAllowed valid⟩
  simp only [Policy.askAllowed, Querier.askFor, querier, hask, hquery]
  rfl

/-- Where nothing else is in the way, the policy of a ledger decides about a credit. -/
theorem execute_ledger_of_policy {l l' : Ledger} {home sender : Address} {m : Ledger.Message}
    {r : Response} (h : c.contract? policy = some (.policy p))
    (configured : l.config.policy = some policy) (credits : m.payee? = some a)
    (hexec : l.unscreened.execute (c.env home) sender m = .ok (l', r)) :
    l.execute (c.env home) sender m
      = if p.allows a then .ok (l'.screened policy, r) else .error .transferNotAllowed := by
  have valid := Address.validate_of_acceptable
    ((Ledger.step_of_execute hexec).payee_acceptable credits)
  have hscreened := Ledger.execute_screened policy credits hexec
  have hcheck : Ledger.checkRecipient l.config (c.env home) a
      = require (p.allows a = true) .transferNotAllowed := by
    simp only [Ledger.checkRecipient, configured, env_querier, askAllowed_eq h valid]
    rfl
  rw [Ledger.screened_unscreened configured] at hscreened
  rw [hscreened, hcheck, require]
  split <;> rfl

end Chain

namespace Policy

/-! ## Every policy -/

/-- What a policy says follows from what it was told, for every run of messages from anyone since it
    was set up. An address is listed just when the last message carried out that lists it or takes
    it off the list is one that lists it. Only the owner of the moment is heard, who is the one
    named last or else the first, and whose listing fails just for who is listed, and unlisting just
    for who is not. The mode is the one of the setup. A policy set up in the other mode by the same
    sender and told the same gives the opposite answer for every address the chain accepts. And on a
    chain where a ledger has this policy, a credit that the ledger would carry out without a policy
    is refused as not allowed just when the policy answers no for whom it credits, and else does
    what it does without one. -/
theorem screening_follows_history {σ : Type} [Outside σ] {sender : Address} {s : Setup}
    {p₀ : Policy} {r₀ : Response} (h : setUp sender s = .ok (p₀, r₀)) (is : List Invocation) :
    let p := p₀.invokeAll is
    let past := p₀.carriedOut is
    (∀ a, a ∈ p.listed ↔ lastNaming a past = some (.list a)) ∧
      p.owner = lastOwner (s.owner.getD sender) past ∧
      (∀ sender m p' r, p.execute sender m = .ok (p', r) → sender = p.owner) ∧
      (∀ a, Address.validate a = .ok a →
        (∀ e, p.execute p.owner (.list a) = .error e ↔ a ∈ p.listed ∧ e = .alreadyListed) ∧
        ∀ e, p.execute p.owner (.unlist a) = .error e ↔ a ∉ p.listed ∧ e = .notListed) ∧
      p.mode = s.mode ∧
      (∀ mode ≠ s.mode, ∃ q₀ r₁, setUp sender { s with mode } = .ok (q₀, r₁) ∧
        ∀ a, Address.validate a = .ok a → ∃ answer, p.query (.isAllowed a) = .ok (.bool answer) ∧
          (q₀.invokeAll is).query (.isAllowed a) = .ok (.bool !answer)) ∧
      ∀ (c : Chain σ) (home policy : Address) (l : Ledger), c.contract? policy = some (.policy p) →
        l.config.policy = some policy → ∀ sender m a l' r, m.payee? = some a →
          l.unscreened.execute (c.env home) sender m = .ok (l', r) →
          (l.execute (c.env home) sender m = .error .transferNotAllowed
            ↔ p.query (.isAllowed a) = .ok (.bool false)) ∧
          (p.query (.isAllowed a) = .ok (.bool true)
            → l.execute (c.env home) sender m = .ok (l'.screened policy, r)) := by
  intro p past
  have record : Recorded (s.owner.getD sender) s.mode p past := recorded_of_setUp h is
  refine ⟨record.listed, record.owner, ?_, ?_, record.mode, ?_, ?_⟩
  · intro sender m p' r hexec
    exact (step_of_execute hexec).governs
  · intro a valid
    exact ⟨execute_list_eq_error_iff valid, execute_unlist_eq_error_iff valid⟩
  · intro mode other
    obtain ⟨q₀, r₁, hsetUp, hopposite⟩ := answers_opposite h other
    exact ⟨q₀, r₁, hsetUp, hopposite is⟩
  · intro c home policy l stands configured sender m a l' r credits hexec
    have valid := Address.validate_of_acceptable
      ((Ledger.step_of_execute hexec).payee_acceptable credits)
    rw [Chain.execute_ledger_of_policy stands configured credits hexec, query_isAllowed valid]
    cases p.allows a <;> simp

/-- Two owners who list and unlist, one after the other, and calls that fail. -/
def listingRun : List Invocation :=
  [⟨"mallory", .list "alice"⟩, ⟨"owner", .list "alice"⟩, ⟨"owner", .list "alice"⟩,
    ⟨"owner", .updateOwner "bob"⟩, ⟨"owner", .list "carol"⟩, ⟨"bob", .unlist "alice"⟩,
    ⟨"bob", .list "carol"⟩]

/-- A chain with a policy that has been through the run. -/
def listedChain : Chain Collaborator :=
  (Chain.empty 0).put "policy"
    (.policy ((⟨"owner", .blacklist, []⟩ : Policy).invokeAll listingRun))

theorem screening_follows_history_of_listingRun :
    ∃ p₀ r₀, ∃ l : Ledger, setUp "owner" ⟨none, .blacklist⟩ = .ok (p₀, r₀) ∧
      p₀.carriedOut listingRun
        = [.list "alice", .updateOwner "bob", .unlist "alice", .list "carol"] ∧
      "carol" ∈ (p₀.invokeAll listingRun).listed ∧ "alice" ∉ (p₀.invokeAll listingRun).listed ∧
      (p₀.invokeAll listingRun).owner = "bob" ∧ l.config.policy = some "policy" ∧
      l.execute (listedChain.env "ledger") "minter" (.transfer "carol" (.ofNat 5))
        = .error .transferNotAllowed ∧
      (∃ l' r, l.execute (listedChain.env "ledger") "minter" (.transfer "alice" (.ofNat 5))
        = .ok (l', r)) ∧
      ∃ q₀ r₁, setUp "owner" ⟨none, .whitelist⟩ = .ok (q₀, r₁) ∧
        (q₀.invokeAll listingRun).query (.isAllowed "carol") = .ok (.bool true) := by
  have hrun : ∃ p₀ r₀, ∃ l₀ l l₁ l₂ : Ledger, ∃ r₁ r₂ r₃,
      setUp "owner" ⟨none, .blacklist⟩ = .ok (p₀, r₀) ∧ p₀ = ⟨"owner", .blacklist, []⟩ ∧
      p₀.carriedOut listingRun
        = [.list "alice", .updateOwner "bob", .unlist "alice", .list "carol"] ∧
      (p₀.invokeAll listingRun).query (.isAllowed "carol") = .ok (.bool false) ∧
      (p₀.invokeAll listingRun).query (.isAllowed "alice") = .ok (.bool true) ∧
      Ledger.setUp Ledger.aloneEnv "owner" Ledger.plainSetup = .ok (l₀, r₁) ∧
      l = (l₀.invokeAll Ledger.mintedRun).screened "policy" ∧ l.config.policy = some "policy" ∧
      l.unscreened.execute (listedChain.env "ledger") "minter" (.transfer "carol" (.ofNat 5))
        = .ok (l₁, r₂) ∧
      l.unscreened.execute (listedChain.env "ledger") "minter" (.transfer "alice" (.ofNat 5))
        = .ok (l₂, r₃) :=
    ⟨_, _, _, _, _, _, _, _, _, rfl, rfl, rfl, rfl, rfl, rfl, rfl, rfl, rfl, rfl⟩
  obtain ⟨p₀, r₀, l₀, l, l₁, l₂, r₁, r₂, r₃, hsetUp, rfl, hdone, hcarol, halice, -, -, hpolicy,
    hrefused, hgoes⟩ := hrun
  obtain ⟨hlisted, howner, -, -, -, hopposite, hledger⟩ :=
    @screening_follows_history Collaborator _ _ _ _ _ hsetUp listingRun
  have stands : listedChain.contract? "policy"
      = some (.policy ((⟨"owner", .blacklist, []⟩ : Policy).invokeAll listingRun)) :=
    Chain.contract?_put_self _ _ _
  have hdecides := hledger listedChain "ledger" "policy" l stands hpolicy "minter"
  obtain ⟨q₀, r₄, hother, hanswers⟩ := hopposite .whitelist (by decide)
  rw [hdone] at hlisted howner
  refine ⟨_, r₀, l, hsetUp, hdone, (hlisted "carol").2 rfl, ?_, howner, hpolicy,
    (hdecides _ "carol" l₁ r₂ rfl hrefused).1.2 hcarol,
    ⟨_, _, (hdecides _ "alice" l₂ r₃ rfl hgoes).2 halice⟩, q₀, r₄, hother, ?_⟩
  · intro hmem
    have hlast : some (Message.unlist "alice") = some (.list "alice") := (hlisted "alice").1 hmem
    cases hlast
  · obtain ⟨answer, hanswer, hopposed⟩ := hanswers "carol" (by decide)
    rw [hcarol] at hanswer
    cases hanswer
    exact hopposed

end Policy

end Stablecoin
