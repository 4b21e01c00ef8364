import Stablecoin.Proofs.Ledger.History

set_option autoImplicit false

/-! # Who governs a ledger

The owner of a ledger sets every field of its configuration but its own office; the balancer may set
prices and rates besides, and nobody else sets anything (`Step.authorized`). Every message names the
fields that it may change (`Message.fields`), and changes no other.

The office passes in two steps: the owner nominates, and the nominee accepts. What the ledger stores
about this is one address (`Ledger.nominee`), and the invariant `HandedOver` says what the address
stands for: whoever may accept was named by the present owner, and since then nobody else was named
and nobody has accepted. So a nomination that was overwritten or used is worth nothing. -/

namespace Stablecoin.Ledger

/-! ## Fields of the configuration -/

/-- The fields of a configuration. -/
inductive Config.Field where
  | owner
  | treasury
  | balancer
  | collateralAgency
  | venue
  | policy
  | paused
  | arbSpread
  | currentPrice
  | nextPrice
  | periodStart
  | periodLength
  | interestRate
  | stepValue
deriving DecidableEq

/-- Two configurations agree in a field. -/
def Config.Same (c c' : Config) : Field → Prop
  | .owner => c'.owner = c.owner
  | .treasury => c'.treasury = c.treasury
  | .balancer => c'.balancer = c.balancer
  | .collateralAgency => c'.collateralAgency = c.collateralAgency
  | .venue => c'.venue = c.venue
  | .policy => c'.policy = c.policy
  | .paused => c'.paused = c.paused
  | .arbSpread => c'.arbSpread = c.arbSpread
  | .currentPrice => c'.currentPrice = c.currentPrice
  | .nextPrice => c'.nextPrice = c.nextPrice
  | .periodStart => c'.periodStart = c.periodStart
  | .periodLength => c'.periodLength = c.periodLength
  | .interestRate => c'.interestRate = c.interestRate
  | .stepValue => c'.stepValue = c.stepValue

@[simp] theorem Config.same_refl (c : Config) (f : Field) : c.Same c f := by
  cases f <;> rfl

/-- The fields are all that there is to a configuration. -/
theorem Config.eq_of_same {c c' : Config} (h : ∀ f, c.Same c' f) : c' = c := by
  obtain ⟨owner, treasury, balancer, agency, venue, policy, paused, spread, current, next, start,
    length, rate, step⟩ := c'
  cases h .owner
  cases h .treasury
  cases h .balancer
  cases h .collateralAgency
  cases h .venue
  cases h .policy
  cases h .paused
  cases h .arbSpread
  cases h .currentPrice
  cases h .nextPrice
  cases h .periodStart
  cases h .periodLength
  cases h .interestRate
  cases h .stepValue
  rfl

/-- The fields that the balancer may set as well as the owner. -/
def Config.Field.Shared (f : Config.Field) : Prop :=
  f = .currentPrice ∨ f = .nextPrice ∨ f = .arbSpread ∨ f = .interestRate

/-- The fields that a message may change. -/
def Message.fields : Message → List Config.Field
  | .setPolicy _ => [.policy]
  | .setTreasury _ => [.treasury]
  | .setBalancer _ => [.balancer]
  | .setCollateralAgency _ => [.collateralAgency]
  | .setVenue _ => [.venue]
  | .pause | .unpause => [.paused]
  | .setPeriodLength _ => [.periodLength]
  | .setStepValue _ => [.stepValue]
  | .startPeriod => [.currentPrice, .periodStart]
  | .setArbSpread _ => [.arbSpread]
  | .setInterestRate _ => [.interestRate]
  | .setTargetPrice _ _ => [.currentPrice, .nextPrice]
  | .acceptOwnership => [.owner]
  | _ => []

variable {l l' : Ledger} {env : Env} {sender : Address} {m : Message} {out : List Outgoing}

/-- A message changes no field but those it names. -/
theorem Config.Step.same {c c' : Config} {now : Seconds} (h : c.Step now sender m c')
    {f : Config.Field} (hf : f ∉ m.fields) : c.Same c' f := by
  cases h <;> cases f <;> first | rfl | exact absurd (by simp [Message.fields]) hf

theorem Step.same (h : Step l env sender m l' out) {f : Config.Field} (hf : f ∉ m.fields) :
    l.config.Same l'.config f := by
  cases h with
  | configure step => exact step.same hf
  | acceptOwnership nominated =>
    cases f with
    | owner => exact absurd (List.mem_singleton_self _) hf
    | _ => rfl
  | _ => exact l.config.same_refl f

/-- Most messages name no field and leave the configuration as it is. -/
theorem Step.config_eq_of_fields_eq_nil (h : Step l env sender m l' out) (hm : m.fields = []) :
    l'.config = l.config :=
  Config.eq_of_same fun f => h.same (by rw [hm]; exact List.not_mem_nil)

/-- Whoever sets a field is the owner, or the balancer where the field is shared. -/
theorem Config.Step.authorized {c c' : Config} {now : Seconds} (h : c.Step now sender m c')
    {f : Config.Field} (hf : f ∈ m.fields) :
    sender = c.owner ∨ f.Shared ∧ some sender = c.balancer := by
  cases h with
  | setArbSpread governs =>
    refine governs.imp id fun hbalancer => ⟨?_, hbalancer⟩
    rw [List.mem_singleton.1 hf]
    exact .inr (.inr (.inl rfl))
  | setInterestRate governs =>
    refine governs.imp id fun hbalancer => ⟨?_, hbalancer⟩
    rw [List.mem_singleton.1 hf]
    exact .inr (.inr (.inr rfl))
  | setTargetPrice governs =>
    refine governs.imp id fun hbalancer => ⟨?_, hbalancer⟩
    rcases List.mem_pair.1 hf with rfl | rfl
    · exact .inl rfl
    · exact .inr (.inl rfl)
  | _ governs => exact .inl governs

theorem Step.mem_fields (h : Step l env sender m l' out) {f : Config.Field}
    (hf : ¬ l.config.Same l'.config f) : f ∈ m.fields := by
  by_contra hnot
  exact hf (h.same hnot)

/-- Only an acceptance names the office. -/
theorem eq_acceptOwnership_of_owner_mem (h : .owner ∈ m.fields) : m = .acceptOwnership := by
  cases m <;> first | rfl | simp [Message.fields] at h

/-- Apart from the owner's office, only the owner changes a field, and the balancer a shared one. -/
theorem Step.authorized (h : Step l env sender m l' out) {f : Config.Field}
    (hf : ¬ l.config.Same l'.config f) (hother : f ≠ .owner) :
    sender = l.config.owner ∨ f.Shared ∧ some sender = l.config.balancer := by
  have hnamed := h.mem_fields hf
  cases h with
  | configure step => exact step.authorized hnamed
  | acceptOwnership nominated => exact absurd (List.mem_singleton.1 hnamed) hother
  | _ => cases hnamed

/-! ## The history of the office -/

/-- A nominee accepts the office. -/
def Message.accepts : Message → Bool
  | .acceptOwnership => true
  | _ => false

/-- The message has to do with who holds the office: it nominates or accepts. -/
def Message.handsOver : Message → Bool
  | .nominateOwner _ | .acceptOwnership => true
  | _ => false

/-- The latest nomination or acceptance. -/
def lastHandover (past : List Deed) : Option Deed :=
  (past.filter fun d => d.message.handsOver).getLast?

/-- The owner has nominated somebody, and since then nobody was nominated and nobody accepted. -/
def Nominated (owner nominee : Address) (past : List Deed) : Prop :=
  ∃ d, lastHandover past = some d ∧ d.message = .nominateOwner nominee ∧
    d.sender = owner ∧ d.before.config.owner = owner

/-- Whoever accepted the office last, or else the first owner. -/
def lastOwner (first : Address) (past : List Deed) : Address :=
  ((past.filter fun d => d.message.accepts).getLast?.map Deed.sender).getD first

theorem lastHandover_concat_of_handsOver (past : List Deed) {d : Deed}
    (h : d.message.handsOver = true) : lastHandover (past ++ [d]) = some d := by
  simp [lastHandover, h]

theorem lastHandover_concat_of_not_handsOver (past : List Deed) {d : Deed}
    (h : d.message.handsOver = false) : lastHandover (past ++ [d]) = lastHandover past := by
  simp [lastHandover, h]

theorem lastOwner_concat_of_accepts (first : Address) (past : List Deed) {d : Deed}
    (h : d.message.accepts = true) : lastOwner first (past ++ [d]) = d.sender := by
  simp [lastOwner, h]

theorem lastOwner_concat_of_not_accepts (first : Address) (past : List Deed) {d : Deed}
    (h : d.message.accepts = false) : lastOwner first (past ++ [d]) = lastOwner first past := by
  simp [lastOwner, h]

/-- A nomination that may still be accepted came after every acceptance. -/
theorem exists_nomination_of_nominated {owner nominee : Address} {past later : List Deed} {d : Deed}
    (h : Nominated owner nominee (past ++ d :: later)) (hd : d.message = .acceptOwnership) :
    ∃ n ∈ later, n.message = .nominateOwner nominee ∧ n.sender = n.before.config.owner := by
  obtain ⟨n, hn, hmessage, hsender, howner⟩ := h
  have hkept : d.message.handsOver = true := by
    rw [hd]
    rfl
  rw [lastHandover, List.filter_append, List.filter_cons, if_pos hkept, List.getLast?_append] at hn
  have hmem : n ∈ d :: later.filter fun d => d.message.handsOver :=
    List.mem_of_getLast? (by simpa using hn)
  rcases List.mem_cons.1 hmem with rfl | hlater
  · rw [hd] at hmessage
    cases hmessage
  · exact ⟨n, (List.mem_filter.1 hlater).1, hmessage, hsender.trans howner.symm⟩

/-! ## The invariant -/

/-- What a ledger stores of its office, in terms of what it has done since its first owner. -/
structure HandedOver (first : Address) (l : Ledger) (past : List Deed) : Prop where
  /-- The nominee is the one whom the present owner has nominated last. -/
  nominee : ∀ a, l.nominee = some a ↔ Nominated l.config.owner a past
  owner : l.config.owner = lastOwner first past

theorem handedOver_of_isNew (h : l.IsNew) : HandedOver l.config.owner l [] where
  nominee a := by
    rw [h.nominee]
    exact ⟨nofun, fun ⟨_, hnone, _⟩ => nomatch hnone⟩
  owner := rfl

/-- A message that has nothing to do with the office leaves it as it is. -/
theorem Step.office (h : Step l env sender m l' out) (hm : m.handsOver = false) :
    l'.nominee = l.nominee ∧ l'.config.owner = l.config.owner := by
  cases h with
  | configure step => cases step <;> exact ⟨rfl, rfl⟩
  | nominateOwner => cases hm
  | acceptOwnership => cases hm
  | _ => exact ⟨rfl, rfl⟩

theorem HandedOver.step {first : Address} {past : List Deed} (hl : HandedOver first l past)
    (h : Step l env sender m l' out) : HandedOver first l' (past ++ [⟨l, sender, m⟩]) := by
  cases hm : m.handsOver with
  | false =>
    obtain ⟨hnominee, howner⟩ := h.office hm
    have haccepts : m.accepts = false := by cases m <;> first | rfl | cases hm
    refine ⟨fun a => ?_, ?_⟩
    · rw [Nominated, lastHandover_concat_of_not_handsOver past hm, hnominee, howner]
      exact hl.nominee a
    · rw [lastOwner_concat_of_not_accepts first past haccepts, howner]
      exact hl.owner
  | true =>
    cases h with
    | nominateOwner governs acceptable =>
      refine ⟨fun a => ?_, ?_⟩
      · rw [Nominated, lastHandover_concat_of_handsOver past rfl]
        constructor
        · rintro ⟨⟩
          exact ⟨_, rfl, rfl, governs, rfl⟩
        · rintro ⟨_, ⟨⟩, ⟨⟩, -, -⟩
          rfl
      · rw [lastOwner_concat_of_not_accepts first past rfl]
        exact hl.owner
    | acceptOwnership nominated =>
      refine ⟨fun a => ?_, ?_⟩
      · rw [Nominated, lastHandover_concat_of_handsOver past rfl]
        exact ⟨nofun, fun ⟨_, hlast, hnominates, _⟩ => by cases hlast; cases hnominates⟩
      · rw [lastOwner_concat_of_accepts first past rfl]
    | configure step => cases step <;> cases hm
    | _ => cases hm

theorem HandedOver.of_setUp {s : Setup} {r : Response} (h : setUp env sender s = .ok (l, r))
    (is : List Invocation) : HandedOver l.config.owner (l.invokeAll is) (l.deeds is) := by
  have hrun := deeds_induction (P := HandedOver l.config.owner) (fun hstep hl => hl.step hstep)
    (handedOver_of_isNew (isNew_of_setUp h)) is
  rwa [List.nil_append] at hrun

theorem acceptOwnership_eq_ok_iff {r : Response} :
    l.execute env sender .acceptOwnership = .ok (l', r) ↔ l.nominee = some sender ∧
      l' = { l with nominee := none, config := { l.config with owner := sender } } ∧
      r = { attributes := [("method", "accept_ownership"), ("owner", sender)] } := by
  simp only [execute, acceptOwnership, bind_eq_ok_iff, require_eq_ok_iff, exists_const,
    pure_eq_ok_iff, Prod.mk.injEq, @eq_comm _ l', @eq_comm _ r]

theorem exists_acceptOwnership_iff :
    (∃ l' r, l.execute env sender .acceptOwnership = .ok (l', r)) ↔ l.nominee = some sender := by
  constructor
  · rintro ⟨l', r, hexec⟩
    exact (acceptOwnership_eq_ok_iff.1 hexec).1
  · intro hnominee
    exact ⟨_, _, acceptOwnership_eq_ok_iff.2 ⟨hnominee, rfl, rfl⟩⟩

/-- Between two acceptances, whoever accepts the second time is nominated by the owner. -/
theorem exists_nomination_between {s : Setup} {r : Response} {is : List Invocation}
    {earlier between later : List Deed} {d d' : Deed} (h : setUp env sender s = .ok (l, r))
    (hpast : l.deeds is = earlier ++ d :: between ++ d' :: later)
    (hd : d.message = .acceptOwnership) (hd' : d'.message = .acceptOwnership) :
    ∃ n ∈ between, n.message = .nominateOwner d'.sender ∧ n.sender = n.before.config.owner := by
  -- the second acceptance was carried out where the first part of the run had led
  obtain ⟨first, i, second, l', r', -, hfirst, rfl, hexec⟩ := exists_of_deeds_eq hpast
  rw [show i.message = .acceptOwnership from hd'] at hexec
  have hnominated :=
    ((HandedOver.of_setUp h first).nominee i.sender).1 (acceptOwnership_eq_ok_iff.1 hexec).1
  rw [hfirst] at hnominated
  exact exists_nomination_of_nominated hnominated hd

/-! ## What the balancer may do -/

section Balancer

variable {balancer : Address} (h : l.config.balancer = some balancer)

include h

theorem requireOwnerOrBalancer_of_balancer : l.requireOwnerOrBalancer balancer = .ok () :=
  require_of _ (.inr h.symm)

theorem execute_setInterestRate_of_balancer (rate : Int64) :
    ∃ r, l.execute env balancer (.setInterestRate rate)
      = .ok ({ l with config := { l.config with interestRate := rate } }, r) := by
  simp only [execute, setInterestRate, requireOwnerOrBalancer_of_balancer h, ok_bind]
  exact ⟨_, rfl⟩

theorem execute_setArbSpread_of_balancer {spread : Ratio} (bounded : spread.toNat ≤ precision) :
    ∃ r, l.execute env balancer (.setArbSpread spread)
      = .ok ({ l with config := { l.config with arbSpread := spread } }, r) := by
  simp only [execute, setArbSpread, requireOwnerOrBalancer_of_balancer h, require_of _ bounded,
    ok_bind]
  exact ⟨_, rfl⟩

theorem execute_setTargetPrice_of_balancer {current next : Amount} (hcurrent : current ≠ 0)
    (hnext : next ≠ 0) :
    ∃ r, l.execute env balancer (.setTargetPrice current next)
      = .ok ({ l with config := { l.config with currentPrice := current, nextPrice := next } },
        r) := by
  have positive : current ≠ 0 ∧ next ≠ 0 := ⟨hcurrent, hnext⟩
  simp only [execute, setTargetPrice, requireOwnerOrBalancer_of_balancer h, require_of _ positive,
    ok_bind]
  exact ⟨_, rfl⟩

end Balancer

/-! ## Governance along a run -/

/-- From every setup on and after any messages from anyone, the office is held as `HandedOver` says:
    the nominee, and nobody else, may accept, and then holds it and has used the nomination up. So
    between two acceptances there is a nomination of whoever accepts, by the owner of that time. A
    message changes only the fields it names, nothing if it names none, and whoever sends it is the
    owner, or for a shared field the balancer, except when it is a nominee who accepts. Three
    messages the balancer may send indeed. -/
theorem configuration_governed {s : Setup} {l₀ : Ledger} {r₀ : Response}
    (h : setUp env sender s = .ok (l₀, r₀)) (is : List Invocation) :
    let l := l₀.invokeAll is
    let past := l₀.deeds is
    HandedOver l₀.config.owner l past ∧
      (∀ env sender, (∃ l' r, l.execute env sender .acceptOwnership = .ok (l', r))
        ↔ Nominated l.config.owner sender past) ∧
      (∀ earlier d between d' later, past = earlier ++ d :: between ++ d' :: later →
        d.message = .acceptOwnership → d'.message = .acceptOwnership →
          ∃ n ∈ between, n.message = .nominateOwner d'.sender ∧
            n.sender = n.before.config.owner) ∧
      (∀ env sender m l' r, l.execute env sender m = .ok (l', r) →
        (m = .acceptOwnership → l'.config.owner = sender ∧ l'.nominee = none) ∧
        (m.fields = [] → l'.config = l.config) ∧
        ∀ f, ¬ l.config.Same l'.config f → f ∈ m.fields ∧
          ((f = .owner ∧ m = .acceptOwnership) ∨
            (f ≠ .owner ∧ (sender = l.config.owner ∨
              f.Shared ∧ some sender = l.config.balancer)))) ∧
      ∀ env balancer, l.config.balancer = some balancer →
        (∀ rate, ∃ r, l.execute env balancer (.setInterestRate rate)
          = .ok ({ l with config := { l.config with interestRate := rate } }, r)) ∧
        (∀ spread, spread.toNat ≤ precision →
          ∃ r, l.execute env balancer (.setArbSpread spread)
            = .ok ({ l with config := { l.config with arbSpread := spread } }, r)) ∧
        ∀ current next, current ≠ 0 → next ≠ 0 →
          ∃ r, l.execute env balancer (.setTargetPrice current next)
            = .ok ({ l with
                config := { l.config with currentPrice := current, nextPrice := next } }, r) := by
  intro l past
  have office : HandedOver l₀.config.owner l past := HandedOver.of_setUp h is
  refine ⟨office, fun env sender => ?_, ?_, ?_, fun env balancer hbalancer => ?_⟩
  · rw [exists_acceptOwnership_iff, office.nominee sender]
  · intro earlier d between d' later hpast hd hd'
    exact exists_nomination_between h hpast hd hd'
  · intro env sender m l' r hexec
    have hstep := step_of_execute hexec
    refine ⟨?_, hstep.config_eq_of_fields_eq_nil, fun f hf => ?_⟩
    · rintro rfl
      obtain ⟨-, rfl, -⟩ := acceptOwnership_eq_ok_iff.1 hexec
      exact ⟨rfl, rfl⟩
    · have hnamed : f ∈ m.fields := hstep.mem_fields hf
      refine ⟨hnamed, ?_⟩
      by_cases howner : f = .owner
      · subst howner
        exact .inl ⟨rfl, eq_acceptOwnership_of_owner_mem hnamed⟩
      · exact .inr ⟨howner, hstep.authorized hf howner⟩
  · exact ⟨execute_setInterestRate_of_balancer hbalancer,
      fun _ => execute_setArbSpread_of_balancer hbalancer,
      fun _ _ => execute_setTargetPrice_of_balancer hbalancer⟩

/-- An overwritten nomination, a stale acceptance, one that counts, and a later nomination. -/
def handoverRun : List Invocation :=
  [⟨aloneEnv, "owner", .nominateOwner "alice"⟩,
    ⟨aloneEnv, "owner", .nominateOwner "bob"⟩,
    ⟨aloneEnv, "alice", .acceptOwnership⟩,
    ⟨aloneEnv, "bob", .acceptOwnership⟩,
    ⟨aloneEnv, "bob", .acceptOwnership⟩,
    ⟨aloneEnv, "balancer", .setInterestRate 7⟩,
    ⟨aloneEnv, "balancer", .pause⟩,
    ⟨aloneEnv, "bob", .nominateOwner "owner"⟩]

theorem configuration_governed_of_handoverRun :
    ∃ l₀ l l' : Ledger, ∃ r₀ r', l = l₀.invokeAll handoverRun ∧
      setUp aloneEnv "owner" { plainSetup with balancer := some "balancer" } = .ok (l₀, r₀) ∧
      (l₀.deeds handoverRun).map Deed.message = [.nominateOwner "alice", .nominateOwner "bob",
        .acceptOwnership, .setInterestRate 7, .nominateOwner "owner"] ∧
      lastOwner "owner" (l₀.deeds handoverRun) = "bob" ∧ l.config.interestRate = 7 ∧
      Nominated "bob" "owner" (l₀.deeds handoverRun) ∧
      ¬ Nominated "bob" "alice" (l₀.deeds handoverRun) ∧
      l.execute aloneEnv "owner" .acceptOwnership = .ok (l', r') ∧ l'.config.owner = "owner" ∧
      ∃ l'' r'', l.execute aloneEnv "balancer" (.setTargetPrice (.ofNat 5) (.ofNat 6))
        = .ok (l'', r'') ∧ l''.config.currentPrice = .ofNat 5 := by
  have hrun : ∃ l₀ l l' : Ledger, ∃ r₀ r', l = l₀.invokeAll handoverRun ∧
      setUp aloneEnv "owner" { plainSetup with balancer := some "balancer" } = .ok (l₀, r₀) ∧
      (l₀.deeds handoverRun).map Deed.message = [.nominateOwner "alice", .nominateOwner "bob",
        .acceptOwnership, .setInterestRate 7, .nominateOwner "owner"] ∧
      l₀.config.owner = "owner" ∧ l.config.owner = "bob" ∧ l.config.interestRate = 7 ∧
      l.config.balancer = some "balancer" ∧ l.nominee = some "owner" ∧
      l.execute aloneEnv "owner" .acceptOwnership = .ok (l', r') :=
    ⟨_, _, _, _, _, rfl, rfl, rfl, rfl, rfl, rfl, rfl, rfl, rfl⟩
  obtain ⟨l₀, l, l', r₀, r', rfl, hsetUp, hdeeds, hfirst, howner, hrate, hbalancer, hnominee,
    haccept⟩ := hrun
  obtain ⟨office, accepts, -, carries, balances⟩ := configuration_governed hsetUp handoverRun
  rw [howner] at accepts
  obtain ⟨r'', hprice⟩ := (balances aloneEnv "balancer" hbalancer).2.2 (.ofNat 5) (.ofNat 6)
    (by decide) (by decide)
  refine ⟨l₀, _, l', r₀, r', rfl, hsetUp, hdeeds, ?_, hrate, (accepts aloneEnv "owner").1
    ⟨l', r', haccept⟩, fun hstale => ?_, haccept, ((carries _ _ _ _ _ haccept).1 rfl).1, _, _,
    hprice, rfl⟩
  · rw [← hfirst, ← office.owner, howner]
  · obtain ⟨l'', r'', hexec⟩ := (accepts aloneEnv "alice").2 hstale
    have halice := (acceptOwnership_eq_ok_iff.1 hexec).1
    rw [hnominee] at halice
    exact absurd halice (by decide)

end Stablecoin.Ledger
