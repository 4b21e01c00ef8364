import Mathlib.Data.List.DropRight
import Stablecoin.Proofs.Account.StatedValue
import Stablecoin.Proofs.Chain.Fee
import Stablecoin.Proofs.Chain.Progress
import Stablecoin.Proofs.Chain.Replies

set_option autoImplicit false

/-! # The stated value along a run

What an account sends to its backend is read off the events of a run (`Event.asked`). From a
statement of the value to the next one, the value that the account goes by is the one that was
stated, with all that was sent along to be invested, less all that was asked back; as long as this
is an amount, and whatever the venue and the backend do. A value that is not stated does not come up
by itself (`stated_value_follows`). -/

namespace Stablecoin.Chain

open Account

variable {σ : Type}

/-! ## What an event makes an account send -/

/-- The action behind a call. -/
def Call.action? : Call → Option Action
  | .execute _ contract message funds => some (.execute contract message funds)
  | .send _ recipient coins => some (.send recipient coins)
  | .reply _ _ => none

theorem filterMap_action?_callsOf (self : Address) (out : List Outgoing) :
    (callsOf self out).filterMap Call.action? = out.map (·.action) := by
  have hone : ∀ o : Outgoing, (Call.ofOutgoing self o).filterMap Call.action? = [o.action] := by
    intro o
    obtain ⟨action, replyId⟩ := o
    cases action <;> cases replyId <;> rfl
  induction out with
  | nil => rfl
  | cons o rest ih => rw [callsOf_cons, List.filterMap_append, hone, ih, List.map_cons]; rfl

/-- The actions that an account asks the chain for when an event enters it. -/
def Event.asked [Outside σ] (e : Event σ) (self : Address) : List Action :=
  if e.call.entered = some self then
    match e.chain.perform e.call with
    | .ok (_, _, next) => next.filterMap Call.action?
    | .error _ => []
  else []

/-- The value that an event states for an account, or that it leaves to the backend. -/
def Event.stated? (e : Event σ) (self : Address) : Option (Option Amount) :=
  (e.message? self).bind Account.Message.stated?

/-! ## Since the value was stated -/

/-- The value that was stated last, or else the one at the start. -/
def statedLast (self : Address) (start : Option Amount) (es : List (Event σ)) : Option Amount :=
  ((es.filterMap fun e => e.stated? self).getLast?).getD start

/-- The events after the one that stated the value last. -/
def sinceStated (self : Address) (es : List (Event σ)) : List (Event σ) :=
  es.rtakeWhile fun e => (e.stated? self).isNone

section Concat

variable {self : Address} {start : Option Amount} {past : List (Event σ)} {e : Event σ}

theorem statedLast_concat_of_stated {value : Option Amount} (h : e.stated? self = some value) :
    statedLast self start (past ++ [e]) = value := by
  simp [statedLast, h]

theorem statedLast_concat_of_quiet (h : e.stated? self = none) :
    statedLast self start (past ++ [e]) = statedLast self start past := by
  simp [statedLast, h]

theorem sinceStated_concat_of_stated {value : Option Amount} (h : e.stated? self = some value) :
    sinceStated self (past ++ [e]) = [] := by
  simp [sinceStated, h]

theorem sinceStated_concat_of_quiet (h : e.stated? self = none) :
    sinceStated self (past ++ [e]) = sinceStated self past ++ [e] := by
  simp [sinceStated, h]

end Concat

variable [Outside σ]

/-- All that an account has sent along to be invested in some events. -/
def investedOver (config : Config) (self : Address) (es : List (Event σ)) : Nat :=
  (es.map fun e => config.investedBy (e.asked self)).sum

/-- All that an account has asked back from its backend in some events. -/
def divestedOver (config : Config) (self : Address) (es : List (Event σ)) : Nat :=
  (es.map fun e => config.divestedBy (e.asked self)).sum

variable {config : Config} {self : Address} {start value stated stated' : Option Amount}
  {c c₁ : Chain σ} {past es : List (Event σ)} {e : Event σ} {call : Call} {next : List Call}
  {cause : Option (Deed σ)} {a a' : Account}

theorem investedOver_concat (config : Config) (self : Address) (es : List (Event σ)) (e : Event σ) :
    investedOver config self (es ++ [e])
      = investedOver config self es + config.investedBy (e.asked self) := by
  simp [investedOver]

theorem divestedOver_concat (config : Config) (self : Address) (es : List (Event σ)) (e : Event σ) :
    divestedOver config self (es ++ [e])
      = divestedOver config self es + config.divestedBy (e.asked self) := by
  simp [divestedOver]

theorem asked_of_performs (cause : Option (Deed σ)) (hp : Performs c call c₁ next)
    (h : call.entered = some self) :
    (⟨⟨⟨c, call⟩, c₁⟩, cause⟩ : Event σ).asked self = next.filterMap Call.action? := by
  obtain ⟨records, hperform⟩ := perform_of_performs hp
  simp only [Event.asked, h, hperform, ↓reduceIte]

theorem asked_of_entered_ne (h : e.call.entered ≠ some self) : e.asked self = [] :=
  if_neg h

/-! ## The invariant -/

/-- What has become of a value over some events: it follows what is sent to the backend as long as
    the sum is an amount all the way, and a value that is not stated stays so. -/
def CarriesOver (config : Config) (self : Address) (value stated : Option Amount)
    (es : List (Event σ)) : Prop :=
  match value with
  | none => stated = none
  | some v =>
    (∀ es', es' <+: es →
      v.toNat + investedOver config self es' < Amount.size + divestedOver config self es') →
    ∃ w, stated = some w ∧
      w.toNat + divestedOver config self es = v.toNat + investedOver config self es

theorem carriesOver_nil (config : Config) (self : Address) (value : Option Amount) :
    CarriesOver config self value value ([] : List (Event σ)) := by
  cases value with
  | none => rfl
  | some v => exact fun _ => ⟨v, rfl, rfl⟩

theorem CarriesOver.concat (h : CarriesOver config self value stated es)
    (hstep : Carries stated stated' (config.investedBy (e.asked self))
      (config.divestedBy (e.asked self))) :
    CarriesOver config self value stated' (es ++ [e]) := by
  cases value with
  | none =>
    obtain rfl : stated = none := h
    exact hstep
  | some v =>
    intro room
    obtain ⟨w, rfl, hw⟩ := h fun es' hes' => room es' (hes'.trans (List.prefix_append _ _))
    have hroom := room (es ++ [e]) (List.prefix_refl _)
    rw [investedOver_concat, divestedOver_concat] at hroom ⊢
    obtain ⟨w', hw', hsum⟩ := hstep.2 (by omega)
    exact ⟨w', hw', by omega⟩

/-- The stated value of an account agrees with the events so far, and every one of them has asked
    back no more than the value that it met. -/
structure StatedAlong (config : Config) (home : Address) (start : Option Amount) (c : Chain σ)
    (past : List (Event σ)) : Prop where
  carried : ∃ a, c.account? home = some a ∧ a.config = config ∧
    CarriesOver config home (statedLast home start past) a.position.statedValue
      (sinceStated home past)
  covered : ∀ e ∈ past, ∀ a v, e.chain.account? home = some a →
    a.position.statedValue = some v → config.divestedBy (e.asked home) ≤ v.toNat

/-- An event that states no value books what it sends. -/
theorem StatedAlong.concat_quiet (h : StatedAlong config self start c past)
    (ha : c.account? self = some a) (ha' : c₁.account? self = some a')
    (hconfig : a'.config = a.config) (hchain : e.chain = c) (quiet : e.stated? self = none)
    (hstep : Carries a.position.statedValue a'.position.statedValue
      (a.config.investedBy (e.asked self)) (a.config.divestedBy (e.asked self))) :
    StatedAlong config self start c₁ (past ++ [e]) := by
  obtain ⟨⟨b, hb, rfl, hcarried⟩, hcovered⟩ := h
  cases ha.symm.trans hb
  refine ⟨⟨a', ha', hconfig, ?_⟩, ?_⟩
  · rw [statedLast_concat_of_quiet quiet, sinceStated_concat_of_quiet quiet]
    exact hcarried.concat hstep
  · intro e' he' x v hx hv
    rcases List.mem_append.1 he' with he' | he'
    · exact hcovered e' he' x v hx hv
    · obtain rfl := List.mem_singleton.1 he'
      rw [hchain] at hx
      cases ha.symm.trans hx
      rw [hv] at hstep
      exact hstep.1

/-- An event that states a value sends nothing. -/
theorem StatedAlong.concat_stated (h : StatedAlong config self start c past)
    (ha' : c₁.account? self = some a') (hconfig : a'.config = config)
    (hstated : e.stated? self = some a'.position.statedValue) (silent : e.asked self = []) :
    StatedAlong config self start c₁ (past ++ [e]) := by
  refine ⟨⟨a', ha', hconfig, ?_⟩, ?_⟩
  · rw [statedLast_concat_of_stated hstated, sinceStated_concat_of_stated hstated]
    exact carriesOver_nil _ _ _
  · intro e' he' x v hx hv
    rcases List.mem_append.1 he' with he' | he'
    · exact h.covered e' he' x v hx hv
    · obtain rfl := List.mem_singleton.1 he'
      rw [silent]
      exact Nat.zero_le _

/-- Every call keeps the agreement. -/
theorem StatedAlong.performs (h : StatedAlong config self start c past)
    (hp : Performs c call c₁ next) :
    StatedAlong config self start c₁ (past ++ [⟨⟨⟨c, call⟩, c₁⟩, cause⟩]) := by
  obtain ⟨a, ha, hconfig, -⟩ := h.carried
  obtain ⟨a', ha', htouches⟩ := touches_of_performs ha hp
  cases htouches with
  | @execute sender message funds c₂ m _ out paid decoded step =>
    have hasked := asked_of_performs cause hp (rfl : _ = some self)
    rw [filterMap_action?_callsOf] at hasked
    have hstated : (⟨⟨⟨c, .execute sender self message funds⟩, c₂.put self (.account a')⟩,
        cause⟩ : Event σ).stated? self = m.stated? := by
      rw [Event.stated?, Event.message?_execute, decoded]
      rfl
    cases hm : m.stated? with
    | some value =>
      obtain ⟨hvalue, hout⟩ := step.of_stated? hm
      refine h.concat_stated ha' (step.config_eq.trans hconfig) ?_ ?_
      · rw [hstated, hm, hvalue]
      · rw [hasked, hout]
        rfl
    | none =>
      refine h.concat_quiet ha ha' step.config_eq rfl (hstated.trans hm) ?_
      rw [hasked]
      exact step.carriesStated hm
  | @reply id _ out hears =>
    have hasked := asked_of_performs cause hp (rfl : _ = some self)
    rw [filterMap_action?_callsOf] at hasked
    refine h.concat_quiet ha ha' hears.config_eq rfl rfl ?_
    rw [hasked]
    exact hears.carriesStated
  | elsewhere other foreign =>
    have hasked : (⟨⟨⟨c, call⟩, c₁⟩, cause⟩ : Event σ).asked self = [] := asked_of_entered_ne other
    refine h.concat_quiet ha ha' rfl rfl ?_ ?_
    · rw [Event.stated?, Event.message?_of_entered_ne other]
      rfl
    · rw [hasked]
      exact carries_refl _

/-! ## Runs -/

theorem StatedAlong.atTime (h : StatedAlong config self start c past) (now : Seconds) :
    StatedAlong config self start (c.atTime now) past :=
  ⟨h.carried, h.covered⟩

theorem StatedAlong.afterAll (h : StatedAlong config self start c past) (ts : List Transaction) :
    StatedAlong config self start (c.afterAll ts) (past ++ c.eventsAll ts) := by
  induction ts generalizing c past with
  | nil =>
    rw [eventsAll, List.append_nil]
    exact h
  | cons t rest ih =>
    have hfirst : StatedAlong config self start (c.after t) (past ++ c.eventsOf t) :=
      eventsOf_induction (P := fun c _ past => StatedAlong config self start c past)
        (fun hp h => h.performs hp) (h.atTime t.time) (h.atTime t.time)
    have hlater := ih hfirst
    rw [List.append_assoc] at hlater
    exact hlater

/-- The stated value follows the money, over every run of transactions: it is what was stated last,
    with all that the account has sent along to be invested since, less all that it has asked back,
    unless this is at some time no amount. If no value is stated, none comes up. And nothing is ever
    asked back that the stated value does not cover, so that it never stops at zero. -/
theorem stated_value_follows (h : c.account? self = some a) (ts : List Transaction) :
    ∃ a', (c.afterAll ts).account? self = some a' ∧ a'.config = a.config ∧
      (statedLast self a.position.statedValue (c.eventsAll ts) = none →
        a'.position.statedValue = none) ∧
      (∀ v, statedLast self a.position.statedValue (c.eventsAll ts) = some v →
        (∀ es, es <+: sinceStated self (c.eventsAll ts) →
          v.toNat + investedOver a.config self es
            < Amount.size + divestedOver a.config self es) →
        ∃ w, a'.position.statedValue = some w ∧
          w.toNat + divestedOver a.config self (sinceStated self (c.eventsAll ts))
            = v.toNat + investedOver a.config self (sinceStated self (c.eventsAll ts))) ∧
      ∀ e ∈ c.eventsAll ts, ∀ b w, e.chain.account? self = some b →
        b.position.statedValue = some w → a.config.divestedBy (e.asked self) ≤ w.toNat := by
  have hstart : StatedAlong a.config self a.position.statedValue c [] :=
    ⟨⟨a, h, rfl, carriesOver_nil _ _ _⟩, fun e he => by cases he⟩
  have hend := hstart.afterAll ts
  rw [List.nil_append] at hend
  obtain ⟨⟨a', ha', hconfig, hcarried⟩, hcovered⟩ := hend
  refine ⟨a', ha', hconfig, ?_, ?_, hcovered⟩
  · intro hnone
    rw [hnone] at hcarried
    exact hcarried
  · intro v hsome
    rw [hsome] at hcarried
    exact hcarried

/-- The account that has invested 50, with 30 of the quote currency besides. -/
def statedChain : Chain Collaborator :=
  investedChain.setBalance "account" "uquote" (.ofNat 30)

/-- The value is stated as 200; then 20 are invested, 10 are taken back to buy stablecoin with them,
    18 are invested, for which stablecoin is sold, and 300 are not there to be taken back. -/
def statedRun : List Transaction :=
  [⟨1, "owner", order "account" "update_value" [("value", .amount (.ofNat 200))]⟩,
    ⟨2, "borrower", order "account" "invest"
      [("amount", .amount (.ofNat 20)), ("slippage", .word32 0)]⟩,
    ⟨3, "borrower", order "account" "divest"
      [("amount", .amount (.ofNat 10)), ("slippage", .word32 10000)]⟩,
    ⟨4, "borrower", order "account" "invest"
      [("amount", .amount (.ofNat 18)), ("slippage", .word32 0)]⟩,
    ⟨5, "borrower", order "account" "divest" [("amount", .amount (.ofNat 300))]⟩]

theorem stated_value_follows_of_statedRun :
    investedOver (sampleAccount 0 0 0).config "account"
        (sinceStated "account" (statedChain.eventsAll statedRun)) = 38 ∧
      divestedOver (sampleAccount 0 0 0).config "account"
        (sinceStated "account" (statedChain.eventsAll statedRun)) = 10 ∧
      ∃ a, (statedChain.afterAll statedRun).account? "account" = some a ∧
        a.position.statedValue = some (.ofNat 228) := by
  have h : statedChain.account? "account" = some (sampleAccount 0 0 0) := rfl
  -- the run is evaluated once, for all that is read off its events
  have hrun : statedLast "account" (sampleAccount 0 0 0).position.statedValue
        (statedChain.eventsAll statedRun) = some (.ofNat 200) ∧
      investedOver (sampleAccount 0 0 0).config "account"
        (sinceStated "account" (statedChain.eventsAll statedRun)) = 38 ∧
      divestedOver (sampleAccount 0 0 0).config "account"
        (sinceStated "account" (statedChain.eventsAll statedRun)) = 10 := by decide +kernel
  obtain ⟨hlast, hinvested, hdivested⟩ := hrun
  obtain ⟨a, ha, -, -, hfollows, -⟩ := stated_value_follows h statedRun
  have hstart : (Amount.ofNat 200).toNat = 200 := rfl
  have hsize : 1000 < Amount.size := by decide
  -- no part of the run invests more than all of it
  obtain ⟨w, hw, hsum⟩ := hfollows _ hlast (by
    rintro es ⟨rest, hrest⟩
    rw [← hrest] at hinvested
    simp only [investedOver, List.map_append, List.sum_append] at hinvested ⊢
    omega)
  refine ⟨hinvested, hdivested, a, ha, ?_⟩
  rw [hw, Option.some.injEq]
  exact Amount.ext (by rw [hinvested, hdivested, hstart] at hsum; show w.toNat = 228; omega)

end Stablecoin.Chain
