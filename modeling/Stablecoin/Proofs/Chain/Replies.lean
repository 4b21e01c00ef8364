import Stablecoin.Proofs.Account.Awaited
import Stablecoin.Proofs.Chain.Events

set_option autoImplicit false

/-! # Every reply reads its own record

An account has one place for the record of a swap and one for that of a divestment, and while the
record lies there anybody may be called, the account itself included. Still no reply reads a record
that another operation has left: whatever lies in a place was left by the operation whose reply
comes next under its number (`Attended`). An operation that overwrites a record asks for a reply of
its own, which comes first and clears the place; the reply that was to read the lost record then
finds nothing and fails the transaction.

At the end of a transaction no reply is to come, so nothing is left in either place. -/

namespace Stablecoin.Chain

open Account

variable {σ : Type}

/-! ## Replies among the calls that are to be made -/

/-- The call is the reply to an account under a number. -/
def Call.answers (self : Address) (id : Nat) : Call → Bool
  | .reply contract k => contract = self ∧ k = id
  | _ => false

/-- The next call that is the reply to an account under a number. -/
def nextReply (self : Address) (id : Nat) (pending : List (Pending σ)) : Option (Pending σ) :=
  pending.find? fun p => p.1.answers self id

variable {self : Address} {id : Nat}

theorem Call.answers_reply : (Call.reply self id).answers self id = true := by
  simp [answers]

/-- Where the next calls hold no such reply, it is further down. -/
theorem nextReply_append_of_none {first rest : List (Pending σ)}
    (h : nextReply self id first = none) :
    nextReply self id (first ++ rest) = nextReply self id rest := by
  rw [nextReply, List.find?_append]
  rw [nextReply] at h
  rw [h, Option.none_or, nextReply]

theorem nextReply_append_of_some {first rest : List (Pending σ)} {p : Pending σ}
    (h : nextReply self id first = some p) : nextReply self id (first ++ rest) = some p := by
  rw [nextReply, List.find?_append]
  rw [nextReply] at h
  rw [h, Option.some_or]

theorem nextReply_cons_of_answers {call : Call} {cause : Option (Deed σ)}
    {rest : List (Pending σ)} (h : call.answers self id = true) :
    nextReply self id ((call, cause) :: rest) = some (call, cause) := by
  simp [nextReply, h]

theorem nextReply_cons_of_not_answers {call : Call} {cause : Option (Deed σ)}
    {rest : List (Pending σ)} (h : call.answers self id = false) :
    nextReply self id ((call, cause) :: rest) = nextReply self id rest := by
  simp [nextReply, h]

/-- A reply is on behalf of the account that it goes to. -/
theorem Call.answers_eq_false_of_issuer_ne {call : Call} (h : call.issuer ≠ self) :
    call.answers self id = false := by
  cases call with
  | reply contract k => simp [answers, show contract ≠ self from h]
  | _ => rfl

theorem Call.answers_eq_false_of_entered_ne {call : Call} (h : call.entered ≠ some self) :
    call.answers self id = false := by
  cases call with
  | reply contract k =>
    have hne : contract ≠ self := fun heq => h (congrArg some heq)
    simp [answers, hne]
  | _ => rfl

theorem nextReply_pendingOf_of_foreign (d : Deed σ) {next : List Call}
    (h : ∀ later ∈ next, later.issuer ≠ self) : nextReply self id (pendingOf d next) = none := by
  rw [nextReply, List.find?_eq_none]
  intro p hp
  obtain ⟨call, hcall, rfl⟩ := List.mem_map.1 hp
  simp [Call.answers_eq_false_of_issuer_ne (h call hcall)]

/-- Among the calls that an account makes are the replies that it asks for, and no others. -/
theorem nextReply_pendingOf_callsOf (self : Address) (id : Nat) (d : Deed σ)
    (out : List Outgoing) :
    nextReply self id (pendingOf d (callsOf self out))
      = if id ∈ asked out then some (.reply self id, some d) else none := by
  induction out with
  | nil => rfl
  | cons o rest ih =>
    obtain ⟨action, replyId⟩ := o
    have haction : (Call.ofAction self action).answers self id = false := by cases action <;> rfl
    rw [callsOf_cons, pendingOf, List.map_append, ← pendingOf, ← pendingOf]
    cases replyId with
    | none =>
      rw [nextReply_append_of_none, ih]
      · rfl
      · simp [nextReply, pendingOf, Call.ofOutgoing, haction]
    | some k =>
      by_cases hk : k = id
      · subst hk
        have hhead : nextReply self k (pendingOf d (Call.ofOutgoing self ⟨action, some k⟩))
            = some (.reply self k, some d) := by
          simp [nextReply, pendingOf, Call.ofOutgoing, haction, Call.answers_reply]
        rw [nextReply_append_of_some hhead, if_pos]
        simp [asked]
      · rw [nextReply_append_of_none, ih]
        · simp [asked, Ne.symm hk]
        · have hreply : (Call.reply self k).answers self id = false := by simp [Call.answers, hk]
          simp [nextReply, pendingOf, Call.ofOutgoing, haction, hreply]

/-! ## The invariant -/

/-- The chain as the contract that a deed enters sees it: the contracts as they were before, and the
    money as it is after the funds have been paid. -/
def Deed.seen (d : Deed σ) : Chain σ :=
  { d.chain with bank := d.after.bank }

theorem seen_of_payAll {c c₁ : Chain σ} {sender b : Address} {funds : List Coin} {call : Call}
    {k : Contract σ} (paid : c.payAll sender b funds = .ok c₁) :
    (Deed.mk ⟨c, call⟩ (c₁.put b k)).seen = c₁ := by
  obtain ⟨hcontracts, hnow⟩ := frame_of_payAll paid
  cases c₁
  simp only at hcontracts hnow
  subst hcontracts hnow
  rfl

variable [Outside σ]

/-- The deed is an operation of an account that left a record of its own making: one that holds the
    balance that the account had then. -/
def Deed.Saved (d : Deed σ) (self : Address) (id : Nat) (r : Awaited) : Prop :=
  d.call.entered = some self ∧
    (∃ a, d.chain.account? self = some a ∧ r.Current a (d.seen.env self)) ∧
    ∃ a, d.after.account? self = some a ∧ a.awaited id = some r

/-- The reply reads the record that was saved by the operation whose action is done, and clears
    it. -/
def Event.Consumed (e : Event σ) (self : Address) (id : Nat) : Prop :=
  ∃ d r, e.cause = some d ∧ d.Saved self id r ∧
    (∃ a, e.chain.account? self = some a ∧ a.awaited id = some r) ∧
    ∃ a, e.after.account? self = some a ∧ a.awaited id = none

/-- What lies in either place of an account is what the operation left whose reply comes next. -/
def Attended (self : Address) (c : Chain σ) (pending : List (Pending σ)) : Prop :=
  ∃ a, c.account? self = some a ∧ ∀ id r, a.awaited id = some r →
    ∃ d : Deed σ, nextReply self id pending = some (.reply self id, some d) ∧ d.Saved self id r

/-- Every reply so far has read its own record. -/
def AllConsumed (self : Address) (past : List (Event σ)) : Prop :=
  ∀ e ∈ past, ∀ id, e.call = .reply self id → e.Consumed self id

variable {c c₁ : Chain σ} {a a' : Account} {call : Call} {cause : Option (Deed σ)}
  {next : List Call} {rest : List (Pending σ)} {past : List (Event σ)}

/-- An entry into the account that does to a record what a message does keeps the place attended. -/
theorem attended_of_books {met : Chain σ} {out : List Outgoing} {d : Deed σ} {r : Awaited}
    (entered : d.call.entered = some self) (before : d.chain.account? self = some a)
    (after : d.after.account? self = some a') (seen : d.seen = met)
    (hbooks : Books a (met.env self) id a' out)
    (held : a.awaited id = some r →
      ∃ d : Deed σ, nextReply self id rest = some (.reply self id, some d) ∧ d.Saved self id r)
    (h : a'.awaited id = some r) :
    ∃ d' : Deed σ, nextReply self id (pendingOf d (callsOf self out) ++ rest)
        = some (.reply self id, some d') ∧ d'.Saved self id r := by
  have hnext := nextReply_pendingOf_callsOf self id d out
  cases hbooks with
  | @saved r' asks current holds =>
    rw [if_pos asks] at hnext
    cases h.symm.trans holds
    rw [← seen] at current
    exact ⟨d, nextReply_append_of_some hnext, entered, ⟨a, before, current⟩, a', after, h⟩
  | kept silent same =>
    rw [if_neg silent] at hnext
    rw [nextReply_append_of_none hnext]
    exact held (same ▸ h)

/-- Every call keeps both places attended. -/
theorem attended_of_performs (hp : Performs c call c₁ next)
    (h : Attended self c ((call, cause) :: rest)) :
    Attended self c₁ (pendingOf ⟨⟨c, call⟩, c₁⟩ next ++ rest) := by
  obtain ⟨a, ha, hawaited⟩ := h
  obtain ⟨a', ha', htouches⟩ := touches_of_performs ha hp
  refine ⟨a', ha', fun id r hr => ?_⟩
  have held := hawaited id r
  cases htouches with
  | execute paid decoded step =>
    rw [nextReply_cons_of_not_answers rfl] at held
    exact attended_of_books rfl ha ha' (seen_of_payAll paid) (step.books id) held hr
  | @reply k _ out hears =>
    obtain ⟨-, hcleared, -, hbooks⟩ := hears.consumes
    by_cases hid : id = k
    · -- the place of the reply is empty after it
      subst hid
      rw [hcleared] at hr
      cases hr
    · have hother : (Call.reply self k).answers self id = false := by
        simp [Call.answers, Ne.symm hid]
      rw [nextReply_cons_of_not_answers hother] at held
      exact attended_of_books rfl ha ha' rfl (hbooks id hid) held hr
  | elsewhere other foreign =>
    rw [nextReply_cons_of_not_answers (Call.answers_eq_false_of_entered_ne other)] at held
    rw [nextReply_append_of_none (nextReply_pendingOf_of_foreign _ foreign)]
    exact held hr

/-- A reply that comes next reads what lies in its place. -/
theorem consumed_of_performs (hp : Performs c (.reply self id) c₁ next)
    (h : Attended self c ((.reply self id, cause) :: rest)) :
    (Event.mk ⟨⟨c, .reply self id⟩, c₁⟩ cause).Consumed self id := by
  obtain ⟨a, ha, hawaited⟩ := h
  obtain ⟨a', ha', htouches⟩ := touches_of_performs ha hp
  cases htouches with
  | reply hears =>
    obtain ⟨⟨r, hr⟩, hcleared, -, -⟩ := hears.consumes
    obtain ⟨d, hnext, hsaved⟩ := hawaited id r hr
    rw [nextReply_cons_of_answers Call.answers_reply] at hnext
    obtain ⟨-, hcause⟩ := Prod.mk.inj (Option.some.inj hnext)
    exact ⟨d, r, hcause, hsaved, ⟨a, ha, hr⟩, a', ha', hcleared⟩
  | elsewhere other foreign => exact absurd rfl other

/-! ## Runs -/

/-- A chain at rest, between transactions: nothing is to be made, and nothing lies in either
    place. -/
theorem attended_nil_iff :
    Attended self c [] ↔ ∃ a, c.account? self = some a ∧ a.swap = none ∧ a.divest = none := by
  constructor
  · rintro ⟨a, ha, hawaited⟩
    have hnone : ∀ id, a.awaited id = none := by
      intro id
      cases hr : a.awaited id with
      | none => rfl
      | some r =>
        obtain ⟨d, hnext, -⟩ := hawaited id r hr
        cases hnext
    have hswap := hnone swapReply
    have hdivest := hnone divestReply
    rw [awaited_swapReply, Option.map_eq_none_iff] at hswap
    rw [awaited_divestReply, Option.map_eq_none_iff] at hdivest
    exact ⟨a, ha, hswap, hdivest⟩
  · rintro ⟨a, ha, hswap, hdivest⟩
    refine ⟨a, ha, fun id r hr => ?_⟩
    rw [awaited, hswap, hdivest] at hr
    simp at hr

/-- A transaction that finds both places empty leaves them empty, and its replies read their own
    records. -/
theorem consumed_of_after (t : Transaction) (h : Attended self c [])
    (hpast : AllConsumed self past) :
    Attended self (c.after t) [] ∧ AllConsumed self (past ++ c.eventsOf t) := by
  refine eventsOf_induction (P := fun c pending past => Attended self c pending ∧
    AllConsumed self past) ?_ ?_ ?_
  · rintro c c₁ call cause next rest past hp ⟨hattended, hpast⟩
    refine ⟨attended_of_performs hp hattended, fun e he id hcall => ?_⟩
    rcases List.mem_append.1 he with he | he
    · exact hpast e he id hcall
    · obtain rfl := List.mem_singleton.1 he
      subst hcall
      exact consumed_of_performs hp hattended
  · -- the call that begins a transaction finds both places empty
    obtain ⟨a, ha, hswap, hdivest⟩ := attended_nil_iff.1 h
    refine ⟨⟨a, ha, fun id r hr => ?_⟩, hpast⟩
    rw [awaited, hswap, hdivest] at hr
    simp at hr
  · exact ⟨attended_nil_iff.2 (attended_nil_iff.1 h), hpast⟩

/-- Records never leak. Over every row of transactions, whatever the other contracts do in between:
    an account without a record of a swap or a divestment is without one again after each, and every
    reply that it heard has read and cleared exactly the record that was saved by the operation
    whose action was done. -/
theorem records_consumed (h : c.account? self = some a) (swap : a.swap = none)
    (divest : a.divest = none) (ts : List Transaction) :
    (∃ a', (c.afterAll ts).account? self = some a' ∧ a'.swap = none ∧ a'.divest = none) ∧
      ∀ e ∈ c.eventsAll ts, ∀ id, e.call = .reply self id →
        e.Consumed self id ∧ AskedIn (c.eventsAll ts) e.call e.cause := by
  have hall : Attended self (c.afterAll ts) [] ∧ AllConsumed self (c.eventsAll ts) := by
    have hstart : Attended self c [] := attended_nil_iff.2 ⟨a, h, swap, divest⟩
    clear h swap divest
    induction ts generalizing c with
    | nil => exact ⟨hstart, fun e he => by cases he⟩
    | cons t rest ih =>
      have hempty : AllConsumed self ([] : List (Event σ)) := fun e he => by cases he
      obtain ⟨hattended, hconsumed⟩ := consumed_of_after t hstart hempty
      obtain ⟨hend, hlater⟩ := ih hattended
      refine ⟨hend, fun e he => ?_⟩
      rcases List.mem_append.1 he with he | he
      · exact hconsumed e he
      · exact hlater e he
  refine ⟨attended_nil_iff.1 hall.1, fun e he id hcall => ?_⟩
  exact ⟨hall.2 e he id hcall, askedIn_eventsAll e he⟩

/-- An account that has invested 50, on a chain with a venue that has 100 of the stablecoin. -/
def investedChain : Chain Collaborator :=
  (sampleChain (sampleLedger (.ofNat precision) (.ofNat 100) .empty
      (Holdings.empty.set "venue" (.ofNat 100)) .empty)
    (sampleAccount 0 0 0) (Holdings.empty.set "account" (.ofNat 50))
    (Holdings.empty.set ("backend", "uquote") (.ofNat 50))).put "venue"
    (.outside (.venue "ledger" "uquote" (.ofNat precision)))

/-- Quote currency is taken from the backend, and stablecoin is bought with it when it is there. -/
def boughtRun : List Transaction :=
  [⟨1, "borrower", order "account" "divest"
      [("amount", .amount (.ofNat 10)), ("slippage", .word32 10000)]⟩]

theorem records_consumed_of_boughtRun :
    ((investedChain.eventsAll boughtRun).map fun e => e.call.answers "account" divestReply)
        = [false, false, false, true, false, false, false] ∧
      ((investedChain.eventsAll boughtRun).map fun e => e.call.answers "account" swapReply)
        = [false, false, false, false, false, false, true] ∧
      ∃ a, (investedChain.afterAll boughtRun).account? "account" = some a ∧ a.swap = none ∧
        a.divest = none := by
  refine ⟨by decide +kernel, by decide +kernel, ?_⟩
  have h : investedChain.account? "account" = some (sampleAccount 0 0 0) := rfl
  exact (records_consumed h rfl rfl boughtRun).1

end Stablecoin.Chain
