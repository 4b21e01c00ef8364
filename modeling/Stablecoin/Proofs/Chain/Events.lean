import Stablecoin.Proofs.Chain.Joint

set_option autoImplicit false

/-! # Events of a chain

A trace says which calls were carried out and which chains they met. An event says more: the chain
that the call left, and the deed whose response asked for the call (`Event.cause`). Replies can so
be told apart by the operation that they answer. A law about a chain and the events so far is proved
one call at a time (`eventsOf_induction`).

The last section reads one event from the point of view of a single account (`Touches`). -/

namespace Stablecoin.Chain

variable {σ : Type}

/-- A call that was carried out, and the chain that it left. -/
structure Deed (σ : Type) extends Moment σ where
  after : Chain σ

/-- A deed, and the deed whose response asked for it; a call from outside has none. -/
structure Event (σ : Type) extends Deed σ where
  cause : Option (Deed σ)

/-- A call that is still to be made, and the deed that asked for it. -/
abbrev Pending (σ : Type) : Type := Call × Option (Deed σ)

/-- The calls that a deed asks for. -/
def pendingOf (d : Deed σ) (next : List Call) : List (Pending σ) :=
  next.map fun call => (call, some d)

theorem map_fst_pendingOf_append (d : Deed σ) (next : List Call) (rest : List (Pending σ)) :
    (pendingOf d next ++ rest).map Prod.fst = next ++ rest.map Prod.fst := by
  simp [pendingOf, Function.comp_def]

variable [Outside σ]

/-- The events of calls that are worked off within a limit. -/
def events : Nat → Chain σ → List (Pending σ) → List (Event σ)
  | _, _, [] => []
  | 0, _, _ :: _ => []
  | limit + 1, c, (call, cause) :: rest =>
    match c.perform call with
    | .ok (c₁, _, next) =>
      ⟨⟨⟨c, call⟩, c₁⟩, cause⟩ :: events limit c₁ (pendingOf ⟨⟨c, call⟩, c₁⟩ next ++ rest)
    | .error _ => []

/-- The events of a transaction, none if it fails. -/
def eventsOf (c : Chain σ) (t : Transaction) : List (Event σ) :=
  match (c.atTime t.time).transact t.call with
  | .ok _ => events callLimit (c.atTime t.time) [(t.call, none)]
  | .error _ => []

/-- The events of transactions, one after the other. -/
def eventsAll (c : Chain σ) : List Transaction → List (Event σ)
  | [] => []
  | t :: ts => c.eventsOf t ++ (c.after t).eventsAll ts

/-! ## Events and traces -/

/-- Calls that complete have one event each. -/
theorem map_toMoment_events {limit : Nat} {c c' : Chain σ} {pending : List (Pending σ)}
    {records : List Record} (h : run limit c (pending.map Prod.fst) = .ok (c', records)) :
    (events limit c pending).map (·.toMoment) = trace limit c (pending.map Prod.fst) := by
  induction limit generalizing c pending records with
  | zero =>
    cases pending with
    | nil => rfl
    | cons p rest => cases h
  | succ limit ih =>
    cases pending with
    | nil => rfl
    | cons p rest =>
      obtain ⟨call, cause⟩ := p
      simp only [List.map_cons, run, bind_eq_ok_iff, pure_eq_ok_iff] at h
      obtain ⟨⟨c₁, rs, next⟩, hperform, ⟨c₂, later⟩, hrun, hc⟩ := h
      cases hc
      rw [← map_fst_pendingOf_append ⟨⟨c, call⟩, c₁⟩] at hrun
      have hlater := ih hrun
      rw [map_fst_pendingOf_append] at hlater
      simp only [events, trace, hperform, List.map_cons, hlater]

/-- The events of transactions are those of their traces. -/
theorem map_toMoment_eventsAll (c : Chain σ) (ts : List Transaction) :
    (c.eventsAll ts).map (·.toMoment) = c.traceAll ts := by
  induction ts generalizing c with
  | nil => rfl
  | cons t rest ih =>
    rw [eventsAll, traceAll, List.map_append, ih, eventsOf, traceOf]
    cases h : (c.atTime t.time).transact t.call with
    | ok x =>
      have hrun : run callLimit (c.atTime t.time) ([((t.call, none) : Pending σ)].map Prod.fst)
          = .ok x := h
      exact congrArg (· ++ _) (map_toMoment_events hrun)
    | error e => rfl

/-! ## Induction over events -/

section Induction

variable {P : Chain σ → List (Pending σ) → List (Event σ) → Prop}
  (step : ∀ {c c₁ call cause next rest past}, Performs c call c₁ next →
    P c ((call, cause) :: rest) past →
    P c₁ (pendingOf ⟨⟨c, call⟩, c₁⟩ next ++ rest) (past ++ [⟨⟨⟨c, call⟩, c₁⟩, cause⟩]))

include step

/-- A law about a chain, the calls that it still has to make and the events so far, which every call
    keeps, holds at the end of every run. -/
theorem events_induction {limit : Nat} {c c' : Chain σ} {pending : List (Pending σ)}
    {past : List (Event σ)} {records : List Record} (h : P c pending past)
    (hrun : run limit c (pending.map Prod.fst) = .ok (c', records)) :
    P c' [] (past ++ events limit c pending) := by
  induction limit generalizing c pending past records with
  | zero =>
    cases pending with
    | nil =>
      cases hrun
      simpa [events] using h
    | cons p rest => cases hrun
  | succ limit ih =>
    cases pending with
    | nil =>
      cases hrun
      simpa [events] using h
    | cons p rest =>
      obtain ⟨call, cause⟩ := p
      simp only [List.map_cons, run, bind_eq_ok_iff, pure_eq_ok_iff] at hrun
      obtain ⟨⟨c₁, rs, next⟩, hperform, ⟨c₂, later⟩, hrun, hc⟩ := hrun
      cases hc
      rw [← map_fst_pendingOf_append ⟨⟨c, call⟩, c₁⟩] at hrun
      have hlater := ih (step (performs_of_perform hperform) h) hrun
      rw [List.append_assoc, List.singleton_append] at hlater
      simp only [events, hperform]
      exact hlater

/-- So it holds after a transaction, if it holds of the call that begins it and of no call. -/
theorem eventsOf_induction {c : Chain σ} {t : Transaction} {past : List (Event σ)}
    (begun : P (c.atTime t.time) [(t.call, none)] past) (idle : P (c.atTime t.time) [] past) :
    P (c.after t) [] (past ++ c.eventsOf t) := by
  unfold after eventsOf
  cases h : (c.atTime t.time).transact t.call with
  | ok x => exact events_induction step begun h
  | error e => simpa using idle

end Induction

/-! ## Causes -/

/-- A call was asked for by a deed among some events: it is one of the calls that the deed led
    to. -/
def AskedIn (es : List (Event σ)) (call : Call) (cause : Option (Deed σ)) : Prop :=
  ∀ d, cause = some d →
    (∃ e ∈ es, e.toDeed = d) ∧ ∃ next, Performs d.chain d.call d.after next ∧ call ∈ next

theorem AskedIn.mono {es es' : List (Event σ)} {call : Call} {cause : Option (Deed σ)}
    (h : AskedIn es call cause) (hsub : es ⊆ es') : AskedIn es' call cause := by
  intro d hd
  obtain ⟨⟨e, he, hdeed⟩, hnext⟩ := h d hd
  exact ⟨⟨e, hsub he, hdeed⟩, hnext⟩

/-- The cause of an event in a transaction is an event of the transaction. -/
theorem askedIn_eventsOf {c : Chain σ} {t : Transaction} :
    ∀ e ∈ c.eventsOf t, AskedIn (c.eventsOf t) e.call e.cause := by
  -- what holds of the events so far also holds of the calls that are still to be made
  suffices h : (∀ p ∈ ([] : List (Pending σ)), AskedIn ([] ++ c.eventsOf t) p.1 p.2) ∧
      ∀ e ∈ [] ++ c.eventsOf t, AskedIn ([] ++ c.eventsOf t) e.call e.cause from h.2
  refine eventsOf_induction (P := fun _ pending past => (∀ p ∈ pending, AskedIn past p.1 p.2) ∧
    ∀ e ∈ past, AskedIn past e.call e.cause) ?_ ?_ ?_
  · rintro c c₁ call cause next rest past hp ⟨hpending, hpast⟩
    have hsub : past ⊆ past ++ [⟨⟨⟨c, call⟩, c₁⟩, cause⟩] := List.subset_append_left _ _
    constructor
    · intro p hmem
      rcases List.mem_append.1 hmem with hnew | hold
      · obtain ⟨later, hlater, rfl⟩ := List.mem_map.1 hnew
        rintro d ⟨⟩
        exact ⟨⟨_, List.mem_append_right _ (List.mem_singleton_self _), rfl⟩, next, hp, hlater⟩
      · exact (hpending p (List.mem_cons_of_mem _ hold)).mono hsub
    · intro e he
      rcases List.mem_append.1 he with hold | hnew
      · exact (hpast e hold).mono hsub
      · obtain rfl := List.mem_singleton.1 hnew
        exact (hpending _ (List.mem_cons_self ..)).mono hsub
  · -- nobody has asked for the call that begins the transaction
    constructor
    · intro p hmem
      obtain rfl := List.mem_singleton.1 hmem
      rintro d ⟨⟩
    · intro e he
      cases he
  · constructor
    · intro p hmem
      cases hmem
    · intro e he
      cases he

theorem askedIn_eventsAll {c : Chain σ} {ts : List Transaction} :
    ∀ e ∈ c.eventsAll ts, AskedIn (c.eventsAll ts) e.call e.cause := by
  induction ts generalizing c with
  | nil =>
    intro e he
    cases he
  | cons t rest ih =>
    intro e he
    rw [eventsAll] at he ⊢
    rcases List.mem_append.1 he with he | he
    · exact (askedIn_eventsOf e he).mono (List.subset_append_left _ _)
    · exact (ih e he).mono (List.subset_append_right _ _)

/-! ## One account -/

omit [Outside σ]

/-- The account at an address. -/
def account? (c : Chain σ) (a : Address) : Option Account :=
  match c.contract? a with
  | some (.account x) => some x
  | _ => none

theorem account?_eq_some_iff {c : Chain σ} {a : Address} {x : Account} :
    c.account? a = some x ↔ c.contract? a = some (.account x) := by
  unfold account?
  split
  · rename_i y hy
    rw [hy]
    simp
  · rename_i hother
    constructor
    · intro h
      cases h
    · intro h
      exact absurd h (hother x)

theorem Joint.account?_eq {c : Chain σ} {self : Address} {a : Account} {l : Ledger}
    (h : Joint c self a l) : c.account? self = some a :=
  account?_eq_some_iff.2 h.account

theorem account?_put_self (c : Chain σ) (self : Address) (a : Account) :
    (c.put self (.account a)).account? self = some a :=
  account?_eq_some_iff.2 (contract?_put_self c self _)

theorem account?_put_of_ne (c : Chain σ) {b self : Address} (k : Contract σ) (h : b ≠ self) :
    (c.put b k).account? self = c.account? self := by
  rw [account?, contract?_put_of_ne c k h, account?]

theorem account?_of_payAll {c c' : Chain σ} {payer payee : Address} {coins : List Coin}
    (h : c.payAll payer payee coins = .ok c') (b : Address) : c'.account? b = c.account? b := by
  rw [account?, contract?_of_payAll h, account?]

/-- The contract that a call enters. -/
def Call.entered : Call → Option Address
  | .execute _ contract _ _ => some contract
  | .reply contract _ => some contract
  | .send _ _ _ => none

variable [Outside σ]

/-- What a call may do to the account at an address, and what calls may follow from it. -/
inductive Touches (c : Chain σ) (self : Address) (a : Account) :
    Call → Chain σ → Account → List Call → Prop where
  | execute {sender : Address} {message : Json} {funds : List Coin} {c₁ : Chain σ}
      {m : Account.Message} {a' : Account} {out : List Outgoing}
      (paid : c.payAll sender self funds = .ok c₁)
      (decoded : Account.Message.ofJson? message = some m)
      (step : a.Step (c₁.env self) sender m a' out) :
      Touches c self a (.execute sender self message funds) (c₁.put self (.account a')) a'
        (callsOf self out)
  | reply {id : Nat} {a' : Account} {out : List Outgoing} (hears : a.Hears (c.env self) id a' out) :
      Touches c self a (.reply self id) (c.put self (.account a')) a' (callsOf self out)
  | elsewhere {call : Call} {c' : Chain σ} {next : List Call} (other : call.entered ≠ some self)
      (foreign : ∀ later ∈ next, later.issuer ≠ self) : Touches c self a call c' a next

/-- Whatever is called, the account is still there after it, and `Touches` says what has become of
    it. -/
theorem touches_of_performs {c c' : Chain σ} {self : Address} {a : Account} {call : Call}
    {next : List Call} (h : c.account? self = some a) (hp : Performs c call c' next) :
    ∃ a', c'.account? self = some a' ∧ Touches c self a call c' a' next := by
  -- another contract leaves the account alone, and is behind all that it calls itself
  have hforeign : ∀ {b : Address} {out : List Outgoing}, b ≠ self →
      ∀ later ∈ callsOf b out, later.issuer ≠ self := by
    intro b out hb later hlater
    rw [issuer_of_mem_callsOf hlater]
    exact hb
  cases hp with
  | @execute sender b message funds k k' c₁ r found paid entered =>
    by_cases hself : b = self
    · subst hself
      rw [account?_eq_some_iff.1 h] at found
      cases found
      obtain ⟨m, a', decoded, step, rfl⟩ := Contract.step_of_execute_account entered
      exact ⟨a', account?_put_self c₁ b a', .execute paid decoded step⟩
    · refine ⟨a, ?_, .elsewhere (fun hb => hself (Option.some.inj hb)) (hforeign hself)⟩
      rw [account?_put_of_ne c₁ k' hself, account?_of_payAll paid, h]
  | @reply b id k k' r found heard =>
    by_cases hself : b = self
    · subst hself
      rw [account?_eq_some_iff.1 h] at found
      cases found
      obtain ⟨a', hears, rfl⟩ := Contract.hears_of_reply_account heard
      exact ⟨a', account?_put_self c b a', .reply hears⟩
    · refine ⟨a, ?_, .elsewhere (fun hb => hself (Option.some.inj hb)) (hforeign hself)⟩
      rw [account?_put_of_ne c k' hself, h]
  | @send sender recipient coins c₁ paid =>
    refine ⟨a, ?_, .elsewhere (by simp [Call.entered]) (by simp)⟩
    rw [account?_of_payAll paid, h]

end Stablecoin.Chain
