import Stablecoin.Proofs.Chain.Events

set_option autoImplicit false

/-! # Calls that go through

`Completes` says that calls are carried out to their end: whatever the limit on calls, as long as it
is at least so high, and as long as each of the calls meets a condition when it is its turn
(`turns`), with all that comes of the ones before it worked off. The condition is how something can
be assumed of contracts from outside at just the moments when it matters; nothing is assumed of what
they call in between. Calls complete one after the other (`Completes.step`, `Completes.of_run`). -/

namespace Stablecoin.Chain

variable {σ : Type} [Outside σ] {c c₁ d : Chain σ} {call : Call} {calls next rest : List Call}

/-- What can be carried out is carried out. -/
theorem perform_of_performs (h : Performs c call c₁ next) :
    ∃ records, c.perform call = .ok (c₁, records, next) := by
  cases h with
  | @execute sender b message funds k k' c₂ r found paid entered =>
    have found₂ : c₂.contract? b = some k := (contract?_of_payAll paid b).trans found
    have hsome : (c.contract? b).isSome = true := by rw [found]; rfl
    simp only [perform, execute, require_of _ hsome, paid, enter, found₂, entered, mapError_ok,
      ok_bind]
    exact ⟨_, rfl⟩
  | @reply b id k k' r found heard =>
    simp only [perform, reply, enter, found, heard, mapError_ok, ok_bind]
    exact ⟨_, rfl⟩
  | @send sender recipient coins c₂ paid =>
    simp only [perform, paid, ok_bind]
    exact ⟨_, rfl⟩

/-- A call that can be carried out begins a run, if there is one from where it leads to. -/
theorem run_of_performs {limit : Nat} {records : List Record} (h : Performs c call c₁ next)
    (hrun : run limit c₁ (next ++ rest) = .ok (d, records)) :
    ∃ records', run (limit + 1) c (call :: rest) = .ok (d, records') := by
  obtain ⟨first, hperform⟩ := perform_of_performs h
  simp only [run, hperform, hrun, ok_bind]
  exact ⟨_, rfl⟩

/-- What follows on calls that have been worked off is worked off with what they leave of the
    limit. -/
theorem run_append {limit : Nat} {records : List Record}
    (h : run limit c calls = .ok (d, records)) :
    ∃ used, used ≤ limit ∧ ∀ limit' rest c' later, used ≤ limit' →
      run (limit' - used) d rest = .ok (c', later) →
      ∃ records', run limit' c (calls ++ rest) = .ok (c', records') := by
  induction limit generalizing c calls records with
  | zero =>
    cases calls with
    | nil =>
      cases h
      exact ⟨0, Nat.le_refl _, fun limit' rest c' later _ hrun => ⟨later, hrun⟩⟩
    | cons call calls => cases h
  | succ limit ih =>
    cases calls with
    | nil =>
      cases h
      exact ⟨0, Nat.zero_le _, fun limit' rest c' later _ hrun => ⟨later, hrun⟩⟩
    | cons call calls =>
      simp only [run, bind_eq_ok_iff, pure_eq_ok_iff] at h
      obtain ⟨⟨c₁, rs, next⟩, hperform, ⟨c₂, first⟩, hrun, h⟩ := h
      cases h
      obtain ⟨used, hused, hrest⟩ := ih hrun
      refine ⟨used + 1, Nat.succ_le_succ hused, fun limit' rest c' later hlimit hlater => ?_⟩
      obtain ⟨k, rfl⟩ : ∃ k, limit' = k + 1 := ⟨limit' - 1, by omega⟩
      rw [Nat.add_sub_add_right] at hlater
      obtain ⟨records', hall⟩ := hrest k rest c' later (by omega) hlater
      rw [List.append_assoc] at hall
      simp only [List.cons_append, run, hperform, hall, ok_bind]
      exact ⟨_, rfl⟩

/-- A higher limit is enough, too. -/
theorem run_mono {limit limit' : Nat} {records : List Record}
    (h : run limit c calls = .ok (d, records)) (hle : limit ≤ limit') :
    ∃ records', run limit' c calls = .ok (d, records') := by
  obtain ⟨used, hused, happend⟩ := run_append h
  have hnil : run (limit' - used) d [] = .ok (d, []) := by cases limit' - used <;> rfl
  have hall := happend limit' [] d [] (Nat.le_trans hused hle) hnil
  rwa [List.append_nil] at hall

/-! ## Turns -/

/-- Calls, each with the chain that it meets when it is its turn: when all that comes of the ones
    before it has been worked off. -/
def turns (c : Chain σ) : List Call → List (Moment σ)
  | [] => []
  | call :: rest =>
    ⟨c, call⟩ :: match c.transact call with
      | .ok (d, _) => d.turns rest
      | .error _ => []

/-- The calls that a call itself asks for, each with the chain that it meets. -/
def turnsOf (c : Chain σ) (call : Call) : List (Moment σ) :=
  match c.perform call with
  | .ok (c₁, _, next) => c₁.turns next
  | .error _ => []

/-- Calls complete, given so many calls or more, if each of them meets a condition in its turn. -/
def Completes (P : Moment σ → Prop) (needed : Nat) (c : Chain σ) (calls : List Call) : Prop :=
  ∀ limit, needed ≤ limit → (∀ m ∈ c.turns calls, P m) →
    ∃ c' records, run limit c calls = .ok (c', records)

namespace Completes

variable {P : Moment σ → Prop} {needed needed' : Nat}

theorem nil : Completes P 0 c [] :=
  fun limit _ _ => ⟨c, [], by cases limit <;> rfl⟩

theorem mono (h : Completes P needed c calls) (hle : needed ≤ needed') :
    Completes P needed' c calls :=
  fun limit hlimit => h limit (Nat.le_trans hle hlimit)

/-- A call that completes by itself, and all that is to be done after it. -/
theorem of_run {limit : Nat} (hle : limit ≤ callLimit) (h : P ⟨c, call⟩ → ∃ d records,
    run limit c [call] = .ok (d, records) ∧ Completes P needed d rest) :
    Completes P (limit + needed) c (call :: rest) := by
  intro limit' hlimit hP
  obtain ⟨d, records, hrun, hrest⟩ := h (hP _ (List.mem_cons_self ..))
  obtain ⟨all, htransact⟩ : ∃ all, c.transact call = .ok (d, all) := run_mono hrun hle
  simp only [turns, htransact] at hP
  obtain ⟨used, hused, happend⟩ := run_append hrun
  obtain ⟨c', later, hlater⟩ := hrest (limit' - used) (by omega) fun m hm =>
    hP m (List.mem_cons_of_mem _ hm)
  exact ⟨c', happend limit' rest c' later (by omega) hlater⟩

/-- A call that nothing follows from, and all that is to be done after it. -/
theorem step (h : P ⟨c, call⟩ → ∃ d, Performs c call d [] ∧ Completes P needed d rest) :
    Completes P (needed + 1) c (call :: rest) := by
  rw [Nat.add_comm]
  refine of_run (by decide) fun hP => ?_
  obtain ⟨d, hperforms, hrest⟩ := h hP
  have hnil : run 0 d ([] ++ []) = .ok (d, []) := rfl
  obtain ⟨records, hrun⟩ := run_of_performs hperforms hnil
  exact ⟨d, records, hrun, hrest⟩

end Completes

/-- A call can be carried out and all that it asks for completes, so the transaction does. -/
theorem transact_of_completes {P : Moment σ → Prop} {needed : Nat} (h : Performs c call c₁ next)
    (hneeded : needed < callLimit) (later : Completes P needed c₁ next)
    (granted : ∀ m ∈ c.turnsOf call, P m) : ∃ c' records, c.transact call = .ok (c', records) := by
  obtain ⟨first, hperform⟩ := perform_of_performs h
  simp only [turnsOf, hperform] at granted
  obtain ⟨c', records, hrun⟩ := later (callLimit - 1) (by omega) granted
  rw [← List.append_nil next] at hrun
  exact ⟨c', run_of_performs h hrun⟩

end Stablecoin.Chain
