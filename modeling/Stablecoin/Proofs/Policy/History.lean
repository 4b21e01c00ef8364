import Mathlib.Data.List.Basic
import Stablecoin.Policy.Basic

set_option autoImplicit false

/-! # What a policy has been told

A policy stores three things: who owns it, how it reads its list, and the list. The messages that it
has carried out say what they are (`Recorded`): an address is listed if the last message that names
it lists it, the owner is the one named last, and the mode is the one it was set up with.

Nothing but the answers depends on the mode. So two policies of opposite modes that are told the
same things keep the same list and give opposite answers (`answers_opposite`). -/

namespace Stablecoin.Policy

variable {p p' : Policy} {sender : Address} {m : Message} {r : Response}

/-! ## Steps -/

/-- What a message makes of a policy that carries it out. -/
inductive Step (p : Policy) (sender : Address) : Message → Policy → Prop where
  | list {a : Address} (governs : sender = p.owner) (valid : Address.validate a = .ok a)
      (unlisted : a ∉ p.listed) : Step p sender (.list a) { p with listed := p.listed ++ [a] }
  | unlist {a : Address} (governs : sender = p.owner) (valid : Address.validate a = .ok a)
      (listed : a ∈ p.listed) :
      Step p sender (.unlist a) { p with listed := p.listed.filter (· ≠ a) }
  | updateOwner {owner : Address} (governs : sender = p.owner)
      (valid : Address.validate owner = .ok owner) :
      Step p sender (.updateOwner owner) { p with owner }

/-- An address is kept as it was named. -/
theorem eq_of_validate {text : String} {a : Address} (h : Address.validate text = .ok a) :
    a = text :=
  (Address.check_eq_ok_iff.1 (mapError_eq_ok_iff.1 h)).1

theorem step_of_execute (h : p.execute sender m = .ok (p', r)) : Step p sender m p' := by
  simp only [execute, bind_eq_ok_iff, require_eq_ok_iff, exists_const] at h
  obtain ⟨governs, h⟩ := h
  cases m with
  | list text =>
    simp only [bind_eq_ok_iff, require_eq_ok_iff, exists_const, liftM, monadLift_eq_ok_iff,
      pure_eq_ok_iff] at h
    obtain ⟨a, valid, unlisted, h⟩ := h
    obtain rfl := eq_of_validate valid
    cases h
    exact .list governs valid unlisted
  | unlist text =>
    simp only [bind_eq_ok_iff, require_eq_ok_iff, exists_const, liftM, monadLift_eq_ok_iff,
      pure_eq_ok_iff] at h
    obtain ⟨a, valid, listed, h⟩ := h
    obtain rfl := eq_of_validate valid
    cases h
    exact .unlist governs valid listed
  | updateOwner text =>
    simp only [bind_eq_ok_iff, liftM, monadLift_eq_ok_iff, pure_eq_ok_iff] at h
    obtain ⟨owner, valid, h⟩ := h
    obtain rfl := eq_of_validate valid
    cases h
    exact .updateOwner governs valid

/-- Nobody but the owner is heard. -/
theorem Step.governs (h : Step p sender m p') : sender = p.owner := by
  cases h <;> assumption

/-- No message changes the mode. -/
theorem Step.mode (h : Step p sender m p') : p'.mode = p.mode := by
  cases h <;> rfl

/-- The owner of a policy lists whoever is not listed, -/
theorem execute_list_eq_error_iff {a : Address} (valid : Address.validate a = .ok a) (e : Error) :
    p.execute p.owner (.list a) = .error e ↔ a ∈ p.listed ∧ e = .alreadyListed := by
  simp only [execute, valid, ok_bind, liftM, monadLift, MonadLift.monadLift, mapError_ok,
    bind_eq_error_iff, require_eq_error_iff, require_eq_ok_iff, not_true, false_and, false_or,
    true_and, exists_const, Decidable.not_not, pure_ne_error, and_false, or_false, @eq_comm _ e]

/-- and takes whoever is listed off the list. -/
theorem execute_unlist_eq_error_iff {a : Address} (valid : Address.validate a = .ok a) (e : Error) :
    p.execute p.owner (.unlist a) = .error e ↔ a ∉ p.listed ∧ e = .notListed := by
  simp only [execute, valid, ok_bind, liftM, monadLift, MonadLift.monadLift, mapError_ok,
    bind_eq_error_iff, require_eq_error_iff, require_eq_ok_iff, not_true, false_and, false_or,
    true_and, exists_const, pure_ne_error, and_false, or_false, @eq_comm _ e]

/-! ## Runs -/

/-- A message on its way to a policy. -/
structure Invocation where
  sender : Address
  message : Message

/-- The policy after a message; one that fails leaves it as it is. -/
def invoke (p : Policy) (i : Invocation) : Policy :=
  match p.execute i.sender i.message with
  | .ok (p', _) => p'
  | .error _ => p

/-- The policy after messages, one after the other. -/
def invokeAll (p : Policy) (is : List Invocation) : Policy :=
  is.foldl invoke p

/-- The messages of a run that a policy carries out, the earliest first. -/
def carriedOut (p : Policy) : List Invocation → List Message
  | [] => []
  | i :: rest =>
    match p.execute i.sender i.message with
    | .ok (p', _) => i.message :: p'.carriedOut rest
    | .error _ => p.carriedOut rest

/-- A law about a policy and what it has been told that one more message keeps is kept by every
    run. -/
theorem carriedOut_induction {P : Policy → List Message → Prop}
    (step : ∀ {p sender m p' past}, Step p sender m p' → P p past → P p' (past ++ [m]))
    {p : Policy} {past : List Message} (h : P p past) (is : List Invocation) :
    P (p.invokeAll is) (past ++ p.carriedOut is) := by
  induction is generalizing p past with
  | nil => simpa [invokeAll, carriedOut] using h
  | cons i rest ih =>
    rw [carriedOut, invokeAll, List.foldl_cons, invoke]
    split
    · rename_i p' r hexec
      have hnext := ih (step (step_of_execute hexec) h)
      rwa [List.append_assoc, List.singleton_append] at hnext
    · exact ih h

/-! ## The record -/

/-- The message puts an address on the list or takes it off. -/
def Message.names (a : Address) : Message → Bool
  | .list b | .unlist b => b = a
  | .updateOwner _ => false

/-- The owner whom a message names. -/
def Message.owner? : Message → Option Address
  | .updateOwner owner => some owner
  | _ => none

/-- The last message that put an address on the list or took it off. -/
def lastNaming (a : Address) (past : List Message) : Option Message :=
  (past.filter (Message.names a)).getLast?

/-- The owner who was named last, or else the first owner. -/
def lastOwner (first : Address) (past : List Message) : Address :=
  (past.filterMap Message.owner?).getLast?.getD first

theorem lastNaming_concat (a : Address) (past : List Message) (m : Message) :
    lastNaming a (past ++ [m]) = if m.names a then some m else lastNaming a past := by
  unfold lastNaming
  split <;> simp_all

theorem lastOwner_concat (first : Address) (past : List Message) (m : Message) :
    lastOwner first (past ++ [m]) = m.owner?.getD (lastOwner first past) := by
  unfold lastOwner
  cases hm : m.owner? <;> simp [hm]

/-- What a policy stores, in terms of what it was told since it was set up. -/
structure Recorded (first : Address) (mode : Mode) (p : Policy) (past : List Message) : Prop where
  listed (a : Address) : a ∈ p.listed ↔ lastNaming a past = some (.list a)
  owner : p.owner = lastOwner first past
  mode : p.mode = mode

theorem Recorded.step {first : Address} {mode : Mode} {past : List Message}
    (hp : Recorded first mode p past) (h : Step p sender m p') :
    Recorded first mode p' (past ++ [m]) where
  listed b := by
    rw [lastNaming_concat]
    cases h with
    | @list a governs valid unlisted =>
      by_cases hab : a = b
      · simp [Message.names, hab]
      · simp [Message.names, hab, Ne.symm hab, hp.listed b]
    | @unlist a governs valid listed =>
      by_cases hab : a = b
      · simp [Message.names, hab]
      · simp [Message.names, hab, Ne.symm hab, hp.listed b]
    | updateOwner => exact hp.listed b
  owner := by
    rw [lastOwner_concat]
    cases h with
    | updateOwner => rfl
    | _ => exact hp.owner
  mode := h.mode.trans hp.mode

/-- A new policy has the mode that it was set up with and the owner that was named, or else the
    sender. -/
theorem setUp_eq_ok_iff {s : Setup} : setUp sender s = .ok (p, r) ↔
    (∀ owner ∈ s.owner, Address.validate owner = .ok owner) ∧
      p = ⟨s.owner.getD sender, s.mode, []⟩ ∧
      r = { attributes := [("method", "instantiate"), ("owner", s.owner.getD sender),
        ("mode", s.mode.describe)] } := by
  unfold setUp
  cases hs : s.owner with
  | none => simp [@eq_comm _ p, @eq_comm _ r]
  | some owner =>
    simp only [bind_eq_ok_iff, liftM, monadLift_eq_ok_iff, pure_eq_ok_iff, Prod.mk.injEq,
      Option.mem_some_iff, Option.getD_some, forall_eq']
    constructor
    · rintro ⟨a, valid, rfl, rfl⟩
      obtain rfl := eq_of_validate valid
      exact ⟨valid, rfl, rfl⟩
    · rintro ⟨valid, rfl, rfl⟩
      exact ⟨owner, valid, rfl, rfl⟩

theorem recorded_of_setUp {s : Setup} (h : setUp sender s = .ok (p, r)) (is : List Invocation) :
    Recorded (s.owner.getD sender) s.mode (p.invokeAll is) (p.carriedOut is) := by
  obtain ⟨-, rfl, -⟩ := setUp_eq_ok_iff.1 h
  have hnew : Recorded (s.owner.getD sender) s.mode ⟨s.owner.getD sender, s.mode, []⟩ [] :=
    ⟨fun a => by simp [lastNaming], rfl, rfl⟩
  have hrun := carriedOut_induction (P := Recorded (s.owner.getD sender) s.mode)
    (fun hstep hp => hp.step hstep) hnew is
  rwa [List.nil_append] at hrun

/-! ## The mode -/

/-- The policy in another mode. -/
def withMode (p : Policy) (mode : Mode) : Policy :=
  { p with mode }

/-- What a policy does with a message does not depend on its mode. -/
theorem execute_withMode (p : Policy) (mode : Mode) (sender : Address) (m : Message) :
    (p.withMode mode).execute sender m
      = (fun r => (r.1.withMode mode, r.2)) <$> p.execute sender m := by
  simp only [execute, map_bind]
  refine bind_congr fun _ => ?_
  cases m <;> simp only [map_bind, map_pure] <;> rfl

theorem invokeAll_withMode (p : Policy) (mode : Mode) (is : List Invocation) :
    (p.withMode mode).invokeAll is = (p.invokeAll is).withMode mode := by
  induction is generalizing p with
  | nil => rfl
  | cons i rest ih =>
    have hinvoke : (p.withMode mode).invoke i = (p.invoke i).withMode mode := by
      rw [invoke, invoke, execute_withMode]
      cases p.execute i.sender i.message <;> rfl
    rw [invokeAll, List.foldl_cons, hinvoke]
    exact ih (p.invoke i)

theorem query_isAllowed {a : Address} (valid : Address.validate a = .ok a) :
    p.query (.isAllowed a) = .ok (.bool (p.allows a)) := by
  simp only [query, valid, ok_bind]
  rfl

theorem allows_withMode {mode : Mode} (other : mode ≠ p.mode) (a : Address) :
    (p.withMode mode).allows a = !p.allows a := by
  obtain ⟨owner, mode', listed⟩ := p
  cases mode <;> cases mode'
  · exact absurd rfl other
  · rfl
  · exact (Bool.not_not _).symm
  · exact absurd rfl other

/-- Two policies that are set up in different modes and are told the same things by the same senders
    give opposite answers. -/
theorem answers_opposite {s : Setup} (h : setUp sender s = .ok (p, r)) {mode : Mode}
    (other : mode ≠ s.mode) : ∃ q r', setUp sender { s with mode } = .ok (q, r') ∧
      ∀ (is : List Invocation) (a : Address), Address.validate a = .ok a →
        ∃ answer, (p.invokeAll is).query (.isAllowed a) = .ok (.bool answer) ∧
          (q.invokeAll is).query (.isAllowed a) = .ok (.bool !answer) := by
  have hmode (is : List Invocation) : (p.invokeAll is).mode = s.mode :=
    (recorded_of_setUp h is).mode
  obtain ⟨valid, rfl, -⟩ := setUp_eq_ok_iff.1 h
  refine ⟨withMode ⟨s.owner.getD sender, s.mode, []⟩ mode, _, setUp_eq_ok_iff.2 ⟨valid, rfl, rfl⟩,
    fun is a ha => ⟨_, query_isAllowed ha, ?_⟩⟩
  rw [invokeAll_withMode, query_isAllowed ha, allows_withMode (by rwa [hmode is])]

end Stablecoin.Policy
