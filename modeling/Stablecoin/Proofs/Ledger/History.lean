import Mathlib.Algebra.GroupWithZero.Nat
import Mathlib.Data.List.DropRight
import Stablecoin.Proofs.Ledger.Minters

set_option autoImplicit false

/-! # What a ledger has done

A run of messages leaves more behind than the ledger it ends in: `deeds` lists the messages that
were carried out, the earliest first, each with its sender and the ledger it came to. Messages that
failed are not on the list. Laws that speak of all mints and burns so far are laws about a ledger
and such a list, and `deeds_induction` proves them one deed at a time.

The sums and spans of a history that such laws use come after it, each with what one more deed
makes of it. -/

namespace Stablecoin.Ledger

/-- A message that was carried out, by which ledger and for whom. -/
structure Deed where
  before : Ledger
  sender : Address
  message : Message

/-- The messages of a run that a ledger carries out, the earliest first. -/
def deeds (l : Ledger) : List Invocation → List Deed
  | [] => []
  | i :: rest =>
    match l.execute i.env i.sender i.message with
    | .ok (l', _) => ⟨l, i.sender, i.message⟩ :: l'.deeds rest
    | .error _ => l.deeds rest

/-- A law about a ledger and its history that one more deed keeps is kept by every run. -/
theorem deeds_induction {P : Ledger → List Deed → Prop}
    (step : ∀ {l env sender m l' out past}, Step l env sender m l' out → P l past →
      P l' (past ++ [⟨l, sender, m⟩]))
    {l : Ledger} {past : List Deed} (h : P l past) (is : List Invocation) :
    P (l.invokeAll is) (past ++ l.deeds is) := by
  induction is generalizing l past with
  | nil => simpa [invokeAll, deeds] using h
  | cons i rest ih =>
    rw [deeds]
    split
    · rename_i l' r hexec
      have hinvoke : l.invoke i = l' := by rw [invoke, hexec]
      have hnext := ih (step (step_of_execute hexec) h)
      rw [List.append_assoc, List.singleton_append] at hnext
      rw [invokeAll, List.foldl_cons, hinvoke]
      exact hnext
    · rename_i e hexec
      have hinvoke : l.invoke i = l := by rw [invoke, hexec]
      rw [invokeAll, List.foldl_cons, hinvoke]
      exact ih h

theorem deeds_append (l : Ledger) (first second : List Invocation) :
    l.deeds (first ++ second) = l.deeds first ++ (l.invokeAll first).deeds second := by
  induction first generalizing l with
  | nil => rfl
  | cons i rest ih =>
    have hcons : l.invokeAll (i :: rest) = (l.invoke i).invokeAll rest := rfl
    rw [List.cons_append, hcons]
    cases hexec : l.execute i.env i.sender i.message with
    | ok result => simp only [deeds, invoke, hexec, ih, List.cons_append]
    | error e => simp only [deeds, invoke, hexec, ih]

/-- A deed of a run is a message of it that the ledger carried out as the run had left it. -/
theorem exists_of_deeds_eq {l : Ledger} {is : List Invocation} {past later : List Deed} {d : Deed}
    (h : l.deeds is = past ++ d :: later) :
    ∃ first i second l' r, is = first ++ i :: second ∧ l.deeds first = past ∧
      d = ⟨l.invokeAll first, i.sender, i.message⟩ ∧
      (l.invokeAll first).execute i.env i.sender i.message = .ok (l', r) := by
  induction is generalizing l past with
  | nil => simp [deeds] at h
  | cons i rest ih =>
    rw [deeds] at h
    split at h
    · rename_i l' r hexec
      have hinvoke : l.invoke i = l' := by rw [invoke, hexec]
      cases past with
      | nil =>
        cases h
        exact ⟨[], i, rest, l', r, rfl, rfl, rfl, hexec⟩
      | cons d₀ past =>
        obtain ⟨rfl, hrest⟩ := List.cons.inj h
        obtain ⟨first, j, second, l'', r', rfl, rfl, rfl, hlater⟩ := ih hrest
        refine ⟨i :: first, j, second, l'', r', rfl, ?_, ?_, ?_⟩
        · rw [deeds, hexec]
        · rw [invokeAll, invokeAll, List.foldl_cons, hinvoke]
        · rw [invokeAll, List.foldl_cons, hinvoke]
          exact hlater
    · rename_i e hexec
      have hinvoke : l.invoke i = l := by rw [invoke, hexec]
      obtain ⟨first, j, second, l'', r', rfl, rfl, rfl, hlater⟩ := ih h
      refine ⟨i :: first, j, second, l'', r', rfl, ?_, ?_, ?_⟩
      · rw [deeds, hexec]
      · rw [invokeAll, invokeAll, List.foldl_cons, hinvoke]
      · rw [invokeAll, List.foldl_cons, hinvoke]
        exact hlater

/-! ## Sums over a history -/

/-- All that an address has minted. -/
def mintedBy (a : Address) (ds : List Deed) : Nat :=
  (ds.map fun d => if d.sender = a then d.message.issued else 0).sum

/-- All that an address has burned. -/
def burnedBy (a : Address) (ds : List Deed) : Nat :=
  (ds.map fun d => if d.sender = a then d.message.redeemed else 0).sum

theorem mintedBy_concat (a : Address) (ds : List Deed) (d : Deed) :
    mintedBy a (ds ++ [d]) = mintedBy a ds + if d.sender = a then d.message.issued else 0 := by
  simp [mintedBy]

theorem burnedBy_concat (a : Address) (ds : List Deed) (d : Deed) :
    burnedBy a (ds ++ [d]) = burnedBy a ds + if d.sender = a then d.message.redeemed else 0 := by
  simp [burnedBy]

/-- What a deed takes off the counter of the minter it adds. -/
def Deed.forgotten (d : Deed) : Nat :=
  match d.message with
  | .addMinter minter _ => (d.before.minter minter).minted.toNat
  | _ => 0

/-- All that was taken off counters as minters were added again. -/
def forgotten (ds : List Deed) : Nat :=
  (ds.map Deed.forgotten).sum

theorem forgotten_concat (ds : List Deed) (d : Deed) :
    forgotten (ds ++ [d]) = forgotten ds + d.forgotten := by
  simp [forgotten]

/-! ## The time an address has been a minter -/

/-- The message makes an address a minter. -/
def Message.adds (a : Address) : Message → Bool
  | .addMinter minter _ => minter = a
  | _ => false

/-- The deeds after the latest one that made an address a minter. -/
def sinceAdded (a : Address) (ds : List Deed) : List Deed :=
  ds.rtakeWhile fun d => !d.message.adds a

theorem sinceAdded_concat_of_adds {a : Address} (ds : List Deed) {d : Deed}
    (h : d.message.adds a = true) : sinceAdded a (ds ++ [d]) = [] := by
  simp [sinceAdded, h]

theorem sinceAdded_concat_of_not_adds {a : Address} (ds : List Deed) {d : Deed}
    (h : d.message.adds a = false) : sinceAdded a (ds ++ [d]) = sinceAdded a ds ++ [d] := by
  simp [sinceAdded, h]

end Stablecoin.Ledger
