import Stablecoin.Proofs.Ledger.History

set_option autoImplicit false

/-! # Minter accounting

The counter of a minter is what the minter has minted less what it has burned since it was last
added, and it stays within the cap, whatever is done to caps, listings and other minters meanwhile.
The counters of all minters add up to the supply, short of what was on the counters of minters that
were removed and added again.

`Accounted` says so of a ledger with a history. One deed keeps it (`Accounted.concat`), so every
run does. -/

namespace Stablecoin.Ledger

variable {l l' : Ledger} {env : Env} {sender : Address} {m : Message} {out : List Outgoing}

/-! ## Entries -/

/-- A listed minter has an entry. -/
theorem exists_entry_of_listed {a : Address} (h : (l.minter a).listed = true) :
    (l.minters.find? a).isSome := by
  rw [minter] at h
  cases hfind : l.minters.find? a with
  | none => rw [hfind] at h; cases h
  | some x => rfl

theorem minter_eq_of_find? {a : Address} {x : Minter} (h : l.minters.find? a = some x) :
    l.minter a = x := by
  rw [minter, h]
  rfl

/-- Only the message that adds a minter makes an entry, and nothing removes one. -/
theorem Step.entry_iff (h : Step l env sender m l' out) (a : Address) :
    (l'.minters.find? a).isSome ↔ (l.minters.find? a).isSome ∨ m.adds a = true := by
  -- where the message writes the entry of a listed minter, the entry is not new
  have hlisted : ∀ {b : Address} (x : Minter), (l.minter b).listed = true →
      (((l.minters.insert b x).find? a).isSome ↔ (l.minters.find? a).isSome) := by
    intro b x hb
    rw [Table.find?_insert]
    split
    · rename_i heq
      subst heq
      simpa using exists_entry_of_listed hb
    · rfl
  cases h with
  | mint registered =>
    simpa [Message.adds] using hlisted _ registered.1
  | burn listed => simpa [Message.adds] using hlisted _ listed
  | removeMinter governs acceptable listed => simpa [Message.adds] using hlisted _ listed
  | setMinterMaxAmount governs acceptable listed => simpa [Message.adds] using hlisted _ listed
  | setMinterEnabled governs acceptable listed => simpa [Message.adds] using hlisted _ listed
  | @addMinter minter maxAmount =>
    rw [Message.adds, Table.find?_insert]
    by_cases ha : minter = a <;> simp [ha]
  | configure step => cases step <;> simp [Message.adds]
  | _ => simp [Message.adds]

/-! ## Caps -/

/-- The counter of every minter is within its cap. -/
def Capped (l : Ledger) : Prop :=
  ∀ a, (l.minter a).minted ≤ (l.minter a).maxAmount

theorem capped_of_insert {b : Address} {x : Minter} (h : l'.minters = l.minters.insert b x)
    (hx : x.minted ≤ x.maxAmount) (hl : l.Capped) : l'.Capped := by
  intro a
  rw [minter_eq_of_insert h]
  split
  · exact hx
  · exact hl a

theorem Step.capped (h : Step l env sender m l' out) (hl : l.Capped) : l'.Capped := by
  cases h with
  | mint registered active acceptable positive counted capped =>
    exact capped_of_insert rfl capped hl
  | @burn amount minted balance supply listed positive debited lowered counted =>
    refine capped_of_insert rfl ?_ hl
    -- a burn only makes room
    have hcap := hl sender
    rw [Amount.le_iff] at hcap ⊢
    simp only
    omega
  | addMinter => exact capped_of_insert rfl (Nat.zero_le _) hl
  | removeMinter => exact capped_of_insert rfl (hl _) hl
  | setMinterMaxAmount governs acceptable listed covered =>
    exact capped_of_insert rfl covered hl
  | setMinterEnabled => exact capped_of_insert rfl (hl _) hl
  | _ => exact hl

/-! ## The sum of all counters -/

/-- What all counters add up to. -/
def countedSum (l : Ledger) : Nat :=
  l.minters.sumOf fun x => x.minted.toNat

/-- A write of an entry moves the sum as it moves the counter. -/
theorem countedSum_of_insert {b : Address} {x : Minter} {lost : Nat} {net : Int}
    (h : l'.minters = l.minters.insert b x)
    (hx : (x.minted.toNat : Int) + lost = (l.minter b).minted.toNat + net) :
    (l'.countedSum : Int) + lost = l.countedSum + net := by
  have hsum := l.minters.sumOf_insert (fun x => x.minted.toNat) b x
  have hentry : ((l.minters.find? b).map fun x => x.minted.toNat).getD 0
      = (l.minter b).minted.toNat := by
    rw [minter]
    cases l.minters.find? b <;> rfl
  rw [countedSum, countedSum, h]
  omega

/-- The sum moves with what a message mints and burns, and by what adding a minter forgets. -/
theorem Step.countedSum_add_forgotten (h : Step l env sender m l' out) :
    (l'.countedSum : Int) + (Deed.mk l sender m).forgotten = l.countedSum + m.net := by
  cases h with
  | mint registered active acceptable positive counted =>
    refine countedSum_of_insert rfl ?_
    simp only [Deed.forgotten, Message.net, Message.issued, Message.redeemed]
    omega
  | burn listed positive debited lowered counted =>
    refine countedSum_of_insert rfl ?_
    simp only [Deed.forgotten, Message.net, Message.issued, Message.redeemed]
    omega
  | addMinter =>
    -- the new counter is zero, and the old one is forgotten
    refine countedSum_of_insert rfl ?_
    simp [Deed.forgotten, Message.net, Message.issued, Message.redeemed]
  | removeMinter => exact countedSum_of_insert rfl rfl
  | setMinterMaxAmount => exact countedSum_of_insert rfl rfl
  | setMinterEnabled => exact countedSum_of_insert rfl rfl
  | configure step => cases step <;> rfl
  | _ => rfl

/-! ## The invariant -/

/-- The books of a ledger agree with what it has done. -/
structure Accounted (l : Ledger) (ds : List Deed) : Prop where
  /-- Whoever was ever added has an entry, and nobody else. -/
  entered : ∀ a, (l.minters.find? a).isSome ↔ ∃ d ∈ ds, d.message.adds a = true
  capped : l.Capped
  counted : ∀ a, (l.minter a).minted.toNat + burnedBy a (sinceAdded a ds)
    = mintedBy a (sinceAdded a ds)
  supply : l.token.supply.toNat = l.countedSum + forgotten ds

theorem accounted_of_setUp {s : Setup} {r : Response} (h : setUp env sender s = .ok (l, r)) :
    l.Accounted [] := by
  have hnew := isNew_of_setUp h
  have hminter : ∀ a, l.minter a = .unknown := by
    intro a
    rw [minter, hnew.minters]
    rfl
  refine ⟨?_, ?_, ?_, ?_⟩
  · intro a
    rw [hnew.minters]
    simp
  · intro a
    rw [hminter]
    exact Nat.le_refl 0
  · intro a
    rw [hminter]
    rfl
  · rw [hnew.supply, countedSum, hnew.minters]
    rfl

/-- What adding a minter takes off its counter is all of it, and no other message takes any. -/
theorem overwritten_of_adds {a : Address} (h : m.adds a = true) :
    l.overwritten a m = (l.minter a).minted.toNat ∧ m.net = 0 := by
  cases m with
  | addMinter minter maxAmount =>
    have ha : minter = a := of_decide_eq_true h
    exact ⟨if_pos ha, rfl⟩
  | _ => cases h

theorem overwritten_of_not_adds {a : Address} (h : m.adds a = false) : l.overwritten a m = 0 := by
  cases m with
  | addMinter minter maxAmount => exact if_neg (of_decide_eq_false h)
  | _ => rfl

/-- A counter follows the history since its minter was added. -/
theorem Step.counted (h : Step l env sender m l' out) {ds : List Deed} {a : Address}
    (hl : (l.minter a).minted.toNat + burnedBy a (sinceAdded a ds) = mintedBy a (sinceAdded a ds)) :
    (l'.minter a).minted.toNat + burnedBy a (sinceAdded a (ds ++ [⟨l, sender, m⟩]))
      = mintedBy a (sinceAdded a (ds ++ [⟨l, sender, m⟩])) := by
  have hcounter := h.minted_add_overwritten a
  cases hadds : m.adds a with
  | true =>
    -- the history starts again, and so does the counter
    obtain ⟨hover, hnet⟩ := overwritten_of_adds (l := l) hadds
    rw [hover, hnet, ite_self] at hcounter
    rw [sinceAdded_concat_of_adds ds hadds]
    simp only [mintedBy, burnedBy, List.map_nil, List.sum_nil]
    omega
  | false =>
    rw [overwritten_of_not_adds hadds] at hcounter
    rw [sinceAdded_concat_of_not_adds ds hadds, burnedBy_concat, mintedBy_concat]
    simp only
    by_cases ha : sender = a
    · rw [if_pos ha, Message.net] at hcounter
      rw [if_pos ha, if_pos ha]
      omega
    · rw [if_neg ha] at hcounter
      rw [if_neg ha, if_neg ha]
      omega

/-- One more deed keeps the books in agreement. -/
theorem Accounted.concat {ds : List Deed} (hl : l.Accounted ds)
    (h : Step l env sender m l' out) : l'.Accounted (ds ++ [⟨l, sender, m⟩]) := by
  refine ⟨?_, h.capped hl.capped, fun a => h.counted (hl.counted a), ?_⟩
  · intro a
    rw [h.entry_iff a, hl.entered a]
    simp [or_and_right, exists_or]
  · have hsupply := h.supply
    have hsum := h.countedSum_add_forgotten
    have hbefore := hl.supply
    rw [forgotten_concat]
    rw [Message.net] at hsum
    omega

/-- Minter accounting, over every run: an address has an entry once it was added, listed or not and
    enabled or not; the counter of an entry is within its cap and is what was minted less what was
    burned since the address was last added; and the counters add up to the supply, short of the
    counters that adding a minter again has forgotten. -/
theorem minters_accounted {s : Setup} {l₀ : Ledger} {r : Response}
    (h : setUp env sender s = .ok (l₀, r)) (is : List Invocation) :
    (∀ a, ((l₀.invokeAll is).minters.find? a).isSome ↔
        ∃ d ∈ l₀.deeds is, d.message.adds a = true) ∧
      (∀ a x, (l₀.invokeAll is).minters.find? a = some x →
        x.minted ≤ x.maxAmount ∧
        x.minted.toNat + burnedBy a (sinceAdded a (l₀.deeds is))
          = mintedBy a (sinceAdded a (l₀.deeds is))) ∧
      (l₀.invokeAll is).token.supply.toNat
        = ((l₀.invokeAll is).minters.sumOf fun x => x.minted.toNat) + forgotten (l₀.deeds is) ∧
      ((l₀.invokeAll is).minters.sumOf fun x => x.minted.toNat)
        ≤ (l₀.invokeAll is).token.supply.toNat := by
  have hbooks := deeds_induction (fun hstep hl => hl.concat hstep) (accounted_of_setUp h) is
  rw [List.nil_append] at hbooks
  refine ⟨hbooks.entered, ?_, hbooks.supply, ?_⟩
  · intro a x hx
    have hcapped := hbooks.capped a
    have hcounted := hbooks.counted a
    rw [minter_eq_of_find? hx] at hcapped hcounted
    exact ⟨hcapped, hcounted⟩
  · rw [hbooks.supply]
    exact Nat.le_add_right _ _

/-- A minter that mints and burns, is disabled and removed, burns no more, and starts again under a
    lower cap; and another that mints for it. -/
def readdedRun : List Invocation :=
  [⟨aloneEnv, "owner", .addMinter "minter" (.ofNat 100)⟩,
    ⟨aloneEnv, "minter", .mint "minter" (.ofNat 90)⟩,
    ⟨aloneEnv, "minter", .burn (.ofNat 20)⟩,
    ⟨aloneEnv, "owner", .setMinterMaxAmount "minter" (.ofNat 69)⟩,
    ⟨aloneEnv, "owner", .setMinterEnabled "minter" false⟩,
    ⟨aloneEnv, "owner", .removeMinter "minter"⟩,
    ⟨aloneEnv, "minter", .burn (.ofNat 10)⟩,
    ⟨aloneEnv, "owner", .addMinter "other" (.ofNat 40)⟩,
    ⟨aloneEnv, "other", .mint "minter" (.ofNat 40)⟩,
    ⟨aloneEnv, "owner", .addMinter "minter" (.ofNat 50)⟩,
    ⟨aloneEnv, "minter", .mint "alice" (.ofNat 30)⟩]

theorem minters_accounted_of_readdedRun :
    ∃ l₀ r, setUp aloneEnv "owner" plainSetup = .ok (l₀, r) ∧
      (l₀.deeds readdedRun).length = 9 ∧ (sinceAdded "minter" (l₀.deeds readdedRun)).length = 1 ∧
      forgotten (l₀.deeds readdedRun) = 70 ∧
      ((l₀.invokeAll readdedRun).minters.sumOf fun x => x.minted.toNat) = 70 ∧
      (l₀.invokeAll readdedRun).token.supply.toNat = 140 := by
  -- the history is computed, and the supply follows from it
  have hrun : ∃ l₀ r, setUp aloneEnv "owner" plainSetup = .ok (l₀, r) ∧
      (l₀.deeds readdedRun).length = 9 ∧ (sinceAdded "minter" (l₀.deeds readdedRun)).length = 1 ∧
      forgotten (l₀.deeds readdedRun) = 70 ∧
      ((l₀.invokeAll readdedRun).minters.sumOf fun x => x.minted.toNat) = 70 :=
    ⟨_, _, rfl, rfl, rfl, rfl, rfl⟩
  obtain ⟨l₀, r, hsetUp, hlength, hsince, hforgotten, hsum⟩ := hrun
  obtain ⟨-, -, hsupply, -⟩ := minters_accounted hsetUp readdedRun
  refine ⟨l₀, r, hsetUp, hlength, hsince, hforgotten, hsum, ?_⟩
  rw [hsupply, hsum, hforgotten]

end Stablecoin.Ledger
