import Stablecoin.Proofs.Ledger.History

set_option autoImplicit false

/-! # Allowances

What a spender has taken from an owner and may still take is what the owner has granted less what
it has taken back, over every run (`Metered`). A decrease may ask for more than is left; it takes
back no more than that, so the history counts what it took and not what it asked for.

Nobody else's message draws on a balance in any other way (`Step.le_balance`), and since
nobody can be granted an allowance on themselves, nobody can pull from themselves. -/

namespace Stablecoin.Ledger

/-! ## Sums over a history -/

/-- What a deed moves from the owner on its allowance for the spender. -/
def Deed.pulled (owner spender : Address) (d : Deed) : Nat :=
  match d.message with
  | .transferFrom payer _ amount => if payer = owner ∧ d.sender = spender then amount.toNat else 0
  | _ => 0

/-- What a deed adds to the allowance. -/
def Deed.granted (owner spender : Address) (d : Deed) : Nat :=
  match d.message with
  | .increaseAllowance other amount =>
    if d.sender = owner ∧ other = spender then amount.toNat else 0
  | _ => 0

/-- What a deed takes off the allowance without moving anything: what it asks for, or all that is
    left. -/
def Deed.revoked (owner spender : Address) (d : Deed) : Nat :=
  match d.message with
  | .decreaseAllowance other amount =>
    if d.sender = owner ∧ other = spender then
      min amount.toNat (d.before.allowances.get (owner, spender)).toNat
    else 0
  | _ => 0

/-- All that the spender has moved from the owner. -/
def pulledFrom (owner spender : Address) (ds : List Deed) : Nat :=
  (ds.map (Deed.pulled owner spender)).sum

/-- All that the owner has granted the spender. -/
def grantedTo (owner spender : Address) (ds : List Deed) : Nat :=
  (ds.map (Deed.granted owner spender)).sum

/-- All that the owner has taken back from the spender. -/
def revokedFrom (owner spender : Address) (ds : List Deed) : Nat :=
  (ds.map (Deed.revoked owner spender)).sum

section Concat

variable (owner spender : Address) (ds : List Deed) (d : Deed)

theorem pulledFrom_concat :
    pulledFrom owner spender (ds ++ [d])
      = pulledFrom owner spender ds + d.pulled owner spender := by
  simp [pulledFrom]

theorem grantedTo_concat :
    grantedTo owner spender (ds ++ [d]) = grantedTo owner spender ds + d.granted owner spender := by
  simp [grantedTo]

theorem revokedFrom_concat :
    revokedFrom owner spender (ds ++ [d])
      = revokedFrom owner spender ds + d.revoked owner spender := by
  simp [revokedFrom]

end Concat

/-! ## One message -/

variable {l l' : Ledger} {env : Env} {sender owner spender : Address} {m : Message}
  {out : List Outgoing}

/-- A change of the configuration has nothing to do with allowances. -/
theorem Config.Step.leaves_allowances {c c' : Config} {now : Seconds}
    (h : c.Step now sender m c') (l : Ledger) (owner spender : Address) :
    (Deed.mk l sender m).pulled owner spender = 0 ∧ (Deed.mk l sender m).granted owner spender = 0 ∧
      (Deed.mk l sender m).revoked owner spender = 0 := by
  cases h <;> exact ⟨rfl, rfl, rfl⟩

/-- The entry of one pair of owner and spender after another one, or the same, is written. -/
theorem Allowances.get_set_pair (as : Allowances) (o s : Address) (a : Amount) :
    ((Holdings.set as (o, s) a).get (owner, spender)).toNat
      = if o = owner ∧ s = spender then a.toNat else (as.get (owner, spender)).toNat := by
  rw [Holdings.get_set]
  by_cases hpair : o = owner ∧ s = spender
  · obtain ⟨rfl, rfl⟩ := hpair
    simp
  · rw [if_neg hpair, if_neg (by simpa using hpair)]

/-- An allowance goes down by what is pulled and taken back, and up by what is granted. -/
theorem Step.allowance (h : Step l env sender m l' out) (owner spender : Address) :
    (l'.allowances.get (owner, spender)).toNat + (Deed.mk l sender m).pulled owner spender
        + (Deed.mk l sender m).revoked owner spender
      = (l.allowances.get (owner, spender)).toNat
        + (Deed.mk l sender m).granted owner spender := by
  cases h with
  | @transferFrom payer recipient amount left balances acceptable positive movable allowed moves =>
    simp only [Deed.pulled, Deed.revoked, Deed.granted, Allowances.get_set_pair]
    split
    · rename_i hpair
      obtain ⟨rfl, rfl⟩ := hpair
      omega
    · omega
  | @increaseAllowance other amount allowance acceptable hother raised =>
    simp only [Deed.pulled, Deed.revoked, Deed.granted, Allowances.get_set_pair]
    split
    · rename_i hpair
      obtain ⟨rfl, rfl⟩ := hpair
      omega
    · omega
  | @decreaseAllowance other amount acceptable hother =>
    simp only [Deed.pulled, Deed.revoked, Deed.granted, Allowances.get_set_pair]
    split
    · rename_i hpair
      obtain ⟨rfl, rfl⟩ := hpair
      rw [Amount.toNat_saturatingSub]
      omega
    · omega
  | configure step =>
    obtain ⟨hpulled, hgranted, hrevoked⟩ := step.leaves_allowances l owner spender
    rw [hpulled, hgranted, hrevoked]
  | _ => rfl

/-- No message gives anybody an allowance on themselves. -/
theorem Step.allowance_self (h : Step l env sender m l' out) {a : Address}
    (ha : l.allowances.get (a, a) = 0) : l'.allowances.get (a, a) = 0 := by
  have hstep := h.allowance a a
  have hgranted : (Deed.mk l sender m).granted a a = 0 := by
    cases h with
    | increaseAllowance acceptable other raised =>
      refine if_neg ?_
      rintro ⟨rfl, rfl⟩
      exact other rfl
    | configure step => exact (step.leaves_allowances l a a).2.1
    | _ => rfl
  rw [ha, hgranted, Amount.toNat_zero] at hstep
  rw [Amount.eq_zero_iff]
  omega

/-! ## Balances -/

/-- What is moved from an owner leaves it, unless the owner is the recipient as well. -/
theorem Step.balance_of_transferFrom {recipient : String} {amount : Amount}
    (h : Step l env sender (.transferFrom owner recipient amount) l' out) :
    (l'.balances.get owner).toNat + (if recipient = owner then 0 else amount.toNat)
      = (l.balances.get owner).toNat := by
  cases h with
  | configure step => cases step
  | transferFrom acceptable positive movable allowed moves =>
    split
    · rename_i hrecipient
      subst hrecipient
      rw [moves.get_self, Nat.add_zero]
    · rename_i hne
      exact moves.get_payer (Ne.symm hne)

/-- A movement that somebody else pays for takes nothing from a holder. -/
theorem le_balance_of_moves {payer payee : Address} {amount : Amount} {balances : Holdings Address}
    (moves : l.balances.Moves payer payee amount balances) (hne : payer ≠ owner) :
    (l.balances.get owner).toNat ≤ (balances.get owner).toNat := by
  by_cases hpayee : payee = owner
  · subst hpayee
    rw [moves.get_payee hne]
    exact Nat.le_add_right _ _
  · rw [moves.get_of_ne hne hpayee]

/-- Nobody else's message takes anything from a holder, unless it pulls from the holder. -/
theorem Step.le_balance (h : Step l env sender m l' out) (hne : sender ≠ owner)
    (hm : ∀ recipient amount, m ≠ .transferFrom owner recipient amount) :
    (l.balances.get owner).toNat ≤ (l'.balances.get owner).toNat := by
  cases h with
  | transfer acceptable positive movable moves => exact le_balance_of_moves moves hne
  | @transferFrom payer recipient amount left balances acceptable positive movable allowed moves =>
    refine le_balance_of_moves moves ?_
    rintro rfl
    exact hm _ _ rfl
  | send acceptable positive movable moves => exact le_balance_of_moves moves hne
  | @mint recipient amount minted balance supply registered active acceptable positive counted
      capped gate admitted credited raised =>
    show _ ≤ ((l.balances.set recipient balance).get owner).toNat
    by_cases hrecipient : recipient = owner
    · subst hrecipient
      rw [Holdings.get_set_self, credited]
      exact Nat.le_add_right _ _
    · rw [Holdings.get_set_of_ne _ _ hrecipient]
  | @burn amount minted balance supply listed positive debited lowered counted =>
    show _ ≤ ((l.balances.set sender balance).get owner).toNat
    rw [Holdings.get_set_of_ne _ _ hne]
  | _ => exact Nat.le_refl _

/-! ## Every run -/

/-- The books of all allowances agree with what the ledger has done. -/
structure Metered (l : Ledger) (ds : List Deed) : Prop where
  balanced : ∀ owner spender, pulledFrom owner spender ds
      + (l.allowances.get (owner, spender)).toNat + revokedFrom owner spender ds
    = grantedTo owner spender ds
  none_on_oneself : ∀ a, l.allowances.get (a, a) = 0

theorem metered_of_setUp {s : Setup} {r : Response} (h : setUp env sender s = .ok (l, r)) :
    l.Metered [] := by
  have hnew := isNew_of_setUp h
  refine ⟨?_, ?_⟩
  · intro owner spender
    rw [hnew.allowances]
    rfl
  · intro a
    rw [hnew.allowances]
    rfl

/-- One more deed keeps the books in agreement. -/
theorem Metered.concat {ds : List Deed} (hl : l.Metered ds) (h : Step l env sender m l' out) :
    l'.Metered (ds ++ [⟨l, sender, m⟩]) := by
  refine ⟨?_, fun a => h.allowance_self (hl.none_on_oneself a)⟩
  intro owner spender
  have hstep := h.allowance owner spender
  have hbefore := hl.balanced owner spender
  rw [pulledFrom_concat, grantedTo_concat, revokedFrom_concat]
  omega

/-- Whoever pulls has an allowance to use up, since nobody pulls nothing. -/
theorem Step.allowance_ne_zero {recipient : String} {amount : Amount}
    (h : Step l env sender (.transferFrom owner recipient amount) l' out) :
    l.allowances.get (owner, sender) ≠ 0 := by
  cases h with
  | configure step => cases step
  | transferFrom acceptable positive movable allowed moves =>
    intro hzero
    rw [hzero, Amount.toNat_zero] at allowed
    exact positive (Amount.eq_zero_iff.2 (by omega))

/-- Nobody pulls from themselves. -/
theorem execute_transferFrom_self (h : l.allowances.get (owner, owner) = 0) (recipient : String)
    (amount : Amount) :
    ∃ e, l.execute env owner (.transferFrom owner recipient amount) = .error e := by
  rcases hexec : l.execute env owner (.transferFrom owner recipient amount) with e | ⟨l', r⟩
  · exact ⟨e, rfl⟩
  · exact absurd h (step_of_execute hexec).allowance_ne_zero

/-- Allowances bound what a spender can take, over every run: what the spender has moved from the
    owner and what it may still move is what the owner has granted less what it has taken back. No
    message of anybody else lowers the owner's balance unless it pulls from the owner, and such a
    message lowers it by its amount, or not at all if the owner is the recipient. Nobody has an
    allowance on themselves, so nobody ever pulls from themselves. -/
theorem allowances_bound_spending {s : Setup} {l₀ : Ledger} {r : Response}
    (h : setUp env sender s = .ok (l₀, r)) (is : List Invocation) (owner spender : Address) :
    (pulledFrom owner spender (l₀.deeds is)
        + ((l₀.invokeAll is).allowances.get (owner, spender)).toNat
      = grantedTo owner spender (l₀.deeds is) - revokedFrom owner spender (l₀.deeds is)) ∧
      revokedFrom owner spender (l₀.deeds is) ≤ grantedTo owner spender (l₀.deeds is) ∧
      (∀ {env sender m l' r}, (l₀.invokeAll is).execute env sender m = .ok (l', r) →
        sender ≠ owner →
        (∀ recipient amount, m ≠ .transferFrom owner recipient amount) →
        ((l₀.invokeAll is).balances.get owner).toNat ≤ (l'.balances.get owner).toNat) ∧
      (∀ {env sender recipient amount l' r},
        (l₀.invokeAll is).execute env sender (.transferFrom owner recipient amount)
          = .ok (l', r) →
        (l'.balances.get owner).toNat + (if recipient = owner then 0 else amount.toNat)
          = ((l₀.invokeAll is).balances.get owner).toNat) ∧
      (l₀.invokeAll is).allowances.get (owner, owner) = 0 ∧
      ∀ env recipient amount, ∃ e,
        (l₀.invokeAll is).execute env owner (.transferFrom owner recipient amount) = .error e := by
  have hbooks := deeds_induction (fun hstep hl => hl.concat hstep) (metered_of_setUp h) is
  rw [List.nil_append] at hbooks
  have hbalanced := hbooks.balanced owner spender
  have hself := hbooks.none_on_oneself owner
  refine ⟨by omega, by omega, ?_, ?_, hself, ?_⟩
  · intro env sender m l' r hexec hne hm
    exact (step_of_execute hexec).le_balance hne hm
  · intro env sender recipient amount l' r hexec
    exact (step_of_execute hexec).balance_of_transferFrom
  · intro env recipient amount
    exact execute_transferFrom_self hself recipient amount

/-- An owner that grants a spender 50 in two parts, wants 60 back after the spender has taken 30,
    and grants it 5 again; meanwhile the spender fails to take more than it may, and the owner to
    pull from itself. -/
def grantedRun : List Invocation :=
  [⟨aloneEnv, "owner", .addMinter "minter" (.ofNat 100)⟩,
    ⟨aloneEnv, "minter", .mint "alice" (.ofNat 90)⟩,
    ⟨aloneEnv, "alice", .increaseAllowance "bob" (.ofNat 40)⟩,
    ⟨aloneEnv, "alice", .increaseAllowance "bob" (.ofNat 10)⟩,
    ⟨aloneEnv, "alice", .increaseAllowance "alice" (.ofNat 10)⟩,
    ⟨aloneEnv, "bob", .transferFrom "alice" "carol" (.ofNat 20)⟩,
    ⟨aloneEnv, "bob", .transferFrom "alice" "alice" (.ofNat 10)⟩,
    ⟨aloneEnv, "bob", .transferFrom "alice" "bob" (.ofNat 21)⟩,
    ⟨aloneEnv, "alice", .decreaseAllowance "bob" (.ofNat 60)⟩,
    ⟨aloneEnv, "alice", .increaseAllowance "bob" (.ofNat 5)⟩]

theorem allowances_bound_spending_of_grantedRun :
    ∃ l₀ r, setUp aloneEnv "owner" plainSetup = .ok (l₀, r) ∧
      grantedTo "alice" "bob" (l₀.deeds grantedRun) = 55 ∧
      revokedFrom "alice" "bob" (l₀.deeds grantedRun) = 20 ∧
      pulledFrom "alice" "bob" (l₀.deeds grantedRun) = 30 ∧
      ((l₀.invokeAll grantedRun).allowances.get ("alice", "bob")).toNat = 5 ∧
      ∃ l' r', (l₀.invokeAll grantedRun).execute aloneEnv "bob"
          (.transferFrom "alice" "carol" (.ofNat 4)) = .ok (l', r') ∧
        (l'.balances.get "alice").toNat + 4
          = ((l₀.invokeAll grantedRun).balances.get "alice").toNat := by
  -- the run and one more message are computed, and the rest follows from them
  have hrun : ∃ l₀ r l' r', setUp aloneEnv "owner" plainSetup = .ok (l₀, r) ∧
      grantedTo "alice" "bob" (l₀.deeds grantedRun) = 55 ∧
      revokedFrom "alice" "bob" (l₀.deeds grantedRun) = 20 ∧
      pulledFrom "alice" "bob" (l₀.deeds grantedRun) = 30 ∧
      (l₀.invokeAll grantedRun).execute aloneEnv "bob"
          (.transferFrom "alice" "carol" (.ofNat 4)) = .ok (l', r') :=
    ⟨_, _, _, _, rfl, rfl, rfl, rfl, rfl⟩
  obtain ⟨l₀, r, l', r', hsetUp, hgranted, hrevoked, hpulled, hexec⟩ := hrun
  obtain ⟨hbalanced, -, -, hdrawn, -⟩ := allowances_bound_spending hsetUp grantedRun "alice" "bob"
  refine ⟨l₀, r, hsetUp, hgranted, hrevoked, hpulled, by omega, l', r', hexec, hdrawn hexec⟩

end Stablecoin.Ledger
