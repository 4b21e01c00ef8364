import Stablecoin.Account.Query
import Stablecoin.Proofs.Account.Step

set_option autoImplicit false

/-! # A paused account

A paused account refuses the messages by which it takes on debt, invests, swaps or pays out
(`Step.needsActive_eq_false`), and what it still does never raises its debt (`Step.borrowed_le`). It
could only invest on behalf of an earlier message, when it hears that a swap is done; so `Idle` says
that it is paused and awaits no swap whose proceeds are to be invested.

The messages that a paused account does carry out, and all replies, do not look at the flag: the
account does the same with the flag cleared (`execute_unpaused`, `reply_unpaused`). -/

namespace Stablecoin.Account

variable {a a' : Account} {env : Env} {sender : Address} {m : Message} {out : List Outgoing}

/-! ## Messages and the flag -/

/-- A paused account refuses the message. -/
def Message.needsActive : Message → Bool
  | .borrow _ | .invest _ _ | .autoInvest _ _ | .sell _ _ | .buy _ _ | .withdraw _ _ => true
  | _ => false

/-- The message neither needs an account that is not paused nor changes whether it is. -/
def Message.ignoresPause : Message → Bool
  | .configure _ | .repay _ | .payFee | .divest _ _ | .collect | .stateValue _ | .liquidate => true
  | _ => false

theorem Step.needsActive_eq_false (h : Step a env sender m a' out)
    (paused : a.position.paused = true) : m.needsActive = false := by
  cases h with
  | borrow authorized active => simp [active] at paused
  | investIdle authorized active => simp [active] at paused
  | investSold authorized active => simp [active] at paused
  | sell authorized active => simp [active] at paused
  | buy authorized active => simp [active] at paused
  | withdraw authorized active => simp [active] at paused
  | autoInvest asked authorized active => simp [active] at paused
  | _ => rfl

theorem exists_execute_eq_error (paused : a.position.paused = true) (hm : m.needsActive = true) :
    ∃ e, a.execute env sender m = .error e := by
  cases h : a.execute env sender m with
  | error e => exact ⟨e, rfl⟩
  | ok x => simp [(step_of_execute h).needsActive_eq_false paused] at hm

/-! ## What a paused account still does -/

/-- The account is paused, and awaits no swap whose proceeds are to be invested. -/
structure Idle (a : Account) : Prop where
  paused : a.position.paused = true
  holds : ∀ s ∈ a.swap, s.afterSwap = .hold

theorem Step.idle (h : Step a env sender m a' out) (idle : a.Idle) (hm : m ≠ .unpause) :
    a'.Idle := by
  have hactive := h.needsActive_eq_false idle.paused
  cases h with
  | unpause => exact absurd rfl hm
  | pause => exact ⟨rfl, idle.holds⟩
  | investSold => cases hactive
  | sell => cases hactive
  | buy => cases hactive
  | autoInvest => cases hactive
  | _ => exact ⟨idle.paused, idle.holds⟩

/-- The debt of a paused account does not rise. -/
theorem Step.borrowed_le (h : Step a env sender m a' out) (paused : a.position.paused = true) :
    a'.position.borrowed ≤ a.position.borrowed := by
  have hactive := h.needsActive_eq_false paused
  rw [Amount.le_iff]
  cases h with
  | borrow => cases hactive
  | autoInvest => cases hactive
  | repay authorized positive repaid =>
    rw [repaid]
    exact Nat.le_add_right _ _
  | liquidate => exact Nat.zero_le _
  | _ => exact Nat.le_refl _

/-- Nor does it when a reply comes: what was bought with a divestment is held. -/
theorem Hears.idle {id : Nat} (h : Hears a env id a' out) (idle : a.Idle) : a'.Idle := by
  cases h with
  | swapHeld => exact ⟨idle.paused, nofun⟩
  | swapInvested => exact ⟨idle.paused, nofun⟩
  | divestKept => exact ⟨idle.paused, idle.holds⟩
  | divestSpent =>
    refine ⟨idle.paused, ?_⟩
    rintro s ⟨⟩
    rfl

/-! ## The flag cleared -/

/-- The account with its flag cleared. -/
def unpaused (a : Account) : Account :=
  { a with position := { a.position with paused := false } }

/-- An account with its flag cleared, and a response. -/
def cleared (x : Account × Response) : Account × Response :=
  (x.1.unpaused, x.2)

theorem unpaused_of_active (h : a.position.paused = false) : a.unpaused = a := by
  rw [unpaused, ← h]

/-- The fee is put on record whatever the flag. -/
theorem checkpointAt_unpaused (spreadFee : Ratio) (now : Seconds) :
    (liftM (a.unpaused.position.checkpointAt spreadFee now) : Except Error Position)
      = (fun p => { p with paused := false })
        <$> liftM (a.position.checkpointAt spreadFee now) := by
  have hfee : a.unpaused.position.feeAt spreadFee now = a.position.feeAt spreadFee now := rfl
  unfold Position.checkpointAt
  rw [hfee]
  cases a.position.feeAt spreadFee now <;> rfl

/-- What ignores the flag does the same with the flag cleared. -/
theorem execute_unpaused_of_ignoresPause (hm : m.ignoresPause = true) :
    a.unpaused.execute env sender m = cleared <$> a.execute env sender m := by
  cases m with
  | configure =>
    simp only [execute, configure, checkpointAt_unpaused, bind_map_left, map_bind, map_pure]
    rfl
  | repay =>
    simp only [execute, repay, checkpointAt_unpaused, bind_map_left, map_bind, map_pure]
    rfl
  | payFee =>
    simp only [execute, payFee, map_bind, map_pure]
    rfl
  | divest amount slippage =>
    cases slippage with
    | none =>
      simp only [execute, divestFrom, map_bind, map_pure]
      rfl
    | some slippage =>
      simp only [execute, divestFrom, map_bind, map_pure]
      rfl
  | collect =>
    simp only [execute, collect, map_bind, map_pure]
    rfl
  | stateValue =>
    simp only [execute, stateValue, map_bind, map_pure]
    rfl
  | liquidate =>
    simp only [execute, liquidate, map_bind, map_pure]
    rfl
  | _ => cases hm

/-- What fails for another reason than the pause fails before the pause is looked at. -/
theorem error_of_requireActive {β γ : Type} {x : Except Error β} {f : β → Unit → Except Error γ}
    {e : Error} (paused : a.position.paused = true)
    (h : (x >>= fun b => a.requireActive >>= f b) = .error e) (he : e ≠ .paused)
    (g : β → Except Error γ) : (x >>= g) = .error e := by
  have hactive : a.requireActive = .error .paused := by simp [requireActive, paused]
  rcases bind_eq_error_iff.1 h with hx | ⟨b, -, hb⟩
  · exact bind_eq_error_iff.2 (.inl hx)
  · rw [hactive] at hb
    cases hb
    exact absurd rfl he

/-- What an account refuses for another reason than the pause it also refuses with the flag
    cleared. -/
theorem execute_unpaused_of_error {e : Error} (h : a.execute env sender m = .error e)
    (he : e ≠ .paused) : a.unpaused.execute env sender m = .error e := by
  cases hpaused : a.position.paused with
  | false => rw [unpaused_of_active hpaused, h]
  | true =>
    cases m with
    | borrow => exact error_of_requireActive hpaused h he _
    | invest => exact error_of_requireActive hpaused h he _
    | sell => exact error_of_requireActive hpaused h he _
    | buy => exact error_of_requireActive hpaused h he _
    | withdraw => exact error_of_requireActive hpaused h he _
    | autoInvest amount slippage =>
      -- the role of the balancer is asked for before the flag
      rcases bind_eq_error_iff.1 h with hasked | ⟨ledger, asked, hrest⟩
      · exact bind_eq_error_iff.2 (.inl hasked)
      · exact bind_eq_error_iff.2 (.inr ⟨ledger, asked, error_of_requireActive hpaused hrest he _⟩)
    | pause => exact h
    | unpause => exact h
    | _ => rw [execute_unpaused_of_ignoresPause rfl, h]; rfl

/-- So the flag matters only to what is refused for the pause, and to what sets it. -/
theorem execute_unpaused (h : m.ignoresPause = true ∨
      ∃ e, a.execute env sender m = .error e ∧ e ≠ .paused) :
    a.unpaused.execute env sender m = cleared <$> a.execute env sender m := by
  rcases h with hm | ⟨e, hexecute, he⟩
  · exact execute_unpaused_of_ignoresPause hm
  · rw [execute_unpaused_of_error hexecute he, hexecute]
    rfl

/-- No reply looks at the flag. -/
theorem reply_unpaused (id : Nat) : a.unpaused.reply env id = cleared <$> a.reply env id :=
  reply_revised (f := fun r => r) (p := fun p => { p with paused := false }) (fun _ _ _ => rfl) id

/-! ## Questions -/

/-- The answer to a question, without what it says about a pause. -/
def withoutPause : Json → Json
  | .obj fields => .obj (fields.filter fun f => f.1 ≠ "paused")
  | j => j

/-- The flag shows in one answer only. -/
theorem query_unpaused {q : Query} (hq : q ≠ .position) :
    a.unpaused.query env q = a.query env q := by
  cases q with
  | position => exact absurd rfl hq
  | _ => rfl

/-- And there it is all that shows of it. -/
theorem query_position_unpaused : withoutPause <$> a.unpaused.query env .position
    = withoutPause <$> a.query env .position := by
  simp only [query, positionAnswer, map_bind, map_pure]
  rfl

end Stablecoin.Account
