import Stablecoin.Proofs.Chain.DebtMoves
import Stablecoin.Proofs.Chain.Replies
import Stablecoin.Proofs.Chain.StatedValue
import Stablecoin.Proofs.Chain.Unpaused

set_option autoImplicit false

/-! # The pause of an account

As long as a paused account is not let go on, whatever is called, it takes on no debt, and has its
backend invest nothing and its ledger neither mint nor send; a message that would need it to is
refused (`IdleAlong`). The account may hear of a swap while it is paused, but not of one whose
proceeds it would invest: between transactions it awaits none (`Attended.afterAll`), and while it is
paused it only swaps what it has divested, to hold it.

All else it does as if it were not paused (`pause_restrains`). -/

namespace Stablecoin

/-- The message creates stablecoin, or moves it to a contract that is told of it. -/
def Ledger.Message.mintsOrSends : Ledger.Message → Bool
  | .mint _ _ | .send _ _ _ => true
  | _ => false

namespace Account

variable {a a' : Account} {env : Env} {home sender : Address} {m : Message} {out : List Outgoing}
  {action : Action}

/-! ## What a paused account asks for -/

/-- The action of an account has its backend invest nothing, and its ledger neither mint nor
    send. -/
structure Restrained (a : Account) (home : Address) (action : Action) : Prop where
  backend (funds : List Coin) : a.config.told? action ≠ some (.invest, funds)
  ledger (lm : Ledger.Message) : a.tells? home action = some lm → lm.mintsOrSends = false

theorem Restrained.congr (h : a.Restrained home action) (hconfig : a'.config = a.config) :
    a'.Restrained home action := by
  refine ⟨fun funds => ?_, fun lm => ?_⟩
  · rw [hconfig]
    exact h.backend funds
  · rw [tells?, hconfig]
    exact h.ledger lm

theorem restrained_tellLedger {message : Json} {lm : Ledger.Message}
    (reads : Ledger.Message.ofJson? message = some lm) (hlm : lm.mintsOrSends = false)
    (foreign : Backend.Message.ofJson? message = none) :
    a.Restrained home (a.tellLedger message) := by
  refine ⟨fun funds => ?_, fun lm' h => ?_⟩
  · simp [Config.told?, tellLedger, foreign]
  · rw [tells?_tellLedger, reads] at h
    cases h
    exact hlm

theorem restrained_tellBackend {bm : Backend.Message} (funds : List Coin) (hbm : bm ≠ .invest) :
    a.Restrained home (a.tellBackend bm funds) := by
  refine ⟨fun funds' h => ?_, fun lm h => ?_⟩
  · rw [told?_tellBackend] at h
    cases h
    exact hbm rfl
  · rw [tells?_tellBackend] at h
    cases h

theorem restrained_divestAction (amount : Amount) : a.Restrained home (a.divestAction amount) :=
  restrained_tellBackend [] (by simp)

theorem restrained_send (recipient : Address) (coins : List Coin) :
    a.Restrained home (.send recipient coins) :=
  ⟨nofun, nofun⟩

theorem restrained_buyAction (amount minAmountOut : Amount) :
    a.Restrained home (a.buyAction amount minAmountOut) := by
  have foreign : Backend.Message.ofJson? (Venue.swapJson minAmountOut) = none := rfl
  refine ⟨fun funds => ?_, fun lm h => ?_⟩
  · simp [Config.told?, buyAction, foreign]
  · rw [tells?_buyAction] at h
    cases h

theorem restrained_settlement (liquidator : Address) (debt : Amount) (p : Payout) :
    ∀ action ∈ a.settlement home liquidator debt p, a.Restrained home action := by
  intro action h
  -- each part of the payout is left out where it is nothing
  have hpart : ∀ {p : Prop} [Decidable p] {part : Action}, a.Restrained home part →
      action ∈ (if p then [] else [part]) → a.Restrained home action := by
    intro p _ part hrestrained haction
    split at haction
    · cases haction
    · rwa [List.mem_singleton.1 haction]
  simp only [settlement, List.mem_append, List.mem_cons, List.not_mem_nil, or_false] at h
  rcases h with (((rfl | rfl) | hdrawn) | hquote) | hstablecoin
  · exact restrained_tellLedger (Ledger.Message.ofJson?_transferFromJson _ _ _) rfl rfl
  · exact restrained_tellLedger (Ledger.Message.ofJson?_burnJson _) rfl rfl
  · exact hpart (restrained_divestAction _) hdrawn
  · exact hpart (restrained_send _ _) hquote
  · exact hpart (restrained_tellLedger (Ledger.Message.ofJson?_transferJson _ _) rfl rfl)
      hstablecoin

theorem Step.restrained (h : Step a env sender m a' out) (paused : a.position.paused = true) :
    ∀ o ∈ out, a.Restrained env.self o.action := by
  have hactive := h.needsActive_eq_false paused
  have hone : ∀ {o : Outgoing}, a.Restrained env.self o.action →
      ∀ o' ∈ [o], a.Restrained env.self o'.action := by
    intro o ho o' ho'
    rwa [List.mem_singleton.1 ho']
  cases h with
  | repay => exact hone (restrained_tellLedger (Ledger.Message.ofJson?_burnJson _) rfl rfl)
  | payFee => exact hone (restrained_tellLedger (Ledger.Message.ofJson?_transferJson _ _) rfl rfl)
  | divest => exact hone (restrained_divestAction _)
  | divestToBuy => exact hone (restrained_divestAction _)
  | collect => exact hone (restrained_tellBackend [] (by simp))
  | liquidate =>
    intro o ho
    obtain ⟨action, haction, rfl⟩ := List.mem_map.1 ho
    exact restrained_settlement _ _ _ action haction
  | configure => exact nofun
  | stateValue => exact nofun
  | pause => exact nofun
  | unpause => exact nofun
  | _ => cases hactive

/-- A reply makes a paused account buy stablecoin at most. -/
theorem Hears.restrained {id : Nat} (h : Hears a env id a' out) (idle : a.Idle) :
    ∀ o ∈ out, a.Restrained env.self o.action := by
  cases h with
  | swapInvested pending measured enough invested =>
    rw [idle.holds _ pending] at invested
    cases invested
  | divestSpent =>
    intro o ho
    rw [List.mem_singleton.1 ho]
    exact restrained_buyAction _ _
  | _ => exact nofun

end Account

namespace Chain

open Account

variable {σ : Type} [Outside σ] {c c₀ c₁ : Chain σ} {home sender : Address} {a a₀ : Account}

/-! ## A transaction with a paused account -/

/-- Between transactions an account awaits nothing, if it does not at first. -/
theorem Attended.afterAll (h : Attended home c []) (ts : List Transaction) :
    Attended home (c.afterAll ts) [] := by
  induction ts generalizing c with
  | nil => exact h
  | cons t rest ih =>
    have hempty : AllConsumed home ([] : List (Event σ)) := nofun
    exact ih (consumed_of_after t h hempty).1

/-- The account carries out in an event nothing that it refuses while it is paused, and asks for
    nothing of the kind. -/
structure Event.Restrained (e : Event σ) (home : Address) (a : Account) : Prop where
  refuses (m : Account.Message) : e.message? home = some m → m.needsActive = false
  asks : ∀ action ∈ e.asked home, a.Restrained home action

/-- The account is paused still, and owes no more than it did before some events. -/
structure IdleAlong (home : Address) (a : Account) (c : Chain σ) (past : List (Event σ)) :
    Prop where
  account : ∃ a', c.account? home = some a' ∧ a'.Idle ∧ a'.config = a.config ∧
    a'.position.borrowed ≤ a.position.borrowed
  restrained : ∀ e ∈ past, e.Restrained home a

variable {past : List (Event σ)} {call : Call} {next : List Call} {cause : Option (Deed σ)}

theorem IdleAlong.concat {e : Event σ} {a' : Account} (h : IdleAlong home a c past)
    (he : e.Restrained home a) (after : c₁.account? home = some a') (idle : a'.Idle)
    (hconfig : a'.config = a.config) (hle : a'.position.borrowed ≤ a.position.borrowed) :
    IdleAlong home a c₁ (past ++ [e]) := by
  refine ⟨⟨a', after, idle, hconfig, hle⟩, fun e' he' => ?_⟩
  rcases List.mem_append.1 he' with hold | hnew
  · exact h.restrained e' hold
  · rwa [List.mem_singleton.1 hnew]

/-- Every call leaves the account so, but the one that lets it go on. -/
theorem IdleAlong.performs (h : IdleAlong home a c past) (hp : Performs c call c₁ next)
    (kept : (⟨⟨⟨c, call⟩, c₁⟩, cause⟩ : Event σ).message? home ≠ some .unpause) :
    IdleAlong home a c₁ (past ++ [⟨⟨⟨c, call⟩, c₁⟩, cause⟩]) := by
  obtain ⟨a₁, ha₁, idle, hconfig, hle⟩ := h.account
  obtain ⟨a', ha', htouches⟩ := touches_of_performs ha₁ hp
  cases htouches with
  | @execute sender message funds c₂ m _ out paid decoded step =>
    have hasked := asked_of_performs cause hp (rfl : _ = some home)
    rw [filterMap_action?_callsOf] at hasked
    rw [Event.message?_execute, decoded] at kept
    have hm : m ≠ .unpause := fun heq => kept (congrArg some heq)
    refine h.concat ⟨fun m' hm' => ?_, fun action haction => ?_⟩ ha' (step.idle idle hm)
      (step.config_eq.trans hconfig) ?_
    · rw [Event.message?_execute, decoded] at hm'
      cases hm'
      exact step.needsActive_eq_false idle.paused
    · rw [hasked] at haction
      obtain ⟨o, ho, rfl⟩ := List.mem_map.1 haction
      exact (step.restrained idle.paused o ho).congr hconfig.symm
    · exact Nat.le_trans (step.borrowed_le idle.paused) hle
  | @reply id _ out hears =>
    have hasked := asked_of_performs cause hp (rfl : _ = some home)
    rw [filterMap_action?_callsOf] at hasked
    refine h.concat ⟨nofun, fun action haction => ?_⟩ ha' (hears.idle idle)
      (hears.config_eq.trans hconfig) ?_
    · rw [hasked] at haction
      obtain ⟨o, ho, rfl⟩ := List.mem_map.1 haction
      exact (hears.restrained idle o ho).congr hconfig.symm
    · rw [hears.sameFee.borrowed]
      exact hle
  | elsewhere other foreign =>
    refine h.concat ⟨fun m hm => ?_, fun action haction => ?_⟩ ha' idle hconfig hle
    · rw [Event.message?_of_entered_ne other] at hm
      cases hm
    · rw [asked_of_entered_ne other] at haction
      cases haction

/-- So does every transaction in which it is not let go on. -/
theorem idleAlong_of_after (t : Transaction) (h : c.account? home = some a) (idle : a.Idle)
    (kept : ∀ e ∈ c.eventsOf t, e.message? home ≠ some .unpause) :
    IdleAlong home a (c.after t) (c.eventsOf t) := by
  have hstart : IdleAlong home a (c.atTime t.time) [] :=
    ⟨⟨a, h, idle, rfl, Nat.le_refl _⟩, nofun⟩
  -- the law holds of the events so far if the account is not let go on in any of them
  suffices hall : (∀ e ∈ [] ++ c.eventsOf t, e.message? home ≠ some .unpause) →
      IdleAlong home a (c.after t) ([] ++ c.eventsOf t) from hall kept
  refine eventsOf_induction (P := fun c _ past =>
    (∀ e ∈ past, e.message? home ≠ some .unpause) → IdleAlong home a c past) ?_ (fun _ => hstart)
    fun _ => hstart
  intro c c₁ call cause next rest past hp ih kept
  have hpast := ih fun e he => kept e (List.mem_append_left _ he)
  exact hpast.performs hp (kept _ (List.mem_append_right _ (List.mem_singleton_self _)))

/-! ## The pause -/

/-- While a transaction is under way, the other contracts behave as they would without the flag of
    the account (`fixed`), and hand it no message of their own to which the flag makes a difference
    (`overlooked`). The second is a condition beyond the first: a contract that reads no flag can
    still tell a paused account to borrow, say, and sees that this fails. -/
structure Undisturbed (home : Address) (c : Chain σ) (call : Call) : Prop where
  fixed : ∀ m ∈ trace callLimit c [call], m.chain.Incurious home
  overlooked : ∀ m ∈ (trace callLimit c [call]).tail, m.Overlooks home

/-- A transaction that begins with a message that ignores the flag has the same outcome on the chain
    with the flag cleared, but for the flag. -/
theorem transact_unpaused {message : Json} {funds : List Coin} {m : Account.Message}
    (h : c.account? home = some a) (decoded : Account.Message.ofJson? message = some m)
    (ignores : m.ignoresPause = true)
    (undisturbed : Undisturbed home c (.execute sender home message funds)) :
    (c.unpaused home).transact (.execute sender home message funds)
      = cleared home <$> c.transact (.execute sender home message funds) := by
  refine run_unpaused (account?_eq_some_iff.1 h) undisturbed.fixed fun x hx => ?_
  have hlater := undisturbed.overlooked
  rw [callLimit, trace] at hx hlater
  rcases List.mem_cons.1 hx with rfl | hx
  · rintro sender' message' funds' m' ⟨⟩ decoded'
    cases decoded.symm.trans decoded'
    exact .inl ignores
  · exact hlater x hx

/-- The pause of an account, after any transactions from a time at which it awaits nothing.

    A transaction in which it is not let go on leaves it paused and adds nothing to its debt; in the
    course of it the account is handed no message that needs an account that is not paused, and asks
    for no investment of the backend and for no stablecoin of the ledger to be minted or sent. A
    transaction that begins with such a message fails, whoever begins it.

    In every account, whatever it awaits, any message that ignores the flag and any reply does the
    same with the flag cleared: it fails for the same reason, or it asks for the same and leaves the
    same account, but for the flag. So does the whole transaction that begins with such a message,
    with all records that it leaves and all replies that follow, if the other contracts behave as
    they would without the flag and, which is a condition beyond that, none of them hands the
    account in the course of it a message to which the flag makes a difference. -/
theorem pause_restrains (start : c₀.account? home = some a₀) (swap : a₀.swap = none)
    (divest : a₀.divest = none) (ts : List Transaction)
    (h : (c₀.afterAll ts).account? home = some a) (paused : a.position.paused = true) :
    (∀ t, (∀ e ∈ (c₀.afterAll ts).eventsOf t, e.message? home ≠ some .unpause) →
      (∃ a', ((c₀.afterAll ts).after t).account? home = some a' ∧ a'.position.paused = true ∧
        a'.position.borrowed ≤ a.position.borrowed) ∧
      ∀ e ∈ (c₀.afterAll ts).eventsOf t, e.Restrained home a) ∧
    (∀ now sender message funds m, Account.Message.ofJson? message = some m →
      m.needsActive = true → ∃ e, ((c₀.afterAll ts).atTime now).transact
        (.execute sender home message funds) = .error e) ∧
    (∀ (b : Account) env sender m, m.ignoresPause = true →
      b.unpaused.execute env sender m = Account.cleared <$> b.execute env sender m) ∧
    (∀ (b : Account) env id, b.unpaused.reply env id = Account.cleared <$> b.reply env id) ∧
    ∀ now sender message funds m, Account.Message.ofJson? message = some m →
      m.ignoresPause = true →
      Undisturbed home ((c₀.afterAll ts).atTime now) (.execute sender home message funds) →
      (((c₀.afterAll ts).atTime now).unpaused home).transact (.execute sender home message funds)
        = cleared home <$> ((c₀.afterAll ts).atTime now).transact
            (.execute sender home message funds) := by
  have hidle : a.Idle := by
    have hattended := (attended_nil_iff.2 ⟨a₀, start, swap, divest⟩).afterAll ts
    obtain ⟨b, hb, hswap, -⟩ := attended_nil_iff.1 hattended
    cases h.symm.trans hb
    refine ⟨paused, fun s hs => ?_⟩
    rw [hswap] at hs
    cases hs
  refine ⟨fun t kept => ?_, ?_, fun b env sender m => execute_unpaused_of_ignoresPause,
    fun b env id => Account.reply_unpaused id, ?_⟩
  · obtain ⟨⟨a', ha', idle, -, hle⟩, hrestrained⟩ := idleAlong_of_after t h hidle kept
    exact ⟨⟨a', ha', idle.paused, hle⟩, hrestrained⟩
  · intro now sender message funds m decoded hm
    refine exists_transact_eq_error_of_not_step (c := (c₀.afterAll ts).atTime now) h decoded ?_
    intro env a' out step
    simp [step.needsActive_eq_false paused] at hm
  · intro now sender message funds m decoded ignores undisturbed
    exact transact_unpaused h decoded ignores undisturbed

/-! ## A pause on a small chain -/

/-- The owner of the ledger has paused an account that has something invested. -/
def pausedRun : List Transaction :=
  [⟨1, "owner", order "account" "pause" []⟩]

/-- Quote currency is taken from the backend, and stablecoin is bought with it. -/
def purchase : Transaction :=
  ⟨2, "borrower", order "account" "divest"
    [("amount", .amount (.ofNat 10)), ("slippage", .word32 10000)]⟩

/-- A moment at which the account is told nothing. -/
theorem Moment.overlooks_of_not_tells {m : Moment σ} (h : ¬ m.call.Tells home) :
    m.Overlooks home := by
  intro sender message funds am hcall
  rw [hcall] at h
  exact absurd rfl h

/-- The paused account takes back and swaps what it has invested, as it would if it were not paused,
    but it does not borrow. -/
theorem pause_restrains_of_pausedRun :
    ((investedChain.afterAll pausedRun).eventsOf purchase).length = 7 ∧
      (∃ a, ((investedChain.afterAll pausedRun).after purchase).account? "account" = some a ∧
        a.position.paused = true) ∧
      (∃ e, ((investedChain.afterAll pausedRun).atTime 2).transact
        (.execute "borrower" "account" (.tagged "borrow" [("amount", .amount (.ofNat 5))]) [])
          = .error e) ∧
      (((investedChain.afterAll pausedRun).atTime 2).unpaused "account").transact purchase.call
        = cleared "account" <$> ((investedChain.afterAll pausedRun).atTime 2).transact
            purchase.call := by
  obtain ⟨a, ha, paused⟩ : ∃ a, (investedChain.afterAll pausedRun).account? "account" = some a ∧
      a.position.paused = true := ⟨_, rfl, rfl⟩
  have hstart : investedChain.account? "account" = some (sampleAccount 0 0 0) := rfl
  obtain ⟨safe, refuses, -, -, same⟩ := pause_restrains hstart rfl rfl pausedRun ha paused
  have hmessages : ∀ e ∈ (investedChain.afterAll pausedRun).eventsOf purchase,
      (e.message? "account").all Account.Message.ignoresPause = true := by
    decide +kernel
  have huntold : ∀ m ∈ (trace callLimit ((investedChain.afterAll pausedRun).atTime 2)
      [purchase.call]).tail, ¬ m.call.Tells "account" := by
    decide +kernel
  refine ⟨by decide +kernel, ?_, refuses 2 _ _ _ _ rfl rfl, ?_⟩
  · obtain ⟨⟨a', ha', hpaused, -⟩, -⟩ := safe purchase fun e he hunpause => by
      have hignores := hmessages e he
      rw [hunpause] at hignores
      cases hignores
    exact ⟨a', ha', hpaused⟩
  · exact same 2 _ _ _ _ rfl rfl ⟨fun m _ b s _ => Contract.incurious_collaborator s,
      fun m hm => Moment.overlooks_of_not_tells (huntold m hm)⟩

end Chain

end Stablecoin
