import Stablecoin.Proofs.Account.Pause
import Stablecoin.Proofs.Chain.Default
import Stablecoin.Proofs.Chain.Progress
import Stablecoin.Proofs.Chain.Questions

set_option autoImplicit false

/-! # A chain on which an account is let go on

Two chains side by side that differ in nothing but the flag of one account. Whoever asks the account
for its position is told of the flag; to every other question both chains give the same answer
(`matches_env`). No contract of this library asks that question, so they all do the same on both
(`Contract.incurious`), and so do contracts from outside that make nothing of the answer
(`Chain.Incurious`). As long as the account does not refuse anything for the pause, and is neither
paused nor let go on, every call has the same outcome on both, but for the flag (`perform_unpaused`,
`run_unpaused`). -/

namespace Stablecoin

open Account

/-! ## What can be seen of the flag -/

/-- What two contracts see that are entered at the same address on two chains that differ in nothing
    but whether the account at an address is paused. -/
structure Env.Matches (home : Address) (env env' : Env) : Prop where
  here : env'.self = env.self
  now : env'.now = env.now
  bank : env'.querier.bankBalance = env.querier.bankBalance
  ask {b : Address} {q : Json} (other : b = home → Account.Query.ofJson? q ≠ some .position) :
    env'.querier.ask b q = env.querier.ask b q
  position {q : Json} (asked : Account.Query.ofJson? q = some .position) :
    withoutPause <$> env'.querier.ask home q = withoutPause <$> env.querier.ask home q

namespace Env.Matches

variable {home b : Address} {env env' : Env} (h : env.Matches home env')

include h

theorem askFor_eq {α : Type} (decode : Json → Option α) (b : Address) {q : Json}
    (hq : Account.Query.ofJson? q ≠ some .position) :
    env'.querier.askFor decode b q = env.querier.askFor decode b q := by
  rw [Querier.askFor, Querier.askFor, h.ask fun _ => hq]

/-- No contract of this library asks for the position of an account. -/
theorem agrees : env.Agrees env' where
  here := h.here
  now := h.now
  bank := h.bank
  askConfig _ := congrArg _ (h.askFor_eq _ _ nofun)
  askTargetPrice _ := h.askFor_eq _ _ nofun
  askBalance _ _ := h.askFor_eq _ _ nofun
  askAssetValue _ _ := h.askFor_eq _ _ nofun
  askPrice _ := h.askFor_eq _ _ nofun
  askAllowed _ _ := h.askFor_eq _ _ nofun

end Env.Matches

/-! ## Contracts that make nothing of the flag -/

namespace Contract

variable {σ : Type} [Outside σ] {home : Address}

/-- The contract does the same whether the account at an address is paused or not. -/
structure Incurious (home : Address) (k : Contract σ) : Prop where
  execute {env env' : Env} (h : env.Matches home env') (sender : Address) (funds : List Coin)
    (message : Json) : k.execute env' sender funds message = k.execute env sender funds message
  reply {env env' : Env} (h : env.Matches home env') (id : Nat) : k.reply env' id = k.reply env id
  query {env env' : Env} (h : env.Matches home env') (q : Json) : k.query env' q = k.query env q

/-- All contracts of this library are incurious, the account itself included. -/
theorem incurious {k : Contract σ} (outside : ∀ s, k = .outside s → k.Incurious home) :
    k.Incurious home := by
  cases k with
  | outside s => exact outside s rfl
  | _ =>
    exact ⟨fun h => h.agrees.execute_eq nofun, fun h => h.agrees.reply_eq nofun,
      fun h => h.agrees.query_eq nofun⟩

/-- Collaborators see nothing of the chain at all. -/
theorem incurious_collaborator (s : Collaborator) : (Contract.outside s).Incurious home :=
  ⟨fun _ _ _ _ => rfl, fun _ _ => rfl, fun _ _ => rfl⟩

/-! ## The account with its flag cleared -/

/-- The contract, and if it is an account, with its flag cleared. -/
def unpaused : Contract σ → Contract σ
  | .account a => .account a.unpaused
  | k => k

/-- A contract with its flag cleared, and a response. -/
def cleared (x : Contract σ × Response) : Contract σ × Response :=
  (x.1.unpaused, x.2)

omit [Outside σ] in
theorem ofAccount_cleared (x : Except Account.Error (Account × Response)) :
    (ofAccount (Account.cleared <$> x) : Except Error (Contract σ × Response))
      = cleared <$> ofAccount x := by
  cases x <;> rfl

variable {a : Account} {env env' : Env} {sender : Address} {message : Json}

theorem execute_unpaused (h : env.Matches home env') (funds : List Coin)
    (overlooked : ∀ m, Account.Message.ofJson? message = some m → m.ignoresPause = true ∨
      ∃ e, a.execute env sender m = .error e ∧ e ≠ .paused) :
    (account a.unpaused : Contract σ).execute env' sender funds message
      = cleared <$> (account a : Contract σ).execute env sender funds message := by
  cases decoded : Account.Message.ofJson? message with
  | none =>
    simp only [Contract.execute, decoded]
    rfl
  | some m =>
    rw [execute_account decoded, execute_account decoded, h.agrees.execute_account_eq,
      Account.execute_unpaused (overlooked m decoded), ofAccount_cleared]

theorem reply_unpaused (h : env.Matches home env') (id : Nat) :
    (account a.unpaused : Contract σ).reply env' id
      = cleared <$> (account a : Contract σ).reply env id := by
  show ofAccount (a.unpaused.reply env' id) = cleared <$> ofAccount (a.reply env id)
  rw [h.agrees.reply_account_eq, Account.reply_unpaused, ofAccount_cleared]

theorem query_unpaused (h : env.Matches home env') {q : Json}
    (hq : Account.Query.ofJson? q ≠ some .position) :
    (account a.unpaused : Contract σ).query env' q = (account a : Contract σ).query env q := by
  cases decoded : Account.Query.ofJson? q with
  | none =>
    simp only [Contract.query, decoded]
    rfl
  | some aq =>
    have hposition : aq ≠ .position := by
      rintro rfl
      exact hq decoded
    rw [query_account decoded, query_account decoded, h.agrees.query_account_eq,
      Account.query_unpaused hposition]

theorem query_position_unpaused (h : env.Matches home env') {q : Json}
    (hq : Account.Query.ofJson? q = some .position) :
    withoutPause <$> (account a.unpaused : Contract σ).query env' q
      = withoutPause <$> (account a : Contract σ).query env q := by
  rw [query_account hq, query_account hq, h.agrees.query_account_eq, map_mapError, map_mapError,
    Account.query_position_unpaused]

end Contract

namespace Chain

variable {σ : Type} {c c₁ : Chain σ} {home b sender : Address} {a : Account} {call : Call}

/-! ## The chain with the flag cleared -/

/-- The chain on which the flag of the account at an address is cleared. -/
def unpaused (c : Chain σ) (home : Address) : Chain σ :=
  match c.contract? home with
  | some k => c.put home k.unpaused
  | none => c

/-- A chain with the flag cleared, and what else came of a step. -/
def cleared {α : Type} (home : Address) (x : Chain σ × α) : Chain σ × α :=
  (x.1.unpaused home, x.2)

theorem unpaused_of_stands {k : Contract σ} (stands : c.contract? home = some k) :
    c.unpaused home = c.put home k.unpaused := by
  rw [unpaused, stands]

theorem unpaused_put_self (c : Chain σ) (home : Address) (k : Contract σ) :
    (c.put home k).unpaused home = c.put home k.unpaused := by
  rw [unpaused_of_stands (contract?_put_self c home k), put_put]

theorem unpaused_put_of_ne {k k' : Contract σ} (stands : c.contract? home = some k)
    (hb : b ≠ home) : (c.unpaused home).put b k' = (c.put b k').unpaused home := by
  have stands' : (c.put b k').contract? home = some k := by
    rw [contract?_put_of_ne _ _ hb, stands]
  rw [unpaused_of_stands stands, unpaused_of_stands stands', put_comm _ _ _ hb.symm]
  simp [stands]

theorem contract?_unpaused_of_ne (c : Chain σ) (hb : b ≠ home) :
    (c.unpaused home).contract? b = c.contract? b := by
  unfold unpaused
  split
  · exact contract?_put_of_ne _ _ hb.symm
  · rfl

theorem contract?_unpaused_self {k : Contract σ} (stands : c.contract? home = some k) :
    (c.unpaused home).contract? home = some k.unpaused := by
  rw [unpaused_of_stands stands, contract?_put_self]

theorem isSome_contract?_unpaused (c : Chain σ) (home b : Address) :
    ((c.unpaused home).contract? b).isSome = (c.contract? b).isSome := by
  by_cases hb : b = home
  · subst hb
    cases stands : c.contract? b with
    | none => rw [unpaused, stands]; simp [stands]
    | some k => rw [contract?_unpaused_self stands]; rfl
  · rw [contract?_unpaused_of_ne c hb]

theorem now_unpaused (c : Chain σ) (home : Address) : (c.unpaused home).now = c.now := by
  unfold unpaused
  split <;> rfl

theorem balance_unpaused (c : Chain σ) (home : Address) :
    (c.unpaused home).balance = c.balance := by
  unfold unpaused
  split <;> rfl

/-- Money moves as it does with the flag set. -/
theorem payAll_put (c : Chain σ) (home : Address) (k : Contract σ) (payer payee : Address)
    (coins : List Coin) :
    (c.put home k).payAll payer payee coins
      = (fun d => d.put home k) <$> c.payAll payer payee coins := by
  have hwith := payAll_with c (c.contracts.insert home k) c.now payer payee coins
  show Chain.payAll { c with contracts := c.contracts.insert home k, now := c.now }
    payer payee coins
    = _
  rw [hwith]
  cases paid : c.payAll payer payee coins with
  | error e => rfl
  | ok d =>
    obtain ⟨hcontracts, hnow⟩ := frame_of_payAll paid
    show Except.ok { d with contracts := c.contracts.insert home k, now := c.now }
      = Except.ok (d.put home k)
    rw [← hcontracts, ← hnow]
    rfl

theorem payAll_unpaused {k : Contract σ} (stands : c.contract? home = some k)
    (payer payee : Address) (coins : List Coin) :
    (c.unpaused home).payAll payer payee coins
      = (fun d => d.unpaused home) <$> c.payAll payer payee coins := by
  rw [unpaused_of_stands stands, payAll_put]
  cases h : c.payAll payer payee coins with
  | error e => rfl
  | ok d =>
    have stands' : d.contract? home = some k := by rw [contract?_of_payAll h, stands]
    show Except.ok (d.put home k.unpaused) = Except.ok (d.unpaused home)
    rw [unpaused_of_stands stands']

variable [Outside σ]

/-! ## What is seen on both -/

/-- The contracts from outside make nothing of whether the account is paused. -/
def Incurious (home : Address) (c : Chain σ) : Prop :=
  ∀ b s, c.contract? b = some (.outside s) → (Contract.outside s).Incurious home

theorem Incurious.contract (h : c.Incurious home) {k : Contract σ}
    (found : c.contract? b = some k) : k.Incurious home := by
  apply Contract.incurious
  rintro s rfl
  exact h b s found

/-- The answers of both chains are the same but for the position of the account. -/
theorem matches_ask (stands : c.contract? home = some (.account a)) (incurious : c.Incurious home)
    (depth : Nat) (b : Address) :
    Env.Matches home ⟨b, c.now, ⟨c.ask depth, c.balance⟩⟩
      ⟨b, (c.unpaused home).now, ⟨(c.unpaused home).ask depth, (c.unpaused home).balance⟩⟩ := by
  induction depth generalizing b with
  | zero => exact ⟨rfl, now_unpaused c home, balance_unpaused c home, fun _ => rfl, fun _ => rfl⟩
  | succ depth ih =>
    refine ⟨rfl, now_unpaused c home, balance_unpaused c home, fun {b q} other => ?_,
      fun {q} asked => ?_⟩
    · show (c.unpaused home).ask (depth + 1) b q = c.ask (depth + 1) b q
      rw [ask, ask]
      by_cases hb : b = home
      · subst hb
        rw [contract?_unpaused_self stands, stands]
        exact congrArg (Except.mapError _) (Contract.query_unpaused (ih b) (other rfl))
      · rw [contract?_unpaused_of_ne c hb]
        cases found : c.contract? b with
        | none => rfl
        | some k => exact congrArg (Except.mapError _) ((incurious.contract found).query (ih b) q)
    · show withoutPause <$> (c.unpaused home).ask (depth + 1) home q
        = withoutPause <$> c.ask (depth + 1) home q
      rw [ask, ask, contract?_unpaused_self stands, stands]
      dsimp only
      rw [map_mapError, map_mapError]
      exact congrArg (Except.mapError _) (Contract.query_position_unpaused (ih home) asked)

/-- So a contract that is entered on either sees the same but for that. -/
theorem matches_env (stands : c.contract? home = some (.account a)) (incurious : c.Incurious home)
    (b : Address) : (c.env b).Matches home ((c.unpaused home).env b) :=
  matches_ask stands incurious queryDepth b

/-! ## One call -/

omit [Outside σ] in
/-- An entry has the same outcome on both if it has in the contract that is entered. -/
theorem enter_unpaused {entry : Entry}
    {run run' : Contract σ → Except Contract.Error (Contract σ × Response)} {k₀ : Contract σ}
    (stands : c.contract? home = some k₀)
    (own : b = home → run' k₀.unpaused = Contract.cleared <$> run k₀)
    (other : b ≠ home → ∀ k, c.contract? b = some k → run' k = run k) :
    (c.unpaused home).enter b entry run' = cleared home <$> c.enter b entry run := by
  unfold enter
  by_cases hb : b = home
  · subst hb
    rw [contract?_unpaused_self stands, stands]
    dsimp only
    rw [own rfl]
    cases run k₀ with
    | error e => rfl
    | ok x =>
      show Except.ok ((c.unpaused b).put b x.1.unpaused, _)
        = Except.ok ((c.put b x.1).unpaused b, _)
      rw [unpaused_put_self, unpaused_of_stands stands, put_put]
      rfl
  · rw [contract?_unpaused_of_ne c hb]
    cases found : c.contract? b with
    | none => rfl
    | some k =>
      dsimp only
      rw [other hb k found]
      cases run k with
      | error e => rfl
      | ok x =>
        show Except.ok ((c.unpaused home).put b x.1, _)
          = Except.ok ((c.put b x.1).unpaused home, _)
        rw [unpaused_put_of_ne stands hb]

/-- What the account is told, if anything, does not depend on its flag: it is a message that ignores
    the flag, or the call fails for another reason than the pause. -/
def Moment.Overlooks (home : Address) (m : Moment σ) : Prop :=
  ∀ sender message funds am, m.call = .execute sender home message funds →
    Account.Message.ofJson? message = some am → am.ignoresPause = true ∨
      ∃ e, m.chain.perform m.call = .error e ∧ e ≠ .contract home (.account .paused)

theorem Moment.Overlooks.execute {message : Json} {funds : List Coin}
    (h : Moment.Overlooks home ⟨c, .execute sender home message funds⟩)
    (stands : c.contract? home = some (.account a)) (paid : c.payAll sender home funds = .ok c₁)
    {m : Account.Message} (decoded : Account.Message.ofJson? message = some m) :
    m.ignoresPause = true ∨
      ∃ e, a.execute (c₁.env home) sender m = .error e ∧ e ≠ .paused := by
  refine (h sender message funds m rfl decoded).imp_right ?_
  rintro ⟨e, hperform, he⟩
  cases hexecute : a.execute (c₁.env home) sender m with
  | error e' =>
    have hfails := (execute_eq_error_iff (account?_eq_some_iff.2 stands) decoded paid).2 hexecute
    simp only [perform, hfails, error_bind] at hperform
    cases hperform
    exact ⟨e', rfl, fun hpaused => he (by rw [hpaused])⟩
  | ok x =>
    have entered : (Contract.account a : Contract σ).execute (c₁.env home) sender funds message
        = .ok (.account x.1, x.2) := by
      rw [Contract.execute_account decoded, hexecute]
      rfl
    obtain ⟨records, hdone⟩ := perform_of_performs (.execute stands paid entered)
    rw [hperform] at hdone
    cases hdone

theorem execute_unpaused {message : Json} {funds : List Coin}
    (stands : c.contract? home = some (.account a)) (incurious : c.Incurious home)
    (overlooks : Moment.Overlooks home ⟨c, .execute sender b message funds⟩) :
    (c.unpaused home).execute sender b message funds
      = cleared home <$> c.execute sender b message funds := by
  unfold execute
  rw [isSome_contract?_unpaused, payAll_unpaused stands, map_bind]
  refine bind_congr fun _ => ?_
  cases paid : c.payAll sender b funds with
  | error e => rfl
  | ok c₁ =>
    have hcontracts := contract?_of_payAll paid
    have stands₁ : c₁.contract? home = some (.account a) := by rw [hcontracts, stands]
    have incurious₁ : c₁.Incurious home := fun b s hs => incurious b s (by rw [← hcontracts, hs])
    have hmatches := matches_env stands₁ incurious₁ b
    show (c₁.unpaused home).enter b .execute _ = cleared home <$> c₁.enter b .execute _
    refine enter_unpaused stands₁ ?_ fun hb k found => ?_
    · rintro rfl
      exact Contract.execute_unpaused hmatches funds fun m => overlooks.execute stands paid
    · exact (incurious₁.contract found).execute hmatches sender funds message

theorem reply_unpaused (stands : c.contract? home = some (.account a))
    (incurious : c.Incurious home) (id : Nat) :
    (c.unpaused home).reply b id = cleared home <$> c.reply b id := by
  have hmatches := matches_env stands incurious b
  unfold reply
  rw [isSome_contract?_unpaused, map_bind]
  refine bind_congr fun _ => enter_unpaused stands ?_ fun hb k found => ?_
  · rintro rfl
    exact Contract.reply_unpaused hmatches id
  · exact (incurious.contract found).reply hmatches id

/-- A call has the same outcome on both chains, but for the flag. -/
theorem perform_unpaused (stands : c.contract? home = some (.account a))
    (incurious : c.Incurious home) (overlooks : Moment.Overlooks home ⟨c, call⟩) :
    (c.unpaused home).perform call = cleared home <$> c.perform call := by
  cases call with
  | execute sender b message funds =>
    simp only [perform, execute_unpaused stands incurious overlooks, bind_map_left, map_bind,
      map_pure]
    rfl
  | reply b id =>
    simp only [perform, reply_unpaused stands incurious, bind_map_left, map_bind, map_pure]
    rfl
  | send sender recipient coins =>
    simp only [perform, payAll_unpaused stands, bind_map_left, map_bind, map_pure]
    rfl

/-! ## Runs -/

/-- So has a whole row of calls: it fails for the same reason, or leaves the same records and the
    same chain. -/
theorem run_unpaused {limit : Nat} {calls : List Call}
    (stands : c.contract? home = some (.account a))
    (fixed : ∀ m ∈ trace limit c calls, m.chain.Incurious home)
    (overlooked : ∀ m ∈ trace limit c calls, m.Overlooks home) :
    run limit (c.unpaused home) calls = cleared home <$> run limit c calls := by
  induction limit generalizing c a calls with
  | zero => cases calls <;> rfl
  | succ limit ih =>
    cases calls with
    | nil => rfl
    | cons call rest =>
      rw [trace] at fixed overlooked
      rw [run, run, perform_unpaused stands (fixed _ (List.mem_cons_self ..))
        (overlooked _ (List.mem_cons_self ..))]
      cases hperform : c.perform call with
      | error e => rfl
      | ok x =>
        obtain ⟨c₁, records, next⟩ := x
        obtain ⟨a₁, stands₁, -⟩ := touches_of_performs (account?_eq_some_iff.2 stands)
          (performs_of_perform hperform)
        simp only [hperform] at fixed overlooked
        have hrest := ih (account?_eq_some_iff.1 stands₁)
          (fun m hm => fixed m (List.mem_cons_of_mem _ hm))
          (fun m hm => overlooked m (List.mem_cons_of_mem _ hm))
        show (run limit (c₁.unpaused home) (next ++ rest) >>= fun y => pure (y.1, records ++ y.2))
          = cleared home <$> (run limit c₁ (next ++ rest) >>= fun y => pure (y.1, records ++ y.2))
        rw [hrest, map_bind, bind_map_left]
        rfl

end Chain

end Stablecoin
