import Stablecoin.Account.Query
import Stablecoin.Proofs.Account.Step

set_option autoImplicit false

/-! # Notes that an account only keeps

The call delay and the address of a page about the account stand among its risk parameters and
nowhere else: the borrower sets them with the others, they are shown with the others, and no
message, reply or question looks at them. So an account with other notes does what it does without
them (`execute_withNotes`, `reply_withNotes`); in particular it is in default when it is, whatever
the call delay. Two accounts that are the same when their notes are left blank (`stripped`) are in
step, and stay so when parameters are submitted that differ in the notes (`inStep_configure`). -/

namespace Stablecoin.Account

/-! ## Other notes -/

/-- The risk parameters with other notes. -/
def RiskConfig.withNotes (r : RiskConfig) (delay : Seconds) (url : String) : RiskConfig :=
  { r with callDelay := delay, metadataUrl := url }

/-- The risk parameters with the notes left blank. -/
def RiskConfig.stripped (r : RiskConfig) : RiskConfig :=
  r.withNotes 0 ""

/-- The account with other notes. -/
def withNotes (a : Account) (delay : Seconds) (url : String) : Account :=
  { a with risk := a.risk.withNotes delay url }

/-- The account with its notes left blank. -/
def stripped (a : Account) : Account :=
  { a with risk := a.risk.stripped }

/-- An account with other notes, and a response. -/
def noted (delay : Seconds) (url : String) (x : Account × Response) : Account × Response :=
  (x.1.withNotes delay url, x.2)

variable {a a' : Account} {r r' : RiskConfig} {env : Env} {sender : Address} {m : Message}
  {delay : Seconds} {url : String}

theorem RiskConfig.exists_eq_withNotes (h : r'.stripped = r.stripped) :
    ∃ delay url, r' = r.withNotes delay url :=
  ⟨r'.callDelay, r'.metadataUrl,
    congrArg (fun k => k.withNotes r'.callDelay r'.metadataUrl) h⟩

theorem exists_eq_withNotes (h : a'.stripped = a.stripped) :
    ∃ delay url, a' = a.withNotes delay url :=
  ⟨a'.risk.callDelay, a'.risk.metadataUrl,
    congrArg (fun b => b.withNotes a'.risk.callDelay a'.risk.metadataUrl) h⟩

/-! ## Messages and replies -/

/-- The message replaces the risk parameters. -/
def Message.configures : Message → Bool
  | .configure _ => true
  | _ => false

/-- No message looks at the notes, and none but one replaces them. -/
theorem execute_withNotes (hm : m.configures = false) :
    (a.withNotes delay url).execute env sender m = noted delay url <$> a.execute env sender m := by
  cases m with
  | configure => cases hm
  | borrow =>
    simp only [execute, borrow, increaseDebt, map_bind, map_pure, bind_assoc, pure_bind]
    rfl
  | repay =>
    simp only [execute, repay, map_bind, map_pure]
    rfl
  | payFee =>
    simp only [execute, payFee, map_bind, map_pure]
    rfl
  | invest =>
    simp only [execute, invest, map_bind, map_pure, apply_ite]
    rfl
  | divest amount slippage =>
    cases slippage with
    | none =>
      simp only [execute, divestFrom, map_bind, map_pure]
      rfl
    | some slippage =>
      simp only [execute, divestFrom, map_bind, map_pure]
      rfl
  | sell =>
    simp only [execute, sell, map_bind, map_pure]
    rfl
  | buy =>
    simp only [execute, buy, map_bind, map_pure]
    rfl
  | collect =>
    simp only [execute, collect, map_bind, map_pure]
    rfl
  | withdraw =>
    simp only [execute, withdraw, map_bind, map_pure]
    rfl
  | autoInvest =>
    simp only [execute, autoInvest, increaseDebt, map_bind, map_pure, bind_assoc, pure_bind]
    rfl
  | stateValue =>
    simp only [execute, stateValue, map_bind, map_pure]
    rfl
  | pause =>
    simp only [execute, setPaused, map_bind, map_pure]
    rfl
  | unpause =>
    simp only [execute, setPaused, map_bind, map_pure]
    rfl
  | liquidate =>
    simp only [execute, liquidate, map_bind, map_pure]
    rfl

/-- No reply looks at the notes. -/
theorem reply_withNotes (id : Nat) :
    (a.withNotes delay url).reply env id = noted delay url <$> a.reply env id :=
  reply_revised (f := fun r => r.withNotes delay url) (p := fun p => p) (fun _ _ _ => rfl) id

/-! ## Accounts that are the same but for their notes -/

/-- Two accounts are the same but for their notes, and respond alike. -/
def Alike (x x' : Account × Response) : Prop :=
  x'.1.stripped = x.1.stripped ∧ x'.2 = x.2

/-- They do the same with every message. -/
theorem inStep_execute (h : a'.stripped = a.stripped) :
    InStep Alike (a.execute env sender m) (a'.execute env sender m) := by
  obtain ⟨delay, url, rfl⟩ := exists_eq_withNotes h
  cases hm : m.configures with
  | false =>
    rw [execute_withNotes hm]
    exact .fmap_right _ fun x => ⟨rfl, rfl⟩
  | true =>
    -- the parameters are replaced whole
    cases m with
    | configure r =>
      have heq : (a.withNotes delay url).execute env sender (.configure r)
          = a.execute env sender (.configure r) := rfl
      rw [heq]
      exact .same _ fun x => ⟨rfl, rfl⟩
    | _ => cases hm

theorem inStep_reply (h : a'.stripped = a.stripped) (id : Nat) :
    InStep Alike (a.reply env id) (a'.reply env id) := by
  obtain ⟨delay, url, rfl⟩ := exists_eq_withNotes h
  rw [reply_withNotes]
  exact .fmap_right _ fun x => ⟨rfl, rfl⟩

/-- Parameters that differ in the notes are accepted or refused alike, and nothing more comes of
    them. -/
theorem inStep_configure (h : a'.stripped = a.stripped) (hr : r'.stripped = r.stripped) :
    InStep (fun x x' => x'.1.stripped = x.1.stripped ∧ x.2.outgoing = [] ∧ x'.2.outgoing = [])
      (a.execute env sender (.configure r)) (a'.execute env sender (.configure r')) := by
  obtain ⟨delay, url, rfl⟩ := exists_eq_withNotes h
  obtain ⟨delay', url', rfl⟩ := RiskConfig.exists_eq_withNotes hr
  refine .bind_same fun _ => .bind_same fun _ => .bind_same fun position => ?_
  exact .ok ⟨rfl, rfl, rfl⟩

/-- Accounts that are set up with parameters that differ in the notes are the same but for these. -/
theorem inStep_setUp {env' : Env} {s s' : Setup} (here : env'.self = env.self)
    (now : env'.now = env.now) (same : s' = { s with risk := s'.risk })
    (hr : (s'.risk.getD .zero).stripped = (s.risk.getD .zero).stripped) :
    InStep Alike (setUp env s) (setUp env' s') := by
  obtain ⟨delay, url, hr⟩ := RiskConfig.exists_eq_withNotes hr
  unfold setUp
  rw [here, now, hr, same]
  refine .bind_same fun _ => .bind_same fun _ => .bind_same fun _ => .bind_same fun _ =>
    .bind_same fun _ => ?_
  exact .ok ⟨rfl, rfl⟩

/-! ## Questions -/

/-- The notes show in one answer only. -/
theorem query_eq_of_stripped {q : Query} (h : a'.stripped = a.stripped) (hq : q ≠ .riskConfig) :
    a'.query env q = a.query env q := by
  obtain ⟨delay, url, rfl⟩ := exists_eq_withNotes h
  cases q with
  | riskConfig => exact absurd rfl hq
  | _ => rfl

end Stablecoin.Account
