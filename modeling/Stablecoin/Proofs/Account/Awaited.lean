import Stablecoin.Proofs.Account.Step
import Stablecoin.Proofs.Account.Valuation

set_option autoImplicit false

/-! # What an account waits for

An account keeps one record of a swap and one of a divestment, each under the number of the reply
that reads it. `Books` says what an entry does to the record under a number: either it writes one,
of the balance that it sees, and asks for the reply, or it does neither. A reply reads the record
under its own number and clears it (`Hears.consumes`). -/

namespace Stablecoin.Account

/-- A record that an account keeps until a reply. -/
inductive Awaited where
  | swap (s : PendingSwap)
  | divest (d : PendingDivest)

/-- The record that the reply under a number reads. -/
def awaited (a : Account) (id : Nat) : Option Awaited :=
  if id = swapReply then a.swap.map .swap
  else if id = divestReply then a.divest.map .divest
  else none

theorem awaited_swapReply (a : Account) : a.awaited swapReply = a.swap.map .swap := rfl

theorem awaited_divestReply (a : Account) : a.awaited divestReply = a.divest.map .divest := rfl

/-- The balance in a record is the one that the account has. -/
def Awaited.Current (a : Account) (env : Env) : Awaited → Prop
  | .swap s => a.balanceOf env s.assetOut = .ok s.balanceBefore
  | .divest d => d.quoteBefore = a.quoteBalance env

/-- The numbers of the replies that are asked for. -/
def asked (out : List Outgoing) : List Nat :=
  out.filterMap Outgoing.replyId

@[simp] theorem asked_nil : asked [] = [] := rfl

@[simp] theorem asked_actions (actions : List Action) :
    asked (actions.map fun action => { action }) = [] := by
  simp [asked]

/-- What an entry does to the record under a number. -/
inductive Books (a : Account) (env : Env) (id : Nat) (a' : Account) (out : List Outgoing) :
    Prop where
  | saved {r : Awaited} (asks : id ∈ asked out) (current : r.Current a env)
      (holds : a'.awaited id = some r) : Books a env id a' out
  | kept (silent : id ∉ asked out) (same : a'.awaited id = a.awaited id) : Books a env id a' out

variable {a a' : Account} {env : Env} {sender : Address} {out : List Outgoing} {id : Nat}

/-! ## Records that stay -/

theorem awaited_eq_of_ne_swapReply (hid : id ≠ swapReply)
    (hdivest : id = divestReply → a'.divest = a.divest) : a'.awaited id = a.awaited id := by
  rw [awaited, awaited, if_neg hid, if_neg hid]
  split
  · rename_i heq
    rw [hdivest heq]
  · rfl

theorem awaited_eq_of_ne_divestReply (hid : id ≠ divestReply) (hswap : a'.swap = a.swap) :
    a'.awaited id = a.awaited id := by
  rw [awaited, awaited, hswap, if_neg hid, if_neg hid]

/-! ## Messages -/

/-- An entry that leaves both records alone. -/
theorem books_of_quiet (hout : asked out = []) (hswap : a'.swap = a.swap)
    (hdivest : a'.divest = a.divest) : Books a env id a' out := by
  refine .kept (by simp [hout]) ?_
  rw [awaited, awaited, hswap, hdivest]

/-- An entry that records a swap. What it does to the record of a divestment matters only where that
    is asked about. -/
theorem books_of_swap {s : PendingSwap} (hout : asked out = [swapReply]) (hswap : a'.swap = some s)
    (hcurrent : a.balanceOf env s.assetOut = .ok s.balanceBefore)
    (hdivest : id = divestReply → a'.divest = a.divest) : Books a env id a' out := by
  by_cases hid : id = swapReply
  · subst hid
    refine .saved (r := .swap s) (by simp [hout]) hcurrent ?_
    rw [awaited_swapReply, hswap]
    rfl
  · exact .kept (by simp [hout, hid]) (awaited_eq_of_ne_swapReply hid hdivest)

/-- An entry that records a divestment. -/
theorem books_of_divest {d : PendingDivest} (hout : asked out = [divestReply])
    (hdivest : a'.divest = some d) (hcurrent : d.quoteBefore = a.quoteBalance env)
    (hswap : a'.swap = a.swap) : Books a env id a' out := by
  by_cases hid : id = divestReply
  · subst hid
    refine .saved (r := .divest d) (by simp [hout]) hcurrent ?_
    rw [awaited_divestReply, hdivest]
    rfl
  · exact .kept (by simp [hout, hid]) (awaited_eq_of_ne_divestReply hid hswap)

/-- Every message writes a record together with asking for its reply, or does neither. -/
theorem Step.books {m : Message} (h : Step a env sender m a' out) (id : Nat) :
    Books a env id a' out := by
  cases h with
  | investSold authorized active bounded positive valued =>
    obtain ⟨-, -, -, hquote⟩ := valuation_eq_ok_iff.1 valued
    exact books_of_swap rfl rfl (congrArg Except.ok hquote.symm) fun _ => rfl
  | divestToBuy authorized positive valued enough bounded =>
    obtain ⟨-, -, -, hquote⟩ := valuation_eq_ok_iff.1 valued
    exact books_of_divest rfl rfl hquote rfl
  | sell authorized active positive valued enough =>
    obtain ⟨-, -, -, hquote⟩ := valuation_eq_ok_iff.1 valued
    exact books_of_swap rfl rfl (congrArg Except.ok hquote.symm) fun _ => rfl
  | buy authorized active positive valued enough =>
    obtain ⟨-, hstablecoin, -, -⟩ := valuation_eq_ok_iff.1 valued
    exact books_of_swap rfl rfl hstablecoin fun _ => rfl
  | autoInvest asked authorized active bounded enabled least valued =>
    obtain ⟨-, -, -, hquote⟩ := valuation_eq_ok_iff.1 valued
    exact books_of_swap rfl rfl (congrArg Except.ok hquote.symm) fun _ => rfl
  | liquidate valued measured indebted defaulted owed paid priced summed =>
    exact books_of_quiet (asked_actions _) rfl rfl
  | _ => exact books_of_quiet rfl rfl rfl

/-! ## Replies -/

/-- A reply finds a record under its number, clears it and asks for no reply under that number; to
    the other record it does what a message does. -/
theorem Hears.consumes (h : Hears a env id a' out) :
    (∃ r, a.awaited id = some r) ∧ a'.awaited id = none ∧ id ∉ asked out ∧
      ∀ other, other ≠ id → Books a env other a' out := by
  cases h with
  | @swapHeld swap balance pending =>
    refine ⟨⟨.swap swap, by rw [awaited_swapReply, pending]; rfl⟩, rfl, by simp, ?_⟩
    intro other hother
    exact .kept (by simp) (awaited_eq_of_ne_swapReply hother fun _ => rfl)
  | @swapInvested swap balance amount pending =>
    refine ⟨⟨.swap swap, by rw [awaited_swapReply, pending]; rfl⟩, rfl, by simp [asked], ?_⟩
    intro other hother
    exact .kept (by simp [asked]) (awaited_eq_of_ne_swapReply hother fun _ => rfl)
  | @divestKept divest pending =>
    refine ⟨⟨.divest divest, by rw [awaited_divestReply, pending]; rfl⟩, rfl, by simp, ?_⟩
    intro other hother
    exact .kept (by simp) (awaited_eq_of_ne_divestReply hother rfl)
  | @divestSpent divest received price fair minAmountOut balanceBefore pending measured something
      asked priced bounded least held =>
    refine ⟨⟨.divest divest, by rw [awaited_divestReply, pending]; rfl⟩, rfl,
      by simp [Account.asked, swapReply, divestReply], ?_⟩
    -- the swap that follows is recorded as any other
    intro other hother
    exact books_of_swap rfl rfl held fun hdivest => absurd hdivest hother

end Stablecoin.Account
