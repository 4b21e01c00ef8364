import Mathlib.Data.List.Nodup
import Mathlib.Data.List.Perm.Basic
import Stablecoin.Ledger.Client
import Stablecoin.Proofs.Ledger.Accounting

set_option autoImplicit false

/-! # The registry of minters

Who is a minter is written down twice: as a flag in the entry of an address, and as a place in the
registry. Removing a minter puts the last of the registry into its place, so the order changes with
every removal, but the registry stays a list of exactly those whose entry says so, each of them once
(`Registered`). Read page by page it is therefore all of them, each once, whatever the size of the
pages (`minters_listed_once`). -/

namespace Stablecoin.Ledger

variable {l l' : Ledger} {env : Env} {sender : Address} {m : Message} {out : List Outgoing}

/-! ## Removal from the registry -/

/-- What takes the place of an entry stands for it, up to the order. -/
theorem replace_perm {a b : Address} {registry : List Address} (h : a ∈ registry) :
    (registry.replace a b).Perm (b :: registry.erase a) := by
  induction registry with
  | nil => cases h
  | cons c rest ih =>
    rw [List.replace_cons, List.erase_cons]
    by_cases hc : c = a
    · subst hc
      simp
    · have hrest : a ∈ rest := (List.mem_cons.1 h).resolve_left (Ne.symm hc)
      have hne : (c == a) = false := by simpa using hc
      have hne' : (a == c) = false := by simpa using Ne.symm hc
      simp only [hne, hne', Bool.false_eq_true, ↓reduceIte]
      exact ((ih hrest).cons c).trans (List.Perm.swap b c _)

/-- Removing an entry leaves all others, in an order of their own. -/
theorem swapRemove_perm {a : Address} {registry : List Address} (h : a ∈ registry) :
    (swapRemove a registry).Perm (registry.erase a) := by
  obtain ⟨init, last, rfl⟩ : ∃ init last, registry = init ++ [last] :=
    ⟨_, _, (List.dropLast_concat_getLast (List.ne_nil_of_mem h)).symm⟩
  have hremove : swapRemove a (init ++ [last]) = init.replace a last := by
    simp only [swapRemove, List.getLast?_concat, List.dropLast_concat, if_pos h]
  rw [hremove]
  by_cases ha : a ∈ init
  · rw [List.erase_append_left _ ha]
    exact (replace_perm ha).trans (List.perm_append_singleton last _).symm
  · -- the entry is the last one, and nothing takes its place
    obtain rfl : a = last := by simpa [ha] using h
    rw [List.replace_of_not_mem ha, List.erase_append_right _ ha]
    simp

/-! ## The registry and the entries -/

/-- The registry lists whoever's entry says that it is listed, and nobody twice. -/
structure Registered (l : Ledger) : Prop where
  nodup : l.registry.Nodup
  mem_iff : ∀ a, a ∈ l.registry ↔ (l.minter a).listed = true

theorem registered_of_isNew (h : l.IsNew) : l.Registered := by
  refine ⟨?_, ?_⟩
  · rw [h.registry]
    exact List.nodup_nil
  · intro a
    rw [h.registry, minter, h.minters]
    simp [Minter.unknown]

/-- A write of an entry that leaves its flag alone leaves the registry right. -/
theorem registered_of_insert {b : Address} {x : Minter} (h : l'.minters = l.minters.insert b x)
    (hregistry : l'.registry = l.registry) (hx : x.listed = (l.minter b).listed)
    (hl : l.Registered) : l'.Registered := by
  refine ⟨hregistry ▸ hl.nodup, ?_⟩
  intro a
  rw [hregistry, hl.mem_iff, minter_eq_of_insert h]
  split
  · rename_i heq
    subst heq
    rw [hx]
  · rfl

theorem Step.registered (h : Step l env sender m l' out) (hl : l.Registered) : l'.Registered := by
  cases h with
  | mint => exact registered_of_insert rfl rfl rfl hl
  | burn => exact registered_of_insert rfl rfl rfl hl
  | setMinterMaxAmount => exact registered_of_insert rfl rfl rfl hl
  | setMinterEnabled => exact registered_of_insert rfl rfl rfl hl
  | @addMinter minter maxAmount governs acceptable positive unlisted =>
    have hnew : minter ∉ l.registry := by
      rw [hl.mem_iff, unlisted]
      exact Bool.false_ne_true
    have hnodup := hl.nodup.concat hnew
    rw [List.concat_eq_append] at hnodup
    refine ⟨hnodup, ?_⟩
    intro a
    rw [minter_eq_of_insert (l := l) (a := a) rfl]
    by_cases ha : minter = a
    · subst ha
      simp
    · rw [if_neg ha, ← hl.mem_iff, List.mem_append, List.mem_singleton]
      exact or_iff_left (Ne.symm ha)
  | @removeMinter minter governs acceptable listed =>
    have hperm := swapRemove_perm ((hl.mem_iff minter).2 listed)
    refine ⟨hperm.nodup_iff.2 (hl.nodup.erase minter), ?_⟩
    intro a
    rw [minter_eq_of_insert (l := l) (a := a) rfl, hperm.mem_iff, hl.nodup.mem_erase_iff,
      hl.mem_iff]
    by_cases ha : minter = a
    · subst ha
      simp
    · rw [if_neg ha]
      exact and_iff_right (Ne.symm ha)
  | _ => exact ⟨hl.nodup, hl.mem_iff⟩

theorem Reachable.registered (h : l.Reachable) : l.Registered :=
  h.induction (fun hsetUp => registered_of_isNew (isNew_of_setUp hsetUp)) Step.registered

/-- A listed minter is one whose entry exists and says so. -/
theorem listed_iff_entry {a : Address} :
    (l.minter a).listed = true ↔ ∃ x, l.minters.find? a = some x ∧ x.listed = true := by
  constructor
  · intro h
    obtain ⟨x, hx⟩ := Option.isSome_iff_exists.1 (exists_entry_of_listed h)
    exact ⟨x, hx, by rwa [minter_eq_of_find? hx] at h⟩
  · rintro ⟨x, hx, hlisted⟩
    rwa [minter_eq_of_find? hx]

/-! ## Pages -/

/-- The question for a page of the registry. -/
def mintersQuery (offset limit : Nat) : Json :=
  .tagged "minters" [("offset", .nat offset), ("limit", .nat limit)]

/-- A ledger reads the question as long as its numbers fit into 32 bits. -/
theorem Query.ofJson?_mintersQuery {offset limit : Nat} (ho : offset < UInt32.size)
    (hl : limit < UInt32.size) :
    Query.ofJson? (mintersQuery offset limit) = some (.minters (some offset) (some limit)) := by
  have hoffset : Json.optional [("offset", Json.nat offset), ("limit", Json.nat limit)] "offset"
      (Json.natBelow? UInt32.size) = some (some offset) :=
    congrArg (Option.map some) (Json.natBelow?_nat ho)
  have hlimit : Json.optional [("offset", Json.nat offset), ("limit", Json.nat limit)] "limit"
      (Json.natBelow? UInt32.size) = some (some limit) :=
    congrArg (Option.map some) (Json.natBelow?_nat hl)
  exact Json.then_of_read (Json.variant?_tagged _ _) <|
    Json.then_of_read (Json.fields?_of_keys rfl) <| Json.then_of_read hoffset <|
    Json.then_of_read hlimit rfl

/-- The registry page by page, all pages of one size. -/
def page (l : Ledger) (size k : Nat) : List Address :=
  l.minterPage (some (k * size)) (some size)

theorem page_eq {size : Nat} (hsize : size ≤ maxPage) (k : Nat) :
    l.page size k = (l.registry.drop (k * size)).take size := by
  simp only [page, minterPage, Option.getD_some, Nat.min_eq_left hsize]

/-- A page is empty once it starts behind the end of the registry. -/
theorem page_eq_nil_iff {size : Nat} (hpos : 1 ≤ size) (hsize : size ≤ maxPage) (k : Nat) :
    l.page size k = [] ↔ l.registry.length ≤ k * size := by
  rw [page_eq hsize, List.take_eq_nil_iff, List.drop_eq_nil_iff]
  exact or_iff_right (by omega)

/-- Pages one after the other are the beginning of the registry: none skips or repeats anything. -/
theorem flatMap_page {size : Nat} (hsize : size ≤ maxPage) (count : Nat) :
    (List.range count).flatMap (l.page size) = l.registry.take (count * size) := by
  induction count with
  | zero => simp
  | succ count ih =>
    rw [List.range_succ, List.flatMap_append, ih, List.flatMap_singleton, page_eq hsize,
      Nat.succ_mul, List.take_add]

/-- As many pages as it takes: the pages before this number are those that start within the
    registry. -/
theorem exists_count {size : Nat} (hpos : 1 ≤ size) (n : Nat) :
    ∃ count, ∀ k, k < count ↔ k * size < n := by
  refine ⟨(n + size - 1) / size, ?_⟩
  intro k
  rw [← Nat.succ_le_iff, Nat.le_div_iff_mul_le hpos, Nat.succ_mul]
  omega

/-- The registry of every reachable ledger is a list of the listed minters, each of them once.
    Whoever reads it page by page, up to the first empty page, reads every listed minter once and
    nobody else: the pages before that one can be asked for by number, and every page that can be
    asked for is answered with its part of the registry. -/
theorem minters_listed_once (h : l.Reachable) :
    l.registry.Nodup ∧
      (∀ a, a ∈ l.registry ↔ ∃ x, l.minters.find? a = some x ∧ x.listed = true) ∧
      ∀ size, 1 ≤ size → size ≤ maxPage → l.registry.length < UInt32.size →
        (∀ env k, k * size < UInt32.size →
          ∃ q, Query.ofJson? (mintersQuery (k * size) size) = some q ∧
            l.query env q = .ok (.texts (l.page size k))) ∧
        ∃ count,
          (∀ k, k < count ↔ l.page size k ≠ []) ∧
          (∀ k < count, k * size < UInt32.size) ∧
          ((List.range count).flatMap (l.page size)).Nodup ∧
          ∀ a, a ∈ (List.range count).flatMap (l.page size) ↔
            ∃ x, l.minters.find? a = some x ∧ x.listed = true := by
  have hregistered := h.registered
  have hmem : ∀ a, a ∈ l.registry ↔ ∃ x, l.minters.find? a = some x ∧ x.listed = true := by
    intro a
    rw [hregistered.mem_iff, listed_iff_entry]
  refine ⟨hregistered.nodup, hmem, ?_⟩
  intro size hpos hsize hlength
  refine ⟨?_, ?_⟩
  · intro env k hk
    have hlimit : size < UInt32.size := lt_of_le_of_lt hsize (by decide)
    exact ⟨_, Query.ofJson?_mintersQuery hk hlimit, rfl⟩
  · obtain ⟨count, hcount⟩ := exists_count hpos l.registry.length
    -- the pages up to there cover the registry
    have hall : (List.range count).flatMap (l.page size) = l.registry := by
      rw [flatMap_page hsize]
      exact List.take_of_length_le (Nat.le_of_not_lt fun hlt => Nat.lt_irrefl _ ((hcount _).2 hlt))
    refine ⟨count, ?_, ?_, ?_, ?_⟩
    · intro k
      rw [hcount, Ne, page_eq_nil_iff hpos hsize, Nat.not_le]
    · intro k hk
      exact lt_trans ((hcount k).1 hk) hlength
    · rw [hall]
      exact hregistered.nodup
    · rw [hall]
      exact hmem

/-- Four minters; the second is removed, comes back as the last and is removed again; the third is
    disabled, which leaves it listed; and a fifth comes in. -/
def shuffledRun : List Invocation :=
  [⟨aloneEnv, "owner", .addMinter "alice" (.ofNat 10)⟩,
    ⟨aloneEnv, "owner", .addMinter "bob" (.ofNat 10)⟩,
    ⟨aloneEnv, "owner", .addMinter "carol" (.ofNat 10)⟩,
    ⟨aloneEnv, "owner", .addMinter "dave" (.ofNat 10)⟩,
    ⟨aloneEnv, "owner", .removeMinter "bob"⟩,
    ⟨aloneEnv, "owner", .addMinter "bob" (.ofNat 5)⟩,
    ⟨aloneEnv, "owner", .setMinterEnabled "carol" false⟩,
    ⟨aloneEnv, "owner", .removeMinter "bob"⟩,
    ⟨aloneEnv, "owner", .addMinter "eve" (.ofNat 10)⟩]

theorem minters_listed_once_of_shuffledRun :
    ∃ l : Ledger, l.Reachable ∧ l.registry = ["alice", "dave", "carol", "eve"] ∧
      l.page 3 0 = ["alice", "dave", "carol"] ∧ l.page 3 1 = ["eve"] ∧ l.page 3 2 = [] ∧
      (l.minters.find? "bob").isSome = true ∧
      ¬ ∃ x, l.minters.find? "bob" = some x ∧ x.listed = true := by
  -- the ledger is computed, and that it does not list the minter that was removed follows
  have hrun : ∃ l : Ledger, l.Reachable ∧ l.registry = ["alice", "dave", "carol", "eve"] ∧
      l.page 3 0 = ["alice", "dave", "carol"] ∧ l.page 3 1 = ["eve"] ∧ l.page 3 2 = [] ∧
      (l.minters.find? "bob").isSome = true :=
    ⟨_, ⟨aloneEnv, "owner", plainSetup, _, _, shuffledRun, rfl, rfl⟩, rfl, rfl, rfl, rfl, rfl⟩
  obtain ⟨l, hl, hregistry, h0, h1, h2, hentry⟩ := hrun
  obtain ⟨-, -, hpages⟩ := minters_listed_once hl
  obtain ⟨-, count, hcount, -, -, hmem⟩ :=
    hpages 3 (by decide) (by decide) (by rw [hregistry]; decide)
  have h1' : 1 < count := (hcount 1).2 (by rw [h1]; simp)
  have h2' : ¬ 2 < count := fun hlt => (hcount 2).1 hlt h2
  obtain rfl : count = 2 := by omega
  refine ⟨l, hl, hregistry, h0, h1, h2, hentry, ?_⟩
  rw [← hmem]
  simp [List.range_succ, h0, h1]

end Stablecoin.Ledger
