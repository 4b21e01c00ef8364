set_option autoImplicit false

/-! # Finite tables

A table holds one value for each of finitely many keys, in the order in which the keys came in.
Everything a caller can see of it is `find?` and `toList`; the lemmas below say what each
operation does to them, and what it does to a sum over all values. -/

namespace Stablecoin

/-- One value for each of finitely many keys. -/
structure Table (κ β : Type) where
  toList : List (κ × β)
  nodup : (toList.map Prod.fst).Nodup

namespace Table

variable {κ β : Type} [DecidableEq κ]

/-! ## Entries -/

/-- The value of the first entry under `k`. -/
def lookup (k : κ) : List (κ × β) → Option β
  | [] => none
  | e :: rest => if e.1 = k then some e.2 else lookup k rest

/-- Writes `v` under `k`: in the place of the entry with that key, or at the end. -/
def put (k : κ) (v : β) : List (κ × β) → List (κ × β)
  | [] => [(k, v)]
  | e :: rest => if e.1 = k then (k, v) :: rest else e :: put k v rest

theorem lookup_put (k k' : κ) (v : β) (es : List (κ × β)) :
    lookup k' (put k v es) = if k = k' then some v else lookup k' es := by
  induction es with
  | nil => simp [put, lookup]
  | cons e rest ih =>
      simp only [put, lookup]
      by_cases he : e.1 = k
      · by_cases hk : k = k' <;> simp [he, hk, lookup]
      · simp only [if_neg he, lookup, ih]
        by_cases hk : k = k'
        · subst hk; simp [he]
        · simp [hk]

theorem mem_keys_put (k k' : κ) (v : β) (es : List (κ × β)) :
    k' ∈ (put k v es).map Prod.fst ↔ k' = k ∨ k' ∈ es.map Prod.fst := by
  induction es with
  | nil => simp [put]
  | cons e rest ih =>
      simp only [put]
      by_cases he : e.1 = k
      · subst he; simp
      · simp only [if_neg he, List.map_cons, List.mem_cons, ih]
        constructor
        · rintro (h | h | h) <;> simp [h]
        · rintro (h | h | h) <;> simp [h]

theorem nodup_put (k : κ) (v : β) (es : List (κ × β)) (h : (es.map Prod.fst).Nodup) :
    ((put k v es).map Prod.fst).Nodup := by
  induction es with
  | nil => simp [put]
  | cons e rest ih =>
      simp only [List.map_cons, List.nodup_cons] at h
      simp only [put]
      by_cases he : e.1 = k
      · subst he; simpa using h
      · simp only [if_neg he, List.map_cons, List.nodup_cons, mem_keys_put, not_or]
        exact ⟨⟨he, h.1⟩, ih h.2⟩

/-- Only the last write under a key counts. -/
theorem put_put (k : κ) (v w : β) (es : List (κ × β)) : put k w (put k v es) = put k w es := by
  induction es with
  | nil => simp [put]
  | cons e rest ih =>
      by_cases he : e.1 = k
      · simp [put, he]
      · simp [put, he, ih]

/-- A write of what is there already changes nothing. -/
theorem put_of_lookup {k : κ} {v : β} {es : List (κ × β)} (h : lookup k es = some v) :
    put k v es = es := by
  induction es with
  | nil => cases h
  | cons e rest ih =>
      obtain ⟨k', v'⟩ := e
      simp only [lookup] at h
      by_cases he : k' = k
      · subst he
        rw [if_pos rfl] at h
        cases h
        simp [put]
      · rw [if_neg he] at h
        simp [put, he, ih h]

/-- The order of writes does not matter where one of the keys is there already. -/
theorem put_comm {k k' : κ} (v v' : β) {es : List (κ × β)} (hk : k ≠ k')
    (h : lookup k es ≠ none) : put k' v' (put k v es) = put k v (put k' v' es) := by
  induction es with
  | nil => exact absurd rfl h
  | cons e rest ih =>
      simp only [lookup] at h
      by_cases he : e.1 = k
      · have hne : e.1 ≠ k' := fun heq => hk (he.symm.trans heq)
        simp [put, he, hk]
      · rw [if_neg he] at h
        by_cases he' : e.1 = k'
        · simp [put, he', Ne.symm hk]
        · simp [put, he, he', ih h]

theorem lookup_eq_none_iff (k : κ) (es : List (κ × β)) :
    lookup k es = none ↔ k ∉ es.map Prod.fst := by
  induction es with
  | nil => simp [lookup]
  | cons e rest ih =>
      simp only [lookup]
      by_cases he : e.1 = k
      · subst he; simp
      · simp [he, ih, Ne.symm he]

theorem lookup_filter_ne (k k' : κ) (es : List (κ × β)) :
    lookup k' (es.filter fun e => e.1 ≠ k) = if k = k' then none else lookup k' es := by
  induction es with
  | nil => simp [lookup]
  | cons e rest ih =>
      simp only [List.filter_cons]
      by_cases he : e.1 = k
      · subst he
        simp only [ne_eq, not_true_eq_false, decide_false, Bool.false_eq_true, ↓reduceIte, ih,
          lookup]
        split <;> rfl
      · simp only [ne_eq, he, not_false_eq_true, decide_true, ↓reduceIte, lookup, ih]
        by_cases hk : k = k'
        · subst hk; simp [he]
        · simp [hk]

/-! ## The table -/

/-- The table without entries. -/
def empty : Table κ β :=
  ⟨[], by simp⟩

instance : Inhabited (Table κ β) := ⟨empty⟩

/-- The value under a key. -/
def find? (t : Table κ β) (k : κ) : Option β :=
  lookup k t.toList

/-- Writes a value under a key. A key that is already there keeps its place. -/
def insert (t : Table κ β) (k : κ) (v : β) : Table κ β :=
  ⟨put k v t.toList, nodup_put k v t.toList t.nodup⟩

/-- Removes a key and its value. -/
def erase (t : Table κ β) (k : κ) : Table κ β :=
  ⟨t.toList.filter fun e => e.1 ≠ k, t.nodup.sublist (List.filter_sublist.map Prod.fst)⟩

/-- The keys in the order in which they came in. -/
def keys (t : Table κ β) : List κ :=
  t.toList.map Prod.fst

@[simp] theorem find?_empty (k : κ) : (empty : Table κ β).find? k = none := rfl

theorem find?_insert (t : Table κ β) (k k' : κ) (v : β) :
    (t.insert k v).find? k' = if k = k' then some v else t.find? k' :=
  lookup_put k k' v t.toList

@[simp] theorem find?_insert_self (t : Table κ β) (k : κ) (v : β) :
    (t.insert k v).find? k = some v := by
  simp [find?_insert]

theorem find?_insert_of_ne (t : Table κ β) {k k' : κ} (v : β) (h : k ≠ k') :
    (t.insert k v).find? k' = t.find? k' := by
  simp [find?_insert, h]

/-- Only the last write under a key counts. -/
@[simp] theorem insert_insert (t : Table κ β) (k : κ) (v w : β) :
    (t.insert k v).insert k w = t.insert k w := by
  simp only [insert, put_put]

/-- A write of what is there already changes nothing. -/
theorem insert_of_find? {t : Table κ β} {k : κ} {v : β} (h : t.find? k = some v) :
    t.insert k v = t := by
  cases t
  simp only [insert, put_of_lookup h]

/-- The order of writes does not matter where one of the keys is there already. -/
theorem insert_comm {t : Table κ β} {k k' : κ} (v v' : β) (hk : k ≠ k') (h : t.find? k ≠ none) :
    (t.insert k v).insert k' v' = (t.insert k' v').insert k v := by
  simp only [insert, put_comm v v' hk h]

theorem find?_erase (t : Table κ β) (k k' : κ) :
    (t.erase k).find? k' = if k = k' then none else t.find? k' :=
  lookup_filter_ne k k' t.toList

theorem find?_eq_none_iff (t : Table κ β) (k : κ) : t.find? k = none ↔ k ∉ t.keys :=
  lookup_eq_none_iff k t.toList

/-! ## Sums over the values -/

/-- The sum of a measure over the values of some entries. -/
def sumEntries (f : β → Nat) : List (κ × β) → Nat
  | [] => 0
  | e :: rest => f e.2 + sumEntries f rest

/-- The sum of a measure over all values. -/
def sumOf (f : β → Nat) (t : Table κ β) : Nat :=
  sumEntries f t.toList

omit [DecidableEq κ] in
@[simp] theorem sumOf_empty (f : β → Nat) : (empty : Table κ β).sumOf f = 0 := rfl

theorem sumEntries_put (f : β → Nat) (k : κ) (v : β) (es : List (κ × β)) :
    sumEntries f (put k v es) + ((lookup k es).map f).getD 0 = sumEntries f es + f v := by
  induction es with
  | nil => simp [put, lookup, sumEntries]
  | cons e rest ih =>
      simp only [put, lookup]
      by_cases he : e.1 = k
      · simp [he, sumEntries]; omega
      · simp only [if_neg he, sumEntries]; omega

/-- A write moves the sum by what it adds less what it replaces. -/
theorem sumOf_insert (f : β → Nat) (t : Table κ β) (k : κ) (v : β) :
    (t.insert k v).sumOf f + ((t.find? k).map f).getD 0 = t.sumOf f + f v :=
  sumEntries_put f k v t.toList

theorem lookup_le_sumEntries (f : β → Nat) (k : κ) (es : List (κ × β)) :
    ((lookup k es).map f).getD 0 ≤ sumEntries f es := by
  induction es with
  | nil => simp [lookup]
  | cons e rest ih =>
      simp only [lookup]
      by_cases he : e.1 = k
      · simp [he, sumEntries]
      · simp only [if_neg he, sumEntries]; omega

/-- No value exceeds the sum. -/
theorem find?_le_sumOf (f : β → Nat) (t : Table κ β) (k : κ) :
    ((t.find? k).map f).getD 0 ≤ t.sumOf f :=
  lookup_le_sumEntries f k t.toList

end Table

end Stablecoin
